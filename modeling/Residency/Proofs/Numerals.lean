import Residency.Proofs.NumeralGrammar

namespace Residency.Number

def decimalValue (s : List Char) : ℕ :=
  Nat.ofDigits 10 (s.reverse.map fun c => c.toNat - '0'.toNat)

theorem toNat_of_isDigit {c : Char} (h : c.isDigit = true) : 48 ≤ c.toNat ∧ c.toNat ≤ 57 := by
  rw [Char.isDigit, Bool.and_eq_true, decide_eq_true_eq, decide_eq_true_eq] at h
  exact h

theorem digit?_of_isDigit {c : Char} (h : c.isDigit = true) : digit? c = some (c.toNat - 48) := by
  obtain ⟨h1, h2⟩ := toNat_of_isDigit h
  have hzeros : digitZeros = 48 :: digitZeros.tail := rfl
  rw [digit?, hzeros, List.find?_cons_of_pos, Option.map_some]
  rw [Bool.and_eq_true, decide_eq_true_eq, decide_eq_true_eq]
  omega

theorem digits_of_isDigit {s : List Char} (hne : s ≠ []) (h : ∀ c ∈ s, c.isDigit = true) :
    Digits s (s.map fun c => c.toNat - '0'.toNat) := by
  induction s with
  | nil => exact absurd rfl hne
  | cons c s ih =>
    rw [List.forall_mem_cons] at h
    cases s with
    | nil => exact .last (digit?_of_isDigit h.1)
    | cons d s => exact .digit (digit?_of_isDigit h.1) (ih (List.cons_ne_nil d s) h.2)

theorem not_isNumeralBlank_of_isDigit {c : Char} (h : c.isDigit = true) :
    Text.isNumeralBlank c = false := by
  obtain ⟨h1, h2⟩ := toNat_of_isDigit h
  simp [Text.isNumeralBlank, Text.isBlank]
  omega

theorem ne_underscore_of_isDigit {c : Char} (h : c.isDigit = true) : c ≠ '_' := by
  rintro rfl
  exact absurd h (by decide)

theorem takeSign_of_digits {s : List Char} (h : ∀ c ∈ s, c.isDigit = true) :
    takeSign s = (false, s) := by
  cases s with
  | nil => rfl
  | cons c s => exact (digits_of_isDigit (List.cons_ne_nil c s) h).takeSign

theorem readInteger_of_takeSign {s body : List Char} {negative : Bool}
    (hblank : ∀ c ∈ s, Text.isNumeralBlank c = false) (hsign : takeSign s = (negative, body))
    (hne : body ≠ []) (h : ∀ c ∈ body, c.isDigit = true) :
    readInteger s =
      if maxDigits < body.length then .error (.tooLong body.length)
      else .ok (if negative then -(decimalValue body : ℤ) else decimalValue body) := by
  have hdigits := digits_of_isDigit hne h
  have hrun : body.takeWhile isDigitOrUnderscore = body :=
    List.takeWhile_eq_self_iff.mpr hdigits.forall_mem
  have hvalue : digitsValue body = decimalValue body := by
    rw [hdigits.digitsValue, valueOf, decimalValue, List.map_reverse]
  rw [readInteger_of_not_blank hblank, hsign]
  dsimp only
  rw [hrun, hdigits.digitsSeparated, hdigits.countP_isDigit, List.length_map, hvalue,
    if_neg (by decide), if_neg (lt_irrefl _)]
  rfl

theorem readInteger_of_digits {s : List Char} (hne : s ≠ []) (h : ∀ c ∈ s, c.isDigit = true) :
    readInteger s =
      if maxDigits < s.length then .error (.tooLong s.length) else .ok (decimalValue s) :=
  readInteger_of_takeSign (fun c hc => not_isNumeralBlank_of_isDigit (h c hc))
    (takeSign_of_digits h) hne h

theorem readInteger_neg_of_digits {s : List Char} (hne : s ≠ [])
    (h : ∀ c ∈ s, c.isDigit = true) :
    readInteger ('-' :: s) =
      if maxDigits < s.length then .error (.tooLong s.length)
      else .ok (-(decimalValue s : ℤ)) := by
  refine readInteger_of_takeSign ?_ rfl hne h
  intro c hc
  rcases List.mem_cons.mp hc with rfl | hc
  · decide
  · exact not_isNumeralBlank_of_isDigit (h c hc)

theorem decimalValue_eq_ofDigitChars (s : List Char) :
    decimalValue s = Nat.ofDigitChars 10 s 0 := by
  induction s using List.reverseRecOn with
  | nil => rfl
  | append_singleton s c ih =>
    rw [Nat.ofDigitChars_append, Nat.ofDigitChars_cons, Nat.ofDigitChars_nil, ← ih]
    simp only [decimalValue, List.reverse_append, List.reverse_singleton, List.singleton_append,
      List.map_cons, Nat.ofDigits_cons]
    push_cast
    omega

theorem decimalValue_toDigits (n : ℕ) : decimalValue (Nat.toDigits 10 n) = n := by
  rw [decimalValue_eq_ofDigitChars, Nat.ofDigitChars_toDigits (by decide) (by decide)]

theorem isDigit_of_mem_toDigits {n : ℕ} : ∀ c ∈ Nat.toDigits 10 n, c.isDigit = true :=
  fun _ hc => Nat.isDigit_of_mem_toDigits (by decide) (by decide) hc

theorem exists_toDigits (n : ℕ) : ∃ d ds, Nat.toDigits 10 n = d :: ds ∧ d.isDigit = true := by
  obtain ⟨d, ds, hds⟩ := List.exists_cons_of_ne_nil (Nat.toDigits_ne_nil (n := n) (b := 10))
  exact ⟨d, ds, hds, isDigit_of_mem_toDigits (n := n) d (by simp [hds])⟩

theorem ne_of_isDigit {c d : Char} (h : c.isDigit = true) (hd : d.isDigit = false) : d ≠ c := by
  rintro rfl
  rw [h] at hd
  cases hd

theorem head_toDigits_ne_zero {n : ℕ} (h : n ≠ 0) : ∀ ds, Nat.toDigits 10 n ≠ '0' :: ds := by
  induction n using Nat.strongRecOn with
  | ind n ih =>
    intro ds hds
    rw [Nat.toDigits_eq_if (by decide)] at hds
    split_ifs at hds with hlt
    · rw [List.cons.injEq, Nat.digitChar_eq_zero] at hds
      exact h hds.1
    · obtain ⟨d, ds', hrest, -⟩ := exists_toDigits (n / 10)
      rw [hrest, List.cons_append, List.cons.injEq] at hds
      rw [hds.1] at hrest
      exact ih (n / 10) (by omega) (by omega) ds' hrest

theorem isWritable_iff {n : ℤ} : isWritable n = true ↔ n.natAbs < 10 ^ maxDigits := by
  rw [isWritable, decide_eq_true_eq, Nat.length_toDigits_le_iff (by decide) (by decide)]

theorem exists_decimal (n : ℤ) : ∃ c t, decimal n = c :: t ∧ (c = '-' ∨ c.isDigit = true) := by
  cases n with
  | ofNat m =>
    obtain ⟨d, ds, hds, hd⟩ := exists_toDigits m
    exact ⟨d, ds, hds, .inr hd⟩
  | negSucc m => exact ⟨'-', _, rfl, .inl rfl⟩

theorem of_mem_decimal {n : ℤ} : ∀ c ∈ decimal n, c = '-' ∨ c.isDigit = true := by
  intro c hc
  cases n with
  | ofNat m => exact .inr (isDigit_of_mem_toDigits c hc)
  | negSucc m => exact (List.mem_cons.mp hc).imp_right (isDigit_of_mem_toDigits c)

theorem length_decimal_le {n : ℤ} (h : isWritable n = true) :
    (decimal n).length ≤ maxDigits + 1 := by
  have hlen : (Nat.toDigits 10 n.natAbs).length ≤ maxDigits := by simpa [isWritable] using h
  cases n with
  | ofNat m => exact Nat.le_succ_of_le hlen
  | negSucc m => exact Nat.succ_le_succ hlen

theorem readInteger_decimal {n : ℤ} (h : isWritable n = true) :
    readInteger (decimal n) = .ok n := by
  have hlen : (Nat.toDigits 10 n.natAbs).length ≤ maxDigits := by simpa [isWritable] using h
  cases n with
  | ofNat m =>
    change readInteger (Nat.toDigits 10 m) = _
    change (Nat.toDigits 10 m).length ≤ maxDigits at hlen
    rw [readInteger_of_digits Nat.toDigits_ne_nil isDigit_of_mem_toDigits, if_neg (by omega),
      decimalValue_toDigits]
    rfl
  | negSucc m =>
    change readInteger ('-' :: Nat.toDigits 10 (m + 1)) = _
    change (Nat.toDigits 10 (m + 1)).length ≤ maxDigits at hlen
    rw [readInteger_neg_of_digits Nat.toDigits_ne_nil isDigit_of_mem_toDigits, if_neg (by omega),
      decimalValue_toDigits]
    rfl

end Residency.Number
