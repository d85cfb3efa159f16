import Mathlib.Data.List.TakeWhile
import Mathlib.Data.Nat.Digits.Defs
import Mathlib.Data.Nat.Digits.Lemmas
import Residency.Number.Integer

namespace Residency.Number

inductive Digits : List Char → List ℕ → Prop
  | last {c : Char} {d : ℕ} : digit? c = some d → Digits [c] [d]
  | digit {c : Char} {d : ℕ} {s : List Char} {ds : List ℕ} :
      digit? c = some d → Digits s ds → Digits (c :: s) (d :: ds)
  | underscore {c : Char} {d : ℕ} {s : List Char} {ds : List ℕ} :
      digit? c = some d → Digits s ds → Digits (c :: '_' :: s) (d :: ds)

def valueOf (ds : List ℕ) : ℕ :=
  Nat.ofDigits 10 ds.reverse

inductive IsNumeral : List Char → ℤ → Prop
  | unsigned {s : List Char} {ds : List ℕ} : Digits s ds → ds.length ≤ maxDigits →
      IsNumeral s (valueOf ds)
  | plus {s : List Char} {ds : List ℕ} : Digits s ds → ds.length ≤ maxDigits →
      IsNumeral ('+' :: s) (valueOf ds)
  | minus {s : List Char} {ds : List ℕ} : Digits s ds → ds.length ≤ maxDigits →
      IsNumeral ('-' :: s) (-valueOf ds)

def isDigitOrUnderscore (c : Char) : Bool :=
  isDigit c || c = '_'

section Digits

variable {c : Char} {d : ℕ} {s : List Char} {ds : List ℕ}

theorem isDigit_of_digit? (h : digit? c = some d) : isDigit c = true := by
  rw [isDigit, h]
  rfl

theorem ne_of_digit? (h : digit? c = some d) {e : Char} (he : digit? e = none) : c ≠ e := by
  rintro rfl
  rw [h] at he
  cases he

theorem digit?_underscore : digit? '_' = none := by
  decide

theorem Digits.exists_cons (h : Digits s ds) : ∃ c t d, s = c :: t ∧ digit? c = some d := by
  cases h with
  | last hc => exact ⟨_, _, _, rfl, hc⟩
  | digit hc => exact ⟨_, _, _, rfl, hc⟩
  | underscore hc => exact ⟨_, _, _, rfl, hc⟩

theorem isBlank_eq_false_of_digit? (h : digit? c = some d) : Text.isBlank c = false := by
  have hall : ∀ z ∈ digitZeros, ∀ k < 10, Text.isBlank (Char.ofNat (z + k)) = false := by
    decide +kernel
  rw [digit?, Option.map_eq_some_iff] at h
  obtain ⟨z, hz, -⟩ := h
  have hrange := List.find?_some hz
  rw [Bool.and_eq_true, decide_eq_true_eq, decide_eq_true_eq] at hrange
  have hc := hall z (List.mem_of_find?_eq_some hz) (c.toNat - z) (by omega)
  rwa [Nat.add_sub_cancel' hrange.1, Char.ofNat_toNat] at hc

theorem Digits.forall_mem (h : Digits s ds) : ∀ c ∈ s, isDigitOrUnderscore c = true := by
  have hdigit {c : Char} {d : ℕ} (hc : digit? c = some d) : isDigitOrUnderscore c = true := by
    rw [isDigitOrUnderscore, isDigit_of_digit? hc, Bool.true_or]
  induction h with
  | last hc => exact List.forall_mem_singleton.mpr (hdigit hc)
  | digit hc _ ih => exact List.forall_mem_cons.mpr ⟨hdigit hc, ih⟩
  | underscore hc _ ih =>
    exact List.forall_mem_cons.mpr ⟨hdigit hc, List.forall_mem_cons.mpr ⟨by decide, ih⟩⟩

theorem Digits.countP_isDigit (h : Digits s ds) : s.countP isDigit = ds.length := by
  induction h with
  | last hc => simp [isDigit_of_digit? hc]
  | digit hc _ ih => simp [isDigit_of_digit? hc, ih]
  | underscore hc _ ih =>
    have hnone : isDigit '_' = false := by decide
    simp [isDigit_of_digit? hc, hnone, ih]

theorem Digits.digitsSeparated (h : Digits s ds) (afterDigit : Bool) :
    digitsSeparated afterDigit s = true := by
  induction h generalizing afterDigit with
  | last hc => rw [Number.digitsSeparated, if_neg (ne_of_digit? hc digit?_underscore)]; rfl
  | digit hc _ ih =>
    rw [Number.digitsSeparated, if_neg (ne_of_digit? hc digit?_underscore)]
    exact ih true
  | underscore hc _ ih =>
    rw [Number.digitsSeparated, if_neg (ne_of_digit? hc digit?_underscore), Number.digitsSeparated,
      if_pos rfl]
    exact ih false

theorem exists_digit?_of_ne (h : isDigitOrUnderscore c = true) (hne : c ≠ '_') :
    ∃ d, digit? c = some d := by
  rw [isDigitOrUnderscore, decide_eq_false hne, Bool.or_false, isDigit] at h
  exact Option.isSome_iff_exists.mp h

theorem exists_digits : ∀ {s : List Char}, (∀ c ∈ s, isDigitOrUnderscore c = true) →
    Number.digitsSeparated false s = true → ∃ ds, Digits s ds
  | [], _, h => by cases h
  | c :: s, hs, h => by
    rw [Number.digitsSeparated] at h
    split_ifs at h with hc
    · cases h
    rw [List.forall_mem_cons] at hs
    obtain ⟨d, hd⟩ := exists_digit?_of_ne hs.1 hc
    cases s with
    | nil => exact ⟨[d], .last hd⟩
    | cons e s =>
      by_cases he : e = '_'
      · subst he
        rw [Number.digitsSeparated, if_pos rfl] at h
        obtain ⟨ds, hds⟩ := exists_digits (List.forall_mem_cons.mp hs.2).2 h
        exact ⟨d :: ds, .underscore hd hds⟩
      · have hrest : Number.digitsSeparated false (e :: s) = true := by
          rwa [Number.digitsSeparated, if_neg he] at h ⊢
        obtain ⟨ds, hds⟩ := exists_digits hs.2 hrest
        exact ⟨d :: ds, .digit hd hds⟩

theorem digitsValue_concat (t : List Char) (h : digit? c = some d) :
    Number.digitsValue (t ++ [c]) = 10 * Number.digitsValue t + d := by
  rw [Number.digitsValue, List.foldl_append, List.foldl_cons, List.foldl_nil, h]
  rfl

theorem digitsValue_concat_underscore (t : List Char) :
    Number.digitsValue (t ++ ['_']) = Number.digitsValue t := by
  rw [Number.digitsValue, List.foldl_append, List.foldl_cons, List.foldl_nil, digit?_underscore]
  rfl

theorem valueOf_cons (d : ℕ) (ds : List ℕ) :
    valueOf (d :: ds) = 10 ^ ds.length * d + valueOf ds := by
  rw [valueOf, List.reverse_cons, Nat.ofDigits_append, List.length_reverse, Nat.ofDigits_singleton,
    Nat.add_comm]
  rfl

theorem Digits.digitsValue_append (h : Digits s ds) (t : List Char) :
    Number.digitsValue (t ++ s) = 10 ^ ds.length * Number.digitsValue t + valueOf ds := by
  induction h generalizing t with
  | last hc =>
    rw [digitsValue_concat t hc, valueOf_cons]
    simp [valueOf]
  | digit hc _ ih =>
    rw [List.append_cons, ih, digitsValue_concat t hc, valueOf_cons, List.length_cons]
    ring
  | underscore hc _ ih =>
    rw [List.append_cons, List.append_cons, ih, digitsValue_concat_underscore,
      digitsValue_concat t hc, valueOf_cons, List.length_cons]
    ring

theorem Digits.digitsValue (h : Digits s ds) : Number.digitsValue s = valueOf ds := by
  have hvalue := h.digitsValue_append []
  have hnil : Number.digitsValue [] = 0 := rfl
  rwa [List.nil_append, hnil, Nat.mul_zero, Nat.zero_add] at hvalue

end Digits

section Reading

variable {s body : List Char} {negative : Bool} {n : ℤ}

def signed (negative : Bool) (value : ℕ) : ℤ :=
  if negative then -value else value

theorem takeSign_of_ne {c : Char} (hminus : c ≠ '-') (hplus : c ≠ '+') (t : List Char) :
    takeSign (c :: t) = (false, c :: t) := by
  unfold takeSign
  split
  · next heq => exact absurd (List.cons.inj heq).1 hminus
  · next heq => exact absurd (List.cons.inj heq).1 hplus
  · rfl

theorem Digits.takeSign {ds : List ℕ} (h : Digits s ds) : takeSign s = (false, s) := by
  obtain ⟨c, t, d, rfl, hc⟩ := h.exists_cons
  exact takeSign_of_ne (ne_of_digit? hc (by decide)) (ne_of_digit? hc (by decide)) t

theorem isNumeral_iff_takeSign : IsNumeral s n ↔ ∃ ds, Digits (Number.takeSign s).2 ds ∧
    ds.length ≤ maxDigits ∧ n = signed (Number.takeSign s).1 (valueOf ds) := by
  constructor
  · intro h
    cases h with
    | @unsigned _ ds h hlen =>
      rw [h.takeSign]
      exact ⟨ds, h, hlen, rfl⟩
    | @plus _ ds h hlen => exact ⟨ds, h, hlen, rfl⟩
    | @minus _ ds h hlen => exact ⟨ds, h, hlen, rfl⟩
  · rintro ⟨ds, h, hlen, rfl⟩
    unfold Number.takeSign at h ⊢
    split at h
    · exact .minus h hlen
    · exact .plus h hlen
    · exact .unsigned h hlen

theorem trimWhile_eq_self {s : List Char} (h : ∀ c ∈ s, Text.isNumeralBlank c = false) :
    Text.trimWhile Text.isNumeralBlank s = s := by
  have hdrop : ∀ t : List Char, (∀ c ∈ t, Text.isNumeralBlank c = false) →
      t.dropWhile Text.isNumeralBlank = t := by
    intro t ht
    cases t with
    | nil => rfl
    | cons c t =>
      rw [List.dropWhile_cons_of_neg]
      rw [ht c (by simp)]
      exact Bool.false_ne_true
  rw [Text.trimWhile, hdrop s h, Text.dropEndWhile, hdrop s.reverse (by simpa using h),
    List.reverse_reverse]

theorem readInteger_of_not_blank (hblank : ∀ c ∈ s, Text.isNumeralBlank c = false) :
    readInteger s =
      let run := (Number.takeSign s).2.takeWhile isDigitOrUnderscore
      if !Number.digitsSeparated false run then .error (.malformed (String.ofList s))
      else if run.countP isDigit > maxDigits then .error (.tooLong (run.countP isDigit))
      else if (Number.takeSign s).2.length > run.length then .error (.malformed (String.ofList s))
      else .ok (signed (Number.takeSign s).1 (Number.digitsValue run)) := by
  rw [readInteger, trimWhile_eq_self hblank]
  rfl

theorem readInteger_eq_ok_iff (hblank : ∀ c ∈ s, Text.isNumeralBlank c = false) :
    readInteger s = .ok n ↔ IsNumeral s n := by
  rw [isNumeral_iff_takeSign, readInteger_of_not_blank hblank]
  generalize Number.takeSign s = signAndBody
  obtain ⟨negative, body⟩ := signAndBody
  dsimp only
  constructor
  · intro h
    split_ifs at h with hsep hlen hrest
    have hrun : body.takeWhile isDigitOrUnderscore = body :=
      (List.takeWhile_prefix _).eq_of_length_le (not_lt.mp hrest)
    rw [hrun] at hsep hlen h
    cases h
    obtain ⟨ds, hds⟩ := exists_digits (List.takeWhile_eq_self_iff.mp hrun) (by simpa using hsep)
    rw [hds.countP_isDigit] at hlen
    exact ⟨ds, hds, not_lt.mp hlen, by rw [hds.digitsValue]⟩
  · rintro ⟨ds, h, hlen, rfl⟩
    have hrun : body.takeWhile isDigitOrUnderscore = body :=
      List.takeWhile_eq_self_iff.mpr h.forall_mem
    rw [hrun, h.digitsSeparated, h.countP_isDigit, h.digitsValue, if_neg (by decide),
      if_neg (not_lt.mpr hlen), if_neg (lt_irrefl _)]

theorem Digits.isBlank_eq_false {ds : List ℕ} (h : Digits s ds) :
    ∀ c ∈ s, Text.isBlank c = false := by
  induction h with
  | last hc => exact List.forall_mem_singleton.mpr (isBlank_eq_false_of_digit? hc)
  | digit hc _ ih => exact List.forall_mem_cons.mpr ⟨isBlank_eq_false_of_digit? hc, ih⟩
  | underscore hc _ ih =>
    exact List.forall_mem_cons.mpr ⟨isBlank_eq_false_of_digit? hc,
      List.forall_mem_cons.mpr ⟨by decide, ih⟩⟩

theorem IsNumeral.exists_cons (h : IsNumeral s n) :
    ∃ c t, s = c :: t ∧ (c = '+' ∨ c = '-' ∨ ∃ d, digit? c = some d) := by
  cases h with
  | unsigned h _ =>
    obtain ⟨c, t, d, rfl, hc⟩ := h.exists_cons
    exact ⟨c, t, rfl, .inr (.inr ⟨d, hc⟩)⟩
  | plus _ _ => exact ⟨'+', _, rfl, .inl rfl⟩
  | minus _ _ => exact ⟨'-', _, rfl, .inr (.inl rfl)⟩

theorem IsNumeral.isBlank_eq_false (h : IsNumeral s n) : ∀ c ∈ s, Text.isBlank c = false := by
  cases h with
  | unsigned h _ => exact h.isBlank_eq_false
  | plus h _ | minus h _ => exact List.forall_mem_cons.mpr ⟨by decide, h.isBlank_eq_false⟩

end Reading

end Residency.Number
