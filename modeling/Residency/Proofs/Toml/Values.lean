import Residency.Proofs.Lists
import Residency.Proofs.Numerals
import Residency.Toml.Reader
import Residency.Toml.Writer

/-!
Texts and integers are read back from a line of TOML. Every character that may not stand in a text
is escaped, and a numeral is no date, no time and no number in another base.
-/
namespace Residency.Toml

section Texts

theorem readBody_quote (fuel : ℕ) (r : List Char) :
    readBody ⟨'"', false⟩ (fuel + 1) ('"' :: r) = some ([], r) := rfl

theorem readBody_plain (fuel : ℕ) {c : Char} (hquote : c ≠ '"') (hbackslash : c ≠ '\\')
    (hcontrol : isControl c = false) (r : List Char) :
    readBody ⟨'"', false⟩ (fuel + 1) (c :: r) =
      (readBody ⟨'"', false⟩ fuel r).map fun (t, r) => (c :: t, r) := by
  simp [readBody, Quotation.forbids, hcontrol, hquote, hbackslash]

theorem readBody_escape (fuel : ℕ) {s r : List Char} {c : Char}
    (h : readEscape false s = some ([c], r)) :
    readBody ⟨'"', false⟩ (fuel + 1) ('\\' :: s) =
      (readBody ⟨'"', false⟩ fuel r).map fun (t, r) => (c :: t, r) := by
  have hforbids : Quotation.forbids ⟨'"', false⟩ '\\' = false := by decide
  simp [readBody, hforbids, h]

theorem readEscape_of_escaped? {e c : Char} (h : escaped? e = some c) (r : List Char) :
    readEscape false (e :: r) = some ([c], r) := by
  simp [readEscape, h]

theorem numbered?_hex {n : ℕ} (h : n < 0x80) :
    (Text.hex 4 n).length = 4 ∧ numbered? (Text.hex 4 n) = some (Char.ofNat n) := by
  have hall : ∀ n < 0x80,
      (Text.hex 4 n).length = 4 ∧ numbered? (Text.hex 4 n) = some (Char.ofNat n) := by decide
  exact hall n h

theorem readEscape_hex {c : Char} (h : c.toNat < 0x80) (r : List Char) :
    readEscape false ('u' :: (Text.hex 4 c.toNat ++ r)) = some ([c], r) := by
  obtain ⟨hlen, hchar⟩ := numbered?_hex h
  have hwidth : escapeWidth? 'u' = some 4 := rfl
  have htake : (Text.hex 4 c.toNat ++ r).take 4 = Text.hex 4 c.toNat := List.take_left' hlen
  have hdrop : (Text.hex 4 c.toNat ++ r).drop 4 = r := List.drop_left' hlen
  simp [readEscape, escaped?, hwidth, htake, hdrop, hlen, hchar]

theorem readBody_escapeChar (fuel : ℕ) (c : Char) (r : List Char) :
    readBody ⟨'"', false⟩ (fuel + 1) (escapeChar c ++ r) =
      (readBody ⟨'"', false⟩ fuel r).map fun (t, r) => (c :: t, r) := by
  rw [escapeChar]
  split_ifs with hquote hbackslash hbackspace htab hfeed hform hreturn hcontrol
  · subst hquote
    exact readBody_escape fuel (readEscape_of_escaped? rfl r)
  · subst hbackslash
    exact readBody_escape fuel (readEscape_of_escaped? rfl r)
  · subst hbackspace
    exact readBody_escape fuel (readEscape_of_escaped? rfl r)
  · subst htab
    exact readBody_escape fuel (readEscape_of_escaped? rfl r)
  · subst hfeed
    exact readBody_escape fuel (readEscape_of_escaped? rfl r)
  · subst hform
    exact readBody_escape fuel (readEscape_of_escaped? rfl r)
  · subst hreturn
    exact readBody_escape fuel (readEscape_of_escaped? rfl r)
  · exact readBody_escape fuel (readEscape_hex (by omega) r)
  · rw [not_or] at hcontrol
    exact readBody_plain fuel hquote hbackslash (by simp [isControl]; omega) r

theorem readBody_text {fuel : ℕ} (cs r : List Char) (h : cs.length < fuel) :
    readBody ⟨'"', false⟩ fuel (cs.flatMap escapeChar ++ '"' :: r) = some (cs, r) := by
  induction cs generalizing fuel with
  | nil =>
    obtain ⟨fuel, rfl⟩ := Nat.exists_eq_add_one.mpr h
    exact readBody_quote fuel r
  | cons c cs ih =>
    rw [List.length_cons] at h
    obtain ⟨fuel, rfl⟩ := Nat.exists_eq_add_one.mpr (Nat.zero_lt_of_lt h)
    rw [List.flatMap_cons, List.append_assoc, readBody_escapeChar fuel c, ih (by omega)]
    rfl

theorem exists_escapeChar (c : Char) : ∃ d ds, escapeChar c = d :: ds ∧ d ≠ '"' := by
  unfold escapeChar
  split_ifs with hquote
  all_goals first
    | exact ⟨c, [], rfl, hquote⟩
    | exact ⟨'\\', _, rfl, by decide⟩

theorem escapeChar_ne_nil (c : Char) : escapeChar c ≠ [] := by
  obtain ⟨d, ds, hd, -⟩ := exists_escapeChar c
  rw [hd]
  exact List.cons_ne_nil d ds

theorem readQuoted_stringText (cs r : List Char) :
    readQuoted (stringText cs ++ '\n' :: r) = some (String.ofList cs, false, '\n' :: r) := by
  cases cs with
  -- Only the line end tells an empty text from the first two of three quotes.
  | nil => rfl
  | cons c cs =>
    obtain ⟨d, ds, hd, hquote⟩ := exists_escapeChar c
    have hbody : (c :: cs).flatMap escapeChar ++ '"' :: '\n' :: r =
        d :: (ds ++ (cs.flatMap escapeChar ++ '"' :: '\n' :: r)) := by
      rw [List.flatMap_cons, hd]
      simp
    have htext : stringText (c :: cs) ++ '\n' :: r =
        '"' :: ((c :: cs).flatMap escapeChar ++ '"' :: '\n' :: r) := by
      simp [stringText]
    have htripled : ['"', '"'].isPrefixOf
        ((c :: cs).flatMap escapeChar ++ '"' :: '\n' :: r) = false := by
      have hne : ('"' == d) = false := by simpa using Ne.symm hquote
      rw [hbody, List.isPrefixOf_cons_cons, hne, Bool.false_and]
    have hempty : ((c :: cs).flatMap escapeChar ++ '"' :: '\n' :: r).head? ≠ some '"' := by
      rw [hbody]
      simpa using hquote
    have hlen := length_le_flatMap escapeChar_ne_nil (c :: cs)
    rw [htext, readQuoted]
    simp only [htripled, hempty, Bool.not_false, Bool.true_and, decide_false, Bool.false_eq_true,
      if_false]
    rw [readBody_text _ _ (by rw [List.length_append]; omega)]
    rfl

end Texts

section Numerals

variable {s : List Char}

theorem baseDigit?_of_isDigit {c : Char} (h : c.isDigit = true) :
    baseDigit? 10 c = some (c.toNat - 48) := by
  have hrange := Number.toNat_of_isDigit h
  have hdigit : isAsciiDigit c = true := h
  rw [baseDigit?, hexDigit?, if_pos hdigit, Option.bind_some, if_pos (by omega)]

theorem digitsAfter?_of_digits (h : ∀ c ∈ s, c.isDigit = true) :
    digitsAfter? 10 true s = some (s.map fun c => c.toNat - 48) := by
  induction s with
  | nil => rfl
  | cons c s ih =>
    have hc := h c (by simp)
    rw [digitsAfter?, if_neg (Number.ne_underscore_of_isDigit hc), baseDigit?_of_isDigit hc,
      Option.bind_some, ih fun d hd => h d (by simp [hd])]
    rfl

theorem digits?_of_digits (hne : s ≠ []) (h : ∀ c ∈ s, c.isDigit = true) :
    digits? 10 s = some (s.map fun c => c.toNat - 48) := by
  obtain ⟨c, s, rfl⟩ := List.exists_cons_of_ne_nil hne
  have hc := h c (by simp)
  rw [digits?, digitsAfter?, if_neg (Number.ne_underscore_of_isDigit hc),
    baseDigit?_of_isDigit hc, Option.bind_some,
    digitsAfter?_of_digits fun d hd => h d (by simp [hd])]
  rfl

theorem ofDigits_map (s : List Char) :
    ofDigits 10 (s.map fun c => c.toNat - 48) = Nat.ofDigitChars 10 s 0 := by
  rw [ofDigits, List.foldl_map, Nat.ofDigitChars_eq_foldl]
  rfl

theorem wholeDigits?_toDigits (n : ℕ) :
    wholeDigits? (Nat.toDigits 10 n) = some ((Nat.toDigits 10 n).map fun c => c.toNat - 48) := by
  have hread := digits?_of_digits Nat.toDigits_ne_nil (Number.isDigit_of_mem_toDigits (n := n))
  rcases Nat.eq_zero_or_pos n with rfl | hn
  · rfl
  · rw [wholeDigits?, hread]
    split
    · next d ds heq =>
      obtain ⟨c, cs, hcs, hc⟩ := Number.exists_toDigits n
      rw [hcs, List.map_cons, Option.some.injEq, List.cons.injEq] at heq
      have hrange := Number.toNat_of_isDigit hc
      have hzero : c = '0' := Char.toNat_inj.mp (by change _ = 48; omega)
      rw [hzero] at hcs
      exact absurd hcs (Number.head_toDigits_ne_zero (by omega) cs)
    · rfl

theorem decimalNumber?_decimal {n : ℤ} (h : Number.isWritable n = true) :
    decimalNumber? (Number.decimal n) = some (.int n) := by
  have hlen : (Nat.toDigits 10 n.natAbs).length ≤ Number.maxDigits := by
    simpa [Number.isWritable] using h
  have hvalue : ∀ m, ofDigits 10 ((Nat.toDigits 10 m).map fun c => c.toNat - 48) = m := by
    intro m
    rw [ofDigits_map, Nat.ofDigitChars_toDigits (by decide) (by decide)]
  cases n with
  | ofNat m =>
    change (Nat.toDigits 10 m).length ≤ _ at hlen
    change decimalNumber? (Nat.toDigits 10 m) = _
    simp only [decimalNumber?, Number.takeSign_of_digits Number.isDigit_of_mem_toDigits,
      wholeDigits?_toDigits, List.length_map, Nat.not_lt.mpr hlen, if_false, hvalue]
    rfl
  | negSucc m =>
    change (Nat.toDigits 10 (m + 1)).length ≤ _ at hlen
    change decimalNumber? ('-' :: Nat.toDigits 10 (m + 1)) = _
    simp only [decimalNumber?, Number.takeSign, wholeDigits?_toDigits, List.length_map,
      Nat.not_lt.mpr hlen, if_false, hvalue]
    rfl

theorem mem_of_twoDigits? {t : List Char} {n : ℕ} (h : twoDigits? s = some (n, t)) :
    ∀ c ∈ t, c ∈ s := by
  unfold twoDigits? at h
  split at h
  · split_ifs at h
    cases h
    exact fun c hc => List.mem_cons_of_mem _ (List.mem_cons_of_mem _ hc)
  · cases h

theorem readDate_of_digits (h : ∀ c ∈ s, c.isDigit = true) : readDate s = none := by
  unfold readDate
  split
  · rfl
  · next hcentury =>
    split
    · next hyear =>
      have hminus := mem_of_twoDigits? hcentury '-' (mem_of_twoDigits? hyear '-' (by simp))
      exact absurd (h '-' hminus) (by decide)
    · rfl

theorem readTime_of_digits (h : ∀ c ∈ s, c.isDigit = true) : readTime s = none := by
  unfold readTime
  split
  · next hhour =>
    exact absurd (h ':' (mem_of_twoDigits? hhour ':' (by simp))) (by decide)
  · rfl

theorem moment?_decimal (n : ℤ) : moment? (Number.decimal n) = none := by
  cases n with
  | ofNat m =>
    have h := Number.isDigit_of_mem_toDigits (n := m)
    change moment? (Nat.toDigits 10 m) = none
    rw [moment?, readDate_of_digits h, readTime_of_digits h]
  | negSucc m =>
    obtain ⟨d, ds, hds, -⟩ := Number.exists_toDigits (m + 1)
    change moment? ('-' :: Nat.toDigits 10 (m + 1)) = none
    rw [hds]
    rfl

theorem number?_decimal {n : ℤ} (h : Number.isWritable n = true) :
    number? (Number.decimal n) = some (.int n) := by
  have hdecimal := decimalNumber?_decimal h
  cases n with
  | ofNat m =>
    change number? (Nat.toDigits 10 m) = _
    change decimalNumber? (Nat.toDigits 10 m) = _ at hdecimal
    have hdigit := Number.isDigit_of_mem_toDigits (n := m)
    rw [number?.eq_def]
    split
    · next heq => exact absurd (hdigit 'x' (by simp [heq])) (by decide)
    · next heq => exact absurd (hdigit 'o' (by simp [heq])) (by decide)
    · next heq => exact absurd (hdigit 'b' (by simp [heq])) (by decide)
    · exact hdecimal
  | negSucc m => exact hdecimal

theorem endsRun_of_decimal {n : ℤ} : ∀ c ∈ Number.decimal n, endsRun c = false := by
  have hdigit : ∀ c : Char, c.isDigit = true → endsRun c = false := by
    intro c hc
    simp only [endsRun, List.contains_eq_mem, List.mem_cons, List.not_mem_nil, or_false,
      decide_eq_false_iff_not]
    rintro (rfl | rfl | rfl | rfl | rfl | rfl | rfl | rfl) <;> exact absurd hc (by decide)
  intro c hc
  rcases Number.of_mem_decimal c hc with rfl | hc
  · decide
  · exact hdigit c hc

theorem readRun_decimal {n : ℤ} (h : Number.isWritable n = true) (r : List Char) :
    readRun (Number.decimal n ++ '\n' :: r) = some (.int n, '\n' :: r) := by
  have hrun : (Number.decimal n ++ '\n' :: r).takeWhile (!endsRun ·) = Number.decimal n :=
    takeWhile_append_cons (fun c hc => by simp [endsRun_of_decimal c hc]) (by decide) r
  simp only [readRun, hrun, List.drop_left, moment?_decimal, number?_decimal h, Option.map_some]

theorem readPlain_eq_readRun {c : Char} (h : c ∉ ['"', '\'', 't', 'f']) (s : List Char) :
    readPlain (c :: s) = readRun (c :: s) := by
  simp only [List.mem_cons, List.not_mem_nil, or_false, not_or] at h
  obtain ⟨hdouble, hsingle, ht, hf⟩ := h
  rw [readPlain]
  · split
    · next hword => simp [booleans, Ne.symm ht, Ne.symm hf] at hword
    · rfl
  · exact fun _ h => hdouble (List.cons.inj h).1
  · exact fun _ h => hsingle (List.cons.inj h).1

theorem readValue_eq_readPlain {c : Char} (h : c ∉ ['[', '\x7b']) (depth : ℕ) (s : List Char) :
    readValue depth (c :: s) = readPlain (c :: s) := by
  simp only [List.mem_cons, List.not_mem_nil, or_false, not_or] at h
  rw [readValue]
  · exact fun _ _ _ heq => h.1 (List.cons.inj heq).1
  · exact fun _ _ _ heq => h.2 (List.cons.inj heq).1

theorem readValue_decimal {n : ℤ} (h : Number.isWritable n = true) (depth : ℕ) (r : List Char) :
    readValue depth (Number.decimal n ++ '\n' :: r) = some (.int n, '\n' :: r) := by
  have hrun := readRun_decimal h r
  obtain ⟨c, t, hc, hhead⟩ := Number.exists_decimal n
  have hnot : c ∉ ['[', '\x7b'] ∧ c ∉ ['"', '\'', 't', 'f'] := by
    rcases hhead with rfl | hd
    · decide
    · constructor <;> intro hmem <;> simp only [List.mem_cons, List.not_mem_nil, or_false] at hmem
      · rcases hmem with rfl | rfl <;> exact absurd hd (by decide)
      · rcases hmem with rfl | rfl | rfl | rfl <;> exact absurd hd (by decide)
  rw [hc, List.cons_append] at hrun ⊢
  rw [readValue_eq_readPlain hnot.1, readPlain_eq_readRun hnot.2, hrun]

end Numerals

inductive Reads : Json → Toml → Prop where
  | str (s : String) : Reads (.str s) (.str s)
  | int {n : ℤ} (h : Number.isWritable n = true) : Reads (.int n) (.int n)

theorem readValue_inlineText {v : Json} {w : Toml} (h : Reads v w) (depth : ℕ) (r : List Char) :
    readValue depth (inlineText true v ++ '\n' :: r) = some (w, '\n' :: r) := by
  cases h with
  | str s =>
    have hplain : readValue depth (stringText s.toList ++ '\n' :: r) =
        readPlain (stringText s.toList ++ '\n' :: r) := by
      cases depth <;> rfl
    change readValue depth (stringText s.toList ++ '\n' :: r) = _
    rw [hplain]
    change (readQuoted (stringText s.toList ++ '\n' :: r)).map _ = _
    rw [readQuoted_stringText, Option.map_some, String.ofList_toList]
  | int h => exact readValue_decimal h depth r

end Residency.Toml
