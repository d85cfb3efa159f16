import Residency.Proofs.Csv.Reader
import Residency.Proofs.EscapeSequences
import Residency.Proofs.Numerals

/-!
What is left of rows when their escape sequences are removed. A sequence in a field never takes a
quote or a comma around the field with it, and one that holds quotes holds both of a doubled quote.
-/
namespace Residency.Csv

open Text

section Doubled

theorem doubled_cons (c : Char) (s : List Char) :
    doubled (c :: s) = (if c = '"' then ['"', '"'] else [c]) ++ doubled s :=
  rfl

theorem doubled_cons_of_ne {c : Char} (h : c ≠ '"') (s : List Char) :
    doubled (c :: s) = c :: doubled s := by
  rw [doubled_cons, if_neg h]
  rfl

theorem doubled_append (s t : List Char) : doubled (s ++ t) = doubled s ++ doubled t :=
  List.flatMap_append

theorem mem_of_mem_doubled {s : List Char} : ∀ c ∈ doubled s, c ∈ s := by
  intro c hc
  obtain ⟨d, hd, hcd⟩ := List.mem_flatMap.mp hc
  split_ifs at hcd with hquote
  · simp only [List.mem_cons, List.not_mem_nil, or_false, or_self] at hcd
    rw [hcd, ← hquote]
    exact hd
  · rw [List.mem_singleton.mp hcd]
    exact hd

theorem head?_doubled (s : List Char) : (doubled s).head? = s.head? := by
  cases s with
  | nil => rfl
  | cons c s =>
    rw [doubled_cons]
    split_ifs with h
    · rw [h]
      rfl
    · rfl

theorem dropWhile_doubled (p : Char → Bool) (s : List Char) :
    (doubled s).dropWhile p = doubled (s.dropWhile p) := by
  induction s with
  | nil => rfl
  | cons c s ih =>
    by_cases hquote : c = '"'
    · subst hquote
      cases h : p '"' <;> simp [doubled_cons, h, ih]
    · rw [doubled_cons_of_ne hquote]
      cases h : p c <;> simp [doubled_cons_of_ne hquote, h, ih]

theorem sequenceLength?_doubled {c : Char} {s : List Char} (h : sequenceLength? (c :: s) = none) :
    sequenceLength? (c :: doubled s) = none := by
  by_cases hc : c = escape
  · subst hc
    by_cases hs : s.head? = some '['
    · obtain ⟨t, rfl⟩ := List.head?_eq_some_iff.mp hs
      rw [doubled_cons_of_ne (by decide)]
      rw [sequenceLength?_bracket] at h ⊢
      rw [dropWhile_doubled, dropWhile_doubled, head?_doubled]
      split_ifs at h ⊢
      rfl
    · exact sequenceLength?_of_ne_bracket (by rwa [head?_doubled]) _
  · exact sequenceLength?_of_ne_escape hc _

theorem isSequence_doubled {q : List Char} (hq : IsSequence q) : IsSequence (doubled q) := by
  obtain ⟨ps, is, last, rfl, hps, his, hlast⟩ := hq
  have hquote : last ≠ '"' := by
    rintro rfl
    cases hlast
  refine ⟨doubled ps, doubled is, last, ?_, fun c hc => hps c (mem_of_mem_doubled c hc),
    fun c hc => his c (mem_of_mem_doubled c hc), hlast⟩
  rw [doubled_cons_of_ne (by decide), doubled_cons_of_ne (by decide), doubled_append,
    doubled_append, doubled_cons_of_ne hquote]
  rfl

theorem withoutEscapes_doubled (s : List Char) :
    withoutEscapes (doubled s) = doubled (withoutEscapes s) := by
  have h := removed_withoutEscapes s
  generalize withoutEscapes s = r at h
  induction h with
  | nil => rfl
  | part hq _ ih =>
    rw [doubled_append, withoutEscapes_append_of_isSequence (isSequence_doubled hq), ih]
  | @char c s r hnone _ ih =>
    by_cases hquote : c = '"'
    · subst hquote
      have hfree : escape ∉ ['"', '"'] := by decide
      rw [doubled_cons, if_pos rfl, withoutEscapes_append_of_not_mem hfree, ih]
      rfl
    · have hnone' := sequenceLength?_doubled (sequenceLength?_eq_none_iff.mpr hnone)
      rw [doubled_cons_of_ne hquote, withoutEscapes_cons hnone', ih, doubled_cons_of_ne hquote]

end Doubled

section Fields

theorem isPlain_of_not_isSpecial {c : Char} (h : isSpecial c = false) (hreturn : c ≠ '\r') :
    IsPlain c := by
  simp only [isSpecial, Bool.or_eq_false_iff, beq_eq_false_iff_ne] at h
  exact ⟨h.1.1, h.1.2, h.2, hreturn⟩

theorem any_isSpecial_of_isPlain {s : List Char} (h : ∀ c ∈ s, IsPlain c) :
    s.any isSpecial = false := by
  rw [List.any_eq_false]
  intro c hc
  obtain ⟨hcomma, hquote, hfeed, -⟩ := h c hc
  simp [isSpecial, hcomma, hquote, hfeed]

theorem field_of_isPlain {s : List Char} (h : ∀ c ∈ s, IsPlain c) : field s = s := by
  rw [field, any_isSpecial_of_isPlain h]
  rfl

/-- The text of a field without the escape sequences. The field stands between quotes if it did so
with them. -/
def strippedField (s : List Char) : List Char :=
  if s.any isSpecial then '"' :: doubled (withoutEscapes s) ++ ['"'] else withoutEscapes s

theorem isTextOf_strippedField {s : List Char} (h : '\r' ∉ s) :
    IsTextOf (withoutEscapes s) (strippedField s) := by
  rw [strippedField]
  split_ifs with hany
  · exact .quoted _
  · refine .plain fun c hc => ?_
    have hmem : c ∈ s := (removed_withoutEscapes s).subset hc
    rw [Bool.not_eq_true, List.any_eq_false] at hany
    refine isPlain_of_not_isSpecial (by simpa using hany c hmem) ?_
    rintro rfl
    exact h hmem

theorem withoutEscapes_line {l : List Char} (hl : ∀ c ∈ l, isInner c = true) (r : List Char) :
    withoutEscapes (l ++ '\n' :: r) = l ++ '\n' :: withoutEscapes r := by
  have hfree : escape ∉ l ++ ['\n'] := by
    rw [List.mem_append, not_or]
    exact ⟨fun h => absurd (hl escape h) (by decide), by decide⟩
  simpa using withoutEscapes_append_of_not_mem hfree r

theorem withoutEscapes_field {l : List Char} (hl : ∀ c ∈ l, isInner c = true) (s r : List Char) :
    withoutEscapes (field s ++ (l ++ '\n' :: r)) =
      strippedField s ++ (l ++ '\n' :: withoutEscapes r) := by
  rw [field, strippedField]
  split_ifs with hany
  · have hclosed : ∀ c ∈ '"' :: l, isInner c = true :=
      List.forall_mem_cons.mpr ⟨by decide, hl⟩
    have hshape : quoted s ++ (l ++ '\n' :: r) =
        '"' :: (doubled s ++ ('"' :: l ++ '\n' :: r)) := by
      simp [quoted, doubled]
    rw [hshape, withoutEscapes_cons (sequenceLength?_of_ne_escape (by decide) _),
      withoutEscapes_append (inert_of_line hclosed r), withoutEscapes_line hclosed,
      withoutEscapes_doubled]
    simp
  · rw [withoutEscapes_append (inert_of_line hl r), withoutEscapes_line hl]

end Fields

section Rows

variable {first name : List Char} {ns : List ℤ}

theorem intercalate_cons (s : List Char) (l : List (List Char)) :
    [','].intercalate (s :: l) = s ++ l.flatMap (',' :: ·) := by
  induction l generalizing s with
  | nil => simp [List.intercalate]
  | cons t l ih =>
    have h := ih t
    rw [List.intercalate] at h ⊢
    simp [List.intersperse_cons_cons, h]

def strippedRow (first name : List Char) (ns : List ℤ) : List Char :=
  first ++ (strippedField name :: ns.map Number.decimal).flatMap (',' :: ·) ++ ['\n']

theorem strippedRow_append (first name : List Char) (ns : List ℤ) (r : List Char) :
    strippedRow first name ns ++ r =
      first ++ ',' :: (strippedField name ++
        ((ns.map Number.decimal).flatMap (',' :: ·) ++ '\n' :: r)) := by
  rw [strippedRow, List.flatMap_cons]
  simp

theorem isPlain_of_mem_decimal {n : ℤ} : ∀ c ∈ Number.decimal n, IsPlain c := by
  intro c hc
  rcases Number.of_mem_decimal c hc with rfl | hdigit
  · decide
  · have hne : ∀ d, d.isDigit = false → c ≠ d := fun d hd => (Number.ne_of_isDigit hdigit hd).symm
    exact ⟨hne ',' rfl, hne '"' rfl, hne '\n' rfl, hne '\r' rfl⟩

theorem isInner_of_mem_decimal {n : ℤ} : ∀ c ∈ Number.decimal n, isInner c = true := by
  intro c hc
  rcases Number.of_mem_decimal c hc with rfl | hdigit
  · decide
  · obtain ⟨hlow, hhigh⟩ := Number.toNat_of_isDigit hdigit
    rw [isInner, Bool.or_eq_true, isParameter_iff]
    exact .inl ⟨hlow, by omega⟩

theorem isInner_of_mem_decimals : ∀ c ∈ (ns.map Number.decimal).flatMap (',' :: ·),
    isInner c = true := by
  rw [List.forall_mem_flatMap, List.forall_mem_map]
  exact fun n _ => List.forall_mem_cons.mpr ⟨by decide, isInner_of_mem_decimal⟩

theorem withoutEscapes_row (hfirst : ∀ c ∈ first, IsPlain c) (hescape : escape ∉ first)
    (r : List Char) :
    withoutEscapes (row (first :: name :: ns.map Number.decimal) ++ r) =
      strippedRow first name ns ++ withoutEscapes r := by
  have hnumbers : (ns.map Number.decimal).map field = ns.map Number.decimal := by
    rw [List.map_map]
    exact List.map_congr_left fun n _ => field_of_isPlain isPlain_of_mem_decimal
  have hrow : row (first :: name :: ns.map Number.decimal) ++ r = (first ++ [',']) ++
      (field name ++ ((ns.map Number.decimal).flatMap (',' :: ·) ++ '\n' :: r)) := by
    rw [row, List.map_cons, List.map_cons, hnumbers, intercalate_cons, field_of_isPlain hfirst]
    simp
  have hfree : escape ∉ first ++ [','] := by
    rw [List.mem_append, not_or]
    exact ⟨hescape, by decide⟩
  rw [hrow, withoutEscapes_append_of_not_mem hfree, withoutEscapes_field isInner_of_mem_decimals,
    strippedRow]
  simp

theorem isRowOf_strippedRow {limit : ℕ} (hfirst : ∀ c ∈ first, IsPlain c) (hname : '\r' ∉ name)
    (hlen : ∀ f ∈ first :: withoutEscapes name :: ns.map Number.decimal, f.length ≤ limit) :
    IsRowOf limit (first :: withoutEscapes name :: ns.map Number.decimal)
      (strippedRow first name ns) := by
  refine .mk (.plain hfirst) (.cons (isTextOf_strippedField hname) ?_) (by simp) hlen
  rw [List.forall₂_same]
  intro s hs
  obtain ⟨n, -, rfl⟩ := List.mem_map.mp hs
  exact .plain isPlain_of_mem_decimal

end Rows

end Residency.Csv
