import Residency.Proofs.Numerals
import Residency.Proofs.Outcomes
import Residency.Proofs.Words
import Residency.TimeInState

namespace Residency.TimeInState

open Text (IsBlanks IsCut IsLineEnd IsUnbroken IsWord)

section Lines

variable {l : List Char} {r : Residence} {ls : List (List Char)} {rs : List Residence}

inductive IsPassedOver : List Char → Prop
  | blank {l : List Char} : IsBlanks l → IsPassedOver l
  | header {b : List Char} (rest : List Char) : IsBlanks b →
      IsPassedOver (b ++ (['c', 'p', 'u'] ++ rest))

inductive IsResidence : List Char → Residence → Prop
  | mk {b₁ f b₂ t b₃ : List Char} {frequency time : ℤ} : IsBlanks b₁ → IsBlanks b₂ → b₂ ≠ [] →
      IsBlanks b₃ → Number.IsNumeral f frequency → Number.IsNumeral t time →
      IsResidence (b₁ ++ (f ++ (b₂ ++ (t ++ b₃)))) ⟨frequency, time⟩

inductive Tells : List (List Char) → List Residence → Prop
  | nil : Tells [] []
  | passedOver {l : List Char} {ls : List (List Char)} {rs : List Residence} :
      IsPassedOver l → Tells ls rs → Tells (l :: ls) rs
  | residence {l : List Char} {r : Residence} {ls : List (List Char)} {rs : List Residence} :
      ¬ IsPassedOver l → IsResidence l r → Tells ls rs → Tells (l :: ls) (r :: rs)

theorem isWord_cpu : IsWord ['c', 'p', 'u'] :=
  ⟨by simp, by decide⟩

theorem isSkipped_trim_iff : isSkipped (Text.trim l) = true ↔ IsPassedOver l := by
  rw [isSkipped, Bool.or_eq_true, List.isEmpty_iff, List.isPrefixOf_iff_prefix,
    Text.trim_eq_nil_iff, Text.prefix_trim_iff isWord_cpu]
  constructor
  · rintro (h | ⟨b, rest, rfl, hb⟩)
    · exact .blank h
    · exact .header rest hb
  · intro h
    cases h with
    | blank h => exact .inl h
    | header rest hb => exact .inr ⟨_, rest, rfl, hb⟩

theorem readLine_eq_ok_iff {line : List Char} : readLine line = .ok r ↔ ∃ f t,
    Text.words line = [f, t] ∧ Number.readInteger f = .ok r.frequency ∧
      Number.readInteger t = .ok r.time := by
  obtain ⟨frequency, time⟩ := r
  rw [readLine]
  split
  · next f t hwords =>
    rw [hwords]
    simp only [bind_eq_ok, map_eq_ok, mapError_eq_ok, Residence.mk.injEq, List.cons.injEq]
    grind
  · next hwords =>
    refine iff_of_false nofun ?_
    rintro ⟨f, t, hpair, -⟩
    exact hwords f t hpair

theorem isWord_of_isNumeral {s : List Char} {n : ℤ} (h : Number.IsNumeral s n) : IsWord s := by
  obtain ⟨c, t, rfl, -⟩ := h.exists_cons
  exact ⟨List.cons_ne_nil c t, h.isBlank_eq_false⟩

theorem readInteger_word_iff {w : List Char} {n : ℤ} (hw : IsWord w) :
    Number.readInteger w = .ok n ↔ Number.IsNumeral w n := by
  refine Number.readInteger_eq_ok_iff fun c hc => ?_
  by_contra hblank
  have hc' := Text.isBlank_of_isNumeralBlank (Bool.not_eq_false _ ▸ hblank)
  rw [hw.2 c hc] at hc'
  cases hc'

theorem readLine_trim_iff : readLine (Text.trim l) = .ok r ↔ IsResidence l r := by
  rw [readLine_eq_ok_iff, Text.words_trim]
  constructor
  · rintro ⟨f, t, hwords, hf, ht⟩
    obtain ⟨b₁, b₂, b₃, rfl, hwf, hwt, h₁, h₂, hne, h₃⟩ := Text.words_eq_pair_iff.mp hwords
    exact .mk h₁ h₂ hne h₃ ((readInteger_word_iff hwf).mp hf) ((readInteger_word_iff hwt).mp ht)
  · intro h
    cases h with
    | @mk b₁ f b₂ t b₃ _ _ h₁ h₂ hne h₃ hf ht =>
      have hwf := isWord_of_isNumeral hf
      have hwt := isWord_of_isNumeral ht
      exact ⟨f, t, Text.words_eq_pair_iff.mpr ⟨b₁, b₂, b₃, rfl, hwf, hwt, h₁, h₂, hne, h₃⟩,
        (readInteger_word_iff hwf).mpr hf, (readInteger_word_iff hwt).mpr ht⟩

theorem IsResidence.not_isPassedOver (h : IsResidence l r) : ¬ IsPassedOver l := by
  cases h with
  | @mk b₁ f b₂ t b₃ _ _ h₁ _ _ _ hf _ =>
    have hdrop := Text.dropWhile_isBlank_append h₁ (isWord_of_isNumeral hf) (b₂ ++ (t ++ b₃))
    obtain ⟨c, f, rfl, hc⟩ := hf.exists_cons
    generalize b₁ ++ (c :: f ++ (b₂ ++ (t ++ b₃))) = l at hdrop
    rintro (hb | ⟨rest, hb⟩)
    · rw [List.dropWhile_eq_nil_iff.mpr hb] at hdrop
      cases hdrop
    · rw [Text.dropWhile_isBlank_append hb isWord_cpu] at hdrop
      obtain rfl : 'c' = c := (List.cons.inj hdrop).1
      rcases hc with hc | hc | ⟨d, hc⟩
      · exact absurd hc (by decide)
      · exact absurd hc (by decide)
      · have hnone : Number.digit? 'c' = none := by decide
        rw [hnone] at hc
        cases hc

theorem readLines_cons_of_isPassedOver (h : IsPassedOver l) :
    readLines (l :: ls) = readLines ls := by
  dsimp only [readLines]
  rw [if_pos (isSkipped_trim_iff.mpr h)]

theorem readLines_cons_of_not_isPassedOver (h : ¬ IsPassedOver l) : readLines (l :: ls) =
    (readLine (Text.trim l)).bind fun r => (readLines ls).map (r :: ·) := by
  dsimp only [readLines]
  rw [if_neg (mt isSkipped_trim_iff.mp h)]

theorem readLines_eq_ok_iff : readLines ls = .ok rs ↔ Tells ls rs := by
  induction ls generalizing rs with
  | nil =>
    constructor
    · intro h
      cases h
      exact .nil
    · intro h
      cases h
      rfl
  | cons l ls ih =>
    by_cases hl : IsPassedOver l
    · rw [readLines_cons_of_isPassedOver hl, ih]
      constructor
      · exact .passedOver hl
      · intro h
        cases h with
        | passedOver _ h => exact h
        | residence hnot _ _ => exact absurd hl hnot
    · rw [readLines_cons_of_not_isPassedOver hl]
      simp only [bind_eq_ok, map_eq_ok, readLine_trim_iff, ih]
      constructor
      · rintro ⟨r, hr, rs, hrs, rfl⟩
        exact .residence hl hr hrs
      · intro h
        cases h with
        | passedOver h _ => exact absurd h hl
        | residence _ hr hrs => exact ⟨_, hr, _, hrs, rfl⟩

theorem exists_tells_iff :
    (∃ rs, Tells ls rs) ↔ ∀ l ∈ ls, IsPassedOver l ∨ ∃ r, IsResidence l r := by
  induction ls with
  | nil => exact iff_of_true ⟨[], .nil⟩ (by simp)
  | cons l ls ih =>
    rw [List.forall_mem_cons, ← ih]
    constructor
    · rintro ⟨rs, h⟩
      cases h with
      | passedOver hl hls => exact ⟨.inl hl, rs, hls⟩
      | residence _ hl hls => exact ⟨.inr ⟨_, hl⟩, _, hls⟩
    · rintro ⟨hl, rs, hls⟩
      by_cases hpassed : IsPassedOver l
      · exact ⟨rs, .passedOver hpassed hls⟩
      · obtain ⟨r, hr⟩ := hl.resolve_left hpassed
        exact ⟨r :: rs, .residence hpassed hr hls⟩

end Lines

section Renderings

variable {e l s : List Char} {r : Residence} {rs : List Residence} {ls ms : List (List Char)}

def Ends (e s : List Char) : Prop :=
  IsLineEnd e ∨ e = [] ∧ s = []

def IsWritten (l : List Char) (r : Residence) : Prop :=
  ∃ b₁ b₂ b₃, l = b₁ ++ (Number.decimal r.frequency ++ (b₂ ++ (Number.decimal r.time ++ b₃))) ∧
    IsBlanks b₁ ∧ IsBlanks b₂ ∧ b₂ ≠ [] ∧ IsBlanks b₃

/-- Texts that residences are written in, with any lines to be passed over in between. -/
inductive IsRendering : List Residence → List Char → Prop
  | nil : IsRendering [] []
  | passedOver {l e s : List Char} {rs : List Residence} : IsUnbroken l → IsPassedOver l →
      Ends e s → IsRendering rs s → IsRendering rs (l ++ (e ++ s))
  | residence {l e s : List Char} {r : Residence} {rs : List Residence} : IsUnbroken l →
      IsWritten l r → Ends e s → IsRendering rs s → IsRendering (r :: rs) (l ++ (e ++ s))

theorem IsWritten.isResidence (h : IsWritten l r) (hf : Number.isWritable r.frequency = true)
    (ht : Number.isWritable r.time = true) : IsResidence l r := by
  have hnumeral {n : ℤ} (hn : Number.isWritable n = true) :
      Number.IsNumeral (Number.decimal n) n := by
    refine (Number.readInteger_eq_ok_iff fun c hc => ?_).mp (Number.readInteger_decimal hn)
    rcases Number.of_mem_decimal c hc with rfl | hc
    · decide
    · exact Number.not_isNumeralBlank_of_isDigit hc
  obtain ⟨b₁, b₂, b₃, rfl, h₁, h₂, hne, h₃⟩ := h
  exact .mk h₁ h₂ hne h₃ (hnumeral hf) (hnumeral ht)

theorem isPassedOver_nil : IsPassedOver [] :=
  .blank (by decide)

theorem readLines_cons_congr (l : List Char) (h : readLines ls = readLines ms) :
    readLines (l :: ls) = readLines (l :: ms) := by
  dsimp only [readLines]
  rw [h]

/-- A carriage return and a line feed after it are one line end or two: an empty line between them
is passed over. -/
theorem readLines_lines_append (hl : IsUnbroken l) (he : Ends e s) :
    readLines (Text.lines (l ++ (e ++ s))) = readLines (l :: Text.lines s) := by
  rcases he with he | ⟨rfl, rfl⟩
  · by_cases hreturn : e = ['\r'] ∧ s.head? = some '\n'
    · obtain ⟨rfl, hhead⟩ := hreturn
      obtain ⟨t, rfl⟩ := List.head?_eq_some_iff.mp hhead
      have hone : Text.lines (l ++ (['\r', '\n'] ++ t)) = l :: Text.lines t :=
        (IsCut.line hl (.inl rfl) (by simp) (Text.isCut_lines t)).lines_eq
      have htwo : Text.lines ('\n' :: t) = [] :: Text.lines t :=
        Text.lines_break_cons (by decide) (by simp)
      rw [htwo]
      refine (congrArg readLines hone).trans (readLines_cons_congr l ?_)
      rw [readLines_cons_of_isPassedOver isPassedOver_nil]
    · rw [(IsCut.line hl he hreturn (Text.isCut_lines s)).lines_eq]
  · rw [List.append_nil, List.append_nil]
    by_cases hnil : l = []
    · rw [hnil, readLines_cons_of_isPassedOver isPassedOver_nil]
    · rw [Text.lines_of_unbroken hl hnil]
      rfl

theorem parse_of_isRendering (h : IsRendering rs s)
    (hw : ∀ r ∈ rs, Number.isWritable r.frequency = true ∧ Number.isWritable r.time = true) :
    parse s = .ok rs := by
  induction h with
  | nil => rfl
  | passedOver hl hpassed he _ ih =>
    rw [parse, readLines_lines_append hl he, readLines_cons_of_isPassedOver hpassed]
    exact ih hw
  | @residence l e s r rs hl hr he _ ih =>
    rw [List.forall_mem_cons] at hw
    have hresidence := hr.isResidence hw.1.1 hw.1.2
    rw [parse, readLines_lines_append hl he, readLines_eq_ok_iff]
    exact .residence hresidence.not_isPassedOver hresidence (readLines_eq_ok_iff.mp (ih hw.2))

end Renderings

theorem parse_accepts (s : List Char) :
    ∃ ls, (∀ ms, IsCut s ms ↔ ms = ls) ∧ (∀ rs, parse s = .ok rs ↔ Tells ls rs) ∧
      ((∃ rs, parse s = .ok rs) ↔ ∀ l ∈ ls, IsPassedOver l ∨ ∃ r, IsResidence l r) ∧
      ∀ rs, (∀ r ∈ rs, Number.isWritable r.frequency = true ∧ Number.isWritable r.time = true) →
        IsRendering rs s → parse s = .ok rs := by
  have hcut : ∀ ms, IsCut s ms ↔ ms = Text.lines s := by
    intro ms
    rw [Text.isCut_iff, eq_comm]
  have htells : ∀ rs, parse s = .ok rs ↔ Tells (Text.lines s) rs := fun _ => readLines_eq_ok_iff
  refine ⟨Text.lines s, hcut, htells, ?_, fun rs hw h => parse_of_isRendering h hw⟩
  simp only [htells]
  exact exists_tells_iff

theorem parse_accepts_of_mixed_line_ends :
    IsRendering [⟨100, 5⟩, ⟨200, -7⟩] "cpu0\r\n 100\t5 \x0b200 -7".toList ∧
      parse "cpu0\r\n 100\t5 \x0b200 -7".toList = .ok [⟨100, 5⟩, ⟨200, -7⟩] := by
  have hrendering : IsRendering [⟨100, 5⟩, ⟨200, -7⟩] ("cpu0".toList ++ (['\r'] ++ ([] ++ (['\n'] ++
      (" 100\t5 ".toList ++ (['\x0b'] ++ ("200 -7".toList ++ ([] ++ [])))))))) := by
    have hlineEnd {c : Char} (hc : Text.isLineBreak c = true) (s : List Char) : Ends [c] s :=
      .inl (.inr ⟨c, hc, rfl⟩)
    refine .passedOver (by decide) (.header ['0'] (b := []) (by decide)) (hlineEnd rfl _) ?_
    refine .passedOver (by decide) isPassedOver_nil (hlineEnd rfl _) ?_
    refine .residence (by decide) ⟨[' '], ['\t'], [' '], by decide⟩ (hlineEnd rfl _) ?_
    exact .residence (by decide) ⟨[], [' '], [], by decide⟩ (.inr ⟨rfl, rfl⟩) .nil
  obtain ⟨ls, -, -, -, hparse⟩ := parse_accepts "cpu0\r\n 100\t5 \x0b200 -7".toList
  exact ⟨hrendering, hparse _ (by decide +kernel) hrendering⟩

end Residency.TimeInState
