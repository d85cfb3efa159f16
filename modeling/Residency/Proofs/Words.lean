import Mathlib.Data.List.DropRight
import Residency.Proofs.Lists
import Residency.Text.Blank
import Residency.Text.Lines

namespace Residency.Text

section Lines

variable {c : Char} {s l m : List Char} {ls : List (List Char)}

def IsUnbroken (l : List Char) : Prop :=
  ∀ c ∈ l, isLineBreak c = false

instance (l : List Char) : Decidable (IsUnbroken l) :=
  inferInstanceAs (Decidable (∀ c ∈ l, _))

def IsLineEnd (e : List Char) : Prop :=
  e = ['\r', '\n'] ∨ ∃ c, isLineBreak c = true ∧ e = [c]

/-- The lines of a text. A carriage return is no line end of its own before a line feed. -/
inductive IsCut : List Char → List (List Char) → Prop
  | nil : IsCut [] []
  | last {l : List Char} : l ≠ [] → IsUnbroken l → IsCut l [l]
  | line {l e s : List Char} {ls : List (List Char)} : IsUnbroken l → IsLineEnd e →
      ¬ (e = ['\r'] ∧ s.head? = some '\n') → IsCut s ls → IsCut (l ++ (e ++ s)) (l :: ls)

theorem lines_break_cons (hc : isLineBreak c = true) (h : ¬ (c = '\r' ∧ s.head? = some '\n')) :
    lines (c :: s) = [] :: lines s := by
  rw [lines, if_pos hc]
  rintro t rfl rfl
  exact h ⟨rfl, rfl⟩

theorem lines_cons_of_not_break (hc : isLineBreak c = false) (s : List Char) :
    lines (c :: s) = (c :: (lines s).headD []) :: (lines s).tail := by
  rw [lines, if_neg (by simp [hc])]
  · cases lines s <;> rfl
  · rintro t rfl
    exact absurd hc (by decide)

theorem lines_lineEnd_append {e : List Char} (he : IsLineEnd e)
    (h : ¬ (e = ['\r'] ∧ s.head? = some '\n')) : lines (e ++ s) = [] :: lines s := by
  rcases he with rfl | ⟨c, hc, rfl⟩
  · rfl
  · exact lines_break_cons hc (by simpa using h)

theorem lines_unbroken_append (h : IsUnbroken l) (hs : lines s = m :: ls) :
    lines (l ++ s) = (l ++ m) :: ls := by
  induction l with
  | nil => exact hs
  | cons c l ih =>
    rw [IsUnbroken, List.forall_mem_cons] at h
    rw [List.cons_append, lines_cons_of_not_break h.1, ih h.2]
    rfl

theorem lines_of_unbroken (h : IsUnbroken l) (hne : l ≠ []) : lines l = [l] := by
  obtain ⟨l, c, rfl⟩ := (List.eq_nil_or_concat l).resolve_left hne
  rw [List.concat_eq_append] at h ⊢
  rw [IsUnbroken, List.forall_mem_append] at h
  exact lines_unbroken_append h.1 (lines_cons_of_not_break (h.2 c (by simp)) [])

theorem IsCut.lines_eq (h : IsCut s ls) : lines s = ls := by
  induction h with
  | nil => rfl
  | last hne hl => exact lines_of_unbroken hl hne
  | line hl he hreturn _ ih =>
    rw [lines_unbroken_append hl (lines_lineEnd_append he hreturn), List.append_nil, ih]

theorem isCut_lines (s : List Char) : IsCut s (lines s) := by
  have hempty : IsUnbroken [] := by simp [IsUnbroken]
  fun_induction lines s with
  | case1 => exact .nil
  | case2 s ih => exact .line hempty (.inl rfl) (by simp) ih
  | case3 c s hfeed hc ih =>
    refine .line hempty (.inr ⟨c, hc, rfl⟩) ?_ ih
    rintro ⟨hreturn, hhead⟩
    obtain ⟨t, rfl⟩ := List.head?_eq_some_iff.mp hhead
    exact hfeed t (List.cons.inj hreturn).1 rfl
  | case4 c s _ hc hnil ih =>
    rw [hnil] at ih
    cases ih
    exact .last (by simp) (by simpa [IsUnbroken] using hc)
  | case5 c s _ hc l ls hls ih =>
    rw [hls] at ih
    have hcons {l : List Char} (hl : IsUnbroken l) : IsUnbroken (c :: l) :=
      List.forall_mem_cons.mpr ⟨by simpa using hc, hl⟩
    cases ih with
    | last _ hl => exact .last (by simp) (hcons hl)
    | line hl he hreturn hs => exact .line (hcons hl) he hreturn hs

theorem isCut_iff : IsCut s ls ↔ lines s = ls := by
  constructor
  · exact IsCut.lines_eq
  · rintro rfl
    exact isCut_lines s

end Lines

section Words

variable {c : Char} {s t w : List Char} {ws : List (List Char)}

def IsWord (w : List Char) : Prop :=
  w ≠ [] ∧ ∀ c ∈ w, isBlank c = false

def IsBlanks (s : List Char) : Prop :=
  ∀ c ∈ s, isBlank c = true

instance (s : List Char) : Decidable (IsBlanks s) :=
  inferInstanceAs (Decidable (∀ c ∈ s, _))

theorem words_append_blank (hc : isBlank c = true) (s t : List Char) :
    words (s ++ c :: t) = words s ++ words t := by
  rw [words, List.splitOnP_append_cons s t hc, List.filter_append]
  rfl

theorem words_cons_blank (hc : isBlank c = true) (s : List Char) : words (c :: s) = words s :=
  words_append_blank hc [] s

theorem words_blanks_append (h : IsBlanks s) (t : List Char) : words (s ++ t) = words t := by
  induction s with
  | nil => rfl
  | cons c s ih =>
    rw [IsBlanks, List.forall_mem_cons] at h
    rw [List.cons_append, words_cons_blank h.1, ih h.2]

theorem words_of_isWord (h : IsWord w) : words w = [w] := by
  rw [words, List.splitOnP_eq_singleton h.2]
  simp [h.1]

theorem words_word_append (h : IsWord w) (ht : ∀ c ∈ t.head?, isBlank c = true) :
    words (w ++ t) = w :: words t := by
  cases t with
  | nil =>
    rw [List.append_nil, words_of_isWord h]
    rfl
  | cons c t =>
    rw [words_append_blank (ht c rfl), words_of_isWord h, words_cons_blank (ht c rfl)]
    rfl

def BeginsBlank (t : List Char) : Prop :=
  ∀ c ∈ t.head?, isBlank c = true

theorem exists_first_word (s : List Char) : IsBlanks s ∨
    ∃ b w t, s = b ++ (w ++ t) ∧ IsBlanks b ∧ IsWord w ∧ BeginsBlank t := by
  induction s with
  | nil => exact .inl (by simp [IsBlanks])
  | cons c s ih =>
    cases hc : isBlank c with
    | true =>
      have hcons {b : List Char} (hb : IsBlanks b) : IsBlanks (c :: b) :=
        List.forall_mem_cons.mpr ⟨hc, hb⟩
      rcases ih with hs | ⟨b, w, t, rfl, hb, hw, ht⟩
      · exact .inl (hcons hs)
      · exact .inr ⟨c :: b, w, t, rfl, hcons hb, hw, ht⟩
    | false =>
      right
      have hletter : IsWord [c] := ⟨by simp, by simpa using hc⟩
      rcases ih with hs | ⟨_ | ⟨d, b⟩, w, t, rfl, hb, hw, ht⟩
      · exact ⟨[], [c], s, rfl, by simp [IsBlanks], hletter,
          fun d hd => hs d (List.mem_of_head? hd)⟩
      · exact ⟨[], c :: w, t, rfl, hb, ⟨by simp, List.forall_mem_cons.mpr ⟨hc, hw.2⟩⟩, ht⟩
      · refine ⟨[], [c], _, rfl, by simp [IsBlanks], hletter, fun e he => ?_⟩
        cases he
        exact hb d (by simp)

theorem words_eq_nil_iff : words s = [] ↔ IsBlanks s := by
  rcases exists_first_word s with hs | ⟨b, w, t, rfl, hb, hw, ht⟩
  · have hwords := words_blanks_append hs []
    rw [List.append_nil] at hwords
    exact iff_of_true hwords hs
  · rw [words_blanks_append hb, words_word_append hw ht]
    refine iff_of_false (List.cons_ne_nil _ _) fun hblank => ?_
    obtain ⟨c, w, rfl⟩ := List.exists_cons_of_ne_nil hw.1
    have hc := hw.2 c (by simp)
    rw [hblank c (by simp)] at hc
    cases hc

theorem words_eq_cons_iff : words s = w :: ws ↔
    ∃ b t, s = b ++ (w ++ t) ∧ IsBlanks b ∧ IsWord w ∧ BeginsBlank t ∧ words t = ws := by
  constructor
  · intro h
    rcases exists_first_word s with hs | ⟨b, w', t, rfl, hb, hw, ht⟩
    · rw [words_eq_nil_iff.mpr hs] at h
      cases h
    · rw [words_blanks_append hb, words_word_append hw ht] at h
      cases h
      exact ⟨b, t, rfl, hb, hw, ht, rfl⟩
  · rintro ⟨b, t, rfl, hb, hw, ht, rfl⟩
    rw [words_blanks_append hb, words_word_append hw ht]

theorem IsWord.not_beginsBlank (h : IsWord w) (t : List Char) : ¬ BeginsBlank (w ++ t) := by
  obtain ⟨c, w, rfl⟩ := List.exists_cons_of_ne_nil h.1
  intro hb
  have hc := h.2 c (by simp)
  rw [hb c rfl] at hc
  cases hc

theorem words_eq_pair_iff {v : List Char} : words s = [v, w] ↔
    ∃ b₁ b₂ b₃, s = b₁ ++ (v ++ (b₂ ++ (w ++ b₃))) ∧ IsWord v ∧ IsWord w ∧
      IsBlanks b₁ ∧ IsBlanks b₂ ∧ b₂ ≠ [] ∧ IsBlanks b₃ := by
  simp only [words_eq_cons_iff, words_eq_nil_iff]
  constructor
  · rintro ⟨b₁, _, rfl, h₁, hv, ht, b₂, b₃, rfl, h₂, hw, -, h₃⟩
    refine ⟨b₁, b₂, b₃, rfl, hv, hw, h₁, h₂, ?_, h₃⟩
    rintro rfl
    exact hw.not_beginsBlank b₃ ht
  · rintro ⟨b₁, b₂, b₃, rfl, hv, hw, h₁, h₂, hne, h₃⟩
    have hbegins {b : List Char} (hb : IsBlanks b) : BeginsBlank b :=
      fun c hc => hb c (List.mem_of_head? hc)
    refine ⟨b₁, _, rfl, h₁, hv, ?_, b₂, b₃, rfl, h₂, hw, hbegins h₃, h₃⟩
    obtain ⟨c, b₂, rfl⟩ := List.exists_cons_of_ne_nil hne
    exact fun d hd => hbegins h₂ d hd

theorem words_append_blanks (h : IsBlanks t) (s : List Char) : words (s ++ t) = words s := by
  cases t with
  | nil => rw [List.append_nil]
  | cons c t =>
    rw [IsBlanks, List.forall_mem_cons] at h
    rw [words_append_blank h.1, words_eq_nil_iff.mpr h.2, List.append_nil]

end Words

section Trimming

variable {s w : List Char}

theorem exists_trim (s : List Char) :
    ∃ b₁ b₂, s = b₁ ++ (trim s ++ b₂) ∧ IsBlanks b₁ ∧ IsBlanks b₂ := by
  have hend : trim s ++ (s.dropWhile isBlank).rtakeWhile isBlank = s.dropWhile isBlank :=
    List.rdropWhile_append_rtakeWhile
  refine ⟨s.takeWhile isBlank, (s.dropWhile isBlank).rtakeWhile isBlank, ?_, ?_, ?_⟩
  · rw [hend, List.takeWhile_append_dropWhile]
  · exact fun _ hc => List.mem_takeWhile_imp hc
  · exact fun _ hc => List.mem_rtakeWhile_imp hc

theorem words_trim (s : List Char) : words (trim s) = words s := by
  obtain ⟨b₁, b₂, hs, h₁, h₂⟩ := exists_trim s
  conv_rhs => rw [hs]
  rw [words_blanks_append h₁, words_append_blanks h₂]

theorem trim_eq_nil_iff : trim s = [] ↔ IsBlanks s := by
  constructor
  · intro h
    rw [← words_eq_nil_iff, ← words_trim, h]
    rfl
  · intro h
    have hdrop : s.dropWhile isBlank = [] := List.dropWhile_eq_nil_iff.mpr h
    rw [trim, trimWhile, hdrop]
    rfl

theorem dropWhile_isBlank_append {b : List Char} (hb : IsBlanks b) (hw : IsWord w) (r : List Char) :
    (b ++ (w ++ r)).dropWhile isBlank = w ++ r := by
  obtain ⟨c, w, rfl⟩ := List.exists_cons_of_ne_nil hw.1
  have hc := hw.2 c (by simp)
  rw [List.dropWhile_append_of_pos hb, List.cons_append, List.dropWhile_cons_of_neg (by simp [hc])]

theorem prefix_trim_iff (hw : IsWord w) : w <+: trim s ↔ ∃ b r, s = b ++ (w ++ r) ∧ IsBlanks b := by
  constructor
  · rintro ⟨r, hr⟩
    obtain ⟨b₁, b₂, hs, h₁, -⟩ := exists_trim s
    rw [← hr, List.append_assoc] at hs
    exact ⟨b₁, r ++ b₂, hs, h₁⟩
  · rintro ⟨b, r, rfl, hb⟩
    have htrim : trim (b ++ (w ++ r)) = (w ++ r).rdropWhile isBlank := by
      rw [trim, trimWhile, dropWhile_isBlank_append hb hw]
      rfl
    rw [htrim]
    rcases List.prefix_or_prefix_of_prefix (List.prefix_append w r)
      (List.rdropWhile_prefix isBlank (w ++ r)) with h | ⟨q, hq⟩
    · exact h
    · have hend : (w ++ r).rtakeWhile isBlank = q ++ r := by
        have happend := List.rdropWhile_append_rtakeWhile (p := isBlank) (l := w ++ r)
        conv_rhs at happend => rw [← hq, List.append_assoc]
        exact List.append_cancel_left happend
      have hnil : q = [] := by
        refine List.eq_nil_iff_forall_not_mem.mpr fun c hc => ?_
        have hblank : isBlank c = true :=
          List.mem_rtakeWhile_imp (l := w ++ r) (by rw [hend]; exact List.mem_append_left r hc)
        rw [hw.2 c (by rw [← hq]; exact List.mem_append_right _ hc)] at hblank
        cases hblank
      rw [hnil, List.append_nil] at hq
      exact hq.symm ▸ List.prefix_rfl

end Trimming

end Residency.Text
