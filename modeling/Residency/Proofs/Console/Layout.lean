import Residency.Console.Layout
import Residency.Proofs.TabStops

namespace Residency.Console.Layout

open Text

variable {a : Char} {width : ℕ}

theorem flatten_wordsAfter (s : List Char) : (wordsAfter s).flatten = s := by
  fun_induction wordsAfter s with
  | case1 => rfl
  | case2 c s d word words hwords _ ih
  | case3 c s d word words hwords _ ih =>
    rw [hwords] at ih
    rw [← ih]
    rfl
  | case4 c s _ ih =>
    rw [List.flatten_cons, ih]
    rfl

theorem flatten_words (line : List Char) : words line = [] ∨ (words line).flatten = line := by
  have hflat := flatten_wordsAfter (line.dropWhile isBlank)
  rw [words]
  split
  · exact .inl rfl
  · next word rest hwords =>
    rw [hwords, List.flatten_cons] at hflat
    rw [List.flatten_cons, List.append_assoc, hflat]
    exact .inr (List.takeWhile_append_dropWhile)

theorem flatten_chop (piece s : List Char) : (chop width piece s).flatten = piece ++ s := by
  fun_induction chop width piece s with
  | case1 piece => simp
  | case2 piece c s _ ih => rw [List.flatten_cons, ih, List.singleton_append]
  | case3 piece c s _ ih => rw [ih, List.append_assoc, List.singleton_append]

theorem flatten_unless_empty (line : List Char) :
    (if line.isEmpty then [] else [line]).flatten = line := by
  cases line <;> simp

theorem flatten_broken (line : List Char) (used : ℕ) (ws : List (List Char)) :
    (broken width line used ws).flatten = line ++ ws.flatten := by
  induction ws generalizing line used with
  | nil => simp [broken]
  | cons word ws ih =>
    rw [broken, List.flatten_cons]
    dsimp only
    by_cases hfits : used + cellLength (dropEndWhile isBlank word) ≤ width
    · rw [if_pos hfits, ih, List.append_assoc]
    · rw [if_neg hfits]
      by_cases hword : cellLength (dropEndWhile isBlank word) ≤ width
      · rw [if_pos hword, List.flatten_append, flatten_unless_empty, ih]
      · have hpieces : (chop width [] word).dropLast.flatten ++
            (chop width [] word).getLast?.getD [] = word := by
          have hchop : (chop width [] word).flatten = [] ++ word := flatten_chop [] word
          rcases List.eq_nil_or_concat (chop width [] word) with hnil | ⟨init, last, hlast⟩
          · rw [hnil] at hchop ⊢
            exact hchop
          · rw [hlast] at hchop ⊢
            simpa using hchop
        rw [if_neg hword, List.flatten_append, List.flatten_append, flatten_unless_empty, ih,
          List.append_assoc, ← List.append_assoc _ _ ws.flatten, hpieces]

theorem count_crop_le (h : a ≠ ' ') (s : List Char) : (crop width s).count a ≤ s.count a := by
  induction s generalizing width with
  | nil => exact Nat.le_refl _
  | cons c s ih =>
    rw [crop]
    split_ifs
    · rw [List.count_replicate, if_neg (by simpa using h.symm)]
      exact Nat.zero_le _
    · rw [List.count_cons, List.count_cons]
      exact Nat.add_le_add_right ih _

theorem count_fitted_le (h : a ≠ ' ') (line : List Char) :
    (fitted width line).count a ≤ line.count a := by
  have hend : (withoutEnd width line).count a ≤ line.count a :=
    (List.take_sublist _ line).count_le a
  rw [fitted]
  split_ifs
  · exact Nat.le_trans (count_crop_le h _) hend
  · exact hend

theorem count_map_fitted_le (h : a ≠ ' ') (ls : List (List Char)) :
    (ls.map (fitted width)).flatten.count a ≤ ls.flatten.count a := by
  induction ls with
  | nil => exact Nat.le_refl _
  | cons line ls ih =>
    rw [List.map_cons, List.flatten_cons, List.flatten_cons, List.count_append, List.count_append]
    exact Nat.add_le_add (count_fitted_le h line) ih

theorem count_linesOf_le (h : a ≠ ' ') (line : List Char) :
    (linesOf width line).flatten.count a ≤ line.count a := by
  rw [linesOf]
  split
  · rw [List.flatten_singleton]
    exact count_fitted_le h line
  · next hne =>
    have hline := (flatten_words line).resolve_left hne
    have hbroken : ((broken width [] 0 (words line)).map (fitted width)).flatten.count a ≤ _ :=
      count_map_fitted_le h _
    rwa [flatten_broken, List.nil_append, hline] at hbroken

theorem count_laid_le (hblank : a ≠ ' ') (hline : a ≠ '\n') (columns : Option ℕ) (s : List Char) :
    (laid columns s).count a ≤ s.count a := by
  have hparts : (s.splitOnP (· = '\n')).flatten.count a = s.count a := by
    rw [flatten_splitOnP, List.count_filter (by simpa using hline)]
  rw [laid, count_intercalate (by simpa using hline), ← hparts]
  cases columns with
  | none => exact Nat.le_refl _
  | some width =>
    rw [lines]
    induction s.splitOnP (· = '\n') with
    | nil => exact Nat.le_refl _
    | cons part parts ih =>
      rw [List.flatMap_cons, List.flatten_append, List.count_append, List.flatten_cons,
        List.count_append]
      exact Nat.add_le_add (count_linesOf_le hblank part) ih

section Narrow

def span : List Char → ℕ
  | [] => 0
  | c :: s => cellWidth c + span s

theorem span_append (s t : List Char) : span (s ++ t) = span s + span t := by
  induction s with
  | nil => exact (Nat.zero_add _).symm
  | cons c s ih =>
    rw [List.cons_append, span, span, ih]
    exact (Nat.add_assoc ..).symm

/-- Only the selector U+FE0F takes up a column beside those of the characters. -/
theorem cellLengthAfter_le (last : Option Char) {s : List Char} (h : '\ufe0f' ∉ s) :
    cellLengthAfter last s ≤ span s := by
  fun_induction cellLengthAfter last s with
  | case1 => exact Nat.zero_le _
  | case2 => exact Nat.zero_le _
  | case3 last c s ih =>
    have hs := ih (by simp_all)
    simp only [span] at hs ⊢
    omega
  | case4 last s => simp at h
  | case5 last c s _ _ hc ih =>
    have hs := ih (by simp_all)
    rw [span]
    omega

variable {line s : List Char}

theorem cellLength_le (h : '\ufe0f' ∉ s) : cellLength s ≤ span s :=
  cellLengthAfter_le none h

theorem span_le_of_sublist {t : List Char} (h : t.Sublist s) : span t ≤ span s := by
  induction h with
  | slnil => exact Nat.le_refl _
  | cons c _ ih => exact Nat.le_trans ih (by simp [span])
  | cons_cons c _ ih =>
    rw [span, span]
    omega

theorem broken_of_narrow {ws : List (List Char)} {used : ℕ} (hselector : '\ufe0f' ∉ ws.flatten)
    (hspan : used + span ws.flatten ≤ width) :
    broken width line used ws = [line ++ ws.flatten] := by
  induction ws generalizing line used with
  | nil => simp [broken]
  | cons word ws ih =>
    rw [List.flatten_cons, List.mem_append, not_or] at hselector
    rw [List.flatten_cons, span_append] at hspan
    have hword := cellLength_le hselector.1
    have htrimmed : cellLength (dropEndWhile isBlank word) ≤ span word := by
      have hsub : (dropEndWhile isBlank word).Sublist word := by
        simpa [dropEndWhile] using (List.dropWhile_sublist isBlank (l := word.reverse)).reverse
      exact Nat.le_trans (cellLength_le fun h => hselector.1 (hsub.subset h))
        (span_le_of_sublist hsub)
    rw [broken, if_pos (by omega), ih hselector.2 (by omega), List.flatten_cons, List.append_assoc]

theorem fitted_of_narrow (hselector : '\ufe0f' ∉ line) (hspan : span line ≤ width)
    (hlength : line.length ≤ width) : fitted width line = line := by
  have hend : withoutEnd width line = line :=
    List.take_of_length_le (Nat.le_trans hlength (Nat.le_max_left _ _))
  have hcells := cellLength_le hselector
  rw [fitted, hend]
  exact if_neg (by omega)

theorem laid_of_narrow (hline : '\n' ∉ s) (hselector : '\ufe0f' ∉ s) (hspan : span s ≤ width)
    (hlength : s.length ≤ width) : laid (some width) s = s := by
  have hparts : s.splitOnP (· = '\n') = [s] :=
    List.splitOnP_eq_singleton fun c hc => decide_eq_false (by rintro rfl; exact hline hc)
  have hfitted := fitted_of_narrow hselector hspan hlength
  have hlines : linesOf width s = [s] := by
    rw [linesOf]
    split
    · rw [hfitted]
    · next hne =>
      have hwords := (flatten_words s).resolve_left hne
      rw [broken_of_narrow (by rwa [hwords]) (by rwa [hwords, Nat.zero_add]), hwords]
      simp [hfitted]
  rw [laid, lines, hparts]
  simp [hlines, List.intercalate]

end Narrow

end Residency.Console.Layout
