import Mathlib.Data.List.Chain
import Mathlib.Order.Bounds.Defs
import Mathlib.Order.Lattice
import Mathlib.Algebra.Order.Ring.Int
import Residency.FrequencyTable

namespace Residency.FrequencyTable

def descents : FrequencyTable → ℕ
  | [] => 0
  | [_] => 0
  | f :: g :: l => (if f > g then 1 else 0) + descents (g :: l)

section Step

variable {f g : ℤ} (l : FrequencyTable)

theorem split_of_gt (h : f > g) : split (f :: g :: l) = 1 :=
  if_pos h

theorem split_of_not_gt (h : ¬f > g) : split (f :: g :: l) = split (g :: l) + 1 :=
  if_neg h

end Step

theorem split_pos {fs : FrequencyTable} (h : fs ≠ []) : 0 < fs.split := by
  fun_cases split fs with
  | case1 => exact absurd rfl h
  | case2 => exact Nat.one_pos
  | case3 => exact Nat.one_pos
  | case4 => exact Nat.succ_pos _

theorem split_eq_zero_iff {fs : FrequencyTable} : fs.split = 0 ↔ fs = [] := by
  constructor
  · intro hzero
    by_contra hne
    exact absurd hzero (split_pos hne).ne'
  · rintro rfl
    rfl

theorem exists_split_cons (f : ℤ) (l : FrequencyTable) : ∃ k, split (f :: l) = k + 1 :=
  Nat.exists_eq_succ_of_ne_zero (split_pos (List.cons_ne_nil f l)).ne'

theorem split_lt_length_iff {fs : FrequencyTable} : fs.split < fs.length ↔ fs.descents ≠ 0 := by
  fun_induction split fs with
  | case1 => simp [descents]
  | case2 => simp [descents]
  | case3 f g l hgt => simp [descents, hgt]
  | case4 f g l hle ih => simpa [descents, hle] using ih

theorem descents_eq_zero_iff {fs : FrequencyTable} : fs.descents = 0 ↔ fs.Pairwise (· ≤ ·) := by
  rw [← List.isChain_iff_pairwise]
  fun_induction descents fs with
  | case1 => exact iff_of_true rfl .nil
  | case2 => exact iff_of_true rfl (.singleton _)
  | case3 f g l ih =>
    rw [Nat.add_eq_zero_iff, ih, List.isChain_cons_cons, ite_eq_right_iff]
    simp

theorem split_eq_length_iff {fs : FrequencyTable} :
    fs.split = fs.length ↔ fs.Pairwise (· ≤ ·) := by
  have hle := fs.split_le_length
  have hlt := fs.split_lt_length_iff
  rw [← descents_eq_zero_iff]
  omega

theorem getElem_split_lt {fs : FrequencyTable} (h : fs.split < fs.length) :
    fs[fs.split] < fs[fs.split - 1] := by
  fun_induction split fs with
  | case1 => exact absurd h (lt_irrefl 0)
  | case2 => exact absurd h (lt_irrefl 1)
  | case3 f g l hgt => simpa [split_of_gt l hgt] using hgt
  | case4 f g l hle ih =>
    obtain ⟨k, hk⟩ := exists_split_cons g l
    simp only [split_of_not_gt l hle, hk, List.length_cons] at h ih ⊢
    simpa using ih (by omega)

theorem isChain_take_split (fs : FrequencyTable) : (fs.take fs.split).IsChain (· ≤ ·) := by
  fun_induction split fs with
  | case1 => exact .nil
  | case2 => exact .singleton _
  | case3 => exact .singleton _
  | case4 f g l hle ih =>
    obtain ⟨k, hk⟩ := exists_split_cons g l
    rw [hk, List.take_succ_cons] at ih
    rw [hk, List.take_succ_cons, List.take_succ_cons]
    exact .cons_cons (not_lt.mp hle) ih

theorem descents_eq_drop_split {fs : FrequencyTable} (h : fs.split < fs.length) :
    fs.descents = descents (fs.drop fs.split) + 1 := by
  fun_induction split fs with
  | case1 => exact absurd h (lt_irrefl 0)
  | case2 => exact absurd h (lt_irrefl 1)
  | case3 f g l hgt =>
    rw [descents, if_pos hgt, List.drop_succ_cons, List.drop_zero, Nat.add_comm]
  | case4 f g l hle ih =>
    rw [descents, if_neg hle, Nat.zero_add, List.drop_succ_cons]
    exact ih (by simpa using h)

theorem pairwise_take_split (fs : FrequencyTable) : (fs.take fs.split).Pairwise (· ≤ ·) :=
  (isChain_take_split fs).pairwise

theorem pairwise_take_iff {fs : FrequencyTable} {k : ℕ} (hk : k ≤ fs.length) :
    (fs.take k).Pairwise (· ≤ ·) ↔ k ≤ fs.split := by
  constructor
  · intro hasc
    by_contra hlong
    -- A longer beginning holds both frequencies of the first descent.
    have hlt : fs.split < fs.length := by omega
    have hpos : 0 < fs.split := split_pos (List.length_pos_iff.mp (by omega))
    have hdescent := getElem_split_lt hlt
    have hle := List.pairwise_iff_getElem.mp hasc (fs.split - 1) fs.split
      (by rw [List.length_take]; omega) (by rw [List.length_take]; omega) (by omega)
    rw [List.getElem_take, List.getElem_take] at hle
    exact absurd hle (not_le.mpr hdescent)
  · intro hle
    exact (pairwise_take_split fs).sublist (List.take_sublist_take_left hle)

theorem pairwise_drop_split_iff {fs : FrequencyTable} :
    (fs.drop fs.split).Pairwise (· ≤ ·) ↔ fs.descents ≤ 1 := by
  rw [← descents_eq_zero_iff]
  rcases fs.split_le_length.lt_or_eq with hlt | heq
  · have hd := descents_eq_drop_split hlt
    omega
  · have hd := descents_eq_zero_iff.mpr (split_eq_length_iff.mp heq)
    rw [heq, List.drop_length, hd]
    exact iff_of_true rfl (Nat.zero_le 1)

theorem le_of_same_cluster {fs : FrequencyTable} (hd : fs.descents ≤ 1) {i j : ℕ}
    (hij : i ≤ j) (hj : j < fs.length) (hc : i < fs.split ↔ j < fs.split) : fs[i] ≤ fs[j] := by
  rcases hij.eq_or_lt with rfl | hlt
  · exact le_rfl
  rcases Nat.lt_or_ge j fs.split with hs | hs
  · have hp := List.pairwise_iff_getElem.mp (pairwise_take_split fs) i j
      (by rw [List.length_take]; omega) (by rw [List.length_take]; omega) hlt
    simpa using hp
  · have hi : fs.split ≤ i := by omega
    have hp := List.pairwise_iff_getElem.mp (pairwise_drop_split_iff.mpr hd)
      (i - fs.split) (j - fs.split)
      (by rw [List.length_drop]; omega) (by rw [List.length_drop]; omega) (by omega)
    simpa [Nat.add_sub_cancel' hi, Nat.add_sub_cancel' hs] using hp

theorem le_of_descents_eq_zero {fs : FrequencyTable} (hd : fs.descents = 0) {i j : ℕ}
    (hij : i ≤ j) (hj : j < fs.length) : fs[i] ≤ fs[j] := by
  rcases hij.eq_or_lt with rfl | hlt
  · exact le_rfl
  · exact List.pairwise_iff_getElem.mp (descents_eq_zero_iff.mp hd) i j _ hj hlt

theorem split_append {fs : FrequencyTable} (h : fs.descents ≠ 0) (more : FrequencyTable) :
    split (fs ++ more) = fs.split := by
  fun_induction split fs with
  | case1 => exact absurd rfl h
  | case2 => exact absurd rfl h
  | case3 f g l hgt => exact split_of_gt (l ++ more) hgt
  | case4 f g l hle ih =>
    rw [descents, if_neg hle, Nat.zero_add] at h
    exact (split_of_not_gt (l ++ more) hle).trans (congrArg (· + 1) (ih h))

theorem split_append_last {fs : FrequencyTable} (h : fs.descents = 0) :
    split (fs ++ [fs.getLast?.getD 0]) = fs.length + 1 := by
  have hasc : (fs ++ [fs.getLast?.getD 0]).Pairwise (· ≤ ·) := by
    rw [← List.isChain_iff_pairwise, List.isChain_append, List.isChain_iff_pairwise]
    refine ⟨descents_eq_zero_iff.mp h, .singleton _, ?_⟩
    intro last hlast next hnext
    obtain rfl := Option.some.inj hnext
    rw [Option.mem_def.mp hlast, Option.getD_some]
  rw [split_eq_length_iff.mpr hasc, List.length_append, List.length_singleton]

theorem split_append_iff {fs : FrequencyTable} :
    (∀ more, split (fs ++ more) = fs.split) ↔ fs.descents ≠ 0 := by
  refine ⟨fun hkeeps hd => ?_, split_append⟩
  have hlast := split_append_last hd
  have hle := fs.split_le_length
  rw [hkeeps] at hlast
  omega

theorem split_at_first_descent (fs : FrequencyTable) :
    IsGreatest {k | k ≤ fs.length ∧ (fs.take k).Pairwise (· ≤ ·)} fs.split ∧
    (fs.split = 0 ↔ fs = []) ∧
    (∀ h : fs.split < fs.length, fs[fs.split - 1] > fs[fs.split]) ∧
    ((fs.take fs.split).Pairwise (· ≤ ·) ∧ (fs.drop fs.split).Pairwise (· ≤ ·) ↔
      fs.descents ≤ 1) ∧
    ((∀ more, split (fs ++ more) = fs.split) ↔ fs.descents ≠ 0) := by
  have htake := pairwise_take_split fs
  refine ⟨⟨⟨fs.split_le_length, htake⟩, ?_⟩, split_eq_zero_iff, getElem_split_lt, ?_,
    split_append_iff⟩
  · rintro k ⟨hk, hasc⟩
    exact (pairwise_take_iff hk).mp hasc
  · rw [pairwise_drop_split_iff, and_iff_right htake]

theorem split_at_first_descent_of_five_slots :
    IsGreatest {k | k ≤ 5 ∧ (List.take k [300, 300, 450, 250, (350 : ℤ)]).Pairwise (· ≤ ·)} 3 ∧
    (450 : ℤ) > 250 ∧ [250, (350 : ℤ)].Pairwise (· ≤ ·) ∧
    (∀ more, split ([300, 300, 450, 250, 350] ++ more) = 3) ∧
    ∃ more, split ([300, 300, 450] ++ more) ≠ 3 := by
  obtain ⟨hgreatest, -, hdescent, hclusters, hkeeps⟩ :=
    split_at_first_descent [300, 300, 450, 250, 350]
  obtain ⟨-, -, -, -, hmoves⟩ := split_at_first_descent [300, 300, 450]
  refine ⟨hgreatest, hdescent (by decide), (hclusters.mpr (by decide)).2,
    hkeeps.mpr (by decide), ?_⟩
  exact not_forall.mp (mt hmoves.mp (by decide))

end Residency.FrequencyTable
