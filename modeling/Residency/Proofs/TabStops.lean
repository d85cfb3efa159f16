import Mathlib.Data.List.Basic
import Residency.Proofs.Lists
import Residency.Text.CellWidth

namespace Residency.Text

variable {a : Char}

theorem count_intercalate {sep : List Char} (h : a ∉ sep) (ls : List (List Char)) :
    (sep.intercalate ls).count a = ls.flatten.count a := by
  induction ls with
  | nil => rfl
  | cons l ls ih =>
    cases ls with
    | nil => simp [List.intercalate]
    | cons l' ls =>
      rw [List.intercalate_cons_cons, List.count_append, List.count_append, ih,
        List.count_eq_zero_of_not_mem h, List.flatten_cons (l := l), List.count_append]
      rfl

theorem count_tabulated (h : a ≠ ' ') (column : ℕ) (parts : List (List Char)) :
    (tabulated column parts).count a = parts.flatten.count a := by
  fun_induction tabulated column parts with
  | case1 => rfl
  | case2 => simp
  | case3 column part parts _ next fill ih =>
    have hfill : (List.replicate (fill + 1) ' ').count a = 0 :=
      List.count_eq_zero_of_not_mem fun hmem => h (List.eq_of_mem_replicate hmem)
    rw [List.count_append, List.count_append, hfill, ih, List.flatten_cons, List.count_append]
    rfl

theorem count_expandTabs (hblank : a ≠ ' ') (hline : a ≠ '\n') (s : List Char) :
    (expandTabs s).count a = (s.filter (· ≠ '\t')).count a := by
  have hcount (line : List Char) : (tabulated 0 (line.splitOnP (· = '\t'))).count a =
      (line.filter (· ≠ '\t')).count a := by
    rw [count_tabulated hblank, flatten_splitOnP]
    simp
  have hlines : ((s.splitOnP (· = '\n')).map fun line =>
      tabulated 0 (line.splitOnP (· = '\t'))).flatten.count a =
      ((s.splitOnP (· = '\n')).flatten.filter (· ≠ '\t')).count a := by
    rw [List.filter_flatten, List.count_flatten, List.count_flatten, List.map_map, List.map_map]
    exact congrArg List.sum (List.map_congr_left fun line _ => hcount line)
  rw [expandTabs, count_intercalate (by simpa using hline), hlines, flatten_splitOnP,
    List.filter_comm, List.count_filter (by simpa using hline)]

theorem expandTabs_eq_self {s : List Char} (h : '\t' ∉ s) : expandTabs s = s := by
  have hline : ∀ line ∈ s.splitOnP (· = '\n'), tabulated 0 (line.splitOnP (· = '\t')) = line := by
    intro line hline
    rw [List.splitOnP_eq_singleton, tabulated]
    intro c hc
    rw [decide_eq_false_iff_not]
    rintro rfl
    have hmem := List.mem_flatten_of_mem hline hc
    rw [flatten_splitOnP] at hmem
    exact h (List.mem_of_mem_filter hmem)
  rw [expandTabs, List.map_congr_left hline, List.map_id']
  exact List.intercalate_splitOn '\n'

end Residency.Text
