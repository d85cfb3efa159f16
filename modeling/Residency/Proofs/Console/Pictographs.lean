import Mathlib.Data.List.Basic
import Residency.Proofs.Lists
import Residency.Text.Pictograph

/-!
The characters of pictographs. None is a control character, a colon, a bracket or a backslash, so
replacing names by pictographs adds none of these to a text.
-/
namespace Residency.Text.Pictograph

def isTame (c : Char) : Bool :=
  Nat.ble 32 c.toNat && !Nat.beq c.toNat 58 && !Nat.beq c.toNat 91 && !Nat.beq c.toNat 92

def IsTame (s : String) : Prop :=
  s.toList.all isTame = true

section Tables

variable {s t : String} {ls rs : List (List Char)}

theorem isTame_of_lines (h : s.toList = ls.flatten) (hls : ls.all (·.all isTame) = true) :
    IsTame s := by
  rw [IsTame, h, List.all_flatten, hls]

theorem lines_append (hs : s.toList = ls.flatten) (ht : t.toList = rs.flatten) :
    (s ++ t).toList = (ls ++ rs).flatten := by
  rw [String.toList_append, hs, ht, List.flatten_append]

theorem lines_ofList (l : List Char) : (String.ofList l).toList = [l].flatten := by
  simp

-- A table is a text of many lines, and only the characters of single lines can be counted out.
set_option maxRecDepth 2000

theorem isTame_namedAToL :
    IsTame namedA ∧ IsTame namedB ∧ IsTame namedC ∧ IsTame namedD ∧ IsTame namedE ∧
      IsTame namedF ∧ IsTame namedG ∧ IsTame namedH ∧ IsTame namedI ∧ IsTame namedJ ∧
      IsTame namedK ∧ IsTame namedL := by
  unfold namedA namedB namedC namedD namedE namedF namedG namedH namedI namedJ namedK namedL
  and_intros
  all_goals
    apply isTame_of_lines
    case h =>
      repeat' with_reducible apply lines_append
      all_goals exact lines_ofList _
    case hls => decide +kernel

theorem isTame_namedMToP :
    IsTame namedM ∧ IsTame namedN ∧ IsTame namedO ∧ IsTame namedP := by
  unfold namedM namedN namedO namedP
  and_intros
  all_goals
    apply isTame_of_lines
    case h =>
      repeat' with_reducible apply lines_append
      all_goals exact lines_ofList _
    case hls => decide +kernel

theorem isTame_namedRToZ :
    IsTame namedR ∧ IsTame namedS ∧ IsTame namedT ∧ IsTame namedU ∧ IsTame namedV ∧
      IsTame namedW ∧ IsTame namedY ∧ IsTame namedZ := by
  unfold namedR namedS namedT namedU namedV namedW namedY namedZ
  and_intros
  all_goals
    apply isTame_of_lines
    case h =>
      repeat' with_reducible apply lines_append
      all_goals exact lines_ofList _
    case hls => decide +kernel

theorem isTame_listFor (c : Char) : IsTame (listFor c) := by
  obtain ⟨ha, hb, hc, hd, he, hf, hg, hh, hi, hj, hk, hl⟩ := isTame_namedAToL
  obtain ⟨hm, hn, ho, hp⟩ := isTame_namedMToP
  obtain ⟨hr, hs, ht, hu, hv, hw, hy, hz⟩ := isTame_namedRToZ
  unfold listFor
  split
  all_goals first
    | with_reducible assumption
    | exact isTame_of_lines (lines_ofList _) (by decide +kernel)

end Tables

def untamed (s : List Char) : List Char :=
  s.filter (!isTame ·)

theorem untamed_append (s t : List Char) : untamed (s ++ t) = untamed s ++ untamed t := by
  simp [untamed]

theorem untamed_eq_nil {s : List Char} (h : s.all isTame = true) : untamed s = [] := by
  rw [untamed, List.filter_eq_nil_iff]
  intro c hc
  rw [List.all_eq_true.mp h c hc]
  exact Bool.false_ne_true

theorem mem_of_after? {name v : List Char} {l : List (List Char)} (h : after? name l = some v) :
    v ∈ l := by
  fun_induction after? name l with
  | case1 v' rest =>
    cases h
    simp
  | case2 k v' rest hk ih => simp [ih h]
  | case3 => cases h

theorem isTame_named? {name v : List Char} (h : named? name = some v) : v.all isTame = true := by
  cases name with
  | nil => cases h
  | cons c name =>
    have hmem := mem_of_after? (show after? _ _ = some v from h)
    rw [List.all_eq_true]
    intro d hd
    have hflat : d ∈ ((listFor c).toList.splitOnP (· = ' ')).flatten :=
      List.mem_flatten_of_mem hmem hd
    rw [flatten_splitOnP] at hflat
    exact List.all_eq_true.mp (isTame_listFor c) d (List.mem_of_mem_filter hflat)

theorem Variant.isTame_selector (v : Variant) : v.selector.all isTame = true := by
  cases v <;> rfl

theorem untamed_replacedFrom (skip : ℕ) (s : List Char) :
    (untamed (replacedFrom skip s)).Sublist (untamed (s.drop skip)) := by
  fun_induction replacedFrom skip s with
  | case1 skip => simp
  | case2 skip c s ih => exact ih
  | case3 c s name v hcode length ih =>
    have hsplit : untamed ((c :: s).drop 0) =
        untamed (c :: s.take length) ++ untamed (s.drop length) := by
      rw [← untamed_append, List.cons_append, List.take_append_drop, List.drop_zero]
    rw [hsplit, untamed_append]
    refine .append ?_ ih
    cases hnamed : named? (lowered name) with
    | none => exact .refl _
    | some shown =>
      have htame : untamed (shown ++ v.selector) = [] :=
        untamed_eq_nil (by rw [List.all_append, isTame_named? hnamed, v.isTame_selector]; rfl)
      rw [htame]
      exact List.nil_sublist _
  | case4 c s hcode ih =>
    have happend := List.Sublist.append (.refl (untamed [c])) ih
    rw [← untamed_append, ← untamed_append] at happend
    exact happend

theorem untamed_replaced (s : List Char) : (untamed (replaced s)).Sublist (untamed s) :=
  untamed_replacedFrom 0 s

theorem count_untamed {c : Char} (h : isTame c = false) (s : List Char) :
    (untamed s).count c = s.count c :=
  List.count_filter (by rw [h]; rfl)

theorem count_replacedFrom_le {c : Char} (h : isTame c = false) (skip : ℕ) (s : List Char) :
    (replacedFrom skip s).count c ≤ (s.drop skip).count c := by
  have hle := (untamed_replacedFrom skip s).count_le c
  rwa [count_untamed h, count_untamed h] at hle

/-- A pictograph takes the place of two colons. -/
theorem replacedFrom_eq_or_lt (skip : ℕ) (s : List Char) :
    replacedFrom skip s = s.drop skip ∨
      (replacedFrom skip s).count ':' < (s.drop skip).count ':' := by
  fun_induction replacedFrom skip s with
  | case1 skip => exact .inl (by simp)
  | case2 skip c s ih => exact ih
  | case3 c s name v hcode length ih =>
    have hcolon : c = ':' := by
      by_contra hc
      rw [if_neg hc] at hcode
      cases hcode
    have hsplit : (c :: s).drop 0 = c :: s.take length ++ s.drop length := by
      rw [List.cons_append, List.take_append_drop, List.drop_zero]
    rw [hsplit]
    cases hnamed : named? (lowered name) with
    | none =>
      dsimp only
      refine ih.imp (fun hrest => by rw [hrest]) fun hlt => ?_
      rw [List.count_append, List.count_append]
      omega
    | some shown =>
      right
      have htame : untamed (shown ++ v.selector) = [] :=
        untamed_eq_nil (by rw [List.all_append, isTame_named? hnamed, v.isTame_selector]; rfl)
      have hnone : (shown ++ v.selector).count ':' = 0 := by
        rw [← count_untamed (by decide), htame]
        rfl
      have hrest := count_replacedFrom_le (c := ':') (by decide) length s
      rw [List.count_append, hnone, List.count_append, hcolon, List.count_cons_self]
      omega
  | case4 c s hcode ih =>
    rw [List.drop_zero] at ih ⊢
    refine ih.imp (fun hs => by rw [hs]) fun hlt => ?_
    rw [List.count_cons, List.count_cons]
    omega

theorem replaced_eq_of_count {s : List Char} (h : s.count ':' ≤ (replaced s).count ':') :
    replaced s = s := by
  obtain heq | hlt := replacedFrom_eq_or_lt 0 s
  · exact heq
  · exact absurd h (Nat.not_le.mpr hlt)

end Residency.Text.Pictograph
