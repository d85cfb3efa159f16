import Mathlib.Data.Int.Notation
import Residency.Proofs.Lists
import Residency.Toml.Writer

/-!
Which values have a place in a document. Where the writer looks depends on what stands in a list or
beside it; what it finds does not: a flaw is a null or a long integer anywhere.
-/
namespace Residency

@[elab_as_elim]
theorem Json.inductionOn {motive : Json → Prop} (v : Json) (null : motive .null)
    (bool : ∀ b, motive (.bool b)) (int : ∀ n, motive (.int n)) (float : ∀ x, motive (.float x))
    (str : ∀ s, motive (.str s)) (arr : ∀ items, (∀ v ∈ items, motive v) → motive (.arr items))
    (obj : ∀ members, (∀ m ∈ members, motive m.2) → motive (.obj members)) : motive v := by
  refine @Json.rec motive (fun items => ∀ v ∈ items, motive v)
    (fun members => ∀ m ∈ members, motive m.2) (fun m => motive m.2)
    null bool int float str arr obj ?_ ?_ ?_ ?_ ?_ v
  · exact List.forall_mem_nil _
  · exact fun v vs hv hvs => List.forall_mem_cons.mpr ⟨hv, hvs⟩
  · exact List.forall_mem_nil _
  · exact fun m ms hm hms => List.forall_mem_cons.mpr ⟨hm, hms⟩
  · exact fun k v hv => hv

namespace Toml

inductive HasPlace : Json → Prop where
  | bool (b : Bool) : HasPlace (.bool b)
  | int {n : ℤ} (h : Number.isWritable n = true) : HasPlace (.int n)
  | float (x : Number.Binary64) : HasPlace (.float x)
  | str (s : String) : HasPlace (.str s)
  | arr {items : List Json} (h : ∀ v ∈ items, HasPlace v) : HasPlace (.arr items)
  | obj {members : List (String × Json)} (h : ∀ m ∈ members, HasPlace m.2) :
      HasPlace (.obj members)

variable {inline : Bool}

theorem itemsFlaw?_eq_none {vs : List Json} :
    itemsFlaw? vs = none ↔ ∀ v ∈ vs, flaw? true v = none := by
  induction vs with
  | nil => simp [itemsFlaw?]
  | cons v vs ih => simp [itemsFlaw?, ih]

theorem membersFlaw?_eq_none {p : Json → Bool} {ms : List (String × Json)} :
    membersFlaw? inline p ms = none ↔ ∀ m ∈ ms, p m.2 = true → flaw? inline m.2 = none := by
  induction ms with
  | nil => simp [membersFlaw?]
  | cons m ms ih => simp [membersFlaw?, ih]

theorem flaw?_obj {ms : List (String × Json)} :
    flaw? inline (.obj ms) = none ↔ ∀ m ∈ ms, flaw? inline m.2 = none := by
  rw [flaw?, membersFlaw?_eq_none]
  simp

theorem elementsFlaw?_eq_none {vs : List Json} :
    elementsFlaw? vs = none ↔ ∀ v ∈ vs, isObject v = true → flaw? false v = none := by
  induction vs with
  | nil => simp [elementsFlaw?]
  | cons v vs ih =>
    rw [List.forall_mem_cons, ← ih]
    cases v with
    | obj ms =>
      -- The plain members come first and the objects after them; each member is one or the other.
      have hms : (membersFlaw? false (fun v => !isObject v) ms = none ∧
          membersFlaw? false isObject ms = none) ↔ flaw? false (.obj ms) = none := by
        rw [membersFlaw?_eq_none, membersFlaw?_eq_none, flaw?_obj, ← forall₂_and]
        refine forall₂_congr fun m _ => ?_
        cases isObject m.2 <;> simp
      simp [elementsFlaw?, ← hms, isObject, and_assoc]
    | _ => simp [elementsFlaw?, isObject]

theorem flaw?_arr {vs : List Json} :
    flaw? inline (.arr vs) = none ↔ ∀ v ∈ vs, flaw? (inline || !areTables vs) v = none := by
  rw [flaw?]
  split_ifs with h
  · obtain ⟨hinline, htables⟩ : inline = false ∧ areTables vs = true := by simpa using h
    have hobjects : ∀ v ∈ vs, isObject v = true := by
      simp only [areTables, Bool.and_eq_true, List.all_eq_true] at htables
      exact htables.2
    rw [elementsFlaw?_eq_none, hinline, htables]
    exact forall₂_congr fun v hv => by simp [hobjects v hv]
  · have hflag : (inline || !areTables vs) = true := by
      cases inline with
      | false => simpa using h
      | true => rfl
    rw [itemsFlaw?_eq_none, hflag]

theorem HasPlace.flaw?_eq_none {v : Json} (h : HasPlace v) (inline : Bool) :
    flaw? inline v = none := by
  induction h generalizing inline with
  | bool | float | str => rfl
  | int h => rw [flaw?, if_pos h]
  | arr _ ih => exact flaw?_arr.mpr fun v hv => ih v hv _
  | obj _ ih => exact flaw?_obj.mpr fun m hm => ih m hm _

theorem hasPlace_of_flaw? {v : Json} {inline : Bool} (h : flaw? inline v = none) : HasPlace v := by
  induction v using Json.inductionOn generalizing inline with
  | null => cases h
  | bool b => exact .bool b
  | int n =>
    refine .int ?_
    by_contra hlong
    rw [flaw?, if_neg hlong] at h
    cases h
  | float x => exact .float x
  | str s => exact .str s
  | arr vs ih => exact .arr fun v hv => ih v hv (flaw?_arr.mp h v hv)
  | obj ms ih => exact .obj fun m hm => ih m hm (flaw?_obj.mp h m hm)

theorem entriesFlaw?_eq_none {entries : List (String × Json)} :
    entriesFlaw? entries = none ↔ ∀ e ∈ entries, HasPlace e.2 := by
  rw [entriesFlaw?, List.findSome?_eq_none_iff]
  refine forall₂_congr fun e _ => ?_
  obtain ⟨k, v⟩ := e
  cases v with
  | null =>
    constructor
    · intro h
      cases h
    · intro h
      cases h
  | _ => exact ⟨hasPlace_of_flaw?, fun h => h.flaw?_eq_none false⟩

theorem exists_document_iff {sections : List (String × List (String × Json))} :
    (∃ text, document sections = .ok text) ↔ ∀ s ∈ sections, ∀ e ∈ s.2, HasPlace e.2 := by
  simp only [← entriesFlaw?_eq_none]
  rw [document]
  split
  · next e h =>
    obtain ⟨s, hs, hflaw⟩ := List.exists_of_findSome?_eq_some h
    constructor
    · rintro ⟨text, htext⟩
      cases htext
    · intro hnone
      cases (hnone s hs).symm.trans hflaw
  · next h =>
    exact iff_of_true ⟨_, rfl⟩ (List.findSome?_eq_none_iff.mp h)

end Toml

end Residency
