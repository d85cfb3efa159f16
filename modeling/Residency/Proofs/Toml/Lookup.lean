import Residency.Proofs.Outcomes
import Residency.Proofs.Toml.Assembly

namespace Residency.Toml

/-- The entries of a part of a table. A table in braces is no part, and has entries when it stands
alone. -/
def ownEntries (alone : Bool) : Toml → Entries
  | .table origin es => if alone || origin != .inline then es else []
  | _ => []

def mergedEntries (parts : List Toml) : Entries :=
  parts.flatMap (ownEntries (parts.length = 1))

variable {name : String} {es es' : Entries} {parts parts' : List Toml}

theorem partEntries_eq_ownEntries : partEntries = ownEntries false := by
  funext v
  cases v with
  | table origin es => cases origin <;> rfl
  | _ => rfl

theorem foldlM_append_eq {ε α : Type} {step : List α → α → Except ε (List α)}
    (hstep : ∀ before a r, step before a = .ok r → r = before ++ [a]) {l before r : List α}
    (h : l.foldlM step before = .ok r) : r = before ++ l := by
  induction l generalizing before with
  | nil =>
    cases h
    rw [List.append_nil]
  | cons a l ih =>
    rw [List.foldlM_cons] at h
    obtain ⟨next, hnext, hrest⟩ := bind_eq_ok.mp h
    rw [ih hrest, hstep before a next hnext, List.append_assoc]
    rfl

theorem join_eq_ok (h : join parts = .ok es) : es = parts.flatMap partEntries := by
  refine (foldlM_append_eq (fun before e r hr => ?_) h).trans (List.nil_append _)
  dsimp only at hr
  split at hr
  · cases hr
    rfl
  · split_ifs at hr
    cases hr
    rfl

theorem find_eq_ok {found : Option Toml} (h : find name es = .ok found) :
    (valuesOf name es = [] ∧ found = none) ∨ (∃ v, valuesOf name es = [v] ∧ found = some v) ∨
      1 < (valuesOf name es).length ∧
        found = some (.table .joined (mergedEntries (valuesOf name es))) := by
  rw [find] at h
  split at h
  · next heq =>
    cases h
    exact .inl ⟨heq, rfl⟩
  · next v heq =>
    cases h
    exact .inr (.inl ⟨v, heq, rfl⟩)
  · next hnil hsingle =>
    obtain ⟨own, hown, rfl⟩ := map_eq_ok.mp h
    have hlength : 1 < (valuesOf name es).length := by
      rcases hparts : valuesOf name es with _ | ⟨v, _ | ⟨w, rest⟩⟩
      · exact absurd hparts hnil
      · exact absurd hparts (hsingle v)
      · simp
    refine .inr (.inr ⟨hlength, ?_⟩)
    rw [join_eq_ok hown, mergedEntries, decide_eq_false (by omega), partEntries_eq_ownEntries]

theorem find_of_nodup (names : (es.map (·.1)).Nodup) (name : String) :
    find name es = .ok none ∨ ∃ v, (name, v) ∈ es ∧ find name es = .ok (some v) := by
  have hlength := length_valuesOf_le_one names name
  rw [find]
  rcases hparts : valuesOf name es with _ | ⟨v, _ | ⟨w, rest⟩⟩
  · exact .inl rfl
  · have hmem : v ∈ valuesOf name es := by simp [hparts]
    obtain ⟨⟨key, w⟩, he, rfl⟩ := List.mem_map.mp hmem
    obtain ⟨hin, hkey⟩ := List.mem_filter.mp he
    obtain rfl := of_decide_eq_true hkey
    exact .inr ⟨w, hin, rfl⟩
  · rw [hparts] at hlength
    simp at hlength

theorem valuesOf_perm (h : es.Perm es') (name : String) :
    (valuesOf name es).Perm (valuesOf name es') :=
  (h.filter _).map _

theorem valuesOf_append (name : String) (es es' : Entries) :
    valuesOf name (es ++ es') = valuesOf name es ++ valuesOf name es' := by
  simp [valuesOf]

theorem valuesOf_cons_of_ne {name key : String} (h : key ≠ name) (v : Toml) (es : Entries) :
    valuesOf name ((key, v) :: es) = valuesOf name es := by
  simp [valuesOf, h]

theorem valuesOf_cons_self (name : String) (v : Toml) (es : Entries) :
    valuesOf name ((name, v) :: es) = v :: valuesOf name es := by
  simp [valuesOf]

theorem mergedEntries_perm (h : parts.Perm parts') :
    (mergedEntries parts).Perm (mergedEntries parts') := by
  rw [mergedEntries, mergedEntries, h.length_eq]
  exact h.flatMap_right _

end Residency.Toml
