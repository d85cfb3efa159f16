import Residency.Proofs.Lists
import Residency.Toml.Assembly

namespace Residency.Toml

variable {name : String} {es : Entries}

theorem valuesOf_of_not_mem (h : name ∉ es.map (·.1)) : valuesOf name es = [] := by
  rw [valuesOf, List.map_eq_nil_iff, List.filter_eq_nil_iff]
  intro e he
  rw [decide_eq_true_eq]
  rintro rfl
  exact h (List.mem_map_of_mem he)

theorem valuesOf_append_of_not_mem (h : name ∉ es.map (·.1)) (v : Toml) :
    valuesOf name (es ++ [(name, v)]) = [v] := by
  have hvalues := valuesOf_of_not_mem h
  rw [valuesOf, List.map_eq_nil_iff] at hvalues
  simp [valuesOf, hvalues]

theorem addEntry_of_not_mem (h : name ∉ es.map (·.1)) (check : Bool) (v : Toml) :
    addEntry assemblyFuel check es (name, v) = some (es ++ [(name, v)]) := by
  obtain ⟨fuel, hfuel⟩ := Nat.exists_eq_add_one.mpr (by decide : 0 < assemblyFuel)
  rw [hfuel, addEntry]
  rw [valuesOf_of_not_mem h]
  rfl

theorem isJoinable_append_of_not_mem (h : name ∉ es.map (·.1)) (v : Toml) :
    isJoinable name (es ++ [(name, v)]) = true := by
  rw [isJoinable, find, valuesOf_append_of_not_mem h]
  rfl

theorem length_valuesOf_le_one (names : (es.map (·.1)).Nodup) (name : String) :
    (valuesOf name es).length ≤ 1 := by
  have hcount := List.nodup_iff_count_le_one.mp names name
  rw [List.count_eq_countP, List.countP_map, List.countP_eq_length_filter] at hcount
  rw [valuesOf, List.length_map]
  refine le_of_eq_of_le ?_ hcount
  congr 2

theorem isConsistent_of_nodup (names : (es.map (·.1)).Nodup) : isConsistent es = true := by
  have hsingle : repeated es = [] := by
    rw [repeated, List.filter_eq_nil_iff]
    intro l hl
    obtain ⟨name, -, rfl⟩ := List.mem_map.mp hl
    have := length_valuesOf_le_one names name
    rw [decide_eq_true_eq]
    omega
  rw [isConsistent, hsingle]
  rfl

end Residency.Toml
