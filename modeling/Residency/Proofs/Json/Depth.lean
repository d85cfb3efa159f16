import Residency.Proofs.Json.Values

namespace Residency.Json

variable {depth : ℕ}

theorem Within.mono {v : Json} (h : Within depth v) {limit : ℕ} (hle : depth ≤ limit) :
    Within limit v := by
  induction h generalizing limit with
  | null => exact .null
  | bool b => exact .bool b
  | int h => exact .int h
  | float x => exact .float x
  | str s => exact .str s
  | arr h ih =>
    obtain ⟨limit, rfl⟩ := Nat.exists_eq_add_one.mpr (by omega : 0 < limit)
    exact .arr fun v hv => ih v hv (by omega)
  | obj names h ih =>
    obtain ⟨limit, rfl⟩ := Nat.exists_eq_add_one.mpr (by omega : 0 < limit)
    exact .obj names fun m hm => ih m hm (by omega)

section Refusals

def Refused (depth : ℕ) (v : Json) : Prop :=
  ∀ fuel r, (compact v).length ≤ fuel →
    ∃ n, readValue depth fuel (compact v ++ r) = .error (.tooDeep n)

theorem readItems_refused {v : Json} (hv : Refused depth v) {fuel : ℕ}
    (hfuel : (compact v).length ≤ fuel) (s : List Char) :
    ∃ n, readItems depth (fuel + 1) (compact v ++ s) = .error (.tooDeep n) := by
  obtain ⟨n, hn⟩ := hv fuel s hfuel
  exact ⟨n, by rw [readItems, hn]; rfl⟩

theorem readItems_deep {v : Json} {vs : List Json} (hf : ∀ w ∈ v :: vs, FloatFree w)
    (hv : ∀ w ∈ v :: vs, ReadsBack depth w ∨ Refused depth w)
    (hdeep : ∃ w ∈ v :: vs, Refused depth w) {fuel : ℕ}
    (hfuel : (compactItems (v :: vs)).length < fuel) (s : List Char) :
    ∃ n, readItems depth fuel (compactItems (v :: vs) ++ s) = .error (.tooDeep n) := by
  induction vs generalizing v fuel with
  | nil =>
    obtain ⟨fuel, rfl⟩ := Nat.exists_eq_add_one.mpr (Nat.zero_lt_of_lt hfuel)
    have htext : compactItems [v] = compact v := List.append_nil _
    rw [htext] at hfuel ⊢
    obtain ⟨w, hw, hrefused⟩ := hdeep
    exact readItems_refused (List.mem_singleton.mp hw ▸ hrefused) (by omega) s
  | cons w ws ih =>
    obtain ⟨fuel, rfl⟩ := Nat.exists_eq_add_one.mpr (Nat.zero_lt_of_lt hfuel)
    have htext : compactItems (v :: w :: ws) = compact v ++ ',' :: ' ' :: compactItems (w :: ws) :=
      rfl
    have hmore : compactItems (w :: ws) = compact w ++ compactMoreItems ws := rfl
    rw [htext, List.length_append, List.length_cons, List.length_cons] at hfuel
    rw [htext, List.append_assoc, List.cons_append, List.cons_append]
    -- The first value that is refused stops the reader; those before it are read.
    by_cases hhead : Refused depth v
    · exact readItems_refused hhead (by omega) _
    · have hback : ReadsBack depth v := (hv v (by simp)).resolve_right hhead
      have hrest : ∃ n, readItems depth fuel (compactItems (w :: ws) ++ s) = .error (.tooDeep n) :=
        ih (fun u hu => hf u (List.mem_cons_of_mem v hu))
          (fun u hu => hv u (List.mem_cons_of_mem v hu)) (by simpa [hhead] using hdeep) (by omega)
      obtain ⟨n, hn⟩ := hrest
      rw [hmore, List.append_assoc] at hn ⊢
      rw [readItems_more hback (hf w (by simp)) (by omega), hn]
      exact ⟨n, rfl⟩

theorem readMembers_refused {m : String × Json} (hf : FloatFree m.2) (hv : Refused depth m.2)
    {fuel : ℕ} (hfuel : (memberText m).length ≤ fuel) (acc : List (String × Json))
    (s : List Char) :
    ∃ n, readMembers depth (fuel + 1) acc (memberText m ++ s) = .error (.tooDeep n) := by
  have hlen : (compact m.2).length ≤ fuel := by
    simp only [memberText, List.length_append, List.length_cons] at hfuel
    omega
  obtain ⟨n, hn⟩ := hv fuel s hlen
  refine ⟨n, ?_⟩
  rw [memberText, List.append_assoc, List.cons_append, List.cons_append]
  change (readQuoted (stringText m.1 ++ _)).bind _ = _
  rw [readQuoted_stringText, ok_bind]
  change (readValue depth fuel (skipSpace (' ' :: (compact m.2 ++ _)))).bind _ = _
  rw [skipSpace_compact hf, hn]
  rfl

theorem readMembers_deep {m : String × Json} {ms : List (String × Json)}
    (hf : ∀ w ∈ m :: ms, FloatFree w.2)
    (hv : ∀ w ∈ m :: ms, ReadsBack depth w.2 ∨ Refused depth w.2)
    (hdeep : ∃ w ∈ m :: ms, Refused depth w.2)
    {acc : List (String × Json)} (names : ((acc ++ m :: ms).map (·.1)).Nodup) {fuel : ℕ}
    (hfuel : (compactMembers (m :: ms)).length < fuel) (s : List Char) :
    ∃ n, readMembers depth fuel acc (compactMembers (m :: ms) ++ s) = .error (.tooDeep n) := by
  induction ms generalizing m acc fuel with
  | nil =>
    obtain ⟨fuel, rfl⟩ := Nat.exists_eq_add_one.mpr (Nat.zero_lt_of_lt hfuel)
    have htext : compactMembers [m] = memberText m := List.append_nil _
    rw [htext] at hfuel ⊢
    obtain ⟨w, hw, hrefused⟩ := hdeep
    have hlast := List.mem_singleton.mp hw
    exact readMembers_refused (hf m (by simp)) (hlast ▸ hrefused) (by omega) acc s
  | cons n ms ih =>
    obtain ⟨fuel, rfl⟩ := Nat.exists_eq_add_one.mpr (Nat.zero_lt_of_lt hfuel)
    have htext : compactMembers (m :: n :: ms) =
        memberText m ++ ',' :: ' ' :: compactMembers (n :: ms) := rfl
    have hmore : compactMembers (n :: ms) = memberText n ++ compactMoreMembers ms := rfl
    rw [htext, List.length_append, List.length_cons, List.length_cons] at hfuel
    rw [htext, List.append_assoc, List.cons_append, List.cons_append]
    by_cases hhead : Refused depth m.2
    · exact readMembers_refused (hf m (by simp)) hhead (by omega) acc _
    · have hback : ReadsBack depth m.2 := (hv m (by simp)).resolve_right hhead
      have hrest : ∃ k, readMembers depth fuel (acc ++ [m]) (compactMembers (n :: ms) ++ s) =
          .error (.tooDeep k) :=
        ih (fun w hw => hf w (List.mem_cons_of_mem m hw))
          (fun w hw => hv w (List.mem_cons_of_mem m hw)) (by simpa [hhead] using hdeep)
          (by rwa [List.append_assoc]) (by omega)
      obtain ⟨k, hk⟩ := hrest
      rw [hmore, List.append_assoc] at hk ⊢
      rw [readMembers_more (hf m (by simp)) hback (by omega) (fst_not_mem names), hk]
      exact ⟨k, rfl⟩

theorem refused_arr {items : List Json} (hf : ∀ v ∈ items, FloatFree v)
    (hv : ∀ v ∈ items, ReadsBack depth v ∨ Refused depth v)
    (hdeep : ∃ v ∈ items, Refused depth v) : Refused (depth + 1) (.arr items) := by
  intro fuel r hfuel
  rw [length_compact_arr] at hfuel
  obtain ⟨fuel, rfl⟩ := Nat.exists_eq_add_one.mpr (by omega : 0 < fuel)
  rw [compact_arr_append]
  cases items with
  | nil => simp at hdeep
  | cons v vs =>
    have hitems : ∃ n, readItems depth fuel (compactItems (v :: vs) ++ ']' :: r) =
        .error (.tooDeep n) := readItems_deep hf hv hdeep (by omega) _
    obtain ⟨n, hn⟩ := hitems
    rw [readValue_items (hf v (by simp)), hn]
    exact ⟨n, rfl⟩

theorem refused_obj {members : List (String × Json)} (names : (members.map (·.1)).Nodup)
    (hf : ∀ m ∈ members, FloatFree m.2)
    (hv : ∀ m ∈ members, ReadsBack depth m.2 ∨ Refused depth m.2)
    (hdeep : ∃ m ∈ members, Refused depth m.2) : Refused (depth + 1) (.obj members) := by
  intro fuel r hfuel
  rw [length_compact_obj] at hfuel
  obtain ⟨fuel, rfl⟩ := Nat.exists_eq_add_one.mpr (by omega : 0 < fuel)
  rw [compact_obj_append]
  cases members with
  | nil => simp at hdeep
  | cons m ms =>
    have hmembers : ∃ n, readMembers depth fuel [] (compactMembers (m :: ms) ++ '\x7d' :: r) =
        .error (.tooDeep n) := readMembers_deep hf hv hdeep names (by omega) _
    obtain ⟨n, hn⟩ := hmembers
    rw [readValue_members, hn]
    exact ⟨n, rfl⟩

theorem refused_of_not_within {v : Json} {limit : ℕ} (hv : Within limit v) (hf : FloatFree v)
    (hdeep : ¬ Within depth v) : Refused depth v := by
  induction hv generalizing depth with
  | null => exact absurd .null hdeep
  | bool b => exact absurd (.bool b) hdeep
  | int h => exact absurd (.int h) hdeep
  | float x => cases hf
  | str s => exact absurd (.str s) hdeep
  | arr h ih =>
    rw [floatFree_arr] at hf
    cases depth with
    | zero =>
      intro fuel r hfuel
      obtain ⟨fuel, rfl⟩ := Nat.exists_eq_add_one.mpr (Nat.zero_lt_of_lt hfuel)
      exact ⟨.array, rfl⟩
    | succ depth =>
      rw [within_arr] at hdeep
      push Not at hdeep
      obtain ⟨w, hw, hwdeep⟩ := hdeep
      refine refused_arr hf (fun u hu => ?_) ⟨w, hw, ih w hw (hf w hw) hwdeep⟩
      by_cases hu' : Within depth u
      · exact .inl (readValue_compact hu' (hf u hu))
      · exact .inr (ih u hu (hf u hu) hu')
  | obj names h ih =>
    rw [floatFree_obj] at hf
    cases depth with
    | zero =>
      intro fuel r hfuel
      obtain ⟨fuel, rfl⟩ := Nat.exists_eq_add_one.mpr (Nat.zero_lt_of_lt hfuel)
      exact ⟨.object, rfl⟩
    | succ depth =>
      rw [within_obj, not_and] at hdeep
      have hdeep := hdeep names
      push Not at hdeep
      obtain ⟨m, hm, hmdeep⟩ := hdeep
      refine refused_obj names hf (fun u hu => ?_) ⟨m, hm, ih m hm (hf m hm) hmdeep⟩
      by_cases hu' : Within depth u.2
      · exact .inl (readValue_compact hu' (hf u hu))
      · exact .inr (ih u hu (hf u hu) hu')

theorem read_render_of_not_within {v : Json} {limit : ℕ} (hv : Within limit v) (hf : FloatFree v)
    (hdeep : ¬ Within maxDepth v) : ∃ n, read v.render = .error (.tooDeep n) := by
  obtain ⟨n, hn⟩ := refused_of_not_within hv hf hdeep (2 * (compact v).length + 2) [] (by omega)
  obtain ⟨c, t, hc, hopen⟩ := exists_compact hf
  rw [read, render, String.toList_ofList]
  rw [List.append_nil, hc] at hn
  rw [hc, readText, skipSpace_of_opens hopen, hn]
  · exact ⟨n, rfl⟩
  · exact fun _ h => hopen.ne_mark (List.cons.inj h).1

end Refusals

end Residency.Json
