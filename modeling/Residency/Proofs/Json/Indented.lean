import Residency.Proofs.Json.Values

/-!
Values with each item on a line of its own are read back. Blanks between the parts of a text are
skipped, and what stands between them is read as on a single line.
-/
namespace Residency.Json

variable {depth level : ℕ}

theorem skipSpace_newLine (level : ℕ) (s : List Char) :
    skipSpace (newLine level ++ s) = skipSpace s := by
  refine List.dropWhile_append_of_pos ?_
  intro c hc
  rcases List.mem_cons.mp hc with rfl | hc
  · rfl
  · rw [List.eq_of_mem_replicate hc]
    rfl

theorem endsNumber_newLine (level : ℕ) (s : List Char) : EndsNumber (newLine level ++ s) := by
  intro c hc
  cases hc
  decide

theorem endsNumber_comma (s : List Char) : EndsNumber (',' :: s) := by
  intro c hc
  cases hc
  decide

theorem exists_indented {v : Json} (h : FloatFree v) (level : ℕ) :
    ∃ c t, indented level v = c :: t ∧ Opens c := by
  cases h with
  | null => exact ⟨'n', _, rfl, by decide, by decide, by decide⟩
  | bool b => cases b <;> exact ⟨_, _, rfl, by decide, by decide, by decide⟩
  | int n => exact exists_compact (.int n)
  | str s => exact ⟨'"', _, rfl, by decide, by decide, by decide⟩
  | @arr items _ => cases items <;> exact ⟨'[', _, rfl, by decide, by decide, by decide⟩
  | @obj members _ => cases members <;> exact ⟨'\x7b', _, rfl, by decide, by decide, by decide⟩

theorem skipSpace_indented {v : Json} (h : FloatFree v) (level : ℕ) (s : List Char) :
    skipSpace (indented level v ++ s) = indented level v ++ s := by
  obtain ⟨c, t, hc, hopen⟩ := exists_indented h level
  rw [hc]
  exact skipSpace_of_opens hopen _

def ReadsIndented (depth level : ℕ) (v : Json) : Prop :=
  ∀ fuel r, (indented level v).length ≤ fuel → EndsNumber r →
    readValue depth fuel (indented level v ++ r) = .ok (v, r)

theorem readItems_indented {v : Json} {vs : List Json} (hf : ∀ w ∈ v :: vs, FloatFree w)
    (hv : ∀ w ∈ v :: vs, ReadsIndented depth level w) {fuel : ℕ}
    (hfuel : (indented level v ++ indentedMoreItems level vs).length < fuel) {s r : List Char}
    (hs : skipSpace s = ']' :: r) (hends : EndsNumber s) :
    readItems depth fuel (indented level v ++ (indentedMoreItems level vs ++ s)) =
      .ok (v :: vs, r) := by
  obtain ⟨fuel, rfl⟩ := Nat.exists_eq_add_one.mpr (Nat.zero_lt_of_lt hfuel)
  induction vs generalizing v fuel with
  | nil =>
    rw [List.length_append] at hfuel
    exact readItems_of_last (hv v (by simp) fuel s (by omega) hends) hs
  | cons w ws ih =>
    have htext : indentedMoreItems level (w :: ws) ++ s =
        ',' :: (newLine level ++ (indented level w ++ (indentedMoreItems level ws ++ s))) := by
      simp [indentedMoreItems]
    have hlen : (indented level v ++ indentedMoreItems level (w :: ws)).length =
        (indented level v).length + (newLine level).length +
          (indented level w ++ indentedMoreItems level ws).length + 1 := by
      simp only [indentedMoreItems, List.length_append, List.length_cons]
      omega
    rw [hlen] at hfuel
    obtain ⟨fuel, rfl⟩ := Nat.exists_eq_add_one.mpr (by omega : 0 < fuel)
    rw [htext, readItems_of_more (hv v (by simp) _ _ (by omega) (endsNumber_comma _)) rfl,
      skipSpace_newLine, skipSpace_indented (hf w (by simp)),
      ih (fun u hu => hf u (List.mem_cons_of_mem v hu))
        (fun u hu => hv u (List.mem_cons_of_mem v hu)) fuel (by omega)]
    rfl

theorem readMembers_indented {m : String × Json} {ms : List (String × Json)}
    (hf : ∀ w ∈ m :: ms, FloatFree w.2) (hv : ∀ w ∈ m :: ms, ReadsIndented depth level w.2)
    {acc : List (String × Json)} (names : ((acc ++ m :: ms).map (·.1)).Nodup) {fuel : ℕ}
    (hfuel : (stringText m.1 ++ ':' :: ' ' ::
      (indented level m.2 ++ indentedMoreMembers level ms)).length < fuel) {s r : List Char}
    (hs : skipSpace s = '\x7d' :: r) (hends : EndsNumber s) :
    readMembers depth fuel acc (stringText m.1 ++ ':' :: ' ' ::
      (indented level m.2 ++ (indentedMoreMembers level ms ++ s))) = .ok (acc ++ m :: ms, r) := by
  have hopens : ∀ w ∈ m :: ms, ∀ t, skipSpace (' ' :: (indented level w.2 ++ t)) =
      indented level w.2 ++ t := fun w hw t => skipSpace_indented (hf w hw) level t
  induction ms generalizing m acc fuel with
  | nil =>
    obtain ⟨fuel, rfl⟩ := Nat.exists_eq_add_one.mpr (Nat.zero_lt_of_lt hfuel)
    simp only [List.length_append, List.length_cons] at hfuel
    have hread : readValue depth fuel (skipSpace (' ' :: (indented level m.2 ++ s))) =
        .ok (m.2, s) := by
      rw [hopens m (by simp)]
      exact hv m (by simp) fuel s (by omega) hends
    rw [← setMember_of_not_mem m.2 (fst_not_mem names)]
    exact readMembers_of_last hread hs
  | cons n ms ih =>
    obtain ⟨fuel, rfl⟩ := Nat.exists_eq_add_one.mpr (Nat.zero_lt_of_lt hfuel)
    simp only [indentedMoreMembers, List.length_append, List.length_cons] at hfuel
    have htext : indentedMoreMembers level (n :: ms) ++ s = ',' :: (newLine level ++
        (stringText n.1 ++ ':' :: ' ' ::
          (indented level n.2 ++ (indentedMoreMembers level ms ++ s)))) := by
      simp [indentedMoreMembers]
    have hread : ∀ t, readValue depth fuel (skipSpace (' ' :: (indented level m.2 ++ ',' :: t))) =
        .ok (m.2, ',' :: t) := by
      intro t
      rw [hopens m (by simp)]
      exact hv m (by simp) fuel _ (by omega) (endsNumber_comma t)
    have hquote : ∀ t, skipSpace (stringText n.1 ++ t) = stringText n.1 ++ t := fun _ => rfl
    rw [htext, readMembers_of_more (hread _) rfl, skipSpace_newLine, hquote,
      setMember_of_not_mem m.2 (fst_not_mem names),
      ih (fun w hw => hf w (List.mem_cons_of_mem m hw))
        (fun w hw => hv w (List.mem_cons_of_mem m hw)) (by rwa [List.append_assoc])
        (by simp only [List.length_append, List.length_cons]; omega)
        (fun w hw => hopens w (List.mem_cons_of_mem m hw)), List.append_assoc]
    rfl

theorem readValue_indented_arr {items : List Json} (hf : ∀ v ∈ items, FloatFree v)
    (hv : ∀ v ∈ items, ∀ level, ReadsIndented depth level v) :
    ReadsIndented (depth + 1) level (.arr items) := by
  intro fuel r hfuel _
  cases items with
  | nil =>
    obtain ⟨fuel, rfl⟩ := Nat.exists_eq_add_one.mpr (Nat.zero_lt_of_lt hfuel)
    rfl
  | cons v vs =>
    have htext : indented level (.arr (v :: vs)) ++ r = '[' :: (newLine (level + 1) ++
        (indented (level + 1) v ++ (indentedMoreItems (level + 1) vs ++
          (newLine level ++ ']' :: r)))) := by
      simp [indented]
    simp only [indented, List.length_append, List.length_cons] at hfuel
    obtain ⟨fuel, rfl⟩ := Nat.exists_eq_add_one.mpr (by omega : 0 < fuel)
    have hread : readItems depth fuel (indented (level + 1) v ++
        (indentedMoreItems (level + 1) vs ++ (newLine level ++ ']' :: r))) = .ok (v :: vs, r) :=
      readItems_indented hf (fun w hw => hv w hw (level + 1))
        (by rw [List.length_append]; omega) (skipSpace_newLine level _) (endsNumber_newLine level _)
    rw [htext, readValue_of_items, skipSpace_newLine, skipSpace_indented (hf v (by simp)), hread]
    · rfl
    · obtain ⟨c, t, hc, hopen⟩ := exists_indented (hf v (by simp)) (level + 1)
      intro t' heq
      rw [skipSpace_newLine, skipSpace_indented (hf v (by simp)), hc] at heq
      exact hopen.ne_bracket (List.cons.inj heq).1

theorem readValue_indented_obj {members : List (String × Json)}
    (names : (members.map (·.1)).Nodup) (hf : ∀ m ∈ members, FloatFree m.2)
    (hv : ∀ m ∈ members, ∀ level, ReadsIndented depth level m.2) :
    ReadsIndented (depth + 1) level (.obj members) := by
  intro fuel r hfuel _
  cases members with
  | nil =>
    obtain ⟨fuel, rfl⟩ := Nat.exists_eq_add_one.mpr (Nat.zero_lt_of_lt hfuel)
    rfl
  | cons m ms =>
    have htext : indented level (.obj (m :: ms)) ++ r = '\x7b' :: (newLine (level + 1) ++
        (stringText m.1 ++ ':' :: ' ' :: (indented (level + 1) m.2 ++
          (indentedMoreMembers (level + 1) ms ++ (newLine level ++ '\x7d' :: r))))) := by
      simp [indented]
    simp only [indented, List.length_append, List.length_cons] at hfuel
    obtain ⟨fuel, rfl⟩ := Nat.exists_eq_add_one.mpr (by omega : 0 < fuel)
    have hread : readMembers depth fuel [] (stringText m.1 ++ ':' :: ' ' ::
        (indented (level + 1) m.2 ++ (indentedMoreMembers (level + 1) ms ++
          (newLine level ++ '\x7d' :: r)))) = .ok (m :: ms, r) :=
      readMembers_indented hf (fun w hw => hv w hw (level + 1)) names
        (by simp only [List.length_append, List.length_cons]; omega)
        (skipSpace_newLine level _) (endsNumber_newLine level _)
    have hquote : ∀ t, skipSpace (stringText m.1 ++ t) = stringText m.1 ++ t := fun _ => rfl
    rw [htext, readValue_of_members, skipSpace_newLine, hquote, hread]
    · rfl
    · intro t' heq
      rw [skipSpace_newLine, hquote] at heq
      exact absurd (List.cons.inj heq).1 (by decide)

theorem readValue_indented {v : Json} (hv : Within depth v) (hf : FloatFree v) (level : ℕ) :
    ReadsIndented depth level v := by
  induction hv generalizing level with
  | null =>
    intro fuel r hfuel hr
    obtain ⟨fuel, rfl⟩ := Nat.exists_eq_add_one.mpr (Nat.zero_lt_of_lt hfuel)
    rfl
  | bool b =>
    intro fuel r hfuel hr
    cases b <;> obtain ⟨fuel, rfl⟩ := Nat.exists_eq_add_one.mpr (Nat.zero_lt_of_lt hfuel) <;> rfl
  | int h =>
    intro fuel r hfuel hr
    obtain ⟨c, t, hc, -⟩ := Number.exists_decimal _
    rw [indented, hc] at hfuel
    obtain ⟨fuel, rfl⟩ := Nat.exists_eq_add_one.mpr (Nat.zero_lt_of_lt hfuel)
    exact readValue_decimal h fuel hr
  | float x => cases hf
  | str s =>
    intro fuel r hfuel hr
    obtain ⟨fuel, rfl⟩ := Nat.exists_eq_add_one.mpr (Nat.zero_lt_of_lt hfuel)
    change (readQuoted (stringText s ++ r)).map _ = _
    rw [readQuoted_stringText]
    rfl
  | arr h ih =>
    rw [floatFree_arr] at hf
    exact readValue_indented_arr hf fun v hv => ih v hv (hf v hv)
  | obj names h ih =>
    rw [floatFree_obj] at hf
    exact readValue_indented_obj names hf fun m hm => ih m hm (hf m hm)

theorem read_indented {v : Json} (hv : Within maxDepth v) (hf : FloatFree v) {r : List Char}
    (hr : EndsNumber r) (hblank : skipSpace r = []) :
    read (String.ofList (indented 0 v ++ r)) = .ok v := by
  have hvalue := readValue_indented hv hf 0 (2 * (indented 0 v ++ r).length + 2) r
    (by rw [List.length_append]; omega) hr
  obtain ⟨c, t, hc, hopen⟩ := exists_indented hf 0
  rw [read, String.toList_ofList]
  rw [hc, List.cons_append] at hvalue ⊢
  rw [readText, skipSpace_of_opens hopen, hvalue, ok_bind]
  · dsimp only
    rw [hblank]
    rfl
  · exact fun _ h => hopen.ne_mark (List.cons.inj h).1

end Residency.Json
