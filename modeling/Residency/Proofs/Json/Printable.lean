import Residency.Proofs.Json.Values

namespace Residency

def IsPrintable (c : Char) : Prop := ' ' ≤ c ∧ c ≤ '~'

instance (c : Char) : Decidable (IsPrintable c) :=
  inferInstanceAs (Decidable (_ ∧ _))

theorem isPrintable_of_isDigit {c : Char} (h : c.isDigit = true) : IsPrintable c := by
  obtain ⟨h1, h2⟩ := Number.toNat_of_isDigit h
  have hlow : ' '.toNat ≤ c.toNat := by
    change 32 ≤ c.toNat
    omega
  have hhigh : c.toNat ≤ '~'.toNat := by
    change c.toNat ≤ 126
    omega
  exact ⟨hlow, hhigh⟩

theorem isPrintable_of_mem_decimal {n : ℤ} : ∀ c ∈ Number.decimal n, IsPrintable c := by
  intro c hc
  rcases Number.of_mem_decimal c hc with rfl | hdigit
  · decide
  · exact isPrintable_of_isDigit hdigit

namespace Json

theorem isPrintable_of_mem_unitEscape {n : ℕ} (h : n < 0x10000) :
    ∀ c ∈ unitEscape n, IsPrintable c := by
  have hdigit : ∀ d < 16, IsPrintable d.digitChar := by decide
  intro c hc
  rw [unitEscape, Text.hex_four h] at hc
  simp only [List.mem_cons, List.not_mem_nil, or_false] at hc
  rcases hc with rfl | rfl | rfl | rfl | rfl | rfl
  · decide
  · decide
  · exact hdigit _ (by omega)
  · exact hdigit _ (by omega)
  · exact hdigit _ (by omega)
  · exact hdigit _ (by omega)

theorem isPrintable_of_mem_escapeChar (d : Char) : ∀ c ∈ escapeChar d, IsPrintable c := by
  unfold escapeChar
  split_ifs with h1 h2 h3 h4 h5 h6 h7 hplain
  · decide
  · decide
  · decide
  · decide
  · decide
  · decide
  · decide
  · intro c hc
    rw [List.mem_singleton.mp hc]
    exact hplain
  · have hd := toNat_lt d
    dsimp only
    split_ifs with hplane
    · exact isPrintable_of_mem_unitEscape hplane
    · rw [List.forall_mem_append]
      exact ⟨isPrintable_of_mem_unitEscape (by omega), isPrintable_of_mem_unitEscape (by omega)⟩

theorem isPrintable_of_mem_stringText (s : String) : ∀ c ∈ stringText s, IsPrintable c := by
  rw [stringText, List.cons_append, List.forall_mem_cons, List.forall_mem_append,
    List.forall_mem_flatMap]
  exact ⟨by decide, fun d _ => isPrintable_of_mem_escapeChar d, by decide⟩

section Compact

theorem isPrintable_of_mem_compactItems {items : List Json}
    (h : ∀ v ∈ items, ∀ c ∈ compact v, IsPrintable c) :
    ∀ c ∈ compactItems items, IsPrintable c := by
  have hmore : ∀ vs ⊆ items, ∀ c ∈ compactMoreItems vs, IsPrintable c := by
    intro vs hvs
    induction vs with
    | nil => simp [compactMoreItems]
    | cons v vs ih =>
      rw [List.cons_subset] at hvs
      simp only [compactMoreItems, List.cons_append, List.forall_mem_cons, List.forall_mem_append]
      exact ⟨by decide, by decide, h v hvs.1, ih hvs.2⟩
  cases items with
  | nil => simp [compactItems]
  | cons v vs =>
    rw [compactItems, List.forall_mem_append]
    exact ⟨h v (by simp), hmore vs (List.subset_cons_self v vs)⟩

theorem isPrintable_of_mem_compactMembers {members : List (String × Json)}
    (h : ∀ m ∈ members, ∀ c ∈ compact m.2, IsPrintable c) :
    ∀ c ∈ compactMembers members, IsPrintable c := by
  have hmore : ∀ ms ⊆ members, ∀ c ∈ compactMoreMembers ms, IsPrintable c := by
    intro ms hms
    induction ms with
    | nil => simp [compactMoreMembers]
    | cons m ms ih =>
      rw [List.cons_subset] at hms
      simp only [compactMoreMembers, List.cons_append, List.append_assoc, List.forall_mem_cons,
        List.forall_mem_append]
      exact ⟨by decide, by decide, isPrintable_of_mem_stringText m.1, by decide, by decide,
        h m hms.1, ih hms.2⟩
  cases members with
  | nil => simp [compactMembers]
  | cons m ms =>
    simp only [compactMembers, List.append_assoc, List.cons_append, List.forall_mem_cons,
      List.forall_mem_append]
    exact ⟨isPrintable_of_mem_stringText m.1, by decide, by decide, h m (by simp),
      hmore ms (List.subset_cons_self m ms)⟩

theorem isPrintable_of_mem_compact {v : Json} (h : FloatFree v) :
    ∀ c ∈ compact v, IsPrintable c := by
  induction h with
  | null => decide
  | bool b => cases b <;> decide
  | int n => exact isPrintable_of_mem_decimal
  | str s => exact isPrintable_of_mem_stringText s
  | arr _ ih =>
    simp only [compact, List.cons_append, List.forall_mem_cons, List.forall_mem_append]
    exact ⟨by decide, isPrintable_of_mem_compactItems ih, by decide, by simp⟩
  | obj _ ih =>
    simp only [compact, List.cons_append, List.forall_mem_cons, List.forall_mem_append]
    exact ⟨by decide, isPrintable_of_mem_compactMembers ih, by decide, by simp⟩

end Compact

section Indented

def InLines (c : Char) : Prop := c = '\n' ∨ IsPrintable c

instance (c : Char) : Decidable (InLines c) :=
  inferInstanceAs (Decidable (_ ∨ _))

theorem inLines_of_mem_newLine (level : ℕ) : ∀ c ∈ newLine level, InLines c := by
  rw [newLine, List.forall_mem_cons]
  refine ⟨by decide, fun c hc => ?_⟩
  rw [List.eq_of_mem_replicate hc]
  decide

theorem inLines_of_mem_stringText (s : String) : ∀ c ∈ stringText s, InLines c :=
  fun c hc => .inr (isPrintable_of_mem_stringText s c hc)

theorem inLines_of_mem_indentedMoreItems {level : ℕ} {vs : List Json}
    (h : ∀ v ∈ vs, ∀ c ∈ indented level v, InLines c) :
    ∀ c ∈ indentedMoreItems level vs, InLines c := by
  induction vs with
  | nil => simp [indentedMoreItems]
  | cons v vs ih =>
    simp only [indentedMoreItems, List.cons_append, List.append_assoc, List.forall_mem_cons,
      List.forall_mem_append]
    exact ⟨by decide, inLines_of_mem_newLine level, h v (by simp),
      ih fun w hw => h w (List.mem_cons_of_mem v hw)⟩

theorem inLines_of_mem_indentedMoreMembers {level : ℕ} {ms : List (String × Json)}
    (h : ∀ m ∈ ms, ∀ c ∈ indented level m.2, InLines c) :
    ∀ c ∈ indentedMoreMembers level ms, InLines c := by
  induction ms with
  | nil => simp [indentedMoreMembers]
  | cons m ms ih =>
    simp only [indentedMoreMembers, List.cons_append, List.append_assoc, List.forall_mem_cons,
      List.forall_mem_append]
    exact ⟨by decide, inLines_of_mem_newLine level, inLines_of_mem_stringText m.1, by decide,
      by decide, h m (by simp), ih fun n hn => h n (List.mem_cons_of_mem m hn)⟩

theorem inLines_of_mem_indented {v : Json} (h : FloatFree v) (level : ℕ) :
    ∀ c ∈ indented level v, InLines c := by
  induction h generalizing level with
  | null =>
    rw [indented]
    decide
  | bool b =>
    cases b <;> rw [indented] <;> decide
  | int n => exact fun c hc => .inr (isPrintable_of_mem_decimal c hc)
  | str s => exact inLines_of_mem_stringText s
  | @arr items _ ih =>
    cases items with
    | nil =>
      rw [indented]
      decide
    | cons v vs =>
      simp only [indented, List.cons_append, List.append_assoc, List.forall_mem_cons,
        List.forall_mem_append]
      exact ⟨by decide, inLines_of_mem_newLine _, ih v (by simp) _,
        inLines_of_mem_indentedMoreItems fun w hw => ih w (List.mem_cons_of_mem v hw) _,
        inLines_of_mem_newLine _, by decide, by simp⟩
  | @obj members _ ih =>
    cases members with
    | nil =>
      rw [indented]
      decide
    | cons m ms =>
      simp only [indented, List.cons_append, List.append_assoc, List.forall_mem_cons,
        List.forall_mem_append]
      exact ⟨by decide, inLines_of_mem_newLine _, inLines_of_mem_stringText m.1, by decide,
        by decide, ih m (by simp) _,
        inLines_of_mem_indentedMoreMembers fun n hn => ih n (List.mem_cons_of_mem m hn) _,
        inLines_of_mem_newLine _, by decide, by simp⟩

end Indented

end Json

end Residency
