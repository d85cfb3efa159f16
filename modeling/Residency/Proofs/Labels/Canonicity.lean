import Residency.Proofs.Labels.Durations

/-!
Durations that are shown alike. A label is settled by the duration that it shows, with one
exception: the form is chosen before the tenths are rounded, so the last twentieth of a second
before a minute is shown as sixty seconds, and the second after it as one minute.
-/
namespace Residency.Label

open Number Number.Binary64

def IsInSeconds (label : String) : Prop :=
  ∃ whole tenth, label.toList = whole ++ ['.', tenth, 's']

def MeetAtMinute (a b : ℤ) : Prop :=
  (59950 ≤ a ∧ a < 60000) ∧ 60000 ≤ b ∧ b < 61000

variable {a b n n' k : ℕ} {s t : String}

theorem nearest_lt_sixty_iff (h : 1000 ≤ a) : nearest a 1000 < 60 ↔ a < 60000 := by
  constructor
  · intro hlt
    by_contra hge
    have hsixty := le_nearest_seconds (k := 60) (by norm_num) (not_lt.mp hge)
    exact absurd hlt (not_lt.mpr (by exact_mod_cast hsixty))
  · intro hlt
    have hsucc : a / 1000 + 1 ≤ 60 := by omega
    calc nearest a 1000 < ((a / 1000 + 1 : ℕ) : ℚ) := by
          exact_mod_cast nearest_lt_succ (by omega) (hlt.trans (by norm_num))
      _ ≤ 60 := by exact_mod_cast hsucc

section Forms

theorem point_mem_of_isInSeconds (h : IsInSeconds t) : '.' ∈ t.toList := by
  obtain ⟨whole, tenth, ht⟩ := h
  rw [ht]
  simp

theorem point_not_mem_toDigits (n : ℕ) : '.' ∉ Nat.toDigits 10 n := by
  intro hmem
  exact absurd (isDigit_of_mem_toDigits _ hmem) (by decide)

theorem point_ne_digitChar (h : k < 10) : '.' ≠ Nat.digitChar k := by
  intro heq
  have hdigit := isDigit_digitChar h
  rw [← heq] at hdigit
  cases hdigit

theorem isInSeconds_tenthsText (n : ℕ) : IsInSeconds (String.ofList (tenthsText n)) :=
  ⟨_, _, String.toList_ofList⟩

theorem not_isInSeconds_millisText (n : ℕ) : ¬ IsInSeconds (String.ofList (millisText n)) := by
  intro h
  have hpoint := point_mem_of_isInSeconds h
  simp [millisText, point_not_mem_toDigits] at hpoint

theorem not_isInSeconds_secondsText (n : ℕ) : ¬ IsInSeconds (String.ofList (secondsText n)) := by
  intro h
  have hpoint := point_mem_of_isInSeconds h
  have htens := point_ne_digitChar (by omega : n % 60 / 10 < 10)
  simp [secondsText, point_not_mem_toDigits, htens] at hpoint

theorem Shows.isInSeconds_iff (h : Shows a n t) : IsInSeconds t ↔ 1000 ≤ a ∧ a < 60000 := by
  cases h with
  | millis ha => exact iff_of_false (not_isInSeconds_millisText a) (by omega)
  | tenths ha _ hbelow =>
    exact iff_of_true (isInSeconds_tenthsText _) ⟨ha, (nearest_lt_sixty_iff ha).mp hbelow⟩
  | seconds ha _ hge =>
    have hminute := mt (nearest_lt_sixty_iff ha).mpr (not_lt.mpr hge)
    exact iff_of_false (not_isInSeconds_secondsText _) (by omega)

theorem Shows.label_eq (hs : Shows a n s) (ht : Shows b n' t) (h : n = n')
    (hform : IsInSeconds s ↔ IsInSeconds t) : s = t := by
  rw [hs.isInSeconds_iff, ht.isInSeconds_iff] at hform
  cases hs with
  | millis ha =>
    cases ht with
    | millis => rw [h]
    | tenths hb hvalue =>
      have := ten_le_tenths hvalue hb
      omega
    | seconds hb hvalue hge =>
      have := sixty_le_seconds hvalue hge
      omega
  | tenths ha hvalue hbelow =>
    cases ht with
    | millis hb =>
      have := ten_le_tenths hvalue ha
      omega
    | tenths =>
      rw [Nat.eq_of_mul_eq_mul_left (by decide) h]
    | seconds hb _ hge =>
      have := (nearest_lt_sixty_iff ha).mp hbelow
      have := mt (nearest_lt_sixty_iff hb).mpr (not_lt.mpr hge)
      omega
  | seconds ha hvalue hge =>
    cases ht with
    | millis hb =>
      have := sixty_le_seconds hvalue hge
      omega
    | tenths hb _ hbelow =>
      have := (nearest_lt_sixty_iff hb).mp hbelow
      have := mt (nearest_lt_sixty_iff ha).mpr (not_lt.mpr hge)
      omega
    | seconds =>
      rw [Nat.eq_of_mul_eq_mul_left (by decide) h]

end Forms

section Minute

/-- Where the shown duration goes up from one millisecond to the next, it tells on which side a
duration lies. -/
theorem Shows.le_iff (h : Shows a n t) (p : ℕ) (u' : String) (k' : ℕ) (u : String) (k : ℕ)
    (hu' : duration (p : ℤ) = .ok u') (hbelow : shownDuration? u' = some k')
    (hu : duration ((p + 1 : ℕ) : ℤ) = .ok u) (hat : shownDuration? u = some k) (hlt : k' < k) :
    k ≤ n ↔ p < a := by
  have hshows' : Shows p k' u' := isLabelling_duration.shows_of_read hu' hbelow
  have hshows : Shows (p + 1) k u := isLabelling_duration.shows_of_read hu hat
  constructor
  · intro hkn
    by_contra hge
    have hle := h.mono (not_lt.mp hge) hshows'
    omega
  · intro hpa
    exact hshows.mono hpa h

theorem Shows.second_and_minute_le_iff (h : Shows a n t) :
    (1000 ≤ n ↔ 999 < a) ∧ (60000 ≤ n ↔ 59949 < a) ∧ (61000 ≤ n ↔ 60999 < a) := by
  refine ⟨h.le_iff 999 "999ms" 999 "1.0s" 1000 ?_ ?_ ?_ ?_ (by decide),
    h.le_iff 59949 "59.9s" 59900 "60.0s" 60000 ?_ ?_ ?_ ?_ (by decide),
    h.le_iff 60999 "1m00s" 60000 "1m01s" 61000 ?_ ?_ ?_ ?_ (by decide)⟩ <;>
      decide +kernel

theorem Shows.eq_minute (h : Shows a n t) (hlow : 60000 ≤ n) (hhigh : n < 61000) : n = 60000 := by
  cases h with
  | millis => omega
  | tenths _ hvalue hbelow =>
    have := tenths_le hvalue hbelow
    omega
  | seconds => omega

theorem Shows.eq_iff (hs : Shows a n s) (ht : Shows b n' t) :
    n = n' ↔ s = t ∨ MeetAtMinute a b ∨ MeetAtMinute b a := by
  obtain ⟨hs₁, hs₂, hs₃⟩ := hs.second_and_minute_le_iff
  obtain ⟨ht₁, ht₂, ht₃⟩ := ht.second_and_minute_le_iff
  unfold MeetAtMinute
  constructor
  · intro h
    by_cases hform : IsInSeconds s ↔ IsInSeconds t
    · exact .inl (hs.label_eq ht h hform)
    · rw [hs.isInSeconds_iff, ht.isInSeconds_iff] at hform
      right
      omega
  · rintro (rfl | hmeet)
    · exact Option.some.inj (hs.read.symm.trans ht.read)
    · rw [hs.eq_minute (by omega) (by omega), ht.eq_minute (by omega) (by omega)]

theorem Shows.label_ne (hs : Shows a n s) (ht : Shows b n' t) (h : MeetAtMinute a b) : s ≠ t := by
  rintro rfl
  have hform := hs.isInSeconds_iff.symm.trans ht.isInSeconds_iff
  unfold MeetAtMinute at h
  omega

theorem Shows.canonical_iff (hs : Shows a n s) (ht : Shows b n' t) :
    (n = n' → s = t) ↔ ¬ MeetAtMinute a b ∧ ¬ MeetAtMinute b a := by
  rw [hs.eq_iff ht]
  constructor
  · intro h
    exact ⟨fun hmeet => hs.label_ne ht hmeet (h (.inr (.inl hmeet))),
      fun hmeet => ht.label_ne hs hmeet (h (.inr (.inr hmeet))).symm⟩
  · rintro ⟨hab, hba⟩ (heq | hmeet | hmeet)
    · exact heq
    · exact absurd hmeet hab
    · exact absurd hmeet hba

end Minute

theorem duration_canonical_iff {a b : ℤ} (ha : 0 ≤ a) (hb : 0 ≤ b) {s t : String}
    (hs : duration a = .ok s) (ht : duration b = .ok t) :
    ∃ m n, shownDuration? s = some m ∧ shownDuration? t = some n ∧
      ((m = n → s = t) ↔ ¬ MeetAtMinute a b ∧ ¬ MeetAtMinute b a) ∧
      ((60000 ≤ m → ¬ IsInSeconds s) ↔ ¬ (59950 ≤ a ∧ a < 60000)) := by
  obtain ⟨a, rfl⟩ := Int.eq_ofNat_of_zero_le ha
  obtain ⟨b, rfl⟩ := Int.eq_ofNat_of_zero_le hb
  obtain ⟨-, m, hm⟩ := shows_of_duration hs
  obtain ⟨-, n, hn⟩ := shows_of_duration ht
  refine ⟨m, n, hm.read, hn.read, hm.canonical_iff hn, ?_⟩
  have hminute := hm.second_and_minute_le_iff.2.1
  rw [hm.isInSeconds_iff, hminute]
  omega

theorem duration_canonical_iff_at_minute :
    duration 59990 = .ok "60.0s" ∧ duration 60000 = .ok "1m00s" ∧
      ∃ m n, shownDuration? "60.0s" = some m ∧ shownDuration? "1m00s" = some n ∧
        ¬ (m = n → "60.0s" = "1m00s") ∧ ¬ (60000 ≤ m → ¬ IsInSeconds "60.0s") := by
  have hseconds : duration 59990 = .ok "60.0s" := by decide +kernel
  have hminute : duration 60000 = .ok "1m00s" := by decide +kernel
  obtain ⟨m, n, hm, hn, hcanonical, hform⟩ :=
    duration_canonical_iff (by decide) (by decide) hseconds hminute
  have hmeet : MeetAtMinute 59990 60000 := by
    unfold MeetAtMinute
    decide
  exact ⟨hseconds, hminute, m, n, hm, hn, fun h => (hcanonical.mp h).1 hmeet,
    fun h => hform.mp h (by decide)⟩

theorem duration_not_canonical :
    (¬ ∀ a b : ℤ, 0 ≤ a → 0 ≤ b → ∀ s t, duration a = .ok s → duration b = .ok t →
      shownDuration? s = shownDuration? t → s = t) ∧
    ¬ ∀ a : ℤ, 0 ≤ a → ∀ s n, duration a = .ok s → shownDuration? s = some n → 60000 ≤ n →
      ¬ IsInSeconds s := by
  have hseconds : duration 59990 = .ok "60.0s" := by decide +kernel
  have hminute : duration 60000 = .ok "1m00s" := by decide +kernel
  have hshown : shownDuration? "60.0s" = some 60000 := by decide +kernel
  have hshown' : shownDuration? "1m00s" = some 60000 := by decide +kernel
  constructor
  · intro h
    have heq := h 59990 60000 (by decide) (by decide) _ _ hseconds hminute
      (hshown.trans hshown'.symm)
    exact absurd heq (by decide)
  · intro h
    exact h 59990 (by decide) _ _ hseconds hshown le_rfl ⟨['6', '0'], '0', rfl⟩

end Residency.Label
