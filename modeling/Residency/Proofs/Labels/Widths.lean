import Residency.Proofs.Labels.Durations
import Residency.Proofs.Labels.Frequencies

namespace Residency.Label

open Number Number.Binary64

def FitsCell (label : ℤ → Except LabelError String) (n : ℤ) : Prop :=
  ∃ s, label n = .ok s ∧ s.toList.length ≤ 8

variable {a n k : ℕ}

theorem length_toDigits_le (hk : 0 < k) (h : n < 10 ^ k) : (Nat.toDigits 10 n).length ≤ k :=
  (Nat.length_toDigits_le_iff (by decide) hk).mpr h

theorem length_millisText_le (h : n < 10 ^ 6) : (millisText n).length ≤ 8 := by
  have hdigits := length_toDigits_le (by decide) h
  simp only [millisText, List.length_append, List.length_cons, List.length_nil]
  omega

theorem length_tenthsText_le (h : n < 10 ^ 6) : (tenthsText n).length ≤ 8 := by
  have hdigits := length_toDigits_le (k := 5) (by decide) (by omega : n / 10 < 10 ^ 5)
  simp only [tenthsText, List.length_append, List.length_cons, List.length_nil]
  omega

theorem length_secondsText_le (h : n < 60 * 10 ^ 4) : (secondsText n).length ≤ 8 := by
  have hdigits := length_toDigits_le (k := 4) (by decide) (by omega : n / 60 < 10 ^ 4)
  simp only [secondsText, List.length_append, List.length_cons, List.length_nil]
  omega

theorem length_megahertzText_le (h : n < 10 ^ 5) : (megahertzText n).length ≤ 8 := by
  have hdigits := length_toDigits_le (by decide) h
  simp only [megahertzText, List.length_append, List.length_cons, List.length_nil]
  omega

theorem length_hundredthsText_le (h : n < 10 ^ 4) : (hundredthsText n).length ≤ 8 := by
  have hdigits := length_toDigits_le (k := 2) (by decide) (by omega : n / 100 < 10 ^ 2)
  simp only [hundredthsText, List.length_append, List.length_cons, List.length_nil]
  omega

theorem fitsCell_frequency {khz : ℤ} (hlow : 0 ≤ khz) (hhigh : khz ≤ 99994999) :
    FitsCell frequency khz := by
  obtain ⟨a, rfl⟩ := Int.eq_ofNat_of_zero_le hlow
  have hle : a ≤ 99994999 := by exact_mod_cast hhigh
  have hgreatest : frequency (99994999 : ℕ) = .ok "99.99GHz" := by decide +kernel
  have hshown : ShowsFrequency 99994999 99990000 "99.99GHz" :=
    isLabelling_frequency.shows_of_read hgreatest (by decide +kernel)
  obtain ⟨n, t, hshows, hok⟩ := isLabelling_frequency.exists_label_of_le (by decide) hle hgreatest
  have hmono := hshows.mono hle hshown
  refine ⟨t, hok, ?_⟩
  cases hshows with
  | megahertz ha =>
    rw [String.toList_ofList]
    exact length_megahertzText_le (by omega)
  | gigahertz =>
    rw [String.toList_ofList]
    exact length_hundredthsText_le (by omega)

theorem fitsCell_duration {millis : ℤ} (hlow : 0 ≤ millis) (hhigh : millis < 600000000) :
    FitsCell duration millis := by
  obtain ⟨a, rfl⟩ := Int.eq_ofNat_of_zero_le hlow
  have hle : a ≤ 599999999 := by omega
  have hgreatest : duration (599999999 : ℕ) = .ok "9999m59s" := by decide +kernel
  have hshown : Shows 599999999 599999000 "9999m59s" :=
    isLabelling_duration.shows_of_read hgreatest (by decide +kernel)
  obtain ⟨n, t, hshows, hok⟩ := isLabelling_duration.exists_label_of_le (by decide) hle hgreatest
  have hmono := hshows.mono hle hshown
  refine ⟨t, hok, ?_⟩
  cases hshows with
  | millis ha =>
    rw [String.toList_ofList]
    exact length_millisText_le (by omega)
  | tenths _ hvalue hbelow =>
    have := tenths_le hvalue hbelow
    rw [String.toList_ofList]
    exact length_tenthsText_le (by omega)
  | seconds =>
    rw [String.toList_ofList]
    exact length_secondsText_le (by omega)

end Residency.Label
