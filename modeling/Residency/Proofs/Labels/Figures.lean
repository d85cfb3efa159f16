import Residency.Label
import Residency.Proofs.Binary64
import Residency.Proofs.Json.Printable
import Residency.Proofs.Numerals
import Residency.Proofs.Words

namespace Residency

open Number

def IsVisible (c : Char) : Prop :=
  33 ≤ c.toNat ∧ c.toNat ≤ 126

instance (c : Char) : Decidable (IsVisible c) :=
  inferInstanceAs (Decidable (_ ∧ _))

inductive IsFigure : List Char → Prop
  | digit {d : Char} {r : List Char} : d.isDigit = true → (∀ c ∈ r, IsVisible c) → IsFigure (d :: r)
  | minus {d : Char} {r : List Char} : d.isDigit = true → (∀ c ∈ r, IsVisible c) →
      IsFigure ('-' :: d :: r)

section Characters

variable {c : Char} {s t : List Char}

theorem isPrintable_iff : IsPrintable c ↔ 32 ≤ c.toNat ∧ c.toNat ≤ 126 := Iff.rfl

theorem isVisible_of_isDigit (h : c.isDigit = true) : IsVisible c := by
  have := toNat_of_isDigit h
  exact ⟨by omega, by omega⟩

theorem IsVisible.isPrintable (h : IsVisible c) : IsPrintable c :=
  isPrintable_iff.mpr ⟨Nat.le_of_succ_le h.1, h.2⟩

theorem IsVisible.isBlank_eq_false (h : IsVisible c) : Text.isBlank c = false := by
  obtain ⟨hlow, hhigh⟩ := h
  simp only [Text.isBlank, Bool.or_eq_false_iff, Bool.and_eq_false_iff, decide_eq_false_iff_not,
    beq_eq_false_iff_ne]
  omega

theorem IsPrintable.ne_of_lt {d : Char} (h : IsPrintable c) (hd : d.toNat < 32) : c ≠ d := by
  rintro rfl
  have := (isPrintable_iff.mp h).1
  omega

theorem IsPrintable.isLineBreak_eq_false (h : IsPrintable c) : Text.isLineBreak c = false := by
  obtain ⟨hlow, hhigh⟩ := isPrintable_iff.mp h
  simp only [Text.isLineBreak, Bool.or_eq_false_iff, Bool.and_eq_false_iff,
    decide_eq_false_iff_not, beq_eq_false_iff_ne]
  omega

theorem IsFigure.isVisible (h : IsFigure s) : ∀ c ∈ s, IsVisible c := by
  cases h with
  | digit hd hr => exact List.forall_mem_cons.mpr ⟨isVisible_of_isDigit hd, hr⟩
  | minus hd hr =>
    exact List.forall_mem_cons.mpr
      ⟨by decide, List.forall_mem_cons.mpr ⟨isVisible_of_isDigit hd, hr⟩⟩

theorem IsFigure.isWord (h : IsFigure s) : Text.IsWord s := by
  refine ⟨?_, fun c hc => (h.isVisible c hc).isBlank_eq_false⟩
  rintro rfl
  cases h

theorem IsFigure.append (h : IsFigure s) (ht : ∀ c ∈ t, IsVisible c) : IsFigure (s ++ t) := by
  cases h with
  | digit hd hr => exact .digit hd (List.forall_mem_append.mpr ⟨hr, ht⟩)
  | minus hd hr => exact .minus hd (List.forall_mem_append.mpr ⟨hr, ht⟩)

theorem isVisible_toDigits (n : ℕ) : ∀ c ∈ Nat.toDigits 10 n, IsVisible c :=
  fun c hc => isVisible_of_isDigit (isDigit_of_mem_toDigits c hc)

theorem isFigure_toDigits (n : ℕ) : IsFigure (Nat.toDigits 10 n) := by
  have hvisible := isVisible_toDigits n
  obtain ⟨d, ds, hn, hd⟩ := exists_toDigits n
  rw [hn] at hvisible ⊢
  exact .digit hd (List.forall_mem_cons.mp hvisible).2

theorem isFigure_decimal (n : ℤ) : IsFigure (decimal n) := by
  cases n with
  | ofNat m => exact isFigure_toDigits m
  | negSucc m =>
    have hvisible := isVisible_toDigits (m + 1)
    obtain ⟨d, ds, hn, hd⟩ := exists_toDigits (m + 1)
    rw [decimal, hn]
    rw [hn] at hvisible
    exact .minus hd (List.forall_mem_cons.mp hvisible).2

theorem isFigure_placed (places n : ℕ) : IsFigure (Binary64.placed places n) := by
  refine (isFigure_toDigits _).append (List.forall_mem_cons.mpr ⟨by decide, ?_⟩)
  refine List.forall_mem_append.mpr ⟨fun c hc => ?_, isVisible_toDigits _⟩
  rw [List.eq_of_mem_replicate hc]
  decide

end Characters

namespace Label

variable {n : ℤ} {s : String}

theorem isFigure_ofList_append {t : List Char} (h : IsFigure t) {unit : String}
    (hunit : ∀ c ∈ unit.toList, IsVisible c) : IsFigure (String.ofList t ++ unit).toList := by
  rw [String.toList_append, String.toList_ofList]
  exact h.append hunit

theorem isFigure_of_withUnit {unit : String} (h : withUnit n unit = .ok s)
    (hunit : ∀ c ∈ unit.toList, IsVisible c) : IsFigure s.toList := by
  unfold withUnit decimal? at h
  split_ifs at h
  cases h
  exact isFigure_ofList_append (isFigure_decimal n) hunit

theorem isFigure_of_frequency (h : frequency n = .ok s) : IsFigure s.toList := by
  unfold frequency at h
  split_ifs at h
  · exact isFigure_of_withUnit h (by decide)
  · rcases Binary64.ofRatio_cases n.natAbs (by decide : 0 < 1000000) with
      ⟨hratio, -⟩ | ⟨-, m, e, hratio, -⟩
    · rw [hratio] at h
      cases h
    · rw [hratio] at h
      cases h
      exact isFigure_ofList_append (isFigure_placed 2 _) (by decide)

theorem isFigure_minutesAndSeconds (seconds : ℕ) : IsFigure (minutesAndSeconds seconds).toList := by
  have hrepr (n : ℕ) : (toString n).toList = Nat.toDigits 10 n := String.toList_ofList
  unfold minutesAndSeconds
  simp only [String.toList_append, hrepr]
  refine (((isFigure_toDigits _).append (by decide)).append ?_).append (by decide)
  split_ifs
  · rw [String.toList_append, hrepr]
    exact List.forall_mem_append.mpr ⟨by decide, isVisible_toDigits _⟩
  · rw [hrepr]
    exact isVisible_toDigits _

theorem isFigure_of_duration (h : duration n = .ok s) : IsFigure s.toList := by
  unfold duration at h
  split_ifs at h
  · exact isFigure_of_withUnit h (by decide)
  · rcases Binary64.ofRatio_cases n.natAbs (by decide : 0 < 1000) with
      ⟨hratio, -⟩ | ⟨-, m, e, hratio, -⟩
    · rw [hratio] at h
      cases h
    · rw [hratio] at h
      dsimp only at h
      split_ifs at h
      · cases h
        exact isFigure_ofList_append (isFigure_placed 1 _) (by decide)
      · cases h
        exact isFigure_minutesAndSeconds _

end Label

end Residency
