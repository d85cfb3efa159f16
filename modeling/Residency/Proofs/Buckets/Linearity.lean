import Residency.Proofs.Buckets.Sums

namespace Residency

namespace BucketMapping

section Sums

variable (β : ℕ → ℕ) (b : ℕ)

theorem bucketSum_add {v w : List ℤ} (h : v.length = w.length) :
    bucketSum β (List.zipWith (· + ·) v w) b = bucketSum β v b + bucketSum β w b := by
  induction v generalizing β w with
  | nil =>
    rw [List.length_eq_zero_iff.mp h.symm]
    simp [bucketSum_nil]
  | cons x v ih =>
    cases w with
    | nil => cases h
    | cons y w =>
      rw [List.zipWith_cons_cons]
      simp only [bucketSum_cons]
      rw [ih _ (Nat.succ.inj h)]
      split_ifs <;> omega

theorem bucketSum_mul (k : ℤ) (v : List ℤ) :
    bucketSum β (v.map (k * ·)) b = k * bucketSum β v b := by
  induction v generalizing β with
  | nil => simp [bucketSum_nil]
  | cons x v ih =>
    simp only [List.map_cons, bucketSum_cons]
    rw [ih, mul_add, mul_ite, mul_zero]

theorem bucketSum_sub {v w : List ℤ} (h : v.length = w.length) :
    bucketSum β (List.zipWith (· - ·) w v) b = bucketSum β w b - bucketSum β v b := by
  have hsub : List.zipWith (· - ·) w v = List.zipWith (· + ·) w (v.map (-1 * ·)) := by
    rw [List.zipWith_map_right]
    simp [sub_eq_add_neg]
  rw [hsub, bucketSum_add β b (by simpa using h.symm), bucketSum_mul]
  omega

theorem bucketSum_mono {v w : List ℤ} (h : List.Forall₂ (· ≤ ·) v w) :
    bucketSum β v b ≤ bucketSum β w b := by
  induction h generalizing β with
  | nil => exact le_rfl
  | cons hxy _ ih =>
    rw [bucketSum_cons, bucketSum_cons]
    refine add_le_add ?_ (ih _)
    split_ifs
    · exact hxy
    · exact le_rfl

end Sums

structure IsLinear (m : BucketMapping) : Prop where
  total : ∀ {values : List ℤ}, values.length = m.frequencies.length →
    ∃ sums, m.bucketValues values = .ok sums ∧ sums.length = m.count
  add : ∀ {v w bv bw : List ℤ}, m.bucketValues v = .ok bv → m.bucketValues w = .ok bw →
    m.bucketValues (List.zipWith (· + ·) v w) = .ok (List.zipWith (· + ·) bv bw)
  sub : ∀ {v w bv bw : List ℤ}, m.bucketValues v = .ok bv → m.bucketValues w = .ok bw →
    m.bucketValues (List.zipWith (· - ·) w v) = .ok (List.zipWith (· - ·) bw bv)
  mul : ∀ (k : ℤ) {v bv : List ℤ}, m.bucketValues v = .ok bv →
    m.bucketValues (v.map (k * ·)) = .ok (bv.map (k * ·))
  mono : ∀ {v w bv bw : List ℤ}, m.bucketValues v = .ok bv → m.bucketValues w = .ok bw →
    List.Forall₂ (· ≤ ·) v w → List.Forall₂ (· ≤ ·) bv bw

theorem isLinear_layout (fs : FrequencyTable) {B : ℕ} (hB : 1 ≤ B) : (layout fs B).IsLinear where
  total := by
    intro values hv
    obtain ⟨sums, hs⟩ : ∃ sums, (layout fs B).bucketValues values = .ok sums :=
      ⟨_, sumsBy_slotBucket fs hB values hv⟩
    refine ⟨sums, hs, ?_⟩
    obtain ⟨-, rfl⟩ := (bucketValues_layout_eq_ok fs hB).mp hs
    rw [count_layout, List.length_map, List.length_range]
  add := by
    intro v w bv bw hv hw
    obtain ⟨hlv, rfl⟩ := (bucketValues_layout_eq_ok fs hB).mp hv
    obtain ⟨hlw, rfl⟩ := (bucketValues_layout_eq_ok fs hB).mp hw
    rw [bucketValues_layout_eq_ok fs hB]
    refine ⟨by rw [List.length_zipWith, hlv, hlw, min_self], ?_⟩
    rw [List.zipWith_map, List.zipWith_self]
    exact List.map_congr_left fun b _ => bucketSum_add _ b (hlv.trans hlw.symm)
  sub := by
    intro v w bv bw hv hw
    obtain ⟨hlv, rfl⟩ := (bucketValues_layout_eq_ok fs hB).mp hv
    obtain ⟨hlw, rfl⟩ := (bucketValues_layout_eq_ok fs hB).mp hw
    rw [bucketValues_layout_eq_ok fs hB]
    refine ⟨by rw [List.length_zipWith, hlv, hlw, min_self], ?_⟩
    rw [List.zipWith_map, List.zipWith_self]
    exact List.map_congr_left fun b _ => bucketSum_sub _ b (hlv.trans hlw.symm)
  mul := by
    intro k v bv hv
    obtain ⟨hlv, rfl⟩ := (bucketValues_layout_eq_ok fs hB).mp hv
    rw [bucketValues_layout_eq_ok fs hB]
    refine ⟨by rw [List.length_map, hlv], ?_⟩
    rw [List.map_map]
    exact List.map_congr_left fun b _ => bucketSum_mul _ b k v
  mono := by
    intro v w bv bw hv hw h
    obtain ⟨-, rfl⟩ := (bucketValues_layout_eq_ok fs hB).mp hv
    obtain ⟨-, rfl⟩ := (bucketValues_layout_eq_ok fs hB).mp hw
    rw [List.forall₂_map_left_iff, List.forall₂_map_right_iff, List.forall₂_same]
    exact fun b _ => bucketSum_mono _ b h

theorem isLinear_of_create {fs : FrequencyTable} {requested : ℤ} {m : BucketMapping}
    (h : create fs requested = .ok m) : m.IsLinear := by
  unfold create at h
  split_ifs at h with hB
  cases h
  exact isLinear_layout fs (by omega)

end BucketMapping

end Residency
