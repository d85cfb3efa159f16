import Residency.Proofs.Buckets.Linearity
import Residency.Proofs.Buckets.Minima

namespace Residency.BucketMapping

def labelSlots (m : BucketMapping) : List ℤ :=
  if m.count = 1 then [0]
  else (List.range m.littleBuckets.toNat).map (fun k : ℕ => k * m.littleSize) ++
    (List.range m.bigBuckets.toNat).map fun k : ℕ => m.bigStart + k * m.bigSize

theorem firstFrequencies_eq_mapM (m : BucketMapping) (size slot : ℤ) (buckets : ℕ) :
    m.firstFrequencies size slot buckets =
      ((List.range buckets).map fun k : ℕ => slot + k * size).mapM m.frequencyAt := by
  induction buckets generalizing slot with
  | zero => rfl
  | succ buckets ih =>
    have hrest : (fun k : ℕ => slot + size + k * size) =
        fun k : ℕ => slot + (k + 1 : ℕ) * size := by
      funext k
      rw [Int.natCast_add, Int.natCast_one, add_mul, one_mul]
      omega
    rw [firstFrequencies, ih, hrest, List.range_succ_eq_map, List.map_cons, List.map_map,
      List.mapM_cons, Int.natCast_zero, zero_mul, add_zero]
    rfl

theorem minFrequencies_eq_mapM (m : BucketMapping) :
    m.minFrequencies = m.labelSlots.mapM m.frequencyAt := by
  rw [minFrequencies, labelSlots]
  split_ifs with hone
  · rw [List.mapM_cons, List.mapM_nil]
    rfl
  · rw [firstFrequencies_eq_mapM, firstFrequencies_eq_mapM, List.mapM_append]
    simp only [zero_add]
    rfl

theorem labelSlots_layout (fs : FrequencyTable) {B : ℕ} (hB : 1 ≤ B) :
    (layout fs B).labelSlots = (List.range (littleCount fs B + bigCount fs B)).map fun b : ℕ =>
      (cut fs.split fs.length (littleCount fs B) (bigCount fs B) b : ℤ) := by
  rw [labelSlots, count_layout]
  split_ifs with hone
  · have hc : littleCount fs B + bigCount fs B = 1 := by omega
    simp [hc, List.range_succ, (shape_layout fs hB).cut_zero]
  · have hc : littleCount fs B + bigCount fs B ≠ 1 := by omega
    rw [littleBuckets_layout, bigBuckets_layout, littleSize_layout, bigSize_layout,
      bigStart_layout, Int.toNat_natCast, Int.toNat_natCast, List.range_add, List.map_append,
      List.map_map]
    congr 1
    · refine List.map_congr_left fun k hk => ?_
      rw [cut_little hc (List.mem_range.mp hk), Int.natCast_mul]
    · refine List.map_congr_left fun k hk => ?_
      rw [Function.comp_apply, cut_big hc (List.mem_range.mp hk), Int.natCast_add, Int.natCast_mul]

/-- No operation of a mapping looks outside of its table or its sums, or divides by zero. -/
structure IsSafe (m : BucketMapping) : Prop where
  labelSlots : ∀ i ∈ m.labelSlots, 0 ≤ i ∧ i < m.frequencies.length
  lookUps : m.minFrequencies = m.labelSlots.mapM m.frequencyAt
  minFrequencies : ∃ lowest, m.minFrequencies = .ok lowest ∧ (lowest.length : ℤ) = m.count
  bucketOf : m.count ≠ 1 → ∀ i < m.frequencies.length,
    ∃ b, m.bucketOf i = .ok b ∧ 0 ≤ b ∧ b < m.count
  bucketValues : ∀ values, values.length = m.frequencies.length →
    ∃ sums, m.bucketValues values = .ok sums ∧ (sums.length : ℤ) = m.count
  refuses : ∀ values e, m.bucketValues values = .error e ↔
    values.length ≠ m.frequencies.length ∧
      e = .wrongLength m.frequencies.length values.length

theorem isSafe_layout (fs : FrequencyTable) {B : ℕ} (hB : 1 ≤ B) : (layout fs B).IsSafe where
  labelSlots := by
    rw [labelSlots_layout fs hB, List.forall_mem_map]
    intro b hb
    have hlt := (shape_layout fs hB).cuts.cut_lt (List.mem_range.mp hb)
    exact ⟨Int.natCast_nonneg _, Int.ofNat_lt.mpr hlt⟩
  lookUps := minFrequencies_eq_mapM _
  minFrequencies := by
    refine ⟨_, minFrequencies_layout fs hB, ?_⟩
    rw [count_layout, List.length_map, List.length_range]
  bucketOf := by
    intro hc i hi
    refine ⟨_, bucketOf_slotBucket fs hB hi hc, Int.natCast_nonneg _, ?_⟩
    rw [count_layout]
    exact Int.ofNat_lt.mpr ((cuts_layout fs hB).lt_count i hi)
  bucketValues := fun values hv => (isLinear_layout fs hB).total hv
  refuses := by
    intro values e
    rw [frequencies_layout]
    by_cases hv : values.length = fs.length
    · rw [sumsBy_slotBucket fs hB values hv]
      exact ⟨nofun, fun h => absurd hv h.1⟩
    · rw [BucketMapping.bucketValues, frequencies_layout, if_pos hv, Except.error.injEq]
      exact ⟨fun he => ⟨hv, he.symm⟩, fun h => h.2.symm⟩

theorem clusterBuckets_of_descents_eq_zero {fs : FrequencyTable} (h : fs.descents = 0) (B : ℕ) :
    littleCount fs B = min B fs.length ∧ bigCount fs B = 0 := by
  have hsplit := mt FrequencyTable.split_lt_length_iff.mp (not_not.mpr h)
  have hle := fs.split_le_length
  rw [littleCount, bigCount, clusterBuckets, if_neg hsplit]
  exact ⟨by dsimp only; omega, rfl⟩

theorem clusterBuckets_of_descents_ne_zero {fs : FrequencyTable} (h : fs.descents ≠ 0) (B : ℕ) :
    littleCount fs B = min (B / 2) fs.split ∧
      bigCount fs B = min (B - B / 2) (fs.length - fs.split) := by
  rw [littleCount, bigCount, clusterBuckets, if_pos (FrequencyTable.split_lt_length_iff.mpr h)]
  exact ⟨rfl, rfl⟩

def effectiveCount (fs : FrequencyTable) (requested : ℤ) : ℤ :=
  if fs.descents = 0 then min requested fs.length
  else min (requested / 2) fs.split + min (requested - requested / 2) (fs.length - fs.split)

theorem count_layout_eq (fs : FrequencyTable) {requested : ℤ} (h : 1 ≤ requested) :
    (layout fs requested.toNat).count = effectiveCount fs requested := by
  have hle := fs.split_le_length
  rw [count_layout, effectiveCount]
  split_ifs with hd
  · obtain ⟨hlittle, hbig⟩ := clusterBuckets_of_descents_eq_zero hd requested.toNat
    omega
  · obtain ⟨hlittle, hbig⟩ := clusterBuckets_of_descents_ne_zero hd requested.toNat
    omega

theorem effectiveCount_bounds {fs : FrequencyTable} (hne : fs ≠ []) {requested : ℤ}
    (h : 1 ≤ requested) :
    1 ≤ effectiveCount fs requested ∧ effectiveCount fs requested ≤ min requested fs.length := by
  have hle := fs.split_le_length
  have hlength := List.length_pos_iff.mpr hne
  rw [effectiveCount]
  split_ifs with hd
  · omega
  · have hlt := FrequencyTable.split_lt_length_iff.mpr hd
    have hpos : 0 < fs.split := FrequencyTable.split_pos hne
    omega

theorem create_safe (fs : FrequencyTable) {requested : ℤ} (h : 1 ≤ requested) :
    ∃ m, create fs requested = .ok m ∧ m.frequencies = fs ∧ m.IsSafe ∧
      m.count = effectiveCount fs requested ∧
      (fs ≠ [] → 1 ≤ m.count) ∧ m.count ≤ min requested fs.length ∧ (m.count = 0 ↔ fs = []) ∧
      (m.count = 1 ↔ fs ≠ [] ∧ (requested = 1 ∨ fs.length = 1)) := by
  have hB : 1 ≤ requested.toNat := by omega
  have hcount := count_layout_eq fs h
  have hle := fs.split_le_length
  have hempty : fs = [] ↔ fs.length = 0 := List.length_eq_zero_iff.symm
  refine ⟨layout fs requested.toNat, create_of_pos fs h, rfl, isSafe_layout fs hB, hcount, ?_⟩
  rw [hcount, effectiveCount, Ne, hempty]
  split_ifs with hd
  · omega
  · have hlt := FrequencyTable.split_lt_length_iff.mpr hd
    have hpos : 0 < fs.split := FrequencyTable.split_pos fun hnil => by simp [hnil] at hlt
    omega

theorem create_safe_of_one_little_bucket :
    ∃ m, create [100, 200, 300, 250, 350] 3 = .ok m ∧ m.count = 3 ∧ m.labelSlots = [0, 3, 4] ∧
      (∃ b, m.bucketOf 2 = .ok b ∧ 0 ≤ b ∧ b < 3) ∧
      m.bucketValues [1, 2, 3, 4] = .error (.wrongLength 5 4) := by
  obtain ⟨m, hm, -, hsafe, hcount, -⟩ :=
    create_safe [100, 200, 300, 250, 350] (show (1 : ℤ) ≤ 3 by decide)
  obtain rfl : layout [100, 200, 300, 250, 350] 3 = m := Except.ok.inj hm
  have hthree : (layout [100, 200, 300, 250, 350] 3).count = 3 := hcount
  refine ⟨_, hm, hthree, by decide, ?_, (hsafe.refuses _ _).mpr ⟨by decide, rfl⟩⟩
  have hbucket := hsafe.bucketOf (by decide) 2 (by decide)
  rwa [hthree] at hbucket

end Residency.BucketMapping
