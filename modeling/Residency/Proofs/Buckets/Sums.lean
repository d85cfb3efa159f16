import Residency.Proofs.Buckets.Layout

namespace Residency.BucketMapping

def bucketSum (β : ℕ → ℕ) (values : List ℤ) (b : ℕ) : ℤ :=
  ∑ i ∈ Finset.range values.length with β i = b, values.getD i 0

def SumsBy (m : BucketMapping) (β : ℕ → ℕ) : Prop :=
  ∀ values : List ℤ, values.length = m.frequencies.length →
    m.bucketValues values = .ok ((List.range m.count.toNat).map (bucketSum β values))

theorem bucketSum_nil (β : ℕ → ℕ) (b : ℕ) : bucketSum β [] b = 0 := by
  simp [bucketSum]

theorem bucketSum_cons (β : ℕ → ℕ) (v : ℤ) (values : List ℤ) (b : ℕ) :
    bucketSum β (v :: values) b =
      (if β 0 = b then v else 0) + bucketSum (fun i => β (i + 1)) values b := by
  unfold bucketSum
  rw [Finset.sum_filter, Finset.sum_filter, List.length_cons, Finset.sum_range_succ', add_comm]
  rfl

theorem index?_natCast {length b : ℕ} (h : b < length) : index? length b = some b := by
  rw [index?, if_pos (by omega), if_pos (by omega), Int.toNat_natCast]

theorem addFrom_eq (m : BucketMapping) (β : ℕ → ℕ) (values : List ℤ) (slot : ℕ) (sums : List ℤ)
    (h : ∀ i < values.length, m.bucketOf (slot + i) = .ok (β i : ℕ) ∧ β i < sums.length) :
    m.addFrom slot values sums = .ok (sums.mapIdx fun b x => x + bucketSum β values b) := by
  induction values generalizing slot sums β with
  | nil =>
    simp only [addFrom, bucketSum_nil, Int.add_zero]
    rw [List.mapIdx_eq_iff.mpr]
    simp
  | cons v values ih =>
    obtain ⟨hb, hlt⟩ := h 0 (by simp)
    have hrest : ∀ i < values.length, m.bucketOf (slot + 1 + i) = .ok (β (i + 1) : ℕ) ∧
        β (i + 1) < (sums.modify (β 0) (· + v)).length := by
      intro i hi
      obtain ⟨hbi, hlti⟩ := h (i + 1) (by simpa using hi)
      rw [List.length_modify, show slot + 1 + i = slot + (i + 1) by omega]
      exact ⟨hbi, hlti⟩
    rw [Nat.add_zero] at hb
    simp only [addFrom, hb, Except.bind, index?_natCast hlt]
    rw [ih _ _ _ hrest]
    congr 1
    apply List.ext_getElem
    · simp
    · intro b h1 h2
      simp only [List.getElem_mapIdx, List.getElem_modify, bucketSum_cons]
      split <;> omega

theorem bucketSum_const (values : List ℤ) : bucketSum (fun _ => 0) values 0 = values.sum := by
  induction values with
  | nil => simp [bucketSum]
  | cons v values ih => rw [bucketSum_cons, ih, if_pos rfl, List.sum_cons]

theorem countError?_layout (fs : FrequencyTable) {B : ℕ} (hB : 1 ≤ B) :
    (layout fs B).countError? = none := by
  have h := shape_layout fs hB
  have hl := h.little_le
  have hg := h.big_le
  have hs := h.split_le
  rw [countError?, if_pos]
  rw [count_layout, frequencies_layout]
  omega

def slotBucket (m : BucketMapping) (i : ℕ) : ℕ :=
  if m.count = 1 then 0 else ((m.bucketOf i).toOption.getD 0).toNat

theorem slotBucket_layout (fs : FrequencyTable) {B i : ℕ} (hB : 1 ≤ B) (hi : i < fs.length) :
    (layout fs B).slotBucket i =
      bucketIndex fs.split fs.length (littleCount fs B) (bigCount fs B) i := by
  rw [slotBucket, count_layout]
  split_ifs with hc
  · rw [bucketIndex, if_pos (by omega)]
  · rw [bucketOf_layout fs hB hi (by omega)]
    rfl

theorem cuts_layout (fs : FrequencyTable) {B : ℕ} (hB : 1 ≤ B) :
    Cuts fs.length (littleCount fs B + bigCount fs B)
      (cut fs.split fs.length (littleCount fs B) (bigCount fs B)) (layout fs B).slotBucket := by
  have h := (shape_layout fs hB).cuts
  refine ⟨h.zero, h.last, h.lt_succ, ?_, ?_, ?_⟩ <;> intro i hi <;> rw [slotBucket_layout fs hB hi]
  · exact h.lt_count i hi
  · exact h.cut_le i hi
  · exact h.lt_cut i hi

theorem bucketOf_slotBucket (fs : FrequencyTable) {B i : ℕ} (hB : 1 ≤ B) (hi : i < fs.length)
    (hc : (layout fs B).count ≠ 1) :
    (layout fs B).bucketOf i = .ok ((layout fs B).slotBucket i : ℕ) := by
  rw [count_layout] at hc
  rw [slotBucket_layout fs hB hi, bucketOf_layout fs hB hi (by omega)]

theorem sumsBy_slotBucket (fs : FrequencyTable) {B : ℕ} (hB : 1 ≤ B) :
    (layout fs B).SumsBy (layout fs B).slotBucket := by
  intro values hv
  rw [bucketValues, if_neg (by simpa using hv), countError?_layout fs hB]
  dsimp only
  rw [frequencies_layout] at hv
  split_ifs with hc
  · have h0 : (layout fs B).slotBucket = fun _ => 0 := by
      funext i
      rw [slotBucket, if_pos hc]
    rw [h0, hc, ← List.sum_eq_foldl]
    simp [List.range_succ, bucketSum_const]
  · rw [addFrom_eq _ (layout fs B).slotBucket]
    · congr 1
      apply List.ext_getElem <;> simp
    · intro i hi
      rw [hv] at hi
      rw [Nat.zero_add, List.length_replicate, count_layout]
      exact ⟨bucketOf_slotBucket fs hB hi hc, (cuts_layout fs hB).lt_count i hi⟩

theorem bucketValues_layout_eq_ok (fs : FrequencyTable) {B : ℕ} (hB : 1 ≤ B)
    {values sums : List ℤ} :
    (layout fs B).bucketValues values = .ok sums ↔ values.length = fs.length ∧
      (List.range (littleCount fs B + bigCount fs B)).map
        (bucketSum (layout fs B).slotBucket values) = sums := by
  by_cases hv : values.length = fs.length
  · rw [sumsBy_slotBucket fs hB values hv, count_layout, Int.toNat_natCast, Except.ok.injEq]
    exact (and_iff_right hv).symm
  · rw [bucketValues, if_pos (by simpa using hv)]
    simp [hv]

theorem sum_range_getD (values : List ℤ) (k : ℕ) :
    ∑ i ∈ Finset.range k, values.getD i 0 = (values.take k).sum := by
  induction values generalizing k with
  | nil => simp
  | cons v values ih =>
    cases k with
    | zero => simp
    | succ k =>
      rw [Finset.sum_range_succ', List.take_succ_cons, List.sum_cons, ← ih k, add_comm]
      rfl

theorem sum_take_bucketSum {n c : ℕ} {cut β : ℕ → ℕ} (h : Cuts n c cut β) {values : List ℤ}
    (hv : values.length = n) {k : ℕ} (hk : k ≤ c) :
    (((List.range c).map (bucketSum β values)).take k).sum = (values.take (cut k)).sum := by
  induction k with
  | zero => simp [h.zero]
  | succ k ih =>
    have hstep : (values.take (cut (k + 1))).sum =
        (values.take (cut k)).sum + bucketSum β values k := by
      rw [← sum_range_getD values, ← sum_range_getD values,
        ← Finset.sum_range_add_sum_Ico _ (h.lt_succ k hk).le, bucketSum, hv, h.filter_eq_Ico hk]
    rw [List.take_succ_eq_append_getElem (by simpa using hk), List.sum_append, ih (by omega), hstep]
    simp

theorem sum_bucketSum {n c : ℕ} {cut β : ℕ → ℕ} (h : Cuts n c cut β) {values : List ℤ}
    (hv : values.length = n) : ((List.range c).map (bucketSum β values)).sum = values.sum := by
  have hs := sum_take_bucketSum h hv (k := c) le_rfl
  rwa [h.last, List.take_of_length_le (by simp), List.take_of_length_le (by omega)] at hs

end Residency.BucketMapping
