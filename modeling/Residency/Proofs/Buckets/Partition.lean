import Residency.Proofs.Buckets.Sums

namespace Residency.BucketMapping

structure IsPartition (β : ℕ → ℕ) (n c : ℕ) : Prop where
  bounded : ∀ i < n, β i < c
  monotone : ∀ i j, i ≤ j → j < n → β i ≤ β j
  onto : ∀ b < c, ∃ i < n, β i = b
  contiguous : ∀ b i j k, i ≤ j → j ≤ k → k < n → β i = b → β k = b → β j = b

def slotsOf (β : ℕ → ℕ) (n b : ℕ) : Finset ℕ := (Finset.range n).filter (fun i => β i = b)

def EvenlyShared (β : ℕ → ℕ) (n first buckets : ℕ) (size : ℤ) : Prop :=
  ∀ k < buckets, ∃ rest < buckets, ((slotsOf β n (first + k)).card : ℤ) = size + rest ∧
    (k + 1 < buckets → rest = 0)

theorem isPartition_of_cuts {n c : ℕ} {cut β : ℕ → ℕ} (h : Cuts n c cut β) :
    IsPartition β n c where
  bounded := h.lt_count
  monotone i j hij hj := h.monotoneOn (hij.trans_lt hj) hj hij
  onto b hb := ⟨cut b, h.cut_lt hb, h.at_cut hb⟩
  contiguous b i j k hij hjk hk hi hkb := by
    have h1 := h.monotoneOn (hij.trans_lt (hjk.trans_lt hk)) (hjk.trans_lt hk) hij
    have h2 := h.monotoneOn (hjk.trans_lt hk) hk hjk
    omega

theorem card_slotsOf {n c b : ℕ} {cut β : ℕ → ℕ} (h : Cuts n c cut β) (hb : b < c) :
    (slotsOf β n b).card = cut (b + 1) - cut b := by
  rw [slotsOf, h.filter_eq_Ico hb, Nat.card_Ico]

theorem last_share_size (slots k : ℕ) :
    slots - k * (slots / (k + 1)) = slots / (k + 1) + slots % (k + 1) := by
  have h := Nat.div_add_mod slots (k + 1)
  rw [Nat.succ_mul, Nat.add_assoc] at h
  exact Nat.sub_eq_of_eq_add' h.symm

theorem evenlyShared_of_cuts {n c first buckets start slots : ℕ} {cut β : ℕ → ℕ}
    (h : Cuts n c cut β) (hc : first + buckets ≤ c)
    (hcut : ∀ k < buckets, cut (first + k) = start + k * (slots / buckets))
    (hlast : cut (first + buckets) = start + slots) :
    EvenlyShared β n first buckets (slots / buckets : ℕ) := by
  intro k hk
  rw [card_slotsOf h (by omega), hcut k hk, Nat.add_assoc]
  rcases Nat.lt_or_ge (k + 1) buckets with hlt | hge
  · refine ⟨0, by omega, ?_, fun _ => rfl⟩
    rw [hcut (k + 1) hlt, Nat.add_sub_add_left, Nat.succ_mul, Nat.add_sub_cancel_left,
      Int.natCast_zero, Int.add_zero]
  · obtain rfl : buckets = k + 1 := by omega
    refine ⟨slots % (k + 1), Nat.mod_lt _ (by omega), ?_, fun hlt => absurd hlt (lt_irrefl _)⟩
    rw [hlast, Nat.add_sub_add_left, last_share_size, Int.natCast_add]

section Clusters

variable {s n little big : ℕ} {β : ℕ → ℕ} (h : Shape s n little big)
  (hβ : Cuts n (little + big) (cut s n little big) β) (hc : little + big ≠ 1)
include h hβ hc

theorem evenlyShared_little : EvenlyShared β n 0 little (s / little : ℕ) := by
  have hcut : ∀ k < little, cut s n little big (0 + k) = 0 + k * (s / little) := by
    intro k hk
    rw [Nat.zero_add, Nat.zero_add, cut_little hc hk]
  have hlast : cut s n little big (0 + little) = 0 + s := by
    rw [Nat.zero_add, Nat.zero_add, h.cut_at_little hc]
  exact evenlyShared_of_cuts hβ (by omega) hcut hlast

theorem evenlyShared_big : EvenlyShared β n little big ((n - s) / big : ℕ) := by
  refine evenlyShared_of_cuts hβ le_rfl (fun k hk => cut_big hc hk) ?_
  have hs := h.split_le
  rw [cut_of_count_le le_rfl]
  omega

theorem lt_little_iff {i : ℕ} (hi : i < n) : β i < little ↔ i < s := by
  have hiff := hβ.lt_iff hi (b := little) (by omega)
  rwa [h.cut_at_little hc] at hiff

theorem sum_clusters {values : List ℤ} (hv : values.length = n) :
    (((List.range (little + big)).map (bucketSum β values)).take little).sum =
        (values.take s).sum ∧
      (((List.range (little + big)).map (bucketSum β values)).drop little).sum =
        (values.drop s).sum := by
  have hl := sum_take_bucketSum hβ hv (k := little) (by omega)
  have ha := sum_bucketSum hβ hv
  rw [h.cut_at_little hc] at hl
  rw [← List.sum_take_add_sum_drop _ little, ← List.sum_take_add_sum_drop values s] at ha
  omega

end Clusters

structure KeepsClustersApart (m : BucketMapping) (little big : ℕ) : Prop where
  bucketOf_eq : ∀ i < m.frequencies.length, m.bucketOf i = .ok (m.slotBucket i : ℕ)
  little_shared : EvenlyShared m.slotBucket m.frequencies.length 0 little m.littleSize
  big_shared : EvenlyShared m.slotBucket m.frequencies.length little big m.bigSize
  lt_little_iff : ∀ i < m.frequencies.length, m.slotBucket i < little ↔ i < m.frequencies.split
  sums : ∀ values sums, values.length = m.frequencies.length → m.bucketValues values = .ok sums →
    (sums.take little).sum = (values.take m.frequencies.split).sum ∧
      (sums.drop little).sum = (values.drop m.frequencies.split).sum

theorem keepsClustersApart_layout (fs : FrequencyTable) {B : ℕ} (hB : 1 ≤ B)
    (hc : (layout fs B).count ≠ 1) :
    KeepsClustersApart (layout fs B) (littleCount fs B) (bigCount fs B) := by
  have hshape := shape_layout fs hB
  have hcuts := cuts_layout fs hB
  have hc' : littleCount fs B + bigCount fs B ≠ 1 := by
    rw [count_layout] at hc
    omega
  refine ⟨fun i hi => bucketOf_slotBucket fs hB hi hc, ?_, ?_,
    fun i hi => lt_little_iff hshape hcuts hc' hi, ?_⟩
  · rw [littleSize_layout]
    exact evenlyShared_little hshape hcuts hc'
  · rw [bigSize_layout]
    exact evenlyShared_big hshape hcuts hc'
  · intro values sums hv hs
    obtain ⟨-, rfl⟩ := (bucketValues_layout_eq_ok fs hB).mp hs
    exact sum_clusters hshape hcuts hc' hv

theorem create_partition (fs : FrequencyTable) {requested : ℤ} (h : 1 ≤ requested) :
    ∃ (m : BucketMapping) (little big : ℕ),
      create fs requested = .ok m ∧ m.frequencies = fs ∧ m.bigStart = fs.split ∧
      m.littleBuckets = little ∧ m.bigBuckets = big ∧ m.count = little + big ∧
      IsPartition m.slotBucket fs.length (little + big) ∧ m.SumsBy m.slotBucket ∧
      (m.count ≠ 1 → KeepsClustersApart m little big) := by
  have hB : 1 ≤ requested.toNat := by omega
  refine ⟨layout fs requested.toNat, littleCount fs requested.toNat, bigCount fs requested.toNat,
    ?_, rfl, rfl, rfl, rfl, rfl, ?_, ?_, ?_⟩
  · rw [create, if_neg (by omega)]
  · exact isPartition_of_cuts (cuts_layout fs hB)
  · exact sumsBy_slotBucket fs hB
  · exact keepsClustersApart_layout fs hB

theorem create_partition_of_seven_slots :
    ∃ m, create [100, 200, 300, 250, 350, 450, 500] 4 = .ok m ∧ m.count = 4 ∧
      IsPartition m.slotBucket 7 4 ∧ KeepsClustersApart m 2 2 ∧
      m.bucketValues [1, 2, 3, 4, 5, 6, 7] = .ok [1, 5, 9, 13] := by
  obtain ⟨m, little, big, hm, -, -, hl, hg, hc, hp, -, hapart⟩ :=
    create_partition [100, 200, 300, 250, 350, 450, 500] (show (1 : ℤ) ≤ 4 by decide)
  obtain rfl : layout [100, 200, 300, 250, 350, 450, 500] 4 = m := Except.ok.inj hm
  have hl2 : (layout [100, 200, 300, 250, 350, 450, 500] 4).littleBuckets = 2 := by decide
  have hg2 : (layout [100, 200, 300, 250, 350, 450, 500] 4).bigBuckets = 2 := by decide
  obtain rfl : little = 2 := by omega
  obtain rfl : big = 2 := by omega
  exact ⟨_, hm, hc, hp, hapart (by omega), by rfl⟩

end Residency.BucketMapping
