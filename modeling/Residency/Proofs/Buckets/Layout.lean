import Mathlib.Algebra.BigOperators.Intervals
import Mathlib.Algebra.Order.BigOperators.Group.Finset
import Mathlib.Algebra.Order.Ring.Int
import Mathlib.Order.Interval.Finset.Nat
import Residency.BucketMapping

/-!
Where the buckets of a mapping begin and end. The slots are cut into intervals, one for each bucket,
and the bucket of a slot is the interval it lies in.
-/
namespace Residency

structure Cuts (n c : ℕ) (cut β : ℕ → ℕ) : Prop where
  zero : cut 0 = 0
  last : cut c = n
  lt_succ : ∀ b < c, cut b < cut (b + 1)
  lt_count : ∀ i < n, β i < c
  cut_le : ∀ i < n, cut (β i) ≤ i
  lt_cut : ∀ i < n, i < cut (β i + 1)

namespace Cuts

variable {n c : ℕ} {cut β : ℕ → ℕ} (h : Cuts n c cut β)
include h

theorem mono {a b : ℕ} (hab : a ≤ b) (hb : b ≤ c) : cut a ≤ cut b := by
  induction b, hab using Nat.le_induction with
  | base => exact le_rfl
  | succ b _ ih => exact (ih (by omega)).trans (h.lt_succ b (by omega)).le

theorem cut_lt {b : ℕ} (hb : b < c) : cut b < n := by
  have hs := h.mono (a := b + 1) (b := c) (by omega) le_rfl
  rw [h.last] at hs
  exact (h.lt_succ b hb).trans_le hs

theorem eq_iff {i b : ℕ} (hi : i < n) (hb : b < c) : β i = b ↔ cut b ≤ i ∧ i < cut (b + 1) := by
  constructor
  · rintro rfl
    exact ⟨h.cut_le i hi, h.lt_cut i hi⟩
  · rintro ⟨hl, hu⟩
    have h1 := h.cut_le i hi
    have h2 := h.lt_cut i hi
    have h3 := h.lt_count i hi
    rcases lt_trichotomy (β i) b with hlt | heq | hgt
    · have := h.mono (a := β i + 1) (b := b) hlt hb.le
      omega
    · exact heq
    · have := h.mono (a := b + 1) (b := β i) hgt h3.le
      omega

theorem at_cut {b : ℕ} (hb : b < c) : β (cut b) = b :=
  (h.eq_iff (h.cut_lt hb) hb).mpr ⟨le_rfl, h.lt_succ b hb⟩

theorem monotoneOn : MonotoneOn β (Set.Iio n) := by
  intro i hi j hj hij
  by_contra hlt
  rw [not_le] at hlt
  have h1 := h.mono (a := β j + 1) (b := β i) hlt (h.lt_count i hi).le
  have h2 := h.cut_le i hi
  have h3 := h.lt_cut j hj
  omega

theorem lt_iff {i b : ℕ} (hi : i < n) (hb : b ≤ c) : β i < b ↔ i < cut b := by
  have h1 := h.cut_le i hi
  have h2 := h.lt_cut i hi
  constructor
  · intro hlt
    have := h.mono (a := β i + 1) (b := b) hlt hb
    omega
  · intro hlt
    by_contra hge
    have := h.mono (a := b) (b := β i) (by omega) (h.lt_count i hi).le
    omega

theorem filter_eq_Ico {b : ℕ} (hb : b < c) :
    (Finset.range n).filter (fun i => β i = b) = Finset.Ico (cut b) (cut (b + 1)) := by
  have hn := h.mono (a := b + 1) (b := c) hb le_rfl
  rw [h.last] at hn
  ext i
  rw [Finset.mem_filter, Finset.mem_range, Finset.mem_Ico]
  constructor
  · rintro ⟨hi, he⟩
    exact (h.eq_iff hi hb).mp he
  · rintro ⟨hl, hu⟩
    exact ⟨by omega, (h.eq_iff (by omega) hb).mpr ⟨hl, hu⟩⟩

end Cuts

namespace BucketMapping

structure Shape (s n little big : ℕ) : Prop where
  split_le : s ≤ n
  little_le : little ≤ s
  big_le : big ≤ n - s
  count_pos : 0 < n → 0 < little + big
  little_pos : little + big ≠ 1 → 0 < s → 0 < little
  big_pos : little + big ≠ 1 → s < n → 0 < big

theorem shape_clusterBuckets {s n B : ℕ} (hB : 1 ≤ B) (hs : s ≤ n) :
    Shape s n (clusterBuckets s n B).1 (clusterBuckets s n B).2 := by
  unfold clusterBuckets
  split
  · exact ⟨hs, by omega, by omega, by omega, by omega, by omega⟩
  · exact ⟨hs, by omega, by omega, by omega, by omega, by omega⟩

def littleCount (fs : FrequencyTable) (B : ℕ) : ℕ := (clusterBuckets fs.split fs.length B).1

def bigCount (fs : FrequencyTable) (B : ℕ) : ℕ := (clusterBuckets fs.split fs.length B).2

theorem bucketSize_eq (slots buckets : ℕ) : bucketSize slots buckets = slots / buckets := by
  unfold bucketSize
  split_ifs with h
  · rw [h, Nat.div_zero]
  · rfl

section Fields

variable (fs : FrequencyTable) (B : ℕ)

@[simp]
theorem frequencies_layout : (layout fs B).frequencies = fs := rfl

@[simp]
theorem bigStart_layout : (layout fs B).bigStart = fs.split := rfl

@[simp]
theorem littleBuckets_layout : (layout fs B).littleBuckets = littleCount fs B := rfl

@[simp]
theorem bigBuckets_layout : (layout fs B).bigBuckets = bigCount fs B := rfl

@[simp]
theorem littleSize_layout :
    (layout fs B).littleSize = (fs.split / littleCount fs B : ℕ) := by
  rw [← bucketSize_eq]
  rfl

@[simp]
theorem bigSize_layout :
    (layout fs B).bigSize = ((fs.length - fs.split) / bigCount fs B : ℕ) := by
  rw [← bucketSize_eq]
  rfl

@[simp]
theorem count_layout : (layout fs B).count = (littleCount fs B + bigCount fs B : ℕ) := by
  rw [Int.natCast_add]
  rfl

end Fields

theorem create_of_pos (fs : FrequencyTable) {requested : ℤ} (h : 1 ≤ requested) :
    create fs requested = .ok (layout fs requested.toNat) := by
  rw [create, if_neg (by omega)]

theorem shape_layout (fs : FrequencyTable) {B : ℕ} (hB : 1 ≤ B) :
    Shape fs.split fs.length (littleCount fs B) (bigCount fs B) :=
  shape_clusterBuckets hB fs.split_le_length

def cut (s n little big b : ℕ) : ℕ :=
  if little + big ≤ b then n
  else if little + big = 1 then 0
  else if b < little then b * (s / little)
  else s + (b - little) * ((n - s) / big)

theorem cut_of_count_le {s n little big b : ℕ} (h : little + big ≤ b) :
    cut s n little big b = n := by
  rw [cut, if_pos h]

theorem cut_little {s n little big b : ℕ} (hc : little + big ≠ 1) (hb : b < little) :
    cut s n little big b = b * (s / little) := by
  rw [cut, if_neg (by omega), if_neg hc, if_pos hb]

theorem cut_big {s n little big b : ℕ} (hc : little + big ≠ 1) (hb : b < big) :
    cut s n little big (little + b) = s + b * ((n - s) / big) := by
  rw [cut, if_neg (by omega), if_neg hc, if_neg (by omega), Nat.add_sub_cancel_left]

def shareIndex (slots buckets i : ℕ) : ℕ := min (i / (slots / buckets)) (buckets - 1)

theorem size_pos {slots buckets : ℕ} (h0 : 0 < buckets) (hle : buckets ≤ slots) :
    0 < slots / buckets := Nat.div_pos hle h0

theorem last_share_lt {slots buckets : ℕ} (h0 : 0 < buckets) (hle : buckets ≤ slots) :
    (buckets - 1) * (slots / buckets) < slots := by
  have hq := size_pos h0 hle
  calc (buckets - 1) * (slots / buckets) < buckets * (slots / buckets) :=
        Nat.mul_lt_mul_of_pos_right (by omega) hq
    _ ≤ slots := Nat.mul_div_le slots buckets

theorem shareIndex_lt (slots : ℕ) {buckets : ℕ} (h0 : 0 < buckets) (i : ℕ) :
    shareIndex slots buckets i < buckets := by
  unfold shareIndex
  omega

theorem shareIndex_mul_le (slots buckets i : ℕ) :
    shareIndex slots buckets i * (slots / buckets) ≤ i := by
  calc shareIndex slots buckets i * (slots / buckets)
      ≤ i / (slots / buckets) * (slots / buckets) :=
        Nat.mul_le_mul_right _ (min_le_left _ _)
    _ ≤ i := Nat.div_mul_le_self _ _

theorem lt_shareIndex_succ_mul {slots buckets i : ℕ} (hle : buckets ≤ slots)
    (h : shareIndex slots buckets i + 1 < buckets) :
    i < (shareIndex slots buckets i + 1) * (slots / buckets) := by
  have he : shareIndex slots buckets i = i / (slots / buckets) := by
    unfold shareIndex at h ⊢
    omega
  rw [he, mul_comm]
  exact Nat.lt_mul_div_succ i (size_pos (by omega) hle)

namespace Shape

variable {s n little big : ℕ} (h : Shape s n little big)
include h

theorem split_eq (hc : little + big ≠ 1) (hb : big = 0) : s = n := by
  have h1 := h.split_le
  have h2 := h.big_pos hc
  omega

theorem cut_zero : cut s n little big 0 = 0 := by
  have h1 := h.count_pos
  have h2 := h.split_le
  have h3 := h.little_pos
  unfold cut
  split_ifs with ha hb hl
  · omega
  · rfl
  · rw [Nat.zero_mul]
  · have : s = 0 := by omega
    rw [this, Nat.zero_sub, Nat.zero_mul]

theorem cut_at_little (hc : little + big ≠ 1) : cut s n little big little = s := by
  rcases Nat.eq_zero_or_pos big with hb | hb
  · rw [cut_of_count_le (by omega), h.split_eq hc hb]
  · simpa using cut_big (s := s) (n := n) hc hb

theorem cut_lt_cut_succ {b : ℕ} (hb : b < little + big) :
    cut s n little big b < cut s n little big (b + 1) := by
  have hl := h.little_le
  have hg := h.big_le
  by_cases hc : little + big = 1
  · rw [cut_of_count_le (b := b + 1) (by omega), cut, if_neg (by omega), if_pos hc]
    have := h.split_le
    omega
  · rcases lt_or_ge b little with hlt | hge
    · have hq := size_pos (by omega) hl
      rw [cut_little hc hlt]
      rcases Nat.lt_or_ge (b + 1) little with hlt' | hge'
      · rw [cut_little hc hlt']
        exact Nat.mul_lt_mul_of_pos_right (by omega) hq
      · obtain rfl : little = b + 1 := by omega
        rw [h.cut_at_little hc]
        exact last_share_lt (by omega) hl
    · obtain ⟨k, rfl⟩ := Nat.exists_eq_add_of_le hge
      have hq := size_pos (by omega) hg
      rw [cut_big hc (by omega)]
      rcases Nat.lt_or_ge (k + 1) big with hlt' | hge'
      · rw [Nat.add_assoc, cut_big hc hlt']
        exact Nat.add_lt_add_left (Nat.mul_lt_mul_of_pos_right (by omega) hq) _
      · obtain rfl : big = k + 1 := by omega
        have := last_share_lt (by omega) hg
        have := h.split_le
        rw [cut_of_count_le (b := little + k + 1) (by omega)]
        rw [Nat.add_sub_cancel] at *
        omega

end Shape

theorem shareIndex_cast {slots buckets i : ℕ} (h0 : 0 < buckets) :
    min ((i : ℤ).fdiv ((slots / buckets : ℕ) : ℤ)) ((buckets : ℤ) - 1) =
      shareIndex slots buckets i := by
  rw [← Int.ofNat_fdiv, shareIndex]
  omega

def bucketIndex (s n little big i : ℕ) : ℕ :=
  if little + big = 1 then 0
  else if i < s then shareIndex s little i
  else little + shareIndex (n - s) big (i - s)

theorem Shape.cuts {s n little big : ℕ} (h : Shape s n little big) :
    Cuts n (little + big) (cut s n little big) (bucketIndex s n little big) where
  zero := h.cut_zero
  last := cut_of_count_le le_rfl
  lt_succ _ hb := h.cut_lt_cut_succ hb
  lt_count i hi := by
    have hl := h.little_pos
    have hg := h.big_pos
    unfold bucketIndex
    split_ifs with hc hs
    · omega
    · have := shareIndex_lt s (hl hc (by omega)) i
      omega
    · have := shareIndex_lt (n - s) (hg hc (by omega)) (i - s)
      omega
  cut_le i hi := by
    have hl := h.little_pos
    have hg := h.big_pos
    unfold bucketIndex
    split_ifs with hc hs
    · rw [h.cut_zero]
      exact Nat.zero_le i
    · rw [cut_little hc (shareIndex_lt s (hl hc (by omega)) i)]
      exact shareIndex_mul_le s little i
    · rw [cut_big hc (shareIndex_lt _ (hg hc (by omega)) _)]
      have := shareIndex_mul_le (n - s) big (i - s)
      omega
  lt_cut i hi := by
    have hl := h.little_pos
    have hg := h.big_pos
    unfold bucketIndex
    split_ifs with hc hs
    · rwa [cut_of_count_le (by omega)]
    · have hlt := shareIndex_lt s (hl hc (by omega)) i
      rcases Nat.lt_or_ge (shareIndex s little i + 1) little with hk | hk
      · rw [cut_little hc hk]
        exact lt_shareIndex_succ_mul h.little_le hk
      · rw [show shareIndex s little i + 1 = little by omega, h.cut_at_little hc]
        exact hs
    · have hlt := shareIndex_lt (n - s) (hg hc (by omega)) (i - s)
      rw [Nat.add_assoc]
      rcases Nat.lt_or_ge (shareIndex (n - s) big (i - s) + 1) big with hk | hk
      · rw [cut_big hc hk]
        have := lt_shareIndex_succ_mul h.big_le hk
        omega
      · rwa [cut_of_count_le (by omega)]

theorem bucketOf_layout (fs : FrequencyTable) {B i : ℕ} (hB : 1 ≤ B) (hi : i < fs.length)
    (hc : littleCount fs B + bigCount fs B ≠ 1) :
    (layout fs B).bucketOf i =
      .ok (bucketIndex fs.split fs.length (littleCount fs B) (bigCount fs B) i : ℕ) := by
  have h := shape_layout fs hB
  unfold bucketOf bucketIndex
  rw [count_layout, littleBuckets_layout, bigStart_layout, littleSize_layout, bigSize_layout,
    if_neg hc]
  rcases Nat.lt_or_ge i fs.split with hs | hs
  · have hl := h.little_pos hc (by omega)
    have hq := size_pos hl h.little_le
    rw [if_pos (by omega), if_pos hs, if_neg (by omega), shareIndex_cast hl]
  · have hg := h.big_pos hc (by omega)
    have hq := size_pos hg h.big_le
    rw [if_neg (by omega), if_neg (by omega), if_neg (by omega), ← Int.ofNat_sub hs,
      Int.natCast_add, Int.natCast_add, add_sub_assoc, min_add_add_left, shareIndex_cast hg]

end BucketMapping

end Residency
