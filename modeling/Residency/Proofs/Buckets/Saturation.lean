import Residency.Proofs.Buckets.Safety

namespace Residency

namespace Cuts

variable {n c : ℕ} {cut β : ℕ → ℕ}

theorem add_le_cut (h : Cuts n c cut β) {a b : ℕ} (hab : a ≤ b) (hb : b ≤ c) :
    cut a + (b - a) ≤ cut b := by
  induction b, hab using Nat.le_induction with
  | base => rw [Nat.sub_self, Nat.add_zero]
  | succ b hle ih =>
    have hstep := h.lt_succ b hb
    have := ih (by omega)
    omega

variable (h : Cuts n n cut β)
include h

theorem cut_eq_self {b : ℕ} (hb : b ≤ n) : cut b = b := by
  have hlow := h.add_le_cut (Nat.zero_le b) hb
  have hhigh := h.add_le_cut hb le_rfl
  rw [h.zero] at hlow
  rw [h.last] at hhigh
  omega

theorem eq_self {i : ℕ} (hi : i < n) : β i = i := by
  rw [h.eq_iff hi hi, h.cut_eq_self hi.le, h.cut_eq_self hi]
  exact ⟨le_rfl, Nat.lt_succ_self i⟩

end Cuts

namespace BucketMapping

theorem clusterBuckets_mono (s n : ℕ) {B B' : ℕ} (h : B ≤ B') :
    (clusterBuckets s n B).1 ≤ (clusterBuckets s n B').1 ∧
      (clusterBuckets s n B).2 ≤ (clusterBuckets s n B').2 := by
  unfold clusterBuckets
  split_ifs
  · dsimp only
    omega
  · dsimp only
    omega

def IsEnough (fs : FrequencyTable) (requested : ℤ) : Prop :=
  (fs.descents = 0 ∧ fs.length ≤ requested) ∨
    (fs.descents ≠ 0 ∧ fs.split ≤ requested / 2 ∧ fs.length - fs.split ≤ requested - requested / 2)

instance (fs : FrequencyTable) (requested : ℤ) : Decidable (IsEnough fs requested) :=
  inferInstanceAs (Decidable (_ ∨ _))

theorem isEnough_iff {fs : FrequencyTable} {requested : ℤ} (h : 1 ≤ requested) :
    IsEnough fs requested ↔
      littleCount fs requested.toNat = fs.split ∧
        bigCount fs requested.toNat = fs.length - fs.split := by
  have hle := fs.split_le_length
  by_cases hd : fs.descents = 0
  · obtain ⟨hlittle, hbig⟩ := clusterBuckets_of_descents_eq_zero hd requested.toNat
    have hsplit := mt FrequencyTable.split_lt_length_iff.mp (not_not.mpr hd)
    rw [IsEnough, hlittle, hbig]
    simp only [hd, ne_eq, not_true_eq_false, true_and, false_and, or_false]
    omega
  · obtain ⟨hlittle, hbig⟩ := clusterBuckets_of_descents_ne_zero hd requested.toNat
    rw [IsEnough, hlittle, hbig]
    simp only [hd, ne_eq, not_false_eq_true, true_and, false_and, false_or]
    omega

theorem isEnough_iff_count {fs : FrequencyTable} {requested : ℤ} (h : 1 ≤ requested) :
    IsEnough fs requested ↔
      littleCount fs requested.toNat + bigCount fs requested.toNat = fs.length := by
  have hshape := shape_layout fs (B := requested.toNat) (by omega)
  have hlittle := hshape.little_le
  have hbig := hshape.big_le
  have hle := fs.split_le_length
  rw [isEnough_iff h]
  omega

theorem range_map_getD (values : List ℤ) :
    ((List.range values.length).map fun i => values.getD i 0) = values := by
  apply List.ext_getElem
  · simp
  · intro i h1 h2
    simp [List.getElem?_eq_getElem h2]

theorem bucketSum_of_eq_self {β : ℕ → ℕ} {values : List ℤ} (h : ∀ i < values.length, β i = i)
    {b : ℕ} (hb : b < values.length) : bucketSum β values b = values.getD b 0 := by
  have hfilter : (Finset.range values.length).filter (fun i => β i = b) = {b} := by
    ext i
    rw [Finset.mem_filter, Finset.mem_range, Finset.mem_singleton]
    constructor
    · rintro ⟨hi, rfl⟩
      exact (h i hi).symm
    · rintro rfl
      exact ⟨hb, h i hb⟩
  rw [bucketSum, hfilter, Finset.sum_singleton]

section Enough

variable {fs : FrequencyTable} {B : ℕ} (hB : 1 ≤ B)
include hB

theorem bucketValues_eq_self_iff :
    (∀ values : List ℤ, values.length = fs.length →
      (layout fs B).bucketValues values = .ok values) ↔
      littleCount fs B + bigCount fs B = fs.length := by
  constructor
  · intro h
    have hself := (bucketValues_layout_eq_ok fs hB).mp (h (fs.map id) (by simp))
    have hlen := congrArg List.length hself.2
    simpa using hlen
  · intro hc values hv
    have hcuts := cuts_layout fs hB
    rw [hc, ← hv] at hcuts
    rw [bucketValues_layout_eq_ok fs hB, hc, ← hv]
    refine ⟨rfl, Eq.trans (List.map_congr_left fun b hb => ?_) (range_map_getD values)⟩
    exact bucketSum_of_eq_self (fun i hi => hcuts.eq_self hi) (List.mem_range.mp hb)

theorem minFrequencies_eq_self_iff :
    (layout fs B).minFrequencies = .ok fs ↔
      littleCount fs B + bigCount fs B = fs.length := by
  rw [minFrequencies_layout fs hB, Except.ok.injEq]
  constructor
  · intro h
    have hlen := congrArg List.length h
    simpa using hlen
  · intro hc
    have hcuts := (shape_layout fs hB).cuts
    rw [hc] at hcuts ⊢
    refine Eq.trans (List.map_congr_left fun b hb => ?_) (range_map_getD fs)
    rw [hcuts.cut_eq_self (List.mem_range.mp hb).le]

end Enough

theorem layout_congr {fs : FrequencyTable} {B B' : ℕ}
    (hlittle : littleCount fs B = littleCount fs B')
    (hbig : bigCount fs B = bigCount fs B') : layout fs B = layout fs B' := by
  have hfields (B : ℕ) : layout fs B = ⟨fs, fs.split, littleCount fs B, bigCount fs B,
      bucketSize fs.split (littleCount fs B), bucketSize (fs.length - fs.split) (bigCount fs B)⟩ :=
    rfl
  rw [hfields B, hfields B', hlittle, hbig]

theorem create_saturates (fs : FrequencyTable) :
    (∀ requested more : ℤ, 1 ≤ requested → requested ≤ more →
      ∃ m m', create fs requested = .ok m ∧ create fs more = .ok m' ∧ m.count ≤ m'.count ∧
        m.littleBuckets ≤ m'.littleBuckets ∧ m.bigBuckets ≤ m'.bigBuckets) ∧
    (∀ requested : ℤ, 1 ≤ requested → ∃ m, create fs requested = .ok m ∧
      ((∀ values : List ℤ, values.length = fs.length → m.bucketValues values = .ok values) ↔
        IsEnough fs requested) ∧
      (m.minFrequencies = .ok fs ↔ IsEnough fs requested)) ∧
    ∀ requested other : ℤ, 1 ≤ requested → 1 ≤ other → IsEnough fs requested →
      IsEnough fs other → ∃ m, create fs requested = .ok m ∧ create fs other = .ok m := by
  refine ⟨?_, ?_, ?_⟩
  · intro requested more h hmore
    obtain ⟨hlittle, hbig⟩ := clusterBuckets_mono fs.split fs.length (Int.toNat_le_toNat hmore)
    refine ⟨_, _, create_of_pos fs h, create_of_pos fs (h.trans hmore), ?_⟩
    rw [count_layout, count_layout, littleBuckets_layout, littleBuckets_layout,
      bigBuckets_layout, bigBuckets_layout]
    unfold littleCount bigCount
    omega
  · intro requested h
    have hB : 1 ≤ requested.toNat := by omega
    refine ⟨_, create_of_pos fs h, ?_⟩
    rw [bucketValues_eq_self_iff hB, minFrequencies_eq_self_iff hB, isEnough_iff_count h]
    exact ⟨Iff.rfl, Iff.rfl⟩
  · intro requested other h hother hrequested henough
    obtain ⟨hlittle, hbig⟩ := (isEnough_iff h).mp hrequested
    obtain ⟨hlittle', hbig'⟩ := (isEnough_iff hother).mp henough
    refine ⟨_, create_of_pos fs h, (create_of_pos fs hother).trans (congrArg _ ?_)⟩
    exact layout_congr (hlittle'.trans hlittle.symm) (hbig'.trans hbig.symm)

/-- Half of five buckets are too few for three little slots. -/
theorem create_saturates_of_five_slots :
    (∃ m, create [100, 200, 300, 250, 350] 5 = .ok m ∧
      m.minFrequencies ≠ .ok [100, 200, 300, 250, 350]) ∧
    ∃ m, create [100, 200, 300, 250, 350] 6 = .ok m ∧
      create [100, 200, 300, 250, 350] 9 = .ok m ∧
      m.minFrequencies = .ok [100, 200, 300, 250, 350] ∧
      m.bucketValues [1, 2, 3, 4, 5] = .ok [1, 2, 3, 4, 5] := by
  obtain ⟨-, hself, hsame⟩ := create_saturates [100, 200, 300, 250, 350]
  obtain ⟨five, hfive, -, hlowest⟩ := hself 5 (by decide)
  obtain ⟨six, hsix, hvalues, hlowest'⟩ := hself 6 (by decide)
  obtain ⟨m, hm, hnine⟩ := hsame 6 9 (by decide) (by decide) (by decide) (by decide)
  obtain rfl := Except.ok.inj (hm.symm.trans hsix)
  exact ⟨⟨five, hfive, fun h => absurd (hlowest.mp h) (by decide)⟩,
    m, hm, hnine, hlowest'.mpr (by decide), hvalues.mpr (by decide) [1, 2, 3, 4, 5] rfl⟩

end BucketMapping

end Residency
