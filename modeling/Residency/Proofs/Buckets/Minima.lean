import Mathlib.Order.Bounds.Basic
import Residency.Proofs.Buckets.Sums
import Residency.Proofs.Descents

/-!
The labels of buckets. The lowest frequencies of a created mapping are looked up by multiplication
and its values are summed by division; both go by the same layout.
-/
namespace Residency.BucketMapping

theorem frequencyAt_natCast {m : BucketMapping} {i : ℕ} (h : i < m.frequencies.length) :
    m.frequencyAt i = .ok (m.frequencies.getD i 0) := by
  simp [frequencyAt, index?_natCast h, List.getElem?_eq_getElem h]

theorem firstFrequencies_eq (m : BucketMapping) (first : ℕ → ℕ) (size slot k : ℕ)
    (h : ∀ j < k, first j = slot + j * size ∧ first j < m.frequencies.length) :
    m.firstFrequencies size slot k =
      .ok ((List.range k).map fun j => m.frequencies.getD (first j) 0) := by
  induction k generalizing slot first with
  | zero => rfl
  | succ k ih =>
    obtain ⟨he, h0⟩ := h 0 (by omega)
    rw [Nat.zero_mul, Nat.add_zero] at he
    have hrest : ∀ j < k, first (j + 1) = slot + size + j * size ∧
        first (j + 1) < m.frequencies.length := by
      intro j hj
      obtain ⟨hej, hlt⟩ := h (j + 1) (by omega)
      rw [Nat.succ_mul] at hej
      exact ⟨by omega, hlt⟩
    rw [firstFrequencies, ← he, frequencyAt_natCast h0, ← Int.natCast_add, he, ih _ _ hrest,
      List.range_succ_eq_map, List.map_cons, List.map_map, he]
    rfl

theorem minFrequencies_layout (fs : FrequencyTable) {B : ℕ} (hB : 1 ≤ B) :
    (layout fs B).minFrequencies =
      .ok ((List.range (littleCount fs B + bigCount fs B)).map fun b =>
        fs.getD (cut fs.split fs.length (littleCount fs B) (bigCount fs B) b) 0) := by
  have hcuts := (shape_layout fs hB).cuts
  rw [minFrequencies, count_layout]
  split_ifs with hone
  · have hc : littleCount fs B + bigCount fs B = 1 := by omega
    have h0 := hcuts.cut_lt (b := 0) (by omega)
    rw [hcuts.zero] at h0
    have hat := frequencyAt_natCast (m := layout fs B) h0
    rw [Int.natCast_zero] at hat
    rw [hat, hc, frequencies_layout]
    simp [Except.map, List.range_succ, hcuts.zero]
  · have hc : littleCount fs B + bigCount fs B ≠ 1 := by omega
    have hlittle := firstFrequencies_eq (layout fs B)
      (cut fs.split fs.length (littleCount fs B) (bigCount fs B))
      (fs.split / littleCount fs B) 0 (littleCount fs B) fun j hj =>
        ⟨by rw [cut_little hc hj, Nat.zero_add], hcuts.cut_lt (by omega)⟩
    have hbig := firstFrequencies_eq (layout fs B)
      (fun j => cut fs.split fs.length (littleCount fs B) (bigCount fs B) (littleCount fs B + j))
      ((fs.length - fs.split) / bigCount fs B) fs.split (bigCount fs B) fun j hj =>
        ⟨cut_big hc hj, hcuts.cut_lt (by omega)⟩
    rw [Int.natCast_zero] at hlittle
    rw [littleSize_layout, bigSize_layout, bigStart_layout, littleBuckets_layout,
      bigBuckets_layout, Int.toNat_natCast, Int.toNat_natCast, hlittle, hbig, List.range_add,
      List.map_append, List.map_map]
    rfl

theorem isLeast_cut {n c b : ℕ} {cut β : ℕ → ℕ} (h : Cuts n c cut β) (hb : b < c) :
    IsLeast {i | i < n ∧ β i = b} (cut b) := by
  refine ⟨⟨h.cut_lt hb, h.at_cut hb⟩, ?_⟩
  rintro i ⟨hi, rfl⟩
  exact h.cut_le i hi

theorem cut_le_of_ascending {fs : FrequencyTable} {B : ℕ} (hB : 1 ≤ B) (hd : fs.descents ≤ 1)
    (hc : fs.descents = 0 ∨ littleCount fs B + bigCount fs B ≠ 1) {i : ℕ} (hi : i < fs.length) :
    fs.getD (cut fs.split fs.length (littleCount fs B) (bigCount fs B)
      ((layout fs B).slotBucket i)) 0 ≤ fs[i] := by
  have hshape := shape_layout fs hB
  have hcuts := cuts_layout fs hB
  have hle := hcuts.cut_le i hi
  rw [List.getD_eq_getElem?_getD, List.getElem?_eq_getElem (by omega), Option.getD_some]
  rcases hc with h0 | hc
  · exact FrequencyTable.le_of_descents_eq_zero h0 hle hi
  · apply FrequencyTable.le_of_same_cluster hd hle hi
    -- A slot and the first slot of its bucket lie on the same side of the split.
    have hfirst := hcuts.lt_iff (hle.trans_lt hi) (b := littleCount fs B) (by omega)
    have hslot := hcuts.lt_iff hi (b := littleCount fs B) (by omega)
    rw [hcuts.at_cut (hcuts.lt_count i hi), hshape.cut_at_little hc] at hfirst
    rw [hshape.cut_at_little hc] at hslot
    exact hfirst.symm.trans hslot

theorem minFrequencies_create (fs : FrequencyTable) {requested : ℤ} (h : 1 ≤ requested) :
    ∃ (m : BucketMapping) (lowest : List ℤ), create fs requested = .ok m ∧
      m.minFrequencies = .ok lowest ∧ (lowest.length : ℤ) = m.count ∧ m.SumsBy m.slotBucket ∧
      (∀ b (hb : b < lowest.length), ∃ i, ∃ hi : i < fs.length,
        IsLeast {j | j < fs.length ∧ m.slotBucket j = b} i ∧ lowest[b] = fs[i]) ∧
      (fs.descents ≤ 1 → fs.descents = 0 ∨ 2 ≤ m.count → ∀ i (hi : i < fs.length),
        ∃ hb : m.slotBucket i < lowest.length, lowest[m.slotBucket i] ≤ fs[i]) := by
  have hB : 1 ≤ requested.toNat := by omega
  have hcuts := cuts_layout fs hB
  refine ⟨layout fs requested.toNat, _, by rw [create, if_neg (by omega)],
    minFrequencies_layout fs hB, ?_, sumsBy_slotBucket fs hB, ?_, ?_⟩
  · rw [List.length_map, List.length_range, count_layout]
  · intro b hb
    rw [List.length_map, List.length_range] at hb
    have hlt := hcuts.cut_lt hb
    refine ⟨_, hlt, isLeast_cut hcuts hb, ?_⟩
    rw [List.getElem_map, List.getElem_range, List.getD_eq_getElem?_getD,
      List.getElem?_eq_getElem hlt, Option.getD_some]
  · intro hd hc i hi
    rw [count_layout] at hc
    refine ⟨by simpa using hcuts.lt_count i hi, ?_⟩
    rw [List.getElem_map, List.getElem_range]
    exact cut_le_of_ascending hB hd (by omega) hi

theorem minFrequencies_create_of_seven_slots :
    ∃ m, create [100, 200, 300, 250, 350, 450, 500] 4 = .ok m ∧
      m.minFrequencies = .ok [100, 200, 250, 450] ∧
      (∃ i, IsLeast {j | j < 7 ∧ m.slotBucket j = 3} i ∧
        [100, 200, 300, 250, 350, 450, 500][i]? = some (450 : ℤ)) ∧
      ∃ b, m.slotBucket 6 = b ∧ ∃ f, [100, 200, 250, 450][b]? = some f ∧ f ≤ (500 : ℤ) := by
  obtain ⟨m, lowest, hm, hmin, -, -, hfirst, hle⟩ :=
    minFrequencies_create [100, 200, 300, 250, 350, 450, 500] (show (1 : ℤ) ≤ 4 by decide)
  obtain rfl : layout [100, 200, 300, 250, 350, 450, 500] 4 = m := Except.ok.inj hm
  obtain rfl : [100, 200, 250, 450] = lowest := Except.ok.inj (Eq.trans (by rfl) hmin)
  refine ⟨_, hm, hmin, ?_, _, rfl, ?_⟩
  · obtain ⟨i, hi, hleast, he⟩ := hfirst 3 (by decide)
    exact ⟨i, hleast, by rw [List.getElem?_eq_getElem hi, ← he]; rfl⟩
  · obtain ⟨hb, hf⟩ := hle (by decide) (.inr (by decide)) 6 (by decide)
    exact ⟨_, List.getElem?_eq_getElem hb, hf⟩

end Residency.BucketMapping
