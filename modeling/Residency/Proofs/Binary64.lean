import Mathlib.Algebra.Order.Field.Power
import Mathlib.Data.Rat.Floor
import Mathlib.Tactic.FieldSimp
import Mathlib.Tactic.Linarith
import Mathlib.Tactic.NormNum
import Mathlib.Tactic.Positivity
import Mathlib.Tactic.Ring
import Residency.Number.DecimalText

/-!
The floating point number of a quotient. It is a multiple of a power of two that is nearest to the
quotient, so it does not fall when the quotient grows, and it differs from the quotient by half of
that power at most.
-/
namespace Residency.Number

section Rounding

variable {n d n' d' : ℕ}

theorem roundHalfEven_mono (hd : 0 < d) (hd' : 0 < d') (hle : (n / d : ℚ) ≤ n' / d') :
    roundHalfEven n d ≤ roundHalfEven n' d' := by
  have h : n * d' ≤ n' * d := by
    rw [div_le_div_iff₀ (Nat.cast_pos.mpr hd) (Nat.cast_pos.mpr hd')] at hle
    exact_mod_cast hle
  have hquot : n / d ≤ n' / d' := by
    rw [Nat.le_div_iff_mul_le hd']
    refine Nat.le_of_mul_le_mul_right ?_ hd
    calc n / d * d' * d = n / d * d * d' := by ring
      _ ≤ n * d' := Nat.mul_le_mul_right d' (Nat.div_mul_le_self n d)
      _ ≤ n' * d := h
  rcases hquot.lt_or_eq with hlt | heq
  · have hle := roundHalfEven_le n d
    have hge := div_le_roundHalfEven n' d'
    omega
  -- The whole parts are equal, so the remainders decide, and the parity of a tie is the same.
  · have hrest : n % d * d' ≤ n' % d' * d := by
      have hn := Nat.div_add_mod n d
      have hn' := Nat.div_add_mod n' d'
      rw [heq] at hn
      nlinarith
    have hup : 2 * (n' % d') < d' → 2 * (n % d) < d := by
      intro hlt
      by_contra hge
      nlinarith
    have htie : 2 * (n' % d') = d' → 2 * (n % d) ≤ d := by
      intro heq'
      by_contra hgt
      nlinarith
    unfold roundHalfEven
    split_ifs with h1 h2 h2 <;> omega

theorem roundHalfEven_zero (d : ℕ) : roundHalfEven 0 d = 0 := by
  simp [roundHalfEven, eq_comm]

theorem roundHalfEven_one (n : ℕ) : roundHalfEven n 1 = n := by
  simp [roundHalfEven, Nat.mod_one]

theorem le_roundHalfEven {k : ℕ} (hd : 0 < d) (h : (k : ℚ) ≤ n / d) : k ≤ roundHalfEven n d := by
  have hmono := roundHalfEven_mono (n := k) Nat.one_pos hd (by simpa using h)
  rwa [roundHalfEven_one] at hmono

theorem roundHalfEven_le_of_le {k : ℕ} (hd : 0 < d) (h : (n / d : ℚ) ≤ k) :
    roundHalfEven n d ≤ k := by
  have hmono : roundHalfEven n d ≤ roundHalfEven k 1 :=
    roundHalfEven_mono hd Nat.one_pos (by simpa using h)
  rwa [roundHalfEven_one] at hmono

theorem abs_roundHalfEven_sub_le (hd : 0 < d) : |(roundHalfEven n d : ℚ) - n / d| ≤ 1 / 2 := by
  have hd' : (0 : ℚ) < d := Nat.cast_pos.mpr hd
  have hn := Nat.div_add_mod' n d
  have hlt := Nat.mod_lt n hd
  have hbelow : 2 * (roundHalfEven n d * d) ≤ 2 * n + d := by
    unfold roundHalfEven
    split_ifs with h
    · omega
    · rw [Nat.succ_mul (n / d) d]
      omega
  have habove : 2 * n ≤ 2 * (roundHalfEven n d * d) + d := by
    unfold roundHalfEven
    split_ifs with h
    · omega
    · rw [Nat.succ_mul (n / d) d]
      omega
  have hbelow' : 2 * ((roundHalfEven n d : ℚ) * d) ≤ 2 * n + d := by exact_mod_cast hbelow
  have habove' : 2 * (n : ℚ) ≤ 2 * (roundHalfEven n d * d) + d := by exact_mod_cast habove
  rw [abs_le, neg_le_sub_iff_le_add, sub_le_iff_le_add, div_le_iff₀ hd',
    ← sub_le_iff_le_add', le_div_iff₀ hd']
  constructor <;> linarith

end Rounding

namespace Binary64

section Scaling

variable (num den n : ℕ) (e : ℤ)

theorem scaled_pos : 0 < (scaled n e).2 := by
  unfold scaled
  split_ifs
  · exact Nat.one_pos
  · exact Nat.two_pow_pos _

theorem div_scaled : ((scaled n e).1 : ℚ) / (scaled n e).2 = n * 2 ^ e := by
  unfold scaled
  split_ifs with h
  · obtain ⟨k, rfl⟩ := Int.eq_ofNat_of_zero_le h
    simp
  · obtain ⟨k, rfl⟩ := Int.exists_eq_neg_ofNat (by omega : e ≤ 0)
    simp [div_eq_mul_inv]

theorem unscaled_pos {den : ℕ} (hden : 0 < den) : 0 < (unscaled num den e).2 := by
  unfold unscaled
  split_ifs
  · exact Nat.mul_pos hden (Nat.two_pow_pos _)
  · exact hden

theorem div_unscaled :
    ((unscaled num den e).1 : ℚ) / (unscaled num den e).2 = num / den / 2 ^ e := by
  unfold unscaled
  split_ifs with h
  · obtain ⟨k, rfl⟩ := Int.eq_ofNat_of_zero_le h
    simp [div_div]
  · obtain ⟨k, rfl⟩ := Int.exists_eq_neg_ofNat (by omega : e ≤ 0)
    simp [div_eq_mul_inv, mul_right_comm]

end Scaling

section Exponents

variable {num den num' den' : ℕ}

theorem div_pos (hnum : 0 < num) (hden : 0 < den) : (0 : ℚ) < num / den := by
  positivity

theorem log2_bounds {n : ℕ} (hn : 0 < n) :
    (2 : ℚ) ^ (n.log2 : ℤ) ≤ n ∧ (n : ℚ) < 2 ^ (n.log2 + 1 : ℤ) := by
  constructor
  · exact_mod_cast Nat.log2_self_le hn.ne'
  · exact_mod_cast Nat.lt_log2_self

theorem div_bounds (hnum : 0 < num) (hden : 0 < den) :
    (2 : ℚ) ^ ((num.log2 : ℤ) - den.log2 - 1) ≤ num / den ∧
      (num / den : ℚ) < 2 ^ ((num.log2 : ℤ) - den.log2 + 1) := by
  have hden' : (0 : ℚ) < den := Nat.cast_pos.mpr hden
  obtain ⟨hnum₁, hnum₂⟩ := log2_bounds hnum
  obtain ⟨hden₁, hden₂⟩ := log2_bounds hden
  generalize (num.log2 : ℤ) = a at *
  generalize (den.log2 : ℤ) = b at *
  constructor
  · rw [le_div_iff₀ hden']
    calc (2 : ℚ) ^ (a - b - 1) * den ≤ 2 ^ (a - b - 1) * 2 ^ (b + 1) := by gcongr
      _ = 2 ^ a := by
        rw [← zpow_add₀ two_ne_zero]
        congr 1
        ring
      _ ≤ num := hnum₁
  · rw [div_lt_iff₀ hden']
    calc (num : ℚ) < 2 ^ (a + 1) := hnum₂
      _ = 2 ^ (a - b + 1) * 2 ^ b := by
        rw [← zpow_add₀ two_ne_zero]
        congr 1
        ring
      _ ≤ 2 ^ (a - b + 1) * den := by gcongr

theorem floorLog2_bounds (hnum : 0 < num) (hden : 0 < den) :
    (2 : ℚ) ^ floorLog2 num den ≤ num / den ∧ (num / den : ℚ) < 2 ^ (floorLog2 num den + 1) := by
  obtain ⟨hlow, hhigh⟩ := div_bounds hnum hden
  unfold floorLog2
  generalize (num.log2 : ℤ) = a at *
  generalize (den.log2 : ℤ) = b at *
  have hscaled := div_unscaled num den (a - b)
  have hpos : (0 : ℚ) < (unscaled num den (a - b)).2 :=
    Nat.cast_pos.mpr (unscaled_pos num (a - b) hden)
  have hpow : (0 : ℚ) < 2 ^ (a - b) := by positivity
  dsimp only
  split_ifs with h
  · refine ⟨?_, hhigh⟩
    rw [← one_le_div₀ hpow, ← hscaled, one_le_div₀ hpos]
    exact_mod_cast h
  · rw [sub_add_cancel]
    refine ⟨hlow, ?_⟩
    rw [← div_lt_one₀ hpow, ← hscaled, div_lt_one₀ hpos]
    exact_mod_cast not_le.mp h

theorem floorLog2_mono (hnum : 0 < num) (hden : 0 < den) (hnum' : 0 < num') (hden' : 0 < den')
    (h : (num / den : ℚ) ≤ num' / den') : floorLog2 num den ≤ floorLog2 num' den' := by
  have hlow := (floorLog2_bounds hnum hden).1
  have hhigh := (floorLog2_bounds hnum' hden').2
  have hlt : (2 : ℚ) ^ floorLog2 num den < 2 ^ (floorLog2 num' den' + 1) :=
    (hlow.trans h).trans_lt hhigh
  rw [zpow_lt_zpow_iff_right₀ one_lt_two] at hlt
  omega

end Exponents

section Nearest

variable (num den : ℕ)

def nearestMantissa : ℕ :=
  roundHalfEven (unscaled num den (placeExponent num den)).1
    (unscaled num den (placeExponent num den)).2

def nearest : ℚ :=
  nearestMantissa num den * 2 ^ placeExponent num den

variable {num den num' den' : ℕ}

theorem mul_two_pow (k : ℕ) (e : ℤ) : ((2 ^ k : ℕ) : ℚ) * 2 ^ e = 2 ^ (k + e) := by
  rw [Nat.cast_pow, Nat.cast_ofNat, ← zpow_natCast, ← zpow_add₀ two_ne_zero]

theorem le_nearestMantissa {k : ℕ} (hden : 0 < den)
    (h : (k : ℚ) * 2 ^ placeExponent num den ≤ num / den) : k ≤ nearestMantissa num den := by
  refine le_roundHalfEven (unscaled_pos num _ hden) ?_
  rwa [div_unscaled, le_div_iff₀ (by positivity)]

theorem nearestMantissa_le {k : ℕ} (hden : 0 < den)
    (h : (num / den : ℚ) ≤ k * 2 ^ placeExponent num den) : nearestMantissa num den ≤ k := by
  refine roundHalfEven_le_of_le (unscaled_pos num _ hden) ?_
  rwa [div_unscaled, div_le_iff₀ (by positivity)]

theorem lt_two_pow_place (hnum : 0 < num) (hden : 0 < den) :
    (num / den : ℚ) < (2 ^ 53 : ℕ) * 2 ^ placeExponent num den := by
  refine (floorLog2_bounds hnum hden).2.trans_le ?_
  rw [mul_two_pow]
  refine zpow_le_zpow_right₀ one_le_two ?_
  unfold placeExponent
  omega

theorem two_pow_place_le (hnum : 0 < num) (hden : 0 < den)
    (h : minExponent < placeExponent num den) :
    (2 ^ 52 : ℕ) * 2 ^ placeExponent num den ≤ (num / den : ℚ) := by
  refine le_trans ?_ (floorLog2_bounds hnum hden).1
  rw [mul_two_pow]
  refine zpow_le_zpow_right₀ one_le_two ?_
  unfold placeExponent at *
  omega

theorem nearest_zero (den : ℕ) : nearest 0 den = 0 := by
  have hmantissa : nearestMantissa 0 den = 0 := by
    unfold nearestMantissa unscaled
    split_ifs <;> simp [roundHalfEven_zero]
  rw [nearest, hmantissa]
  simp

theorem nearest_nonneg : 0 ≤ nearest num den := by
  unfold nearest
  positivity

theorem nearest_mono (hden : 0 < den) (hden' : 0 < den') (h : (num / den : ℚ) ≤ num' / den') :
    nearest num den ≤ nearest num' den' := by
  rcases Nat.eq_zero_or_pos num with rfl | hnum
  · rw [nearest_zero]
    exact nearest_nonneg
  have hpos : (0 : ℚ) < num' / den' := (div_pos hnum hden).trans_le h
  have hnum' : 0 < num' := by
    rw [Nat.pos_iff_ne_zero]
    rintro rfl
    simp at hpos
  have hplace : placeExponent num den ≤ placeExponent num' den' :=
    max_le_max le_rfl (sub_le_sub_right (floorLog2_mono hnum hden hnum' hden' h) 52)
  rcases hplace.lt_or_eq with hlt | heq
  · have hle : nearestMantissa num den ≤ 2 ^ 53 :=
      nearestMantissa_le hden (lt_two_pow_place hnum hden).le
    have hge : 2 ^ 52 ≤ nearestMantissa num' den' :=
      le_nearestMantissa hden'
        (two_pow_place_le hnum' hden' ((le_max_left _ _).trans_lt hlt))
    calc nearest num den ≤ (2 ^ 53 : ℕ) * 2 ^ placeExponent num den := by
          unfold nearest
          gcongr
      _ = (2 ^ 52 : ℕ) * 2 ^ (placeExponent num den + 1) := by
          rw [zpow_add_one₀ two_ne_zero]
          push_cast
          ring
      _ ≤ nearest num' den' := by
          unfold nearest
          gcongr
          · exact one_le_two
          · omega
  · unfold nearest
    rw [← heq]
    gcongr
    unfold nearestMantissa
    rw [← heq]
    refine roundHalfEven_mono (unscaled_pos _ _ hden) (unscaled_pos _ _ hden') ?_
    rw [div_unscaled, div_unscaled]
    gcongr

theorem nearest_mono_num (hden : 0 < den) (h : num ≤ num') :
    nearest num den ≤ nearest num' den := by
  refine nearest_mono hden hden ?_
  gcongr

theorem abs_nearest_sub_le (num : ℕ) (hden : 0 < den) :
    |nearest num den - num / den| ≤ 2 ^ placeExponent num den / 2 := by
  have hround := abs_roundHalfEven_sub_le (n := (unscaled num den (placeExponent num den)).1)
    (unscaled_pos num (placeExponent num den) hden)
  have hpow : (0 : ℚ) < 2 ^ placeExponent num den := by positivity
  rw [div_unscaled] at hround
  have hscale : nearest num den - num / den = ((nearestMantissa num den : ℚ) -
      num / den / 2 ^ placeExponent num den) * 2 ^ placeExponent num den := by
    rw [sub_mul, div_mul_cancel₀ _ hpow.ne']
    rfl
  rw [hscale, abs_mul, abs_of_pos hpow]
  calc _ ≤ 1 / 2 * (2 : ℚ) ^ placeExponent num den := mul_le_mul_of_nonneg_right hround hpow.le
    _ = 2 ^ placeExponent num den / 2 := by ring

theorem natCast_le_nearest {k : ℕ} (hk : k ≤ 2 ^ 53) (hden : 0 < den) (h : (k : ℚ) ≤ num / den) :
    (k : ℚ) ≤ nearest num den := by
  rcases Nat.eq_zero_or_pos num with rfl | hnum
  · rw [nearest_zero]
    simpa using h
  rcases le_or_gt (placeExponent num den) 0 with hplace | hplace
  · obtain ⟨j, hj⟩ := Int.exists_eq_neg_ofNat hplace
    have hexact : (k : ℚ) = (k * 2 ^ j : ℕ) * 2 ^ placeExponent num den := by
      rw [hj, zpow_neg, zpow_natCast, Nat.cast_mul, Nat.cast_pow, Nat.cast_ofNat, mul_assoc,
        mul_inv_cancel₀ (by positivity), mul_one]
    rw [hexact] at h ⊢
    unfold nearest
    gcongr
    exact le_nearestMantissa hden h
  · have hlow : (2 ^ 52 : ℕ) * 2 ^ placeExponent num den ≤ (num / den : ℚ) :=
      two_pow_place_le hnum hden (lt_trans (by decide) hplace)
    calc (k : ℚ) ≤ (2 ^ 53 : ℕ) := by exact_mod_cast hk
      _ = (2 ^ 52 : ℕ) * 2 ^ (1 : ℤ) := by norm_num
      _ ≤ (2 ^ 52 : ℕ) * 2 ^ placeExponent num den := by
        gcongr
        · exact one_le_two
        · omega
      _ ≤ nearest num den := by
        unfold nearest
        gcongr
        exact le_nearestMantissa hden hlow

theorem placeExponent_le {k : ℕ} (hnum : 0 < num) (hden : 0 < den)
    (h : (num / den : ℚ) < 2 ^ k) : placeExponent num den ≤ (k : ℤ) - 53 := by
  have hlow := (floorLog2_bounds hnum hden).1.trans_lt h
  rw [← zpow_natCast, zpow_lt_zpow_iff_right₀ one_lt_two] at hlow
  unfold placeExponent minExponent
  omega

theorem ofRatio_eq (den : ℕ) (hnum : num ≠ 0) :
    ofRatio false num den =
      if nearestMantissa num den = 2 ^ 53 then
        if maxExponent < placeExponent num den + 1 then .infinite false
        else .finite false (2 ^ 52) (placeExponent num den + 1)
      else if maxExponent < placeExponent num den then .infinite false
      else .finite false (nearestMantissa num den) (placeExponent num den) := by
  rw [ofRatio, if_neg hnum]
  rfl

theorem ofRatio_cases (num : ℕ) (hden : 0 < den) :
    (ofRatio false num den = .infinite false ∧ (2 : ℚ) ^ (1024 : ℤ) ≤ nearest num den) ∨
      (nearest num den < (2 : ℚ) ^ (1024 : ℤ) ∧ ∃ m e, ofRatio false num den = .finite false m e ∧
        (m : ℚ) * 2 ^ e = nearest num den) := by
  rcases Nat.eq_zero_or_pos num with rfl | hnum
  · right
    rw [nearest_zero]
    exact ⟨by positivity, 0, minExponent, rfl, by simp⟩
  have hle : nearestMantissa num den ≤ 2 ^ 53 :=
    nearestMantissa_le hden (lt_two_pow_place hnum hden).le
  have hge : minExponent < placeExponent num den → 2 ^ 52 ≤ nearestMantissa num den :=
    fun h => le_nearestMantissa hden (two_pow_place_le hnum hden h)
  rw [ofRatio_eq den hnum.ne']
  unfold nearest
  generalize nearestMantissa num den = m at *
  generalize placeExponent num den = e at *
  unfold minExponent at hge
  unfold maxExponent
  split_ifs with hm he he
  · left
    refine ⟨rfl, ?_⟩
    rw [hm, mul_two_pow]
    exact zpow_le_zpow_right₀ one_le_two (by push_cast; omega)
  · right
    rw [hm, mul_two_pow]
    refine ⟨zpow_lt_zpow_right₀ one_lt_two (by push_cast; omega), _, _, rfl, ?_⟩
    rw [mul_two_pow]
    congr 1
    push_cast
    ring
  · left
    refine ⟨rfl, ?_⟩
    calc (2 : ℚ) ^ (1024 : ℤ) ≤ 2 ^ ((52 : ℕ) + e) :=
          zpow_le_zpow_right₀ one_le_two (by push_cast; omega)
      _ = (2 ^ 52 : ℕ) * 2 ^ e := (mul_two_pow 52 e).symm
      _ ≤ m * 2 ^ e := by
        gcongr
        exact hge (by omega)
  · right
    refine ⟨?_, m, e, rfl, rfl⟩
    calc (m : ℚ) * 2 ^ e < (2 ^ 53 : ℕ) * 2 ^ e := by
          gcongr
          omega
      _ = 2 ^ ((53 : ℕ) + e) := mul_two_pow 53 e
      _ ≤ 2 ^ (1024 : ℤ) := zpow_le_zpow_right₀ one_le_two (by push_cast; omega)

end Nearest

section Parts

variable {negative negative' : Bool} {m m' : ℕ} {e e' : ℤ}

theorem le_floorAbs_iff {k : ℕ} :
    k ≤ floorAbs (.finite negative m e) ↔ (k : ℚ) ≤ m * 2 ^ e := by
  have hden := scaled_pos m e
  rw [← div_scaled, le_div_iff₀ (Nat.cast_pos.mpr hden), floorAbs, Nat.le_div_iff_mul_le hden]
  exact_mod_cast Iff.rfl

theorem isBelow_iff {k : ℕ} :
    (Binary64.finite false m e).isBelow k = true ↔ (m : ℚ) * 2 ^ e < k := by
  have hden := scaled_pos m e
  rw [← div_scaled, div_lt_iff₀ (Nat.cast_pos.mpr hden)]
  simp only [isBelow, Bool.false_and, Bool.false_or, decide_eq_true_eq]
  exact_mod_cast Iff.rfl

def placedDigits (places m : ℕ) (e : ℤ) : ℕ :=
  roundHalfEven ((scaled m e).1 * Nat.pow 10 places) (scaled m e).2

theorem fixedText_finite (places : ℕ) :
    fixedText places (.finite negative m e) = placed places (placedDigits places m e) :=
  rfl

theorem div_placed (places m : ℕ) (e : ℤ) :
    (((scaled m e).1 * Nat.pow 10 places : ℕ) : ℚ) / (scaled m e).2 =
      m * 2 ^ e * 10 ^ places := by
  have hpow : Nat.pow 10 places = 10 ^ places := rfl
  rw [← div_scaled, hpow]
  push_cast
  ring

theorem placedDigits_mono {places : ℕ} (h : (m : ℚ) * 2 ^ e ≤ m' * 2 ^ e') :
    placedDigits places m e ≤ placedDigits places m' e' := by
  refine roundHalfEven_mono (scaled_pos m e) (scaled_pos m' e') ?_
  rw [div_placed, div_placed]
  gcongr

theorem abs_placedDigits_sub_le (places m : ℕ) (e : ℤ) :
    |(placedDigits places m e : ℚ) - m * 2 ^ e * 10 ^ places| ≤ 1 / 2 := by
  rw [← div_placed]
  exact abs_roundHalfEven_sub_le (scaled_pos m e)

theorem le_placedDigits {places k : ℕ} (h : (k : ℚ) ≤ m * 2 ^ e * 10 ^ places) :
    k ≤ placedDigits places m e := by
  refine le_roundHalfEven (scaled_pos m e) ?_
  rwa [div_placed]

theorem placedDigits_le {places k : ℕ} (h : (m : ℚ) * 2 ^ e * 10 ^ places ≤ k) :
    placedDigits places m e ≤ k := by
  refine roundHalfEven_le_of_le (scaled_pos m e) ?_
  rwa [div_placed]

end Parts

end Binary64

end Residency.Number
