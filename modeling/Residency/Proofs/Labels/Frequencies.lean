import Residency.Proofs.Labels.Writing

/-!
Labels of frequencies, read back. What a label shows does not fall when the frequency grows, also
from megahertz to gigahertz, and gigahertz are shown to half a hundredth as long as the places of
the quotient are so fine that its own error is less than a kilohertz.
-/
namespace Residency.Label

open Number Number.Binary64

def shownFrequency? (label : String) : Option ℕ :=
  let whole := label.toList.takeWhile Char.isDigit
  if whole = [] then none
  else match label.toList.dropWhile Char.isDigit with
    | [mega, hertz, stop] =>
        if mega = 'M' ∧ hertz = 'H' ∧ stop = 'z' then some (1000 * decimalValue whole) else none
    | [point, tenth, hundredth, giga, hertz, stop] =>
        if point = '.' ∧ tenth.isDigit ∧ hundredth.isDigit ∧ giga = 'G' ∧ hertz = 'H' ∧
            stop = 'z' then
          some (1000000 * decimalValue whole + 10000 * decimalValue [tenth, hundredth])
        else none
    | _ => none

variable {a b n n' : ℕ} {s t : String}

section Reading

def megahertzText (n : ℕ) : List Char :=
  Nat.toDigits 10 n ++ ['M', 'H', 'z']

def hundredthsText (n : ℕ) : List Char :=
  Nat.toDigits 10 (n / 100) ++
    ['.', Nat.digitChar (n % 100 / 10), Nat.digitChar (n % 100 % 10), 'G', 'H', 'z']

theorem shownFrequency?_megahertzText (n : ℕ) :
    shownFrequency? (String.ofList (megahertzText n)) = some (1000 * n) := by
  unfold shownFrequency? megahertzText
  rw [String.toList_ofList, takeWhile_toDigits rfl, dropWhile_toDigits rfl,
    if_neg Nat.toDigits_ne_nil, decimalValue_toDigits]
  simp

theorem shownFrequency?_hundredthsText (n : ℕ) :
    shownFrequency? (String.ofList (hundredthsText n)) = some (10000 * n) := by
  have hlt : n % 100 < 100 := Nat.mod_lt n (by decide)
  have htenth := isDigit_digitChar (by omega : n % 100 / 10 < 10)
  have hhundredth := isDigit_digitChar (by omega : n % 100 % 10 < 10)
  unfold shownFrequency? hundredthsText
  rw [String.toList_ofList, takeWhile_toDigits rfl, dropWhile_toDigits rfl,
    if_neg Nat.toDigits_ne_nil, decimalValue_toDigits]
  dsimp only
  rw [if_pos ⟨rfl, htenth, hhundredth, rfl, rfl, rfl⟩, decimalValue_two hlt]
  congr 1
  omega

theorem placed_two (k : ℕ) :
    String.ofList (placed 2 k) ++ "GHz" = String.ofList (hundredthsText k) := by
  have hfilled := filled_two (Nat.mod_lt k (by decide) : k % 100 < 100)
  rw [← String.toList_inj]
  simp [placed, hundredthsText, hfilled]

end Reading

section Forms

inductive ShowsFrequency (a : ℕ) : ℕ → String → Prop
  | megahertz : a < 1000000 →
      ShowsFrequency a (1000 * (a / 1000)) (String.ofList (megahertzText (a / 1000)))
  | gigahertz {m : ℕ} {e : ℤ} : 1000000 ≤ a → (m : ℚ) * 2 ^ e = nearest a 1000000 →
      ShowsFrequency a (10000 * placedDigits 2 m e)
        (String.ofList (hundredthsText (placedDigits 2 m e)))

theorem ShowsFrequency.read (h : ShowsFrequency a n t) : shownFrequency? t = some n := by
  cases h with
  | megahertz => exact shownFrequency?_megahertzText _
  | gigahertz => exact shownFrequency?_hundredthsText _

theorem frequency_of_lt (h : a < 1000000) :
    frequency a = .ok (String.ofList (megahertzText (a / 1000))) := by
  have hlt : (a : ℤ) < 1000000 := by exact_mod_cast h
  have hdiv : (a : ℤ).fdiv 1000 = (a / 1000 : ℕ) := by
    rw [Int.fdiv_eq_ediv_of_nonneg _ (by decide)]
    rfl
  rw [frequency, if_pos hlt, hdiv, withUnit_of_lt (by omega)]
  rfl

theorem frequency_of_le (h : 1000000 ≤ a) :
    (frequency a = .error .quotientTooLarge ∧ (2 : ℚ) ^ (1024 : ℤ) ≤ nearest a 1000000) ∨
      (nearest a 1000000 < (2 : ℚ) ^ (1024 : ℤ) ∧
        ∃ n t, ShowsFrequency a n t ∧ frequency a = .ok t) := by
  have hlt : ¬ (a : ℤ) < 1000000 := by omega
  rw [frequency, if_neg hlt, Int.natAbs_natCast]
  rcases ofRatio_cases a (by decide : 0 < 1000000) with
    ⟨hratio, hlarge⟩ | ⟨hsmall, m, e, hratio, hvalue⟩
  · left
    rw [hratio]
    exact ⟨rfl, hlarge⟩
  · right
    refine ⟨hsmall, _, _, .gigahertz h hvalue, ?_⟩
    rw [hratio]
    dsimp only
    rw [fixedText_finite, placed_two]

theorem isLabelling_frequency :
    IsLabelling frequency shownFrequency? 1000000 1000000 ShowsFrequency :=
  ⟨fun _ _ _ => ShowsFrequency.read, fun _ h => ⟨_, _, .megahertz h, frequency_of_lt h⟩,
    fun _ => frequency_of_le⟩

end Forms

section Order

theorem hundred_le_hundredths {m : ℕ} {e : ℤ} (hvalue : (m : ℚ) * 2 ^ e = nearest a 1000000)
    (h : 1000000 ≤ a) : 100 ≤ placedDigits 2 m e := by
  have hquot : ((1 : ℕ) : ℚ) ≤ a / (1000000 : ℕ) := by
    rw [le_div_iff₀ (by norm_num)]
    exact_mod_cast h
  have hone := natCast_le_nearest (by norm_num) (by decide) hquot
  refine le_placedDigits ?_
  rw [hvalue]
  push_cast at hone ⊢
  linarith

theorem ShowsFrequency.mono (h : a ≤ b) (hs : ShowsFrequency a n s) (ht : ShowsFrequency b n' t) :
    n ≤ n' := by
  cases hs with
  | megahertz ha =>
    cases ht with
    | megahertz => exact Nat.mul_le_mul_left 1000 (Nat.div_le_div_right h)
    | gigahertz hb hvalue =>
      have := hundred_le_hundredths hvalue hb
      omega
  | gigahertz ha hvalue =>
    cases ht with
    | megahertz hb => omega
    | gigahertz hb hvalue' =>
      refine Nat.mul_le_mul_left 10000 (placedDigits_mono ?_)
      rw [hvalue, hvalue']
      exact nearest_mono_num (by decide) h

end Order

section Precision

/-- Below `2 ^ 34` gigahertz the places are `2 ^ -19` wide or finer, so the quotient is wrong by
less than a kilohertz. -/
theorem abs_nearest_gigahertz_sub_lt (hpos : 0 < a) (h : a < 2 ^ 34 * 1000000) :
    |nearest a 1000000 * 1000000 - a| < 1 := by
  have hquot : (a / (1000000 : ℕ) : ℚ) < 2 ^ 34 := by
    rw [div_lt_iff₀ (by norm_num)]
    exact_mod_cast h
  have hplace : placeExponent a 1000000 ≤ (34 : ℕ) - 53 :=
    placeExponent_le hpos (by decide) hquot
  have hwidth : (2 : ℚ) ^ placeExponent a 1000000 ≤ 2 ^ (-19 : ℤ) :=
    zpow_le_zpow_right₀ one_le_two (by push_cast at hplace; omega)
  have herror := abs_nearest_sub_le a (by decide : 0 < 1000000)
  have hscale : nearest a 1000000 * 1000000 - a =
      (nearest a 1000000 - a / (1000000 : ℕ)) * 1000000 := by
    push_cast
    ring
  have hnineteen : (2 : ℚ) ^ (-19 : ℤ) = 1 / 524288 := by norm_num
  rw [hnineteen] at hwidth
  rw [hscale, abs_mul, abs_of_pos (by norm_num : (0 : ℚ) < 1000000)]
  linarith

theorem nearest_gigahertz_lt (hpos : 0 < a) (h : a < 2 ^ 34 * 1000000) :
    nearest a 1000000 < (2 : ℚ) ^ (1024 : ℤ) := by
  have herror := (abs_lt.mp (abs_nearest_gigahertz_sub_lt hpos h)).2
  have hsucc : (a : ℚ) + 1 ≤ 2 ^ (34 : ℤ) * 1000000 := by exact_mod_cast h
  have hlt : nearest a 1000000 < 2 ^ (34 : ℤ) := by linarith
  exact hlt.trans_le (zpow_le_zpow_right₀ one_le_two (by decide))

theorem abs_hundredths_sub_le {m : ℕ} {e : ℤ} (hvalue : (m : ℚ) * 2 ^ e = nearest a 1000000)
    (hpos : 0 < a) (h : a < 2 ^ 34 * 1000000) :
    |(10000 * placedDigits 2 m e : ℤ) - a| ≤ 5000 := by
  have hquotient := abs_nearest_gigahertz_sub_lt hpos h
  have hplaces := abs_placedDigits_sub_le 2 m e
  rw [hvalue] at hplaces
  have hlt : |(10000 * placedDigits 2 m e : ℚ) - a| < 5001 := by
    rw [abs_le] at hplaces
    rw [abs_lt] at hquotient ⊢
    constructor <;> linarith
  have hlt' : |(10000 * placedDigits 2 m e : ℤ) - a| < 5001 := by exact_mod_cast hlt
  omega

end Precision

theorem frequency_ordered_and_close :
    (∀ a b : ℤ, 0 ≤ a → a ≤ b → ∀ t, frequency b = .ok t → ∃ s m n, frequency a = .ok s ∧
      shownFrequency? s = some m ∧ shownFrequency? t = some n ∧ m ≤ n) ∧
    ∀ khz : ℤ, 1000000 ≤ khz → khz < 2 ^ 34 * 10 ^ 6 →
      ∃ (whole shown : ℕ) (tenth hundredth : Char),
        frequency khz = .ok (String.ofList
          (Nat.toDigits 10 whole ++ ['.', tenth, hundredth, 'G', 'H', 'z'])) ∧
        tenth.isDigit = true ∧ hundredth.isDigit = true ∧
        shown = 1000000 * whole + 10000 * decimalValue [tenth, hundredth] ∧
        |(shown : ℤ) - khz| ≤ 5000 := by
  constructor
  · intro a b ha hab t ht
    obtain ⟨a, rfl⟩ := Int.eq_ofNat_of_zero_le ha
    obtain ⟨b, rfl⟩ := Int.eq_ofNat_of_zero_le (ha.trans hab)
    have hle : a ≤ b := by exact_mod_cast hab
    obtain ⟨-, n, hn⟩ := isLabelling_frequency.shows_of_label ht
    obtain ⟨m, s, hm, hs⟩ := isLabelling_frequency.exists_label_of_le (by decide) hle ht
    exact ⟨s, m, n, hs, hm.read, hn.read, hm.mono hle hn⟩
  · intro khz hlow hhigh
    obtain ⟨a, rfl⟩ := Int.eq_ofNat_of_zero_le (by omega : 0 ≤ khz)
    have hpos : 0 < a := by omega
    have hsmall : a < 2 ^ 34 * 1000000 := by omega
    have hrange := nearest_gigahertz_lt hpos hsmall
    obtain ⟨n, t, hshows, hok⟩ := isLabelling_frequency.exists_label (.inr hrange)
    cases hshows with
    | megahertz ha => omega
    | @gigahertz m e ha hvalue =>
      refine ⟨placedDigits 2 m e / 100, _, _, _, hok, isDigit_digitChar (by omega),
        isDigit_digitChar (by omega), rfl, ?_⟩
      rw [decimalValue_two (by omega)]
      have hclose := abs_hundredths_sub_le hvalue hpos hsmall
      have hshown : 1000000 * (placedDigits 2 m e / 100) + 10000 * (placedDigits 2 m e % 100) =
          10000 * placedDigits 2 m e := by
        omega
      rw [hshown]
      exact_mod_cast hclose

theorem frequency_ordered_and_close_at_tie :
    (∃ s m n, frequency 999999 = .ok s ∧ shownFrequency? s = some m ∧
      shownFrequency? "1.00GHz" = some n ∧ m ≤ n) ∧
    ∃ (whole shown : ℕ) (tenth hundredth : Char),
      frequency 5290270046035000 = .ok (String.ofList
        (Nat.toDigits 10 whole ++ ['.', tenth, hundredth, 'G', 'H', 'z'])) ∧
      tenth.isDigit = true ∧ hundredth.isDigit = true ∧
      shown = 1000000 * whole + 10000 * decimalValue [tenth, hundredth] ∧
      |(shown : ℤ) - 5290270046035000| ≤ 5000 := by
  have hgigahertz : frequency 1000000 = .ok "1.00GHz" := by decide +kernel
  exact ⟨frequency_ordered_and_close.1 999999 1000000 (by decide) (by decide) "1.00GHz" hgigahertz,
    frequency_ordered_and_close.2 5290270046035000 (by decide) (by decide)⟩

end Residency.Label
