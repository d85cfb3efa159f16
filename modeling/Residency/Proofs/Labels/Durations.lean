import Residency.Proofs.Labels.Writing

/-!
Labels of durations, read back. What a label shows does not fall when the duration grows, also where
one form follows another, and minutes with seconds are exact as long as the places of the quotient
are finer than the thousandth that is missing to the next second.
-/
namespace Residency.Label

open Number Number.Binary64

def shownDuration? (label : String) : Option ℕ :=
  let whole := label.toList.takeWhile Char.isDigit
  if whole = [] then none
  else match label.toList.dropWhile Char.isDigit with
    | [unit, stop] =>
        if unit = 'm' ∧ stop = 's' then some (decimalValue whole) else none
    | [point, tenth, stop] =>
        if point = '.' ∧ tenth.isDigit ∧ stop = 's' then
          some (1000 * decimalValue whole + 100 * decimalValue [tenth])
        else none
    | [minutes, ten, one, stop] =>
        if minutes = 'm' ∧ ten.isDigit ∧ one.isDigit ∧ stop = 's' then
          some (60000 * decimalValue whole + 1000 * decimalValue [ten, one])
        else none
    | _ => none

section Reading

def millisText (n : ℕ) : List Char :=
  Nat.toDigits 10 n ++ ['m', 's']

def tenthsText (n : ℕ) : List Char :=
  Nat.toDigits 10 (n / 10) ++ ['.', Nat.digitChar (n % 10), 's']

def secondsText (n : ℕ) : List Char :=
  Nat.toDigits 10 (n / 60) ++
    ['m', Nat.digitChar (n % 60 / 10), Nat.digitChar (n % 60 % 10), 's']

theorem shownDuration?_millisText (n : ℕ) :
    shownDuration? (String.ofList (millisText n)) = some n := by
  unfold shownDuration? millisText
  rw [String.toList_ofList, takeWhile_toDigits rfl, dropWhile_toDigits rfl,
    if_neg Nat.toDigits_ne_nil, decimalValue_toDigits]
  simp

theorem shownDuration?_tenthsText (n : ℕ) :
    shownDuration? (String.ofList (tenthsText n)) = some (100 * n) := by
  have hlt : n % 10 < 10 := Nat.mod_lt n (by decide)
  unfold shownDuration? tenthsText
  rw [String.toList_ofList, takeWhile_toDigits rfl, dropWhile_toDigits rfl,
    if_neg Nat.toDigits_ne_nil, decimalValue_toDigits]
  dsimp only
  rw [if_pos ⟨rfl, isDigit_digitChar hlt, rfl⟩, decimalValue_digitChar hlt]
  congr 1
  omega

theorem shownDuration?_secondsText (n : ℕ) :
    shownDuration? (String.ofList (secondsText n)) = some (1000 * n) := by
  have hlt : n % 60 < 100 := (Nat.mod_lt n (by decide)).trans (by decide)
  have htens := isDigit_digitChar (by omega : n % 60 / 10 < 10)
  have hones := isDigit_digitChar (by omega : n % 60 % 10 < 10)
  unfold shownDuration? secondsText
  rw [String.toList_ofList, takeWhile_toDigits rfl, dropWhile_toDigits rfl,
    if_neg Nat.toDigits_ne_nil, decimalValue_toDigits]
  dsimp only
  rw [if_pos ⟨rfl, htens, hones, rfl⟩, decimalValue_two hlt]
  congr 1
  omega

end Reading

section Forms

variable {a b n n' : ℕ} {s t : String}

inductive Shows (a : ℕ) : ℕ → String → Prop
  | millis : a < 1000 → Shows a a (String.ofList (millisText a))
  | tenths {m : ℕ} {e : ℤ} : 1000 ≤ a → (m : ℚ) * 2 ^ e = nearest a 1000 → nearest a 1000 < 60 →
      Shows a (100 * placedDigits 1 m e) (String.ofList (tenthsText (placedDigits 1 m e)))
  | seconds {m : ℕ} {e : ℤ} : 1000 ≤ a → (m : ℚ) * 2 ^ e = nearest a 1000 →
      60 ≤ nearest a 1000 → Shows a (1000 * floorAbs (.finite false m e))
        (String.ofList (secondsText (floorAbs (.finite false m e))))

theorem Shows.read (h : Shows a n t) : shownDuration? t = some n := by
  cases h with
  | millis => exact shownDuration?_millisText a
  | tenths => exact shownDuration?_tenthsText _
  | seconds => exact shownDuration?_secondsText _

theorem placed_one (k : ℕ) : String.ofList (placed 1 k) ++ "s" = String.ofList (tenthsText k) := by
  have hlt : k % 10 < 10 := Nat.mod_lt k (by decide)
  rw [← String.toList_inj]
  simp [placed, tenthsText, toDigits_of_lt hlt]

theorem minutesAndSeconds_eq (k : ℕ) :
    minutesAndSeconds k = String.ofList (secondsText k) := by
  have hrepr (n : ℕ) : toString n = String.ofList (Nat.toDigits 10 n) := rfl
  rw [← String.toList_inj]
  unfold minutesAndSeconds secondsText
  dsimp only
  split_ifs with h
  · have hzero : k % 60 / 10 = 0 := by omega
    have hmod : k % 60 % 10 = k % 60 := by omega
    simp [hrepr, toDigits_of_lt h, hzero, hmod]
  · have htens : k % 60 / 10 < 10 := by omega
    have htwo : Nat.toDigits 10 (k % 60) = [(k % 60 / 10).digitChar, (k % 60 % 10).digitChar] := by
      rw [Nat.toDigits_eq_if (by decide), if_neg h, toDigits_of_lt htens]
      rfl
    simp [hrepr, htwo]

theorem duration_of_lt (h : a < 1000) : duration a = .ok (String.ofList (millisText a)) := by
  have hlt : (a : ℤ) < 1000 := by exact_mod_cast h
  rw [duration, if_pos hlt, withUnit_of_lt h]
  rfl

/-- The last form begins at sixty seconds as they are rounded, not at sixty thousand
milliseconds. -/
theorem duration_of_le (h : 1000 ≤ a) :
    (duration a = .error .quotientTooLarge ∧ (2 : ℚ) ^ (1024 : ℤ) ≤ nearest a 1000) ∨
      (nearest a 1000 < (2 : ℚ) ^ (1024 : ℤ) ∧ ∃ n t, Shows a n t ∧ duration a = .ok t) := by
  have hlt : ¬ (a : ℤ) < 1000 := by omega
  rw [duration, if_neg hlt, Int.natAbs_natCast]
  rcases ofRatio_cases a (by decide : 0 < 1000) with
    ⟨hratio, hlarge⟩ | ⟨hsmall, m, e, hratio, hvalue⟩
  · left
    rw [hratio]
    exact ⟨rfl, hlarge⟩
  · right
    refine ⟨hsmall, ?_⟩
    rw [hratio]
    dsimp only
    by_cases hbelow : nearest a 1000 < 60
    · have hforty : (Binary64.finite false m e).isBelow 60 = true := by
        rw [isBelow_iff, hvalue]
        exact hbelow
      refine ⟨_, _, .tenths h hvalue hbelow, ?_⟩
      rw [if_pos hforty, fixedText_finite, placed_one]
    · have hnot : ¬ (Binary64.finite false m e).isBelow 60 = true := by
        rw [isBelow_iff, hvalue]
        exact hbelow
      refine ⟨_, _, .seconds h hvalue (not_lt.mp hbelow), ?_⟩
      rw [if_neg hnot, minutesAndSeconds_eq]

theorem isLabelling_duration : IsLabelling duration shownDuration? 1000 1000 Shows :=
  ⟨fun _ _ _ => Shows.read, fun a h => ⟨a, _, .millis h, duration_of_lt h⟩,
    fun _ => duration_of_le⟩

theorem exists_shows (h : a < 1000 ∨ nearest a 1000 < (2 : ℚ) ^ (1024 : ℤ)) :
    ∃ n t, Shows a n t ∧ duration a = .ok t :=
  isLabelling_duration.exists_label h

theorem shows_of_duration (h : duration a = .ok t) :
    (a < 1000 ∨ nearest a 1000 < (2 : ℚ) ^ (1024 : ℤ)) ∧ ∃ n, Shows a n t :=
  isLabelling_duration.shows_of_label h

end Forms

section Order

variable {a b n n' : ℕ} {s t : String}

theorem nearest_seconds_mono (h : a ≤ b) : nearest a 1000 ≤ nearest b 1000 :=
  nearest_mono_num (by decide) h

theorem le_nearest_seconds {k : ℕ} (hk : k ≤ 2 ^ 53) (h : 1000 * k ≤ a) :
    (k : ℚ) ≤ nearest a 1000 := by
  refine natCast_le_nearest hk (by decide) ?_
  rw [le_div_iff₀ (by norm_num), mul_comm]
  exact_mod_cast h

section Bounds

variable {m : ℕ} {e : ℤ} (hvalue : (m : ℚ) * 2 ^ e = nearest a 1000)
include hvalue

theorem ten_le_tenths (h : 1000 ≤ a) : 10 ≤ placedDigits 1 m e := by
  have hone := le_nearest_seconds (k := 1) (by norm_num) h
  refine le_placedDigits ?_
  rw [hvalue]
  push_cast at hone ⊢
  linarith

theorem tenths_le (h : nearest a 1000 < 60) : placedDigits 1 m e ≤ 600 := by
  refine placedDigits_le ?_
  rw [hvalue]
  push_cast
  linarith

theorem sixty_le_seconds (h : 60 ≤ nearest a 1000) : 60 ≤ floorAbs (.finite false m e) := by
  rw [le_floorAbs_iff, hvalue]
  exact_mod_cast h

end Bounds

theorem Shows.mono (h : a ≤ b) (hs : Shows a n s) (ht : Shows b n' t) : n ≤ n' := by
  have hnearest := nearest_seconds_mono h
  cases hs with
  | millis ha =>
    cases ht with
    | millis => exact h
    | tenths hb hvalue =>
      have := ten_le_tenths hvalue hb
      omega
    | seconds hb hvalue hge =>
      have := sixty_le_seconds hvalue hge
      omega
  | tenths ha hvalue hbelow =>
    cases ht with
    | millis hb => omega
    | tenths hb hvalue' hbelow' =>
      refine Nat.mul_le_mul_left 100 (placedDigits_mono ?_)
      rw [hvalue, hvalue']
      exact hnearest
    | seconds hb hvalue' hge =>
      have hle := tenths_le hvalue hbelow
      have hge' := sixty_le_seconds hvalue' hge
      omega
  | @seconds m e ha hvalue hge =>
    cases ht with
    | millis hb => omega
    | tenths hb hvalue' hbelow => exact absurd (hge.trans hnearest) (not_le.mpr hbelow)
    | @seconds m' e' hb hvalue' hge' =>
      refine Nat.mul_le_mul_left 1000 (le_floorAbs_iff.mpr ?_)
      calc (floorAbs (.finite false m e) : ℚ) ≤ m * 2 ^ e := le_floorAbs_iff.mp le_rfl
        _ ≤ m' * 2 ^ e' := by
          rw [hvalue, hvalue']
          exact hnearest

/-- Below `2 ^ 44` seconds the places are `2 ^ -9` wide or finer, and half of that is less than a
thousandth. -/
theorem nearest_lt_succ (hpos : 0 < a) (hhigh : a < 1000 * 2 ^ 44) :
    nearest a 1000 < (a / 1000 : ℕ) + 1 := by
  have hquot : (a / 1000 : ℚ) < 2 ^ 44 := by
    rw [div_lt_iff₀ (by norm_num)]
    have : (a : ℚ) < 1000 * 2 ^ 44 := by exact_mod_cast hhigh
    linarith
  have hplace : placeExponent a 1000 ≤ (44 : ℕ) - 53 :=
    placeExponent_le hpos (by decide) (by exact_mod_cast hquot)
  have hwidth : (2 : ℚ) ^ placeExponent a 1000 ≤ 2 ^ (-9 : ℤ) :=
    zpow_le_zpow_right₀ one_le_two (by push_cast at hplace; omega)
  have herror := (abs_le.mp (abs_nearest_sub_le a (by decide : 0 < 1000))).2
  have hmod : (a : ℚ) ≤ 1000 * (a / 1000 : ℕ) + 999 := by
    have : a ≤ 1000 * (a / 1000) + 999 := by omega
    exact_mod_cast this
  have hnine : (2 : ℚ) ^ (-9 : ℤ) = 1 / 512 := by norm_num
  rw [hnine] at hwidth
  push_cast at herror
  linarith

theorem duration_of_minutes (hlow : 60000 ≤ a) (hhigh : a < 1000 * 2 ^ 44) :
    duration a = .ok (String.ofList (secondsText (a / 1000))) := by
  have hlt := nearest_lt_succ (by omega) hhigh
  have hge : ((a / 1000 : ℕ) : ℚ) ≤ nearest a 1000 :=
    le_nearest_seconds (by omega) (Nat.mul_div_le a 1000)
  have hrange : nearest a 1000 < (2 : ℚ) ^ (1024 : ℤ) := by
    have hquot : a / 1000 + 1 ≤ 2 ^ 44 := by omega
    calc nearest a 1000 < ((a / 1000 + 1 : ℕ) : ℚ) := by exact_mod_cast hlt
      _ ≤ (2 ^ 44 : ℕ) := by exact_mod_cast hquot
      _ = 2 ^ (44 : ℤ) := by norm_num
      _ ≤ 2 ^ (1024 : ℤ) := zpow_le_zpow_right₀ one_le_two (by norm_num)
  have hsixty : (60 : ℚ) ≤ nearest a 1000 := by
    have : (60 : ℚ) ≤ (a / 1000 : ℕ) := by exact_mod_cast (by omega : 60 ≤ a / 1000)
    exact this.trans hge
  obtain ⟨n, t, hshows, hok⟩ := exists_shows (.inr hrange)
  rw [hok]
  cases hshows with
  | millis ha => omega
  | tenths ha hvalue hbelow => exact absurd hbelow (not_lt.mpr hsixty)
  | @seconds m e ha hvalue _ =>
    have hfloor : floorAbs (.finite false m e) = a / 1000 := by
      have hlow' : a / 1000 ≤ floorAbs (.finite false m e) := le_floorAbs_iff.mpr (hvalue ▸ hge)
      have hhigh' : ¬ a / 1000 + 1 ≤ floorAbs (.finite false m e) := by
        rw [le_floorAbs_iff, hvalue, not_le]
        exact_mod_cast hlt
      omega
    rw [hfloor]

end Order

theorem duration_ordered_and_exact :
    (∀ a b : ℤ, 0 ≤ a → a ≤ b → ∀ t, duration b = .ok t → ∃ s m n, duration a = .ok s ∧
      shownDuration? s = some m ∧ shownDuration? t = some n ∧ m ≤ n) ∧
    ∀ millis : ℤ, 60000 ≤ millis → millis < 1000 * 2 ^ 44 → ∃ (m s : ℕ) (ten one : Char),
      duration millis = .ok (String.ofList (Nat.toDigits 10 m ++ ['m', ten, one, 's'])) ∧
      ten.isDigit = true ∧ one.isDigit = true ∧ decimalValue [ten, one] = s ∧ s < 60 ∧
      (60 * m + s : ℤ) = millis / 1000 := by
  constructor
  · intro a b ha hab t ht
    obtain ⟨a, rfl⟩ := Int.eq_ofNat_of_zero_le ha
    obtain ⟨b, rfl⟩ := Int.eq_ofNat_of_zero_le (ha.trans hab)
    have hle : a ≤ b := by exact_mod_cast hab
    obtain ⟨hrange, n, hn⟩ := shows_of_duration ht
    have hrange' : a < 1000 ∨ nearest a 1000 < (2 : ℚ) ^ (1024 : ℤ) :=
      hrange.imp hle.trans_lt (nearest_seconds_mono hle).trans_lt
    obtain ⟨m, s, hm, hs⟩ := exists_shows hrange'
    exact ⟨s, m, n, hs, hm.read, hn.read, hm.mono hle hn⟩
  · intro millis hlow hhigh
    obtain ⟨a, rfl⟩ := Int.eq_ofNat_of_zero_le (by omega : 0 ≤ millis)
    refine ⟨a / 1000 / 60, a / 1000 % 60, _, _,
      duration_of_minutes (by omega) (by omega), isDigit_digitChar (by omega),
      isDigit_digitChar (by omega), decimalValue_two (by omega), by omega, by omega⟩

theorem duration_ordered_and_exact_at_minute :
    (∃ s m n, duration 59999 = .ok s ∧ shownDuration? s = some m ∧
      shownDuration? "1m00s" = some n ∧ m ≤ n) ∧
    ∃ (m s : ℕ) (ten one : Char),
      duration 307999 = .ok (String.ofList (Nat.toDigits 10 m ++ ['m', ten, one, 's'])) ∧
      ten.isDigit = true ∧ one.isDigit = true ∧ decimalValue [ten, one] = s ∧ s < 60 ∧
      (60 * m + s : ℤ) = 307 := by
  have hminute : duration 60000 = .ok "1m00s" := by decide +kernel
  exact ⟨duration_ordered_and_exact.1 59999 60000 (by decide) (by decide) "1m00s" hminute,
    duration_ordered_and_exact.2 307999 (by decide) (by decide)⟩

end Residency.Label
