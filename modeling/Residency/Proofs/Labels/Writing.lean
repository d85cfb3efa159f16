import Mathlib.Tactic.IntervalCases
import Residency.Label
import Residency.Proofs.Binary64
import Residency.Proofs.Lists
import Residency.Proofs.Numerals

namespace Residency.Label

open Number Number.Binary64

section Digits

variable {n k : ℕ} {c : Char} {r : List Char}

theorem takeWhile_toDigits (hc : c.isDigit = false) :
    (Nat.toDigits 10 n ++ c :: r).takeWhile Char.isDigit = Nat.toDigits 10 n :=
  takeWhile_append_cons isDigit_of_mem_toDigits hc r

theorem dropWhile_toDigits (hc : c.isDigit = false) :
    (Nat.toDigits 10 n ++ c :: r).dropWhile Char.isDigit = c :: r :=
  dropWhile_append_cons isDigit_of_mem_toDigits hc r

theorem isDigit_digitChar (h : k < 10) : (Nat.digitChar k).isDigit = true := by
  interval_cases k <;> rfl

theorem decimalValue_digitChar (h : k < 10) : decimalValue [Nat.digitChar k] = k := by
  interval_cases k <;> rfl

theorem toDigits_of_lt (h : k < 10) : Nat.toDigits 10 k = [Nat.digitChar k] :=
  Nat.toDigits_of_lt_base h

theorem decimalValue_two (h : k < 100) :
    decimalValue [Nat.digitChar (k / 10), Nat.digitChar (k % 10)] = k := by
  interval_cases k <;> rfl

theorem filled_two (h : k < 100) :
    List.replicate (2 - (Nat.toDigits 10 k).length) '0' ++ Nat.toDigits 10 k =
      [Nat.digitChar (k / 10), Nat.digitChar (k % 10)] := by
  interval_cases k <;> rfl

theorem withUnit_of_lt (h : n < 1000) (unit : String) :
    withUnit n unit = .ok (String.ofList (Nat.toDigits 10 n ++ unit.toList)) := by
  have hshort : isWritable n = true := by
    rw [isWritable_iff, Int.natAbs_natCast]
    calc n < 10 ^ 3 := h
      _ ≤ 10 ^ maxDigits := Nat.pow_le_pow_right (by decide) (by decide)
  rw [withUnit, decimal?, if_pos hshort]
  dsimp only
  rw [Except.ok.injEq, ← String.toList_inj]
  simp [decimal]

end Digits

section Quotients

/-- Labels that show what a relation says: small values always have one, and the others unless
their quotient is out of range. -/
structure IsLabelling (label : ℤ → Except LabelError String) (shown? : String → Option ℕ)
    (start unit : ℕ) (Shows : ℕ → ℕ → String → Prop) : Prop where
  read : ∀ a n t, Shows a n t → shown? t = some n
  small : ∀ a < start, ∃ n t, Shows a n t ∧ label a = .ok t
  quotient : ∀ a, start ≤ a →
    (label a = .error .quotientTooLarge ∧ (2 : ℚ) ^ (1024 : ℤ) ≤ nearest a unit) ∨
      (nearest a unit < (2 : ℚ) ^ (1024 : ℤ) ∧ ∃ n t, Shows a n t ∧ label a = .ok t)

variable {label : ℤ → Except LabelError String} {shown? : String → Option ℕ} {start unit : ℕ}
  {Shows : ℕ → ℕ → String → Prop} {a b n : ℕ} {t : String}
  (h : IsLabelling label shown? start unit Shows)
include h

theorem IsLabelling.exists_label (hrange : a < start ∨ nearest a unit < (2 : ℚ) ^ (1024 : ℤ)) :
    ∃ n t, Shows a n t ∧ label a = .ok t := by
  rcases lt_or_ge a start with hlt | hge
  · exact h.small a hlt
  · rcases h.quotient a hge with ⟨-, hlarge⟩ | ⟨-, hshows⟩
    · exact absurd (hrange.resolve_left (not_lt.mpr hge)) (not_lt.mpr hlarge)
    · exact hshows

theorem IsLabelling.shows_of_label (ht : label a = .ok t) :
    (a < start ∨ nearest a unit < (2 : ℚ) ^ (1024 : ℤ)) ∧ ∃ n, Shows a n t := by
  rcases lt_or_ge a start with hlt | hge
  · obtain ⟨n, s, hshows, hs⟩ := h.small a hlt
    cases hs.symm.trans ht
    exact ⟨.inl hlt, n, hshows⟩
  · rcases h.quotient a hge with ⟨herror, -⟩ | ⟨hsmall, n, s, hshows, hs⟩
    · cases herror.symm.trans ht
    · cases hs.symm.trans ht
      exact ⟨.inr hsmall, n, hshows⟩

theorem IsLabelling.shows_of_read (ht : label a = .ok t) (hread : shown? t = some n) :
    Shows a n t := by
  obtain ⟨-, m, hm⟩ := h.shows_of_label ht
  rwa [← Option.some.inj ((h.read a m t hm).symm.trans hread)]

theorem IsLabelling.exists_label_of_le (hunit : 0 < unit) (hab : a ≤ b) (ht : label b = .ok t) :
    ∃ n s, Shows a n s ∧ label a = .ok s :=
  h.exists_label ((h.shows_of_label ht).1.imp hab.trans_lt (nearest_mono_num hunit hab).trans_lt)

end Quotients

end Residency.Label
