import Mathlib.Data.List.Basic
import Residency.Proofs.Outcomes
import Residency.Text.Utf8

namespace Residency.Text.Utf8

theorem toNat_ofNat {n : ℕ} (h : n < 256) : (UInt8.ofNat n).toNat = n :=
  UInt8.toNat_ofNat_of_lt' h

section Leads

variable {n : ℕ}

theorem lead_one (h : n < 0x80) : lead (UInt8.ofNat n) = .single (Char.ofNat n) := by
  simp only [lead, toNat_ofNat (by omega : n < 256)]
  rw [if_pos h]

theorem lead_two (hlow : 2 ≤ n) (hhigh : n < 32) :
    lead (UInt8.ofNat (n + 192)) = .opens { bits := n, seen := 1, missing := 1 } := by
  have hbits : (n + 192) % 32 = n := by omega
  simp only [lead, toNat_ofNat (by omega : n + 192 < 256), hbits]
  rw [if_neg (by omega), if_neg (by omega), if_pos (by omega)]

theorem lead_three (h : n < 16) :
    lead (UInt8.ofNat (n + 224)) =
      .opens { bits := n, seen := 1, missing := 2, low := if n = 0 then 0xA0 else 0x80,
               high := if n = 13 then 0x9F else 0xBF } := by
  have hbits : (n + 224) % 16 = n := by omega
  have hlow : n + 224 = 0xE0 ↔ n = 0 := by omega
  have hhigh : n + 224 = 0xED ↔ n = 13 := by omega
  simp only [lead, toNat_ofNat (by omega : n + 224 < 256), hbits, hlow, hhigh]
  rw [if_neg (by omega), if_neg (by omega), if_neg (by omega), if_pos (by omega)]

theorem lead_four (h : n < 5) :
    lead (UInt8.ofNat (n + 240)) =
      .opens { bits := n, seen := 1, missing := 3, low := if n = 0 then 0x90 else 0x80,
               high := if n = 4 then 0x8F else 0xBF } := by
  have hbits : (n + 240) % 8 = n := by omega
  have hlow : n + 240 = 0xF0 ↔ n = 0 := by omega
  have hhigh : n + 240 = 0xF4 ↔ n = 4 := by omega
  simp only [lead, toNat_ofNat (by omega : n + 240 < 256), hbits, hlow, hhigh]
  rw [if_neg (by omega), if_neg (by omega), if_neg (by omega), if_neg (by omega), if_pos (by omega)]

end Leads

section Continuations

variable {s : Sequence} {bits : ℕ} (hbits : bits < 64) (hlow : s.low.toNat ≤ bits + 128)
  (hhigh : bits + 128 ≤ s.high.toNat)
include hbits

theorem bitsWith_continuation :
    s.bitsWith (UInt8.ofNat (bits + 128)) = s.bits * 64 + bits := by
  rw [Sequence.bitsWith, toNat_ofNat (by omega)]
  omega

include hlow hhigh

theorem accepts_continuation : s.accepts (UInt8.ofNat (bits + 128)) = true := by
  rw [Sequence.accepts, Bool.and_eq_true, decide_eq_true_eq, decide_eq_true_eq,
    UInt8.le_iff_toNat_le, UInt8.le_iff_toNat_le, toNat_ofNat (by omega)]
  exact ⟨hlow, hhigh⟩

theorem decodeChecked_last (hmissing : s.missing = 1) (pos : ℕ) (first : UInt8) (bs : List UInt8) :
    decodeChecked pos first (some s) (UInt8.ofNat (bits + 128) :: bs) =
      (decodeChecked (pos + 1) first none bs).map (Char.ofNat (s.bits * 64 + bits) :: ·) := by
  rw [decodeChecked, if_pos (accepts_continuation hbits hlow hhigh), if_pos (by omega),
    bitsWith_continuation hbits]

theorem decodeChecked_more (hmissing : 1 < s.missing) (pos : ℕ) (first : UInt8)
    (bs : List UInt8) :
    decodeChecked pos first (some s) (UInt8.ofNat (bits + 128) :: bs) =
      decodeChecked (pos + 1) first
        (some { bits := s.bits * 64 + bits, seen := s.seen + 1, missing := s.missing - 1 }) bs := by
  rw [decodeChecked, if_pos (accepts_continuation hbits hlow hhigh), if_neg (by omega),
    Sequence.push, bitsWith_continuation hbits]

end Continuations

theorem decodeChecked_opens {b : UInt8} {s : Sequence} (h : lead b = .opens s) (pos : ℕ)
    (first : UInt8) (bs : List UInt8) :
    decodeChecked pos first none (b :: bs) = decodeChecked (pos + 1) b (some s) bs := by
  rw [decodeChecked, h]

theorem decodeChecked_utf8EncodeChar (c : Char) (pos : ℕ) (first : UInt8) (bs : List UInt8) :
    ∃ pos' first', decodeChecked pos first none (String.utf8EncodeChar c ++ bs) =
      (decodeChecked pos' first' none bs).map (c :: ·) := by
  have hvalid : c.toNat < 0xD800 ∨ 0xDFFF < c.toNat := c.valid.imp id And.left
  have hmax : c.toNat < 0x110000 := by
    rcases c.valid with h | h
    · exact Nat.lt_trans h (by decide)
    · exact h.2
  have hchar : ∀ m, m = c.toNat → Char.ofNat m = c := by
    rintro m rfl
    exact c.ofNat_toNat
  -- The first byte of three or four bounds the second one, which is where the surrogates and what
  -- lies beyond the last plane are kept out.
  generalize hn : c.toNat = n at hvalid hmax hchar
  have hcode : c.val.toNat = n := hn
  rw [String.utf8EncodeChar.eq_1, hcode]
  split_ifs with h1 h2 h3
  · refine ⟨pos + 1, first, ?_⟩
    rw [List.singleton_append, decodeChecked, lead_one (by omega), hchar n rfl]
  · have hlead := lead_two (n := n / 64) (by omega) (by omega)
    rw [Nat.mod_eq_of_lt (by omega : n / 64 < 32)]
    refine ⟨pos + 1 + 1, UInt8.ofNat (n / 64 + 192), ?_⟩
    rw [List.cons_append, List.singleton_append, decodeChecked_opens hlead,
      decodeChecked_last (by omega) (by simp) (by simp; omega) rfl, hchar _ (by dsimp only; omega)]
  · have hlead := lead_three (n := n / 4096) (by omega)
    rw [Nat.mod_eq_of_lt (by omega : n / 4096 < 16)]
    refine ⟨pos + 1 + 1 + 1, UInt8.ofNat (n / 4096 + 224), ?_⟩
    rw [List.cons_append, List.cons_append, List.singleton_append, decodeChecked_opens hlead,
      decodeChecked_more (by omega) (by dsimp only; split_ifs <;> simp; omega)
        (by dsimp only; split_ifs <;> simp <;> omega) (by simp),
      decodeChecked_last (by omega) (by simp) (by simp; omega) rfl, hchar _ (by dsimp only; omega)]
  · have hlead := lead_four (n := n / 262144) (by omega)
    rw [Nat.mod_eq_of_lt (by omega : n / 262144 < 8)]
    refine ⟨pos + 1 + 1 + 1 + 1, UInt8.ofNat (n / 262144 + 240), ?_⟩
    rw [List.cons_append, List.cons_append, List.cons_append, List.singleton_append,
      decodeChecked_opens hlead,
      decodeChecked_more (by omega) (by dsimp only; split_ifs <;> simp; omega)
        (by dsimp only; split_ifs <;> simp <;> omega) (by simp),
      decodeChecked_more (by omega) (by simp) (by simp; omega) (by simp),
      decodeChecked_last (by omega) (by simp) (by simp; omega) rfl, hchar _ (by dsimp only; omega)]

theorem decode_encode (s : List Char) : decode (encode s) = .ok s := by
  have hread : ∀ pos first, decodeChecked pos first none (encode s) = .ok s := by
    induction s with
    | nil => exact fun _ _ => rfl
    | cons c s ih =>
      intro pos first
      obtain ⟨pos', first', h⟩ := decodeChecked_utf8EncodeChar c pos first (encode s)
      change decodeChecked pos first none (String.utf8EncodeChar c ++ encode s) = _
      rw [h, ih]
      rfl
  exact hread 0 0

end Residency.Text.Utf8
