import Mathlib.Algebra.Order.Ring.Nat
import Mathlib.Data.List.TakeWhile
import Residency.Proofs.Lists
import Residency.Proofs.Utf8

/-!
Lossy reading and cutting. No sequence takes an ASCII byte, and no sequence of two bytes or more
stands for an ASCII character, so bytes are cut at ASCII bytes where their text is cut at the
characters of these.
-/
namespace Residency.Text.Utf8

section Sequences

variable {s : Sequence} {b : UInt8} {n : ℕ}

namespace Sequence

def least (s : Sequence) : ℕ :=
  (s.bits * 64 + (s.low.toNat - 128)) * 64 ^ (s.missing - 1)

def bound (s : Sequence) : ℕ :=
  (s.bits * 64 + (s.high.toNat - 127)) * 64 ^ (s.missing - 1)

structure IsOpen (s : Sequence) : Prop where
  low : 128 ≤ s.low.toNat
  high : s.high.toNat < 192
  ascii : 128 ≤ s.least
  scalar : s.bound ≤ 0xD800 ∨ 0xE000 ≤ s.least ∧ s.bound ≤ 0x110000

theorem least_push (b : UInt8) (h : 1 < s.missing) :
    (s.push b).least = s.bitsWith b * 64 ^ (s.missing - 1) := by
  have hexp : s.missing - 1 = s.missing - 1 - 1 + 1 := by omega
  rw [hexp, pow_succ', ← Nat.mul_assoc]
  simp only [least, push, UInt8.reduceToNat, Nat.reduceSub, Nat.add_zero]

theorem bound_push (b : UInt8) (h : 1 < s.missing) :
    (s.push b).bound = (s.bitsWith b + 1) * 64 ^ (s.missing - 1) := by
  have hexp : s.missing - 1 = s.missing - 1 - 1 + 1 := by omega
  rw [hexp, pow_succ', ← Nat.mul_assoc, Nat.add_mul _ 1 64]
  simp only [bound, push, UInt8.reduceToNat, Nat.reduceSub, Nat.one_mul]

theorem accepts_iff : s.accepts b = true ↔ s.low.toNat ≤ b.toNat ∧ b.toNat ≤ s.high.toNat := by
  rw [accepts, Bool.and_eq_true, decide_eq_true_eq, decide_eq_true_eq, UInt8.le_iff_toNat_le,
    UInt8.le_iff_toNat_le]

namespace IsOpen

variable (h : s.IsOpen)
include h

theorem not_accepts (hb : b.toNat < 128) : s.accepts b = false := by
  rw [← Bool.not_eq_true, accepts_iff]
  have := h.low
  omega

theorem bitsWith_bounds (hb : s.accepts b = true) :
    s.bits * 64 + (s.low.toNat - 128) ≤ s.bitsWith b ∧
      s.bitsWith b < s.bits * 64 + (s.high.toNat - 127) := by
  rw [accepts_iff] at hb
  have hlow := h.low
  have hhigh := h.high
  rw [bitsWith]
  omega

theorem push (hb : s.accepts b = true) (hmissing : 1 < s.missing) : (s.push b).IsOpen := by
  obtain ⟨hleast, hbound⟩ := h.bitsWith_bounds hb
  have hleast : s.least ≤ (s.push b).least := by
    rw [least_push b hmissing]
    exact Nat.mul_le_mul_right _ hleast
  have hbound : (s.push b).bound ≤ s.bound := by
    rw [bound_push b hmissing]
    exact Nat.mul_le_mul_right _ hbound
  refine ⟨le_refl 128, (by decide : 191 < 192), h.ascii.trans hleast, ?_⟩
  exact h.scalar.imp hbound.trans fun hs => ⟨hs.1.trans hleast, hbound.trans hs.2⟩

theorem toNat_last (hb : s.accepts b = true) (hmissing : s.missing ≤ 1) :
    128 ≤ (Char.ofNat (s.bitsWith b)).toNat := by
  obtain ⟨hleast, hbound⟩ := h.bitsWith_bounds hb
  have hpow : 64 ^ (s.missing - 1) = 1 := by
    rw [Nat.sub_eq_zero_of_le hmissing, pow_zero]
  have hascii := h.ascii
  have hscalar := h.scalar
  rw [least, bound, hpow, Nat.mul_one, Nat.mul_one] at hscalar
  rw [least, hpow, Nat.mul_one] at hascii
  have hvalid : (s.bitsWith b).isValidChar := by
    rw [Nat.isValidChar]
    omega
  have hcode : (Char.ofNat (s.bitsWith b)).toNat = s.bitsWith b := by
    rw [Char.ofNat, dif_pos hvalid]
    rfl
  omega

end IsOpen

end Sequence

theorem lead_of_ascii (h : b.toNat < 128) : lead b = .single (Char.ofNat b.toNat) := by
  rw [lead, if_pos h]

theorem toNat_of_lead_single {c : Char} (h : lead b = .single c) : c = Char.ofNat b.toNat := by
  unfold lead at h
  dsimp only at h
  split_ifs at h
  exact (Lead.single.inj h).symm

theorem isOpen_of_lead (h : lead b = .opens s) : s.IsOpen := by
  unfold lead at h
  dsimp only at h
  split_ifs at h
  all_goals
    cases h
    constructor <;> simp [Sequence.least, Sequence.bound] <;> omega

end Sequences

section Steps

def start (b : UInt8) : List Char × Option Sequence :=
  match lead b with
  | .single c => ([c], none)
  | .opens s => ([], some s)
  | .invalid => ([replacement], none)

def step : Option Sequence → UInt8 → List Char × Option Sequence
  | none, b => start b
  | some s, b =>
      if s.accepts b then
        if s.missing ≤ 1 then ([Char.ofNat (s.bitsWith b)], none) else ([], some (s.push b))
      else (replacement :: (start b).1, (start b).2)

theorem decodeFrom_cons (st : Option Sequence) (b : UInt8) (bs : List UInt8) :
    decodeFrom st (b :: bs) = (step st b).1 ++ decodeFrom (step st b).2 bs := by
  cases st with
  | none =>
    rw [decodeFrom, step, start]
    cases lead b <;> rfl
  | some s =>
    rw [decodeFrom, step, start]
    split_ifs
    · rfl
    · rfl
    · cases lead b <;> rfl

def AreOpen (st : Option Sequence) : Prop :=
  ∀ s ∈ st, s.IsOpen

variable {st : Option Sequence} {b : UInt8} {c : Char}

theorem areOpen_none : AreOpen none := by
  rintro _ ⟨⟩

theorem areOpen_start (b : UInt8) : AreOpen (start b).2 := by
  intro s hs
  unfold start at hs
  cases hlead : lead b with
  | single c => simp [hlead] at hs
  | invalid => simp [hlead] at hs
  | opens o =>
    have : o = s := by simpa [hlead] using hs
    exact this ▸ isOpen_of_lead hlead

theorem areOpen_step (h : AreOpen st) (b : UInt8) : AreOpen (step st b).2 := by
  cases st with
  | none => exact areOpen_start b
  | some s =>
    rw [step]
    split_ifs with hb hmissing
    · exact areOpen_none
    · rintro _ ⟨⟩
      exact (h s rfl).push hb (by omega)
    · exact areOpen_start b

theorem step_of_ascii (h : AreOpen st) (hb : b.toNat < 128) :
    step st b = (decodeFrom st [] ++ [Char.ofNat b.toNat], none) := by
  have hstart : start b = ([Char.ofNat b.toNat], none) := by rw [start, lead_of_ascii hb]
  cases st with
  | none => exact hstart
  | some s =>
    rw [step, (h s rfl).not_accepts hb, hstart]
    rfl

theorem ascii_mem_start (hc : c ∈ (start b).1) (hascii : c.toNat < 128) :
    c = Char.ofNat b.toNat := by
  unfold start at hc
  cases hlead : lead b with
  | single d =>
    have hd : c = d := by simpa [hlead] using hc
    exact hd.trans (toNat_of_lead_single hlead)
  | opens s => simp [hlead] at hc
  | invalid =>
    have hd : c = replacement := by simpa [hlead] using hc
    subst hd
    exact absurd hascii (by decide)

theorem ascii_mem_step (h : AreOpen st) (hc : c ∈ (step st b).1) (hascii : c.toNat < 128) :
    c = Char.ofNat b.toNat := by
  cases st with
  | none => exact ascii_mem_start hc hascii
  | some s =>
    rw [step] at hc
    split_ifs at hc with hb hmissing
    · rw [List.mem_singleton] at hc
      have := (h s rfl).toNat_last hb hmissing
      rw [hc] at hascii
      omega
    · cases hc
    · rcases List.mem_cons.mp hc with rfl | hc
      · exact absurd hascii (by decide)
      · exact ascii_mem_start hc hascii

theorem step_ne_nil (st : Option Sequence) (b : UInt8) :
    (step st b).1 ≠ [] ∨ (step st b).2 ≠ none := by
  have hstart : (start b).1 ≠ [] ∨ (start b).2 ≠ none := by
    rw [start]
    cases lead b <;> simp
  cases st with
  | none => exact hstart
  | some s =>
    rw [step]
    split_ifs <;> simp

end Steps

section Cuts

variable {st : Option Sequence} {b : UInt8} {c : Char} {bs xs ys : List UInt8}

theorem decodeFrom_append_ascii (h : AreOpen st) (hb : b.toNat < 128) (xs ys : List UInt8) :
    decodeFrom st (xs ++ b :: ys) =
      decodeFrom st xs ++ Char.ofNat b.toNat :: decodeLossy ys := by
  induction xs generalizing st with
  | nil =>
    rw [List.nil_append, decodeFrom_cons, step_of_ascii h hb, List.append_assoc]
    rfl
  | cons x xs ih =>
    rw [List.cons_append, decodeFrom_cons, decodeFrom_cons, ih (areOpen_step h x),
      List.append_assoc]

theorem ascii_mem_decodeFrom (h : AreOpen st) (hc : c ∈ decodeFrom st bs)
    (hascii : c.toNat < 128) : ∃ b ∈ bs, c = Char.ofNat b.toNat := by
  induction bs generalizing st with
  | nil =>
    cases st with
    | none => cases hc
    | some s =>
      have hd : c = replacement := List.mem_singleton.mp hc
      subst hd
      exact absurd hascii (by decide)
  | cons b bs ih =>
    rw [decodeFrom_cons, List.mem_append] at hc
    rcases hc with hc | hc
    · exact ⟨b, by simp, ascii_mem_step h hc hascii⟩
    · obtain ⟨b', hb', hc⟩ := ih (areOpen_step h b) hc
      exact ⟨b', by simp [hb'], hc⟩

theorem decodeFrom_ne_nil (h : st ≠ none ∨ bs ≠ []) : decodeFrom st bs ≠ [] := by
  induction bs generalizing st with
  | nil =>
    cases st with
    | none => simp at h
    | some s => exact List.cons_ne_nil _ _
  | cons b bs ih =>
    rw [decodeFrom_cons]
    rcases step_ne_nil st b with hwritten | hopen
    · exact List.append_ne_nil_of_left_ne_nil hwritten _
    · exact List.append_ne_nil_of_right_ne_nil _ (ih (.inl hopen))

theorem decodeLossy_eq_nil_iff : decodeLossy bs = [] ↔ bs = [] := by
  constructor
  · intro h
    by_contra hne
    exact decodeFrom_ne_nil (.inr hne) h
  · rintro rfl
    rfl

theorem toNat_ofNat_byte (b : UInt8) : (Char.ofNat b.toNat).toNat = b.toNat := by
  have hvalid : b.toNat.isValidChar := .inl (b.toNat_lt.trans (by decide))
  rw [Char.ofNat, dif_pos hvalid]
  rfl

theorem ofNat_byte_inj {b' : UInt8} : Char.ofNat b.toNat = Char.ofNat b'.toNat ↔ b = b' := by
  constructor
  · intro h
    rw [← UInt8.toNat_inj, ← toNat_ofNat_byte b, h, toNat_ofNat_byte]
  · rintro rfl
    rfl

structure AreAscii (p : UInt8 → Bool) (q : Char → Bool) : Prop where
  ascii : ∀ b, p b = true → b.toNat < 128
  chars : ∀ c, q c = true ↔ ∃ b, p b = true ∧ c = Char.ofNat b.toNat

namespace AreAscii

variable {p : UInt8 → Bool} {q : Char → Bool} (h : AreAscii p q)
include h

theorem char_of_byte (hb : p b = true) : q (Char.ofNat b.toNat) = true :=
  (h.chars _).mpr ⟨b, hb, rfl⟩

theorem decodeLossy_free (hfree : ∀ b ∈ bs, p b = false) : ∀ c ∈ decodeLossy bs, q c = false := by
  intro c hc
  rw [← Bool.not_eq_true]
  intro hq
  obtain ⟨b, hb, rfl⟩ := (h.chars c).mp hq
  have hascii : (Char.ofNat b.toNat).toNat < 128 := by
    rw [toNat_ofNat_byte]
    exact h.ascii b hb
  obtain ⟨b', hmem, hsame⟩ := ascii_mem_decodeFrom areOpen_none hc hascii
  rw [ofNat_byte_inj.mp hsame, hfree b' hmem] at hb
  cases hb

theorem decodeLossy_append (hb : p b = true) (xs ys : List UInt8) :
    decodeLossy (xs ++ b :: ys) = decodeLossy xs ++ Char.ofNat b.toNat :: decodeLossy ys :=
  decodeFrom_append_ascii areOpen_none (h.ascii b hb) xs ys

theorem splitOnP_decodeLossy (bs : List UInt8) :
    (decodeLossy bs).splitOnP q = (bs.splitOnP p).map decodeLossy := by
  induction hn : bs.length using Nat.strong_induction_on generalizing bs with
  | _ n ih =>
    by_cases hfree : ∀ b ∈ bs, p b = false
    · rw [List.splitOnP_eq_singleton (h.decodeLossy_free hfree), List.splitOnP_eq_singleton hfree]
      rfl
    · obtain ⟨b, hmem, hb⟩ : ∃ b ∈ bs, p b = true := by simpa using hfree
      obtain ⟨xs, ys, rfl⟩ := List.append_of_mem hmem
      rw [List.length_append, List.length_cons] at hn
      rw [h.decodeLossy_append hb, List.splitOnP_append_cons _ _ (h.char_of_byte hb),
        List.splitOnP_append_cons _ _ hb, List.map_append, ih xs.length (by omega) xs rfl,
        ih ys.length (by omega) ys rfl]

theorem takeWhile_decodeLossy (bs : List UInt8) :
    (decodeLossy bs).takeWhile (!q ·) = decodeLossy (bs.takeWhile (!p ·)) := by
  have hfree : ∀ b ∈ bs.takeWhile (!p ·), p b = false := by
    intro b hb
    simpa using List.mem_takeWhile_imp hb
  have hchars : ∀ c ∈ decodeLossy (bs.takeWhile (!p ·)), (!q c) = true := by
    intro c hc
    simpa using h.decodeLossy_free hfree c hc
  conv_lhs => rw [← List.takeWhile_append_dropWhile (p := (!p ·)) (l := bs)]
  cases hrest : bs.dropWhile (!p ·) with
  | nil => rw [List.append_nil, List.takeWhile_eq_self_iff.mpr hchars]
  | cons b ys =>
    have hb : p b = true := by
      have := List.head?_dropWhile_not (!p ·) bs
      rw [hrest] at this
      simpa using this
    rw [h.decodeLossy_append hb]
    apply takeWhile_append_cons hchars
    simpa using h.char_of_byte hb

end AreAscii

end Cuts

section Exact

variable {bs : List UInt8} {s : List Char}

theorem decodeFrom_of_checked {pos : ℕ} {first : UInt8} {st : Option Sequence}
    (h : decodeChecked pos first st bs = .ok s) : decodeFrom st bs = s := by
  induction bs generalizing pos first st s with
  | nil =>
    cases st with
    | none => exact Except.ok.inj h
    | some o => cases h
  | cons b bs ih =>
    cases st with
    | none =>
      rw [decodeChecked] at h
      rw [decodeFrom]
      cases hlead : lead b with
      | single c =>
        rw [hlead] at h
        obtain ⟨s', hs', rfl⟩ := map_eq_ok.mp h
        exact congrArg _ (ih hs')
      | opens o =>
        rw [hlead] at h
        exact ih h
      | invalid =>
        rw [hlead] at h
        cases h
    | some o =>
      rw [decodeChecked] at h
      rw [decodeFrom]
      split_ifs at h ⊢ with hb hmissing
      · obtain ⟨s', hs', rfl⟩ := map_eq_ok.mp h
        exact congrArg _ (ih hs')
      · exact ih h

theorem decodeLossy_encode (s : List Char) : decodeLossy (encode s) = s :=
  decodeFrom_of_checked (decode_encode s)

end Exact

end Residency.Text.Utf8
