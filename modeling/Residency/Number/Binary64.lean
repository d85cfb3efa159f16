import Residency.Number.Rounding

/-!
Binary floating point numbers of 64 bits, as exact values. A finite number is a mantissa below
2^53 times a power of two not below 2^-1074, and its mantissa is below 2^52 only at that least
exponent, so each value has one form (zero has two, by its sign).
-/
namespace Residency.Number

inductive Binary64 where
  | finite (negative : Bool) (mantissa : Nat) (exponent : Int)
  | infinite (negative : Bool)
  | nan
  deriving DecidableEq, Repr

namespace Binary64

def minExponent : Int := -1074

def maxExponent : Int := 971

def zero (negative : Bool) : Binary64 :=
  .finite negative 0 minExponent

def scaled (n : Nat) (e : Int) : Nat × Nat :=
  if 0 ≤ e then (n * Nat.pow 2 e.toNat, 1) else (n, Nat.pow 2 (-e).toNat)

def unscaled (num den : Nat) (e : Int) : Nat × Nat :=
  if 0 ≤ e then (num, den * Nat.pow 2 e.toNat) else (num * Nat.pow 2 (-e).toNat, den)

def floorLog2 (num den : Nat) : Int :=
  let e := (Nat.log2 num : Int) - Nat.log2 den
  let (n, d) := unscaled num den e
  if d ≤ n then e else e - 1

def placeExponent (num den : Nat) : Int :=
  max minExponent (floorLog2 num den - 52)

/-- The number nearest to `num / den`, a half to the even mantissa, and an infinity beyond the
greatest finite number. -/
def ofRatio (negative : Bool) (num den : Nat) : Binary64 :=
  if num = 0 then zero negative
  else
    let e := placeExponent num den
    let (n, d) := unscaled num den e
    let m := roundHalfEven n d
    if m = Nat.pow 2 53 then
      if e + 1 > maxExponent then .infinite negative else .finite negative (Nat.pow 2 52) (e + 1)
    else if e > maxExponent then .infinite negative
    else .finite negative m e

def ofInt (n : Int) : Binary64 :=
  ofRatio (n < 0) n.natAbs 1

/-- The number nearest to `digits * 10 ^ exponent`. Values far outside the range are decided by
their magnitude alone. -/
def ofDecimal (negative : Bool) (digits : Nat) (exponent : Int) : Binary64 :=
  let magnitude := exponent + (Nat.toDigits 10 digits).length
  if digits = 0 then zero negative
  else if magnitude > 400 then .infinite negative
  else if magnitude < -400 then zero negative
  else if 0 ≤ exponent then ofRatio negative (digits * Nat.pow 10 exponent.toNat) 1
  else ofRatio negative digits (Nat.pow 10 (-exponent).toNat)

def signedMultiple (negative : Bool) (m : Nat) (shift : Nat) : Int :=
  let n : Int := (m * Nat.pow 2 shift : Nat)
  if negative then -n else n

def add : Binary64 → Binary64 → Binary64
  | .nan, _ => .nan
  | _, .nan => .nan
  | .infinite a, .infinite b => if a = b then .infinite a else .nan
  | .infinite a, .finite .. => .infinite a
  | .finite .., .infinite b => .infinite b
  | .finite a m e, .finite b n f =>
      let g := min e f
      let s := signedMultiple a m (e - g).toNat + signedMultiple b n (f - g).toNat
      let (num, den) := scaled s.natAbs g
      if s = 0 then zero (a && b) else ofRatio (s < 0) num den

def mul : Binary64 → Binary64 → Binary64
  | .nan, _ => .nan
  | _, .nan => .nan
  | .infinite a, .infinite b => .infinite (a != b)
  | .infinite a, .finite b n _ => if n = 0 then .nan else .infinite (a != b)
  | .finite a m _, .infinite b => if m = 0 then .nan else .infinite (a != b)
  | .finite a m e, .finite b n f =>
      let (num, den) := scaled (m * n) (e + f)
      ofRatio (a != b) num den

def isBelow (x : Binary64) (n : Nat) : Bool :=
  match x with
  | .finite negative m e =>
      let (num, den) := scaled m e
      (negative && m != 0) || num < n * den
  | .infinite negative => negative
  | .nan => false

def isAbove (x : Binary64) (n : Nat) : Bool :=
  match x with
  | .finite negative m e =>
      let (num, den) := scaled m e
      !negative && n * den < num
  | .infinite negative => !negative
  | .nan => false

def floorAbs : Binary64 → Nat
  | .finite _ m e =>
      let (num, den) := scaled m e
      num / den
  | _ => 0

def truncate? : Binary64 → Option Int
  | .finite negative m e =>
      let n : Int := floorAbs (.finite negative m e)
      some (if negative then -n else n)
  | _ => none

def toInt? : Binary64 → Option Int
  | .finite negative m e =>
      let (num, den) := scaled m e
      if num % den = 0 then
        some (if negative then -(num / den : Nat) else (num / den : Nat))
      else none
  | _ => none

example : ofRatio false 1 10 = .finite false 7205759403792794 (-56) := by decide +kernel

example : ofRatio false (2 ^ 1024 - 2 ^ 970) 1 = .infinite false := by decide +kernel

end Binary64

end Residency.Number
