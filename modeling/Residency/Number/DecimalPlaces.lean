import Residency.Number.DecimalText

namespace Residency.Number

def withPoint (pointKept : Bool) (whole fraction : List Char) : List Char :=
  if fraction.isEmpty then whole ++ (if pointKept then ['.'] else [])
  else whole ++ '.' :: fraction

def zeroFilled (width n : Nat) : List Char :=
  let ds := Nat.toDigits 10 n
  List.replicate (width - ds.length) '0' ++ ds

/-- A magnitude as decimal digits: `digits * 10 ^ (exponent - places)`. -/
structure Rounded where
  digits : Nat
  exponent : Int
  deriving DecidableEq, Repr

def rounded (places num den : Nat) : Rounded :=
  if num = 0 then ⟨0, 0⟩
  else
    let k := Binary64.floorLog10 num den
    let shift := (places : Int) - k
    let digits :=
      if 0 ≤ shift then roundHalfEven (num * Nat.pow 10 shift.toNat) den
      else roundHalfEven num (den * Nat.pow 10 (-shift).toNat)
    if digits = Nat.pow 10 (places + 1) then ⟨Nat.pow 10 places, k + 1⟩ else ⟨digits, k⟩

def fixedPlaces (pointKept : Bool) (places num den : Nat) : List Char :=
  let n := roundHalfEven (num * Nat.pow 10 places) den
  withPoint pointKept (Nat.toDigits 10 (n / Nat.pow 10 places))
    (if places = 0 then [] else zeroFilled places (n % Nat.pow 10 places))

def exponentPlaces (pointKept : Bool) (places num den : Nat) : List Char :=
  let r := rounded places num den
  let ds := zeroFilled (places + 1) r.digits
  withPoint pointKept (ds.take 1) (ds.drop 1) ++ Binary64.exponentText r.exponent

def withoutEndZeros (s : List Char) : List Char :=
  (s.reverse.dropWhile (· = '0')).reverse

/-- `num / den` with some significant digits, in full where its exponent lies between -4 and the
number of digits. -/
def significant (pointKept : Bool) (digits num den : Nat) : List Char :=
  let digits := max 1 digits
  let r := rounded (digits - 1) num den
  let kept (fraction : List Char) := if pointKept then fraction else withoutEndZeros fraction
  if -4 ≤ r.exponent ∧ r.exponent < digits then
    let places := ((digits : Int) - 1 - r.exponent).toNat
    let n := roundHalfEven (num * Nat.pow 10 places) den
    withPoint pointKept (Nat.toDigits 10 (n / Nat.pow 10 places))
      (if places = 0 then [] else kept (zeroFilled places (n % Nat.pow 10 places)))
  else
    let ds := zeroFilled digits r.digits
    withPoint pointKept (ds.take 1) (kept (ds.drop 1)) ++ Binary64.exponentText r.exponent

example : fixedPlaces false 0 5 2 = "2".toList := by decide +kernel

example : exponentPlaces false 2 99999 10 = "1.00e+04".toList := by decide +kernel

example : significant false 6 123456789 1000 = "123457".toList := by decide +kernel

example : significant false 6 1 10000000 = "1e-07".toList := by decide +kernel

end Residency.Number
