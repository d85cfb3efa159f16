import Residency.Number.Binary64

namespace Residency.Number.Binary64

def placed (places n : Nat) : List Char :=
  Nat.toDigits 10 (n / Nat.pow 10 places) ++ '.' ::
    (let ds := Nat.toDigits 10 (n % Nat.pow 10 places)
     List.replicate (places - ds.length) '0' ++ ds)

def fixedText (places : Nat) : Binary64 → List Char
  | .finite _ m e =>
      let (num, den) := scaled m e
      placed places (roundHalfEven (num * Nat.pow 10 places) den)
  | .infinite _ => ['i', 'n', 'f']
  | .nan => ['n', 'a', 'n']

def floorLog10 (num den : Nat) : Int :=
  if den ≤ num then (Nat.toDigits 10 (num / den)).length - 1
  else
    let d := (Nat.toDigits 10 (den / num)).length
    if den ≤ num * Nat.pow 10 (d - 1) then -((d : Int) - 1) else -d

/-- The numbers that round to a given one lie between `low / den` and `high / den`, the ends
included when `closed` holds; `num / den` is the number itself. -/
structure Neighbourhood where
  low : Nat
  num : Nat
  high : Nat
  den : Nat
  closed : Bool

/-- The neighbourhood of `m * 2 ^ e`: half a place to either side, and a quarter below a power of
two, whose lower neighbours are nearer. -/
def neighbourhood (m : Nat) (e : Int) : Neighbourhood :=
  let (unit, den) := scaled 1 e
  let below := if m = Nat.pow 2 52 ∧ e > minExponent then unit else 2 * unit
  { low := 4 * m * unit - below, num := 4 * m * unit, high := 4 * m * unit + 2 * unit,
    den := 4 * den, closed := m % 2 == 0 }

def Neighbourhood.contains (h : Neighbourhood) (c : Nat) (p : Int) : Bool :=
  let up := if 0 ≤ p then Nat.pow 10 p.toNat else 1
  let down := if 0 ≤ p then 1 else Nat.pow 10 (-p).toNat
  let x := c * up * h.den
  if h.closed then h.low * down ≤ x && x ≤ h.high * down
  else h.low * down < x && x < h.high * down

def Neighbourhood.nearest? (h : Neighbourhood) (p : Int) : Option Nat :=
  let up := if 0 ≤ p then Nat.pow 10 p.toNat else 1
  let down := if 0 ≤ p then 1 else Nat.pow 10 (-p).toNat
  let num := h.num * down
  let unit := h.den * up
  let c := num / unit
  let r := num % unit
  match h.contains c p, h.contains (c + 1) p with
  | true, true => some (if 2 * r < unit ∨ (2 * r = unit ∧ c % 2 = 0) then c else c + 1)
  | true, false => some c
  | false, true => some (c + 1)
  | false, false => none

def shortestFrom (h : Neighbourhood) (k : Int) : Nat → Nat → Nat × Int
  | _, 0 => (0, 0)
  | digits, fuel + 1 =>
      let p := k - digits + 1
      match h.nearest? p with
      | some c => (c, p)
      | none => shortestFrom h k (digits + 1) fuel

/-- The decimal `c * 10 ^ p` of fewest digits that reads back as `m * 2 ^ e`, for positive `m`.
Seventeen digits are always enough. -/
def shortest (m : Nat) (e : Int) : Nat × Int :=
  let (num, den) := scaled m e
  shortestFrom (neighbourhood m e) (floorLog10 num den) 1 17

def exponentText (e : Int) : List Char :=
  let ds := Nat.toDigits 10 e.natAbs
  'e' :: (if e < 0 then '-' else '+') :: List.replicate (2 - ds.length) '0' ++ ds

/-- Digits with the decimal point after the first `point` of them. Numbers from 10^-4 up to 10^16
are written in full, others with an exponent. -/
def pointed (ds : List Char) (point : Int) : List Char :=
  if point ≤ -4 ∨ 16 < point then
    match ds with
    | [] => []
    | [d] => d :: exponentText (point - 1)
    | d :: r => d :: '.' :: r ++ exponentText (point - 1)
  else if point ≤ 0 then '0' :: '.' :: List.replicate (-point).toNat '0' ++ ds
  else
    let n := point.toNat
    if ds.length ≤ n then ds ++ List.replicate (n - ds.length) '0' ++ ['.', '0']
    else ds.take n ++ '.' :: ds.drop n

def text : Binary64 → List Char
  | .finite negative m e =>
      let body :=
        if m = 0 then ['0', '.', '0']
        else
          let (c, p) := shortest m e
          let ds := Nat.toDigits 10 c
          let kept := (ds.reverse.dropWhile (· = '0')).reverse
          pointed kept (p + ds.length)
      if negative then '-' :: body else body
  | .infinite negative => if negative then ['-', 'i', 'n', 'f'] else ['i', 'n', 'f']
  | .nan => ['n', 'a', 'n']

example : text (ofDecimal false 1 (-1)) = "0.1".toList := by decide +kernel

example : text (ofDecimal false 1 22) = "1e+22".toList := by decide +kernel

example : fixedText 1 (ofRatio false 59950 1000) = "60.0".toList := by decide +kernel

end Residency.Number.Binary64
