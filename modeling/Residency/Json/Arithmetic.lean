import Residency.Json
import Residency.Number.Index

/-!
Arithmetic on JSON values. Numbers are added and multiplied, a truth value counts as one or zero,
and a result is a floating point number when one of the numbers is. A number of times a text or a
list is that text or list repeated.
-/
namespace Residency

inductive ArithmeticError where
  | notAddable (sum item : Json)
  | notAddableTo (sum item : Json)
  | notMultipliable (v : Json)
  | integerTooLargeForFloat
  | countTooLarge
  | repeatedTextTooLong
  | outOfMemory

def unsupportedMessage (operator : String) (v w : Json) : String :=
  "unsupported operand type(s) for " ++ operator ++ ": '" ++ v.typeName ++ "' and '" ++
    w.typeName ++ "'"

def ArithmeticError.message : ArithmeticError → String
  | .notAddable sum item => unsupportedMessage "+" sum item
  | .notAddableTo sum item => unsupportedMessage "+=" sum item
  | .notMultipliable v => unsupportedMessage "*" (.int 0) v
  | .integerTooLargeForFloat => "int too large to convert to float"
  | .countTooLarge => Number.notIndexSizedMessage
  | .repeatedTextTooLong => "repeated string is too long"
  | .outOfMemory => ""

namespace Json

def floating (n : Int) : Except ArithmeticError Number.Binary64 :=
  match Number.Binary64.ofInt n with
  | .infinite _ => .error .integerTooLargeForFloat
  | x => .ok x

def plus (sum item : Json) : Except ArithmeticError Json :=
  match sum, sum.whole?, item, item.whole? with
  | _, some a, _, some b => .ok (.int (a + b))
  | _, some a, .float y, _ => (floating a).map fun x => .float (x.add y)
  | .float x, _, _, some b => (floating b).map fun y => .float (x.add y)
  | .float x, _, .float y, _ => .ok (.float (x.add y))
  | _, _, _, _ => .error (.notAddable sum item)

def plusTo (sum item : Json) : Except ArithmeticError Json :=
  (plus sum item).mapError fun
    | .notAddable sum item => .notAddableTo sum item
    | e => e

def sum : List Json → Except ArithmeticError Json :=
  List.foldlM plus (.int 0)

def repetitions (tooLong : ArithmeticError) (n : Int) (length : Nat) :
    Except ArithmeticError Nat :=
  if !Number.isIndexSized n then .error .countTooLarge
  else if n ≤ 0 ∨ length = 0 then .ok 0
  else if n.toNat * length > Number.maxIndex then .error tooLong
  else if n.toNat * length > Number.memoryLimit then .error .outOfMemory
  else .ok n.toNat

def times (n : Int) (v : Json) : Except ArithmeticError Json :=
  match v, v.whole? with
  | _, some a => .ok (.int (n * a))
  | .float y, _ => (floating n).map fun x => .float (x.mul y)
  | .str s, _ => (repetitions .repeatedTextTooLong n s.length).map fun k =>
      .str (String.ofList (List.replicate k s.toList).flatten)
  | .arr items, _ => (repetitions .outOfMemory n items.length).map fun k =>
      .arr (List.replicate k items).flatten
  | v, _ => .error (.notMultipliable v)

theorem foldlM_plus_int (ns : List Int) (a : Int) :
    List.foldlM plus (.int a) (ns.map .int) = .ok (.int (ns.foldl (· + ·) a)) := by
  induction ns generalizing a with
  | nil => rfl
  | cons n ns ih => exact ih (a + n)

theorem sum_int (ns : List Int) : sum (ns.map .int) = .ok (.int (ns.foldl (· + ·) 0)) :=
  foldlM_plus_int ns 0

end Json

end Residency
