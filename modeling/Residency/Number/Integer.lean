import Residency.Number.Digit
import Residency.Text.Blank
import Residency.Text.Quoted

/-!
Integers as decimal text. Reading takes blanks around the numeral, one sign, digits of any script
and single underscores between digits; both directions refuse a numeral of more than 4300 digits.
-/
namespace Residency.Number

inductive IntegerError where
  | malformed (text : String)
  | tooLong (digits : Nat)
  deriving DecidableEq, Repr

def maxDigits : Nat := 4300

/-- Whether the underscores of a run of digits and underscores stand singly between digits.
The flag tells whether the character before is a digit. -/
def digitsSeparated (afterDigit : Bool) : List Char → Bool
  | [] => afterDigit
  | c :: s =>
      if c = '_' then afterDigit && digitsSeparated false s
      else digitsSeparated true s

def takeSign : List Char → Bool × List Char
  | '-' :: s => (true, s)
  | '+' :: s => (false, s)
  | s => (false, s)

/-- Reads an integer. A run with a misplaced underscore is malformed; otherwise the count of its
digits is looked at before what follows it. -/
def readInteger (s : List Char) : Except IntegerError Int :=
  let (negative, body) := takeSign (Text.trimWhile Text.isNumeralBlank s)
  let run := body.takeWhile fun c => isDigit c || c = '_'
  let count := run.countP isDigit
  if !digitsSeparated false run then .error (.malformed (String.ofList s))
  else if count > maxDigits then .error (.tooLong count)
  else if body.length > run.length then .error (.malformed (String.ofList s))
  else .ok (if negative then -(digitsValue run : Int) else digitsValue run)

def decimal (n : Int) : List Char :=
  match n with
  | .ofNat m => Nat.toDigits 10 m
  | .negSucc m => '-' :: Nat.toDigits 10 (m + 1)

def isWritable (n : Int) : Bool :=
  (Nat.toDigits 10 n.natAbs).length ≤ maxDigits

def decimal? (n : Int) : Option String :=
  if isWritable n then some (String.ofList (decimal n)) else none

def tooLongMessage : String :=
  "Exceeds the limit (" ++ toString maxDigits ++ " digits) for integer string conversion"

def notWritableMessage : String :=
  tooLongMessage ++ "; use sys.set_int_max_str_digits() to increase the limit"

def IntegerError.message : IntegerError → String
  | .malformed text =>
      "invalid literal for int() with base 10: " ++
        String.ofList ((Text.quoted text.toList).take 200)
  | .tooLong digits =>
      tooLongMessage ++ ": value has " ++ toString digits ++
        " digits; use sys.set_int_max_str_digits() to increase the limit"

example : (readInteger " -1_000\n".toList).toOption = some (-1000) := by decide +kernel

example : (readInteger "1__0".toList).toOption = none := by decide +kernel

end Residency.Number
