import Residency.Console.Literal.Flaw

/-!
Numerals at the front of a text: whole numbers in base ten, sixteen, eight and two, decimal
fractions with an exponent, and imaginary numbers. Single low lines may stand between digits. A
name must not follow a numeral, unless it begins like a word that may come after an operand.
-/
namespace Residency.Console.Literal

def maxNumeralDigits : Nat := 4300

def NumeralKind.isDigit : NumeralKind → Char → Bool
  | .hexadecimal, c => c.isDigit || ('a' ≤ c.toLower && c.toLower ≤ 'f')
  | .octal, c => '0' ≤ c && c ≤ '7'
  | .binary, c => c = '0' || c = '1'
  | _, c => c.isDigit

/-- What comes after a run of digits with single low lines between them, or nothing if a low line
has no digit after it. -/
def afterDigits? (n : NumeralKind) : List Char → Option (List Char)
  | [] => some []
  | ['_'] => none
  | '_' :: c :: s => if n.isDigit c then afterDigits? n s else none
  | c :: s => if n.isDigit c then afterDigits? n s else some (c :: s)

/-- Whether a word that may follow a numeral without a blank is at the front of a text. The longer
ones have to end there, and the shorter ones may be the beginning of a name. -/
def beginsWithWord (s : List Char) : Bool :=
  (["and", "else", "for", "not", "or"].any fun w => w.toList.isPrefixOf s &&
    !(s.drop w.length).head?.any fun c => c.isAlphanum || c = '_' || 0x80 ≤ c.toNat) ||
  ["if", "in", "is"].any fun w => w.toList.isPrefixOf s

def ended (n : NumeralKind) (s : List Char) : Except LiteralError (List Char) :=
  match s with
  | [] => .ok s
  | c :: _ =>
      if (c.isAlphanum || c = '_') && !beginsWithWord s then .error (.malformedNumeral n)
      else .ok s

def afterImaginary (s : List Char) : Except LiteralError (List Char) :=
  match s with
  | c :: r => if c = 'j' || c = 'J' then ended .imaginary r else ended .decimal s
  | [] => .ok []

def afterExponent (s : List Char) : Except LiteralError (List Char) :=
  let digits (r : List Char) := match afterDigits? .decimal r with
    | some t => afterImaginary t
    | none => .error (.malformedNumeral .decimal)
  match s with
  | e :: sign :: r =>
      if e = 'e' || e = 'E' then
        if sign = '+' || sign = '-' then
          if r.head?.any Char.isDigit then digits r else .error (.malformedNumeral .decimal)
        else if sign.isDigit then digits (sign :: r)
        else ended .decimal s
      else afterImaginary s
  | _ => afterImaginary s

def afterPoint (s : List Char) : Except LiteralError (List Char) :=
  if s.head?.any Char.isDigit then
    match afterDigits? .decimal s with
    | some r => afterExponent r
    | none => .error (.malformedNumeral .decimal)
  else afterExponent s

def afterPrefix (n : NumeralKind) (s : List Char) : Except LiteralError (List Char) :=
  let wrong (r : List Char) : LiteralError := match r with
    | c :: _ => if n ≠ .hexadecimal && c.isDigit then .wrongDigit n c else .malformedNumeral n
    | [] => .malformedNumeral n
  let first := if s.head? = some '_' then s.drop 1 else s
  if !first.head?.any n.isDigit then .error (wrong first)
  else match afterDigits? n first with
    | some r => if r.head?.any Char.isDigit then .error (wrong r) else ended n r
    | none =>
        let rest := first.dropWhile fun c => n.isDigit c || c = '_'
        .error (wrong rest)

def kindOfMark? (c : Char) : Option NumeralKind :=
  if c = 'x' || c = 'X' then some .hexadecimal
  else if c = 'o' || c = 'O' then some .octal
  else if c = 'b' || c = 'B' then some .binary
  else none

def afterDecimal (s : List Char) : Except LiteralError (List Char) :=
  match afterDigits? .decimal s with
  | none => .error (.malformedNumeral .decimal)
  | some r =>
      let digits := (s.take (s.length - r.length)).filter (· ≠ '_')
      let isWhole := !(['.', 'e', 'E', 'j', 'J'].contains (r.headD ' '))
      if isWhole && digits.head? = some '0' && digits.any (· ≠ '0') then .error .leadingZeros
      else if isWhole && digits.head? ≠ some '0' && maxNumeralDigits < digits.length then
        .error (.tooManyDigits digits.length)
      else match r with
        | '.' :: t => afterPoint t
        | _ => afterExponent r

def afterNumeral (s : List Char) : Except LiteralError (List Char) :=
  match s with
  | '.' :: r => afterPoint r
  | '0' :: c :: r =>
      match kindOfMark? c with
      | some n => afterPrefix n r
      | none => afterDecimal s
  | _ => afterDecimal s

example : (afterNumeral "0x1_f)".toList).toOption = some [')'] := by decide +kernel

example : (afterNumeral "1.5e-3j, 2".toList).toOption = some ", 2".toList := by decide +kernel

example : (afterNumeral "0o18".toList).toOption = none := by decide +kernel

end Residency.Console.Literal
