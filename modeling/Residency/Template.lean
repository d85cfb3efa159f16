import Residency.FrequencyTable
import Residency.Json.Shown
import Residency.Number.DecimalPlaces
import Residency.Record

namespace Residency

inductive TemplateError where
  | incomplete
  | incompleteName
  | noMembers
  | field (e : RecordError)
  | tooFewValues
  | tooManyValues
  | sizeNotInteger
  | sizeTooLarge (word : String)
  | widthTooLarge
  | precisionTooLarge
  | unknownConversion (c : Char) (index : Nat)
  | notReal (conversion : Char) (v : Json)
  | notInteger (conversion : Char) (v : Json)
  | notFloating (v : Json)
  | fraction (e : EntryError)
  | integerTooLargeForFloat
  | integerTooLong
  | notCharacter
  | noSuchCharacter

def TemplateError.message : TemplateError → String
  | .incomplete => "incomplete format"
  | .incompleteName => "incomplete format key"
  | .noMembers => "format requires a mapping"
  | .field e => e.message
  | .tooFewValues => "not enough arguments for format string"
  | .tooManyValues => "not all arguments converted during string formatting"
  | .sizeNotInteger => "* wants int"
  | .sizeTooLarge word => "Python int too large to convert to C " ++ word
  | .widthTooLarge => "width too big"
  | .precisionTooLarge => "precision too big"
  | .unknownConversion c index =>
      let shown := if '\x1f' ≤ c ∧ c ≤ '~' then c else '?'
      "unsupported format character '" ++ String.singleton shown ++ "' (0x" ++
        String.ofList (Nat.toDigits 16 c.toNat) ++ ") at index " ++ toString index
  | .notReal conversion v =>
      "%" ++ String.singleton conversion ++ " format: a real number is required, not " ++ v.typeName
  | .notInteger conversion v =>
      "%" ++ String.singleton conversion ++ " format: an integer is required, not " ++ v.typeName
  | .notFloating v => "must be real number, not " ++ v.typeName
  | .fraction e => e.message
  | .integerTooLargeForFloat => "int too large to convert to float"
  | .integerTooLong => Number.notWritableMessage
  | .notCharacter => "%c requires int or char"
  | .noSuchCharacter => "%c arg not in range(0x110000)"

namespace Template

structure Directive where
  flags : List Char := []
  width : Nat := 0
  precision : Option Nat := none
  conversion : Char

def Directive.has (d : Directive) (flag : Char) : Bool :=
  d.flags.contains flag

/-- The values for the directives to come: what names are looked up in, and the value for the next
directive without a name. -/
structure Supply where
  members : Option Json
  next : Option Json

def Supply.ofValue (v : Json) : Supply :=
  match v with
  | .str _ => { members := none, next := some v }
  | v => { members := some v, next := some v }

def Supply.take (s : Supply) : Except TemplateError (Json × Supply) :=
  match s.next with
  | some v => .ok (v, { s with next := none })
  | none => .error .tooFewValues

def Supply.lookUp (s : Supply) (name : String) : Except TemplateError Supply :=
  match s.members with
  | none => .error .noMembers
  | some v => (v.field name).mapError .field |>.map fun w => { s with next := some w }

def takeName : (depth : Nat) → List Char → Option (List Char × List Char)
  | _, [] => none
  | depth, ')' :: s =>
      if depth = 0 then some ([], s) else (takeName (depth - 1) s).map fun (n, r) => (')' :: n, r)
  | depth, '(' :: s => (takeName (depth + 1) s).map fun (n, r) => ('(' :: n, r)
  | depth, c :: s => (takeName depth s).map fun (n, r) => (c :: n, r)

def readName (supply : Supply) : List Char → Except TemplateError (Supply × List Char)
  | '(' :: s =>
      if supply.members.isNone then .error .noMembers
      else match takeName 0 s with
        | none => .error .incompleteName
        | some (name, rest) => (supply.lookUp (String.ofList name)).map (·, rest)
  | s => .ok (supply, s)

def readSize (bound : Nat) (word : String) (tooLarge : TemplateError) (supply : Supply) :
    List Char → Except TemplateError (Option Nat × Supply × List Char)
  | '*' :: s =>
      supply.take.bind fun (v, supply) => match v.whole? with
        | none => .error .sizeNotInteger
        | some n =>
            if -(bound : Int) - 1 ≤ n ∧ n ≤ bound then .ok (none, supply, s)
            else .error (.sizeTooLarge word)
  | s =>
      let digits := s.takeWhile Char.isDigit
      let n := Number.digitsValue digits
      if digits.isEmpty then .ok (none, supply, s)
      else if n > bound then .error tooLarge
      else .ok (some n, supply, s.drop digits.length)

/-- Reads the precision, if there is one. A point alone is a precision of zero. -/
def readPrecision (supply : Supply) :
    List Char → Except TemplateError (Option Nat × Supply × List Char)
  | '.' :: s =>
      (readSize (Nat.pow 2 31 - 1) "int" .precisionTooLarge supply s).map fun (n, supply, s) =>
        (some (n.getD 0), supply, s)
  | s => .ok (none, supply, s)

def dropLengthMark : List Char → List Char
  | c :: s => if c = 'h' ∨ c = 'l' ∨ c = 'L' then s else c :: s
  | [] => []

def readDirective (supply : Supply) (s : List Char) :
    Except TemplateError (Directive × Supply × List Char) := do
  let (supply, s) ← readName supply s
  let flags := s.takeWhile ['-', '+', ' ', '#', '0'].contains
  let (width, supply, s) ←
    readSize (Nat.pow 2 63 - 1) "ssize_t" .widthTooLarge supply (s.drop flags.length)
  let (precision, supply, s) ← readPrecision supply s
  match dropLengthMark s with
  | [] => .error .incomplete
  | c :: rest =>
      .ok ({ flags, width := width.getD 0, precision, conversion := c }, supply, rest)

def aligned (d : Directive) (s : List Char) : List Char :=
  let blanks := List.replicate (d.width - s.length) ' '
  if d.has '-' then s ++ blanks else blanks ++ s

/-- Lays out a number: its sign, a mark for its base, and its digits. Zeros to fill the width stand
before the digits. -/
def alignedNumber (d : Directive) (negative : Bool) (mark digits : List Char) : List Char :=
  let sign :=
    if negative then ['-'] else if d.has '+' then ['+'] else if d.has ' ' then [' '] else []
  let front := sign ++ mark
  if d.has '0' && !d.has '-' then
    front ++ List.replicate (d.width - (front.length + digits.length)) '0' ++ digits
  else aligned d (front ++ digits)

def baseMark (d : Directive) : List Char :=
  if d.has '#' && ['o', 'x', 'X'].contains d.conversion then ['0', d.conversion] else []

def integerText (d : Directive) (n : Int) : Except TemplateError (List Char) :=
  let base := if d.conversion = 'o' then 8
    else if d.conversion = 'x' ∨ d.conversion = 'X' then 16 else 10
  if base = 10 ∧ !Number.isWritable n then .error .integerTooLong
  else
    let ds := Nat.toDigits base n.natAbs
    let ds := if d.conversion = 'X' then ds.map Char.toUpper else ds
    let zeros := List.replicate (d.precision.getD 0 - ds.length) '0'
    .ok (alignedNumber d (n < 0) (baseMark d) (zeros ++ ds))

def integerOf (conversion : Char) (v : Json) : Except TemplateError Int :=
  let decimal := conversion = 'd' ∨ conversion = 'i' ∨ conversion = 'u'
  match v.whole?, v with
  | some n, _ => .ok n
  | none, .float _ =>
      if decimal then (v.toFrequency).mapError .fraction else .error (.notInteger conversion v)
  | none, _ => .error (if decimal then .notReal conversion v else .notInteger conversion v)

def floatingOf (v : Json) : Except TemplateError Number.Binary64 :=
  match v, v.whole? with
  | .float x, _ => .ok x
  | _, some n => match Number.Binary64.ofInt n with
    | .infinite _ => .error .integerTooLargeForFloat
    | x => .ok x
  | v, none => .error (.notFloating v)

def floatingText (d : Directive) (x : Number.Binary64) : List Char :=
  let places := d.precision.getD 6
  let body : Bool × List Char := match x with
    | .nan => (false, "nan".toList)
    | .infinite negative => (negative, "inf".toList)
    | .finite negative m e =>
        let (num, den) := Number.Binary64.scaled m e
        let c := d.conversion.toLower
        (negative,
          if c = 'f' then Number.fixedPlaces (d.has '#') places num den
          else if c = 'e' then Number.exponentPlaces (d.has '#') places num den
          else Number.significant (d.has '#') places num den)
  alignedNumber d body.1 []
    (if d.conversion.isUpper then body.2.map Char.toUpper else body.2)

def characterOf (v : Json) : Except TemplateError Char :=
  match v, v.whole? with
  | .str s, _ => match s.toList with
    | [c] => .ok c
    | _ => .error .notCharacter
  | _, some n =>
      if 0 ≤ n ∧ n < 0x110000 then .ok (Char.ofNat n.toNat) else .error .noSuchCharacter
  | _, none => .error .notCharacter

def asciiOnly (s : List Char) : List Char :=
  s.flatMap fun c => if c.toNat < 128 then [c] else Text.codeEscape c

def wordText (d : Directive) (v : Json) : Except TemplateError (List Char) :=
  if !v.isWritable then .error .integerTooLong
  else
    let s :=
      if d.conversion = 's' then v.displayed.toList
      else if d.conversion = 'r' then v.shown
      else asciiOnly v.shown
    .ok (aligned d (match d.precision with
      | some n => s.take n
      | none => s))

def convert (d : Directive) (index : Nat) (v : Json) : Except TemplateError (List Char) :=
  let c := d.conversion
  if c = 's' ∨ c = 'r' ∨ c = 'a' then wordText d v
  else if ['d', 'i', 'u', 'o', 'x', 'X'].contains c then (integerOf c v).bind (integerText d)
  else if ['e', 'E', 'f', 'F', 'g', 'G'].contains c then (floatingOf v).map (floatingText d)
  else if c = 'c' then (characterOf v).map fun c => aligned d [c]
  else .error (.unknownConversion c index)

/-- Fills a template from a position on; the first `skip` characters belong to a directive. Values
that are never asked for are too many, unless they have members. -/
def fillFrom : (skip index : Nat) → Supply → List Char → Except TemplateError (List Char)
  | _, _, supply, [] =>
      if supply.next.isSome ∧ supply.members.isNone then .error .tooManyValues else .ok []
  | skip + 1, index, supply, _ :: s => fillFrom skip (index + 1) supply s
  | 0, index, supply, '%' :: '%' :: s => (fillFrom 0 (index + 2) supply s).map ('%' :: ·)
  | 0, index, supply, '%' :: s =>
      (readDirective supply s).bind fun (d, supply, rest) =>
        supply.take.bind fun (v, supply) =>
          let size := s.length - rest.length
          (convert d (index + size) v).bind fun text =>
            (fillFrom size (index + 1) supply s).map (text ++ ·)
  | 0, index, supply, c :: s => (fillFrom 0 (index + 1) supply s).map (c :: ·)

def fill (template : List Char) (v : Json) : Except TemplateError (List Char) :=
  fillFrom 0 0 (.ofValue v) template

example : (fill "x %s%%".toList (.arr [.int 1])).toOption = some "x [1]%".toList := by
  decide +kernel

example : (fill "%(a)+05d|%(b)-4s|%(c).2f".toList
    (.obj [("a", .int 7), ("b", .str "q"), ("c", .int 2)])).toOption =
      some "+0007|q   |2.00".toList := by
  decide +kernel

end Template

end Residency
