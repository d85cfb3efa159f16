import Residency.Json
import Residency.Number.Integer

/-!
Reading JSON text. A reader takes the characters that are left and gives a value with what follows
it; a flaw is reported by the number of characters that are left where it stands, which the outer
reader turns into an offset, a line and a column. Arrays and objects nest to a limited depth.
-/
namespace Residency.Json

inductive Flaw where
  | expectingValue
  | expectingComma
  | expectingColon
  | expectingName
  | extraData
  | unterminatedString
  | invalidControl
  | invalidEscape
  | invalidUnicodeEscape
  | byteOrderMark
  deriving DecidableEq, Repr

inductive Nest where
  | array
  | object
  deriving DecidableEq, Repr

inductive Stop where
  | flaw (f : Flaw) (left : Nat)
  | integer (e : Number.IntegerError)
  | tooDeep (n : Nest)

abbrev Reading (α : Type) := Except Stop (α × List Char)

def stopAt {α : Type} (f : Flaw) (s : List Char) : Except Stop α :=
  .error (.flaw f s.length)

def isSpace (c : Char) : Bool :=
  c = ' ' || c = '\t' || c = '\n' || c = '\r'

def skipSpace (s : List Char) : List Char :=
  s.dropWhile isSpace

def hexDigit? (c : Char) : Option Nat :=
  if '0' ≤ c ∧ c ≤ '9' then some (c.toNat - 48)
  else if 'a' ≤ c ∧ c ≤ 'f' then some (c.toNat - 87)
  else if 'A' ≤ c ∧ c ≤ 'F' then some (c.toNat - 55)
  else none

def hexUnit? : List Char → Option Nat
  | [a, b, c, d] => do
      let a ← hexDigit? a
      let b ← hexDigit? b
      let c ← hexDigit? c
      let d ← hexDigit? d
      return ((a * 16 + b) * 16 + c) * 16 + d
  | _ => none

def escaped? : Char → Option Char
  | '"' => some '"'
  | '\\' => some '\\'
  | '/' => some '/'
  | 'b' => some '\x08'
  | 'f' => some '\x0c'
  | 'n' => some '\n'
  | 'r' => some '\r'
  | 't' => some '\t'
  | _ => none

def isHighSurrogate (n : Nat) : Bool := 0xD800 ≤ n && n < 0xDC00

def isLowSurrogate (n : Nat) : Bool := 0xDC00 ≤ n && n < 0xE000

/-- The character of a code unit; a surrogate that stands alone is replaced. -/
def unitChar (n : Nat) : Char :=
  if isHighSurrogate n || isLowSurrogate n then '\uFFFD' else Char.ofNat n

def readUnit (s : List Char) : Reading Nat :=
  if (s.take 5).length < 5 then .error (.flaw .invalidUnicodeEscape (s.length + 1))
  else match hexUnit? (s.take 4) with
    | some n => .ok (n, s.drop 4)
    | none => .error (.flaw .invalidUnicodeEscape (s.length + 1))

def readUnicodeEscape (s : List Char) : Reading Char :=
  (readUnit s).bind fun (n, r) =>
    match isHighSurrogate n, r with
    | true, '\\' :: 'u' :: t =>
        if (t.take 5).length < 5 then .ok (unitChar n, r)
        else (readUnit t).bind fun (m, u) =>
          if isLowSurrogate m then
            .ok (Char.ofNat (0x10000 + (n - 0xD800) * 0x400 + (m - 0xDC00)), u)
          else .ok (unitChar n, r)
    | _, _ => .ok (unitChar n, r)

/-- The rest of a string after its opening quote. `start` is the number of characters left at the
quote, and the fuel bounds the number of characters. -/
def readString (start : Nat) : Nat → List Char → Reading (List Char)
  | _, [] | 0, _ => .error (.flaw .unterminatedString start)
  | fuel + 1, c :: s =>
      if c = '"' then .ok ([], s)
      else if c = '\\' then
        match s with
        | [] => .error (.flaw .unterminatedString start)
        | 'u' :: t =>
            (readUnicodeEscape t).bind fun (d, r) =>
              (readString start fuel r).map fun (ds, r) => (d :: ds, r)
        | e :: t =>
            match escaped? e with
            | some d => (readString start fuel t).map fun (ds, r) => (d :: ds, r)
            | none => stopAt .invalidEscape (c :: s)
      else if c.toNat < 0x20 then stopAt .invalidControl (c :: s)
      else (readString start fuel s).map fun (ds, r) => (c :: ds, r)

def readQuoted (s : List Char) : Reading String :=
  (readString s.length s.length s.tail).map fun (cs, r) => (String.ofList cs, r)

def isAsciiDigit (c : Char) : Bool := '0' ≤ c && c ≤ '9'

def takeInteger : List Char → List Char
  | '0' :: _ => ['0']
  | s => s.takeWhile isAsciiDigit

def takeFraction : List Char → List Char
  | '.' :: s => s.takeWhile isAsciiDigit
  | _ => []

def takeExponent : List Char → Option (List Char × List Char)
  | c :: s =>
      if c = 'e' ∨ c = 'E' then
        match s with
        | d :: t =>
            let (mark, t) := if d = '+' ∨ d = '-' then ([c, d], t) else ([c], d :: t)
            let ds := t.takeWhile isAsciiDigit
            if ds.isEmpty then none else some (mark, ds)
        | [] => none
      else none
  | [] => none

def readNumber (s : List Char) : Reading Json :=
  let (negative, body) := match s with
    | '-' :: t => (true, t)
    | _ => (false, s)
  let whole := takeInteger body
  if whole.isEmpty then stopAt .expectingValue s
  else
    let afterWhole := body.drop whole.length
    let fraction := takeFraction afterWhole
    let afterFraction :=
      if fraction.isEmpty then afterWhole else afterWhole.drop (fraction.length + 1)
    match takeExponent afterFraction with
    | some (mark, ds) =>
        let magnitude : Int := Nat.ofDigitChars 10 ds 0
        let exponent := if mark.contains '-' then -magnitude else magnitude
        .ok (.float (.ofDecimal negative (Nat.ofDigitChars 10 (whole ++ fraction) 0)
              (exponent - fraction.length)),
            afterFraction.drop (mark.length + ds.length))
    | none =>
        if fraction.isEmpty then
          match Number.readInteger (if negative then '-' :: whole else whole) with
          | .ok n => .ok (.int n, afterFraction)
          | .error e => .error (.integer e)
        else
          .ok (.float (.ofDecimal negative (Nat.ofDigitChars 10 (whole ++ fraction) 0)
                (-fraction.length)), afterFraction)

def literals : List (List Char × Json) :=
  [("null".toList, .null), ("true".toList, .bool true), ("false".toList, .bool false),
   ("NaN".toList, .float .nan), ("Infinity".toList, .float (.infinite false)),
   ("-Infinity".toList, .float (.infinite true))]

def literal? (s : List Char) : Option (Json × List Char) :=
  literals.findSome? fun (word, v) =>
    if word.isPrefixOf s then some (v, s.drop word.length) else none

def maxDepth : Nat := 988

mutual

/-- A value of at most a depth at the front of the given characters. The fuel bounds the depth of
the calls. -/
def readValue (depth : Nat) : Nat → List Char → Reading Json
  | 0, s => stopAt .expectingValue s
  | fuel + 1, s =>
      match s with
      | '"' :: _ => (readQuoted s).map fun (k, r) => (.str k, r)
      | '[' :: t =>
          if depth = 0 then .error (.tooDeep .array)
          else match skipSpace t with
            | ']' :: r => .ok (.arr [], r)
            | r => (readItems (depth - 1) fuel r).map fun (vs, r) => (.arr vs, r)
      | '\x7b' :: t =>
          if depth = 0 then .error (.tooDeep .object)
          else match skipSpace t with
            | '\x7d' :: r => .ok (.obj [], r)
            | r => (readMembers (depth - 1) fuel [] r).map fun (ms, r) => (.obj ms, r)
      | _ =>
          match literal? s with
          | some found => .ok found
          | none => readNumber s

def readItems (depth : Nat) : Nat → List Char → Reading (List Json)
  | 0, s => stopAt .expectingValue s
  | fuel + 1, s =>
      (readValue depth fuel s).bind fun (v, r) =>
        match skipSpace r with
        | ']' :: r => .ok ([v], r)
        | ',' :: r => (readItems depth fuel (skipSpace r)).map fun (vs, r) => (v :: vs, r)
        | r => stopAt .expectingComma r

def readMembers (depth : Nat) :
    Nat → List (String × Json) → List Char → Reading (List (String × Json))
  | 0, _, s => stopAt .expectingName s
  | fuel + 1, ms, s =>
      match s with
      | '"' :: _ =>
          (readQuoted s).bind fun (k, r) =>
            match skipSpace r with
            | ':' :: r =>
                (readValue depth fuel (skipSpace r)).bind fun (v, r) =>
                  match skipSpace r with
                  | '\x7d' :: r => .ok (setMember k v ms, r)
                  | ',' :: r => readMembers depth fuel (setMember k v ms) (skipSpace r)
                  | r => stopAt .expectingComma r
            | r => stopAt .expectingColon r
      | _ => stopAt .expectingName s

end

def readText (s : List Char) : Except Stop Json :=
  match s with
  | '\uFEFF' :: _ => stopAt .byteOrderMark s
  | _ =>
      (readValue maxDepth (2 * s.length + 2) (skipSpace s)).bind fun (v, r) =>
        match skipSpace r with
        | [] => .ok v
        | r => stopAt .extraData r

inductive ReadError where
  | flaw (f : Flaw) (line column offset : Nat)
  | integer (e : Number.IntegerError)
  | tooDeep (n : Nest)
  deriving DecidableEq, Repr

def Stop.toReadError (s : List Char) : Stop → ReadError
  | .integer e => .integer e
  | .tooDeep n => .tooDeep n
  | .flaw f left =>
      let before := s.take (s.length - left)
      .flaw f (before.count '\n' + 1)
        ((before.reverse.takeWhile (· ≠ '\n')).length + 1) before.length

def read (s : String) : Except ReadError Json :=
  (readText s.toList).mapError (Stop.toReadError s.toList)

def Flaw.message : Flaw → String
  | .expectingValue => "Expecting value"
  | .expectingComma => "Expecting ',' delimiter"
  | .expectingColon => "Expecting ':' delimiter"
  | .expectingName => "Expecting property name enclosed in double quotes"
  | .extraData => "Extra data"
  | .unterminatedString => "Unterminated string starting at"
  | .invalidControl => "Invalid control character at"
  | .invalidEscape => "Invalid \\escape"
  | .invalidUnicodeEscape => "Invalid \\uXXXX escape"
  | .byteOrderMark => "Unexpected UTF-8 BOM (decode using utf-8-sig)"

def ReadError.message : ReadError → String
  | .integer e => e.message
  | .tooDeep n =>
      "maximum recursion depth exceeded while decoding a JSON " ++
        (match n with
         | .array => "array"
         | .object => "object") ++ " from a unicode string"
  | .flaw f line column offset =>
      f.message ++ ": line " ++ toString line ++ " column " ++ toString column ++
        " (char " ++ toString offset ++ ")"

end Residency.Json
