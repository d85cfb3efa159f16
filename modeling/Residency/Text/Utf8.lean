/-!
UTF-8. Bytes are read one at a time: a lead byte opens a sequence, and the sequence keeps which
bytes may come next. An ill-formed sequence ends before the first byte that cannot continue it, so
`decodeLossy` writes one replacement character for each longest beginning of a sequence, and
`decode` reports where the first of them stands.
-/
namespace Residency.Text.Utf8

/-- A sequence that has begun: the bits read so far, the number of bytes read, the number still to
come, and the bounds of the next byte. -/
structure Sequence where
  bits : Nat
  seen : Nat
  missing : Nat
  low : UInt8 := 0x80
  high : UInt8 := 0xBF
  deriving DecidableEq, Repr

inductive Lead where
  | single (c : Char)
  | opens (s : Sequence)
  | invalid

def lead (b : UInt8) : Lead :=
  let n := b.toNat
  if n < 0x80 then .single (Char.ofNat n)
  else if n < 0xC2 then .invalid
  else if n < 0xE0 then .opens { bits := n % 32, seen := 1, missing := 1 }
  else if n < 0xF0 then
    .opens { bits := n % 16, seen := 1, missing := 2,
             low := if n = 0xE0 then 0xA0 else 0x80, high := if n = 0xED then 0x9F else 0xBF }
  else if n < 0xF5 then
    .opens { bits := n % 8, seen := 1, missing := 3,
             low := if n = 0xF0 then 0x90 else 0x80, high := if n = 0xF4 then 0x8F else 0xBF }
  else .invalid

def Sequence.accepts (s : Sequence) (b : UInt8) : Bool :=
  s.low ≤ b && b ≤ s.high

def Sequence.bitsWith (s : Sequence) (b : UInt8) : Nat :=
  s.bits * 64 + b.toNat % 64

def Sequence.push (s : Sequence) (b : UInt8) : Sequence :=
  { bits := s.bitsWith b, seen := s.seen + 1, missing := s.missing - 1 }

def replacement : Char := '\uFFFD'

def decodeFrom : Option Sequence → List UInt8 → List Char
  | none, [] => []
  | some _, [] => [replacement]
  | none, b :: bs =>
      match lead b with
      | .single c => c :: decodeFrom none bs
      | .opens s => decodeFrom (some s) bs
      | .invalid => replacement :: decodeFrom none bs
  | some s, b :: bs =>
      if s.accepts b then
        if s.missing ≤ 1 then Char.ofNat (s.bitsWith b) :: decodeFrom none bs
        else decodeFrom (some (s.push b)) bs
      else
        replacement :: match lead b with
          | .single c => c :: decodeFrom none bs
          | .opens s => decodeFrom (some s) bs
          | .invalid => replacement :: decodeFrom none bs

def decodeLossy (bytes : List UInt8) : List Char :=
  decodeFrom none bytes

inductive Flaw where
  | invalidStart
  | invalidContinuation
  | unexpectedEnd
  deriving DecidableEq, Repr

structure DecodeError where
  flaw : Flaw
  start : Nat
  size : Nat
  byte : UInt8
  deriving DecidableEq, Repr

def decodeChecked (pos : Nat) (first : UInt8) :
    Option Sequence → List UInt8 → Except DecodeError (List Char)
  | none, [] => .ok []
  | some s, [] => .error ⟨.unexpectedEnd, pos - s.seen, s.seen, first⟩
  | none, b :: bs =>
      match lead b with
      | .single c => (decodeChecked (pos + 1) first none bs).map (c :: ·)
      | .opens s => decodeChecked (pos + 1) b (some s) bs
      | .invalid => .error ⟨.invalidStart, pos, 1, b⟩
  | some s, b :: bs =>
      if s.accepts b then
        if s.missing ≤ 1 then
          (decodeChecked (pos + 1) first none bs).map (Char.ofNat (s.bitsWith b) :: ·)
        else decodeChecked (pos + 1) first (some (s.push b)) bs
      else .error ⟨.invalidContinuation, pos - s.seen, s.seen, first⟩

def decode (bytes : List UInt8) : Except DecodeError (List Char) :=
  decodeChecked 0 0 none bytes

def encode (s : List Char) : List UInt8 :=
  s.flatMap String.utf8EncodeChar

structure EncodeError where
  start : Nat
  count : Nat
  code : Nat
  deriving DecidableEq, Repr

def EncodeError.message (e : EncodeError) : String :=
  let place :=
    if e.count ≤ 1 then
      "character '\\u" ++ String.ofList (Nat.toDigits 16 e.code) ++ "' in position " ++
        toString e.start
    else
      "characters in position " ++ toString e.start ++ "-" ++ toString (e.start + e.count - 1)
  "'utf-8' codec can't encode " ++ place ++ ": surrogates not allowed"

def Flaw.message : Flaw → String
  | .invalidStart => "invalid start byte"
  | .invalidContinuation => "invalid continuation byte"
  | .unexpectedEnd => "unexpected end of data"

def DecodeError.message (e : DecodeError) : String :=
  let place :=
    if e.size ≤ 1 then
      "byte 0x" ++ String.ofList (Nat.toDigits 16 e.byte.toNat) ++ " in position " ++
        toString e.start
    else "bytes in position " ++ toString e.start ++ "-" ++ toString (e.start + e.size - 1)
  "'utf-8' codec can't decode " ++ place ++ ": " ++ e.flaw.message

example : decodeLossy [0x61, 0xE2, 0x82, 0x00, 0xC3, 0xA9] =
    ['a', replacement, Char.ofNat 0, 'é'] := by decide +kernel

end Residency.Text.Utf8
