import Residency.Console.Literal.Flaw

/-!
Quoted texts of a literal. Letters before the opening quote say what a text is made of: `r` keeps
its backslashes as they are, `b` makes it one of bytes, `f` a template, and `u` changes nothing.
-/
namespace Residency.Console.Literal

structure Quotation where
  isRaw : Bool := false
  isBytes : Bool := false
  isTemplate : Bool := false
  deriving DecidableEq, Repr

def quotation? (letters : List Char) : Option Quotation :=
  match (String.ofList letters).toLower with
  | "" | "u" => some {}
  | "r" => some ⟨true, false, false⟩
  | "b" => some ⟨false, true, false⟩
  | "f" => some ⟨false, false, true⟩
  | "br" | "rb" => some ⟨true, true, false⟩
  | "fr" | "rf" => some ⟨true, false, true⟩
  | _ => none

def singleQuoted? (quote : Char) (inside : List Char) : List Char → Option (List Char × List Char)
  | [] | '\n' :: _ => none
  | '\\' :: c :: s => singleQuoted? quote (c :: '\\' :: inside) s
  | c :: s => if c = quote then some (inside, s) else singleQuoted? quote (c :: inside) s

def tripleQuoted? (quote : Char) (inside : List Char) : List Char → Option (List Char × List Char)
  | a :: b :: c :: s =>
      if a = quote && b = quote && c = quote then some (inside, s)
      else if a = '\\' then tripleQuoted? quote (b :: a :: inside) (c :: s)
      else tripleQuoted? quote (a :: inside) (b :: c :: s)
  | _ => none

def isHexDigit (c : Char) : Bool :=
  c.isDigit || ('a' ≤ c.toLower && c.toLower ≤ 'f')

def hexValue (s : List Char) : Nat :=
  s.foldl (fun n c => 16 * n + (if c.isDigit then c.toNat - 48 else c.toLower.toNat - 87)) 0

def escapeDigits? (c : Char) : Option Nat :=
  if c = 'x' then some 2 else if c = 'u' then some 4 else if c = 'U' then some 8 else none

def escapeFlaw? (position : Nat) (letter : Char) (s : List Char) : Option LiteralError :=
  match escapeDigits? letter with
  | some count =>
      let digits := (s.take count).takeWhile isHexDigit
      if digits.length < count then
        some (.brokenEscape position (position + 2 + digits.length)
          ("truncated \\" ++ letter.toString ++ String.ofList (List.replicate count 'X') ++
            " escape"))
      else if 0x10FFFF < hexValue digits then
        some (.brokenEscape position (position + 2 + count) "illegal Unicode character")
      else none
  | none =>
      if letter ≠ 'N' then none
      else match s with
        | '\x7b' :: r =>
            let name := r.takeWhile (· ≠ '\x7d')
            if name.isEmpty || name.length = r.length then
              some (.brokenEscape position (position + 3 + name.length)
                "malformed \\N character escape")
            else none
        | _ => some (.brokenEscape position (position + 2) "malformed \\N character escape")

/-- What is wrong with the escapes of a text from a position on. A character beyond the first 128
counts as the escape that would stand for it, and the backslash before one as an escape too. -/
def textFlaw? (position : Nat) : List Char → Option LiteralError
  | '\\' :: c :: s =>
      if c.toNat < 0x80 then
        match escapeFlaw? position c s with
        | some e => some e
        | none => textFlaw? (position + 2) s
      else textFlaw? (position + 16) s
  | c :: s => textFlaw? (position + if c.toNat < 0x80 then 1 else 10) s
  | [] => none

def bytesFlaw? (position : Nat) : List Char → Option LiteralError
  | '\\' :: c :: s =>
      if c = 'x' && ((s.take 2).takeWhile isHexDigit).length < 2 then some (.brokenByte position)
      else bytesFlaw? (position + 2) s
  | _ :: s => bytesFlaw? (position + 1) s
  | [] => none

def Quotation.flaw? (q : Quotation) (inside : List Char) : Option LiteralError :=
  if q.isBytes && inside.any (0x80 ≤ ·.toNat) then some .wideByte
  else if q.isRaw || (q.isTemplate && inside.any fun c => c = '\x7b' || c = '\x7d') then none
  else if q.isBytes then bytesFlaw? 0 inside
  else textFlaw? 0 inside

example : textFlaw? 0 "a\\x4z".toList =
    some (.brokenEscape 1 4 "truncated \\xXX escape") := by decide +kernel

example : textFlaw? 0 "\\x41\\n\\\\".toList = none := by decide +kernel

end Residency.Console.Literal
