import Residency.Toml.Numeral

/-!
Quoted strings of TOML: basic strings with escapes between double quotes, literal strings between
single quotes, either over several lines when the quotes are tripled.
-/
namespace Residency.Toml

abbrev Reading (α : Type) := Option (α × List Char)

def isControl (c : Char) : Bool :=
  (c.toNat < 32 && c != '\t') || c.toNat == 127

def isSpace (c : Char) : Bool :=
  c = ' ' || c = '\t' || c = '\n' || c = '\r'

def escaped? : Char → Option Char
  | 'b' => some '\x08'
  | 't' => some '\t'
  | 'n' => some '\n'
  | 'f' => some '\x0c'
  | 'r' => some '\r'
  | 'e' => some '\x1b'
  | '"' => some '"'
  | '\\' => some '\\'
  | _ => none

def escapeWidth? : Char → Option Nat
  | 'x' => some 2
  | 'u' => some 4
  | 'U' => some 8
  | _ => none

def numbered? (digits : List Char) : Option Char :=
  (digits.mapM hexDigit?).bind fun ds =>
    let n := ofDigits 16 ds
    if n.isValidChar then some (Char.ofNat n) else none

/-- What the characters after a backslash stand for. In a string over several lines the backslash
at the end of a line takes all blanks up to the next text with it. -/
def readEscape (multiline : Bool) : List Char → Reading (List Char)
  | [] => none
  | c :: s =>
      if multiline && isSpace c then
        let blanks := (c :: s).takeWhile isSpace
        if blanks.contains '\n' then some ([], (c :: s).dropWhile isSpace) else none
      else match escaped? c with
        | some d => some ([d], s)
        | none => (escapeWidth? c).bind fun width =>
            if (s.take width).length < width then none
            else (numbered? (s.take width)).map fun d => ([d], s.drop width)

structure Quotation where
  quote : Char
  multiline : Bool
  deriving DecidableEq, Repr

def Quotation.forbids (q : Quotation) (c : Char) : Bool :=
  isControl c && !(q.multiline && (c = '\n' || c = '\r'))

def readBody (q : Quotation) : Nat → List Char → Reading (List Char)
  | 0, _ | _, [] => none
  | fuel + 1, c :: s =>
      if q.forbids c then none
      else if c = q.quote then
        if !q.multiline then some ([], s)
        else
          let quotes := (c :: s).takeWhile (· = q.quote)
          let rest := (c :: s).dropWhile (· = q.quote)
          if quotes.length < 3 then (readBody q fuel rest).map fun (t, r) => (quotes ++ t, r)
          else if 6 ≤ quotes.length then none
          else some (quotes.drop 3, rest)
      else if c = '\\' && q.quote = '"' then
        (readEscape q.multiline s).bind fun (d, r) =>
          (readBody q fuel r).map fun (t, r) => (d ++ t, r)
      else (readBody q fuel s).map fun (t, r) => (c :: t, r)

def dropFirstLineEnd : List Char → List Char
  | '\n' :: s => s
  | '\r' :: '\n' :: s => s
  | s => s

def readQuoted : List Char → Option (String × Bool × List Char)
  | [] => none
  | c :: s =>
      let tripled := [c, c].isPrefixOf s
      if !tripled && s.head? = some c then some ("", false, s.tail)
      else
        let body := if tripled then dropFirstLineEnd (s.drop 2) else s
        (readBody ⟨c, tripled⟩ (body.length + 1) body).map fun (t, r) =>
          (String.ofList t, tripled, r)

end Residency.Toml
