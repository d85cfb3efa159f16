import Residency.Json
import Residency.Number.DecimalText
import Residency.Number.Integer

/-!
JSON text. Every character outside the printable ASCII range is escaped, one beyond the basic
plane as a surrogate pair. `compact` writes one line, `indented` one line per item.
-/
namespace Residency.Json

def unitEscape (n : Nat) : List Char :=
  '\\' :: 'u' :: Text.hex 4 n

def escapeChar (c : Char) : List Char :=
  if c = '"' then ['\\', '"']
  else if c = '\\' then ['\\', '\\']
  else if c = '\n' then ['\\', 'n']
  else if c = '\r' then ['\\', 'r']
  else if c = '\t' then ['\\', 't']
  else if c = '\x08' then ['\\', 'b']
  else if c = '\x0c' then ['\\', 'f']
  else if ' ' ≤ c ∧ c ≤ '~' then [c]
  else
    let n := c.toNat
    if n < 0x10000 then unitEscape n
    else
      unitEscape (0xD800 + (n - 0x10000) / 0x400) ++ unitEscape (0xDC00 + (n - 0x10000) % 0x400)

def stringText (s : String) : List Char :=
  '"' :: s.toList.flatMap escapeChar ++ ['"']

def floatText : Number.Binary64 → List Char
  | .nan => ['N', 'a', 'N']
  | .infinite negative =>
      (if negative then ['-'] else []) ++ ['I', 'n', 'f', 'i', 'n', 'i', 't', 'y']
  | x => x.text

mutual

def compact : Json → List Char
  | .null => ['n', 'u', 'l', 'l']
  | .bool true => ['t', 'r', 'u', 'e']
  | .bool false => ['f', 'a', 'l', 's', 'e']
  | .int n => Number.decimal n
  | .float x => floatText x
  | .str s => stringText s
  | .arr items => '[' :: compactItems items ++ [']']
  | .obj members => '\x7b' :: compactMembers members ++ ['\x7d']

def compactItems : List Json → List Char
  | [] => []
  | v :: vs => compact v ++ compactMoreItems vs

def compactMoreItems : List Json → List Char
  | [] => []
  | v :: vs => ',' :: ' ' :: compact v ++ compactMoreItems vs

def compactMembers : List (String × Json) → List Char
  | [] => []
  | (k, v) :: ms => stringText k ++ ':' :: ' ' :: compact v ++ compactMoreMembers ms

def compactMoreMembers : List (String × Json) → List Char
  | [] => []
  | (k, v) :: ms =>
      ',' :: ' ' :: stringText k ++ ':' :: ' ' :: compact v ++ compactMoreMembers ms

end

def newLine (level : Nat) : List Char :=
  '\n' :: List.replicate (2 * level) ' '

mutual

def indented (level : Nat) : Json → List Char
  | .null => ['n', 'u', 'l', 'l']
  | .bool true => ['t', 'r', 'u', 'e']
  | .bool false => ['f', 'a', 'l', 's', 'e']
  | .int n => Number.decimal n
  | .float x => floatText x
  | .str s => stringText s
  | .arr [] => ['[', ']']
  | .arr (v :: vs) =>
      '[' :: newLine (level + 1) ++ indented (level + 1) v ++
        indentedMoreItems (level + 1) vs ++ newLine level ++ [']']
  | .obj [] => ['\x7b', '\x7d']
  | .obj ((k, v) :: ms) =>
      '\x7b' :: newLine (level + 1) ++ stringText k ++ ':' :: ' ' :: indented (level + 1) v ++
        indentedMoreMembers (level + 1) ms ++ newLine level ++ ['\x7d']

def indentedMoreItems (level : Nat) : List Json → List Char
  | [] => []
  | v :: vs => ',' :: newLine level ++ indented level v ++ indentedMoreItems level vs

def indentedMoreMembers (level : Nat) : List (String × Json) → List Char
  | [] => []
  | (k, v) :: ms =>
      ',' :: newLine level ++ stringText k ++ ':' :: ' ' :: indented level v ++
        indentedMoreMembers level ms

end

mutual

def isWritable : Json → Bool
  | .int n => Number.isWritable n
  | .arr items => areWritable items
  | .obj members => membersWritable members
  | _ => true

def areWritable : List Json → Bool
  | [] => true
  | v :: vs => isWritable v && areWritable vs

def membersWritable : List (String × Json) → Bool
  | [] => true
  | (_, v) :: ms => isWritable v && membersWritable ms

end

def render (v : Json) : String :=
  String.ofList (compact v)

end Residency.Json
