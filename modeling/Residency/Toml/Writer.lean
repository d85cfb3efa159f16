import Residency.Json
import Residency.Toml

/-!
Writing JSON values as TOML. In a table the plain values stand first, each on a line of its own,
and the tables follow under headers; a table that holds nothing but tables has no header. A list
of objects is an array of tables unless it stands inside another list.
-/
namespace Residency.Toml

inductive WriteError where
  | missingValue
  | missingItem
  | integerTooLong
  deriving DecidableEq, Repr

def WriteError.message : WriteError → String
  | .missingValue => "Non comment/whitespace items must have an associated key"
  | .missingItem => "Unable to convert an object of <class 'NoneType'> to a TOML item"
  | .integerTooLong => Number.notWritableMessage

def escapeChar (c : Char) : List Char :=
  if c = '"' then ['\\', '"']
  else if c = '\\' then ['\\', '\\']
  else if c = '\x08' then ['\\', 'b']
  else if c = '\t' then ['\\', 't']
  else if c = '\n' then ['\\', 'n']
  else if c = '\x0c' then ['\\', 'f']
  else if c = '\r' then ['\\', 'r']
  else if c.toNat < 0x20 ∨ c.toNat = 0x7F then '\\' :: 'u' :: Text.hex 4 c.toNat
  else [c]

def stringText (s : List Char) : List Char :=
  '"' :: s.flatMap escapeChar ++ ['"']

def keyText (k : String) : List Char :=
  if !k.toList.isEmpty && k.toList.all isBareChar then k.toList else stringText k.toList

def assignment (k : String) (value : List Char) : List Char :=
  keyText k ++ ' ' :: '=' :: ' ' :: value

def isObject : Json → Bool
  | .obj _ => true
  | _ => false

def areTables (items : List Json) : Bool :=
  !items.isEmpty && items.all isObject

/-- The entries of an element of an array of tables in the order in which it takes them: the
objects last. -/
def objectsLast {α : Type} (isObj : α → Bool) (l : List α) : List α :=
  l.filter (fun a => !isObj a) ++ l.filter isObj

mutual

/-- The first value within a value that has no place in a document. The flag tells whether the
value stands inside a list that is no array of tables. -/
def flaw? (inline : Bool) : Json → Option WriteError
  | .null => some .missingItem
  | .int n => if Number.isWritable n then none else some .integerTooLong
  | .arr items =>
      if !inline && areTables items then elementsFlaw? items else itemsFlaw? items
  | .obj members => membersFlaw? inline (fun _ => true) members
  | _ => none

def itemsFlaw? : List Json → Option WriteError
  | [] => none
  | v :: vs => flaw? true v <|> itemsFlaw? vs

def membersFlaw? (inline : Bool) (p : Json → Bool) : List (String × Json) → Option WriteError
  | [] => none
  | (_, v) :: ms => (if p v then flaw? inline v else none) <|> membersFlaw? inline p ms

def elementsFlaw? : List Json → Option WriteError
  | [] => none
  | .obj members :: vs =>
      membersFlaw? false (fun v => !isObject v) members <|> membersFlaw? false isObject members <|>
        elementsFlaw? vs
  | _ :: vs => elementsFlaw? vs

end

mutual

/-- A value on one line. `blanks` tells whether a blank follows the commas of a table in
braces. -/
def inlineText (blanks : Bool) : Json → List Char
  | .null => []
  | .bool b => if b then ['t', 'r', 'u', 'e'] else ['f', 'a', 'l', 's', 'e']
  | .int n => Number.decimal n
  | .float x => x.text
  | .str s => stringText s.toList
  | .arr items => Text.bracketed (inlineItems items)
  | .obj members =>
      '\x7b' :: Text.joined (if blanks then [',', ' '] else [',']) (inlineMembers members) ++
        ['\x7d']

def inlineItems : List Json → List (List Char)
  | [] => []
  | v :: vs => inlineText true v :: inlineItems vs

def inlineMembers : List (String × Json) → List (List Char)
  | [] => []
  | (k, v) :: ms => assignment k (inlineText false v) :: inlineMembers ms

end

inductive PartKind where
  | line
  | table
  | tables
  deriving DecidableEq, Repr

structure Part where
  kind : PartKind
  text : List Char

def Part.isLine (p : Part) : Bool :=
  p.kind == .line

/-- The parts of a table in one text: the lines, and then the rest. A blank line divides a header
from what was there before it, so an array of tables that is the first entry has none. -/
def assembled (parts : List Part) : List Char :=
  let lines := parts.filter Part.isLine
  let blank : Bool := match parts with
    | ⟨.tables, _⟩ :: _ => false
    | _ => !lines.isEmpty
  let rest := match parts.filter (!·.isLine) with
    | [] => []
    | p :: ps => (if blank then ['\n'] else []) ++ p.text ++ ps.flatMap ('\n' :: ·.text)
  lines.flatMap (·.text) ++ rest

def tableText (path : List Char) (parts : List Part) : List Char :=
  let body := assembled parts
  if !parts.isEmpty && parts.all (!·.isLine) then body
  else '[' :: path ++ ']' :: '\n' :: body

def elementText (path : List Char) (parts : List Part) : List Char :=
  '[' :: '[' :: path ++ ']' :: ']' :: '\n' :: assembled parts

def elementsText (path : List Char) : List (List Part) → List Char
  | [] => []
  | [parts] => elementText path parts
  | parts :: rest =>
      elementText path parts ++ (if parts.isEmpty then [] else ['\n']) ++ elementsText path rest

def subpath (path : List Char) (k : String) : List Char :=
  path ++ '.' :: keyText k

mutual

def part (path : List Char) (k : String) : Json → Part
  | .obj members =>
      let own := subpath path k
      ⟨.table, tableText own ((parts own members).map (·.2))⟩
  | .arr items =>
      let own := subpath path k
      if areTables items then
        ⟨.tables, elementsText own ((elements own items).map fun ps =>
          (objectsLast (·.1) ps).map (·.2))⟩
      else ⟨.line, assignment k (inlineText true (.arr items)) ++ ['\n']⟩
  | v => ⟨.line, assignment k (inlineText true v) ++ ['\n']⟩

def parts (path : List Char) : List (String × Json) → List (Bool × Part)
  | [] => []
  | (k, v) :: ms => (isObject v, part path k v) :: parts path ms

def elements (path : List Char) : List Json → List (List (Bool × Part))
  | [] => []
  | .obj members :: vs => parts path members :: elements path vs
  | _ :: vs => elements path vs

end

def sectionText (name : String) (entries : List (String × Json)) : List Char :=
  tableText (keyText name) (entries.map fun (k, v) => part (keyText name) k v)

def entriesFlaw? (entries : List (String × Json)) : Option WriteError :=
  entries.findSome? fun (_, v) => match v with
    | .null => some .missingValue
    | v => flaw? false v

def document (sections : List (String × List (String × Json))) : Except WriteError (List Char) :=
  match sections.findSome? fun (_, entries) => entriesFlaw? entries with
  | some e => .error e
  | none => .ok (sections.flatMap fun (name, entries) => sectionText name entries ++ ['\n'])

example : stringText "a\"\t\x1b".toList = "\"a\\\"\\t\\u001b\"".toList := by decide +kernel

example : (document [("s", [("k", .obj [("a", .int 1)]), ("l", .bool true)])]).toOption.map
    String.ofList = some "[s]\nl = true\n\n[s.k]\na = 1\n\n" := by decide +kernel

end Residency.Toml
