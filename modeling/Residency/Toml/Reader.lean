import Residency.Toml.Assembly
import Residency.Toml.Numeral
import Residency.Toml.Quotation

/-!
Reading keys and values of TOML. Arrays and tables in braces nest to a limited depth, and a key has
a limited number of names.
-/
namespace Residency.Toml

abbrev Key := List String

def isBlank (c : Char) : Bool :=
  c = ' ' || c = '\t'

def readName (s : List Char) : Reading String :=
  let s := s.dropWhile isBlank
  match s with
  | '"' :: _ | '\'' :: _ =>
      (readQuoted s).bind fun (name, multiline, r) =>
        if multiline then none else some (name, r.dropWhile isBlank)
  | _ =>
      let name := s.takeWhile isBareChar
      if name.isEmpty then none
      else some (String.ofList name, (s.drop name.length).dropWhile isBlank)

def readNames : Nat → List Char → Reading Key
  | 0, _ => none
  | most + 1, s =>
      (readName s).bind fun (name, r) =>
        match r with
        | '.' :: r => (readNames most r).map fun (names, r) => (name :: names, r)
        | _ => some ([name], r)

def readKey (s : List Char) : Reading Key :=
  readNames maxNames s

def readEquals (s : List Char) : Option (List Char) :=
  match s.dropWhile isBlank with
  | '=' :: r => some (r.dropWhile isBlank)
  | _ => none

def skipComment (s : List Char) : Option (List Char) :=
  let comment := s.takeWhile fun c => c ≠ '\n' && c ≠ '\r'
  if comment.any isControl then none else some (s.drop comment.length)

def skipFiller : Nat → List Char → Option (List Char)
  | 0, s => some s
  | fuel + 1, s =>
      match s.dropWhile isSpace with
      | '#' :: t => (skipComment ('#' :: t)).bind (skipFiller fuel)
      | t => some t

def endLine (s : List Char) : Option (List Char) :=
  match s.dropWhile fun c => isBlank c || c = '\r' with
  | [] => some []
  | '\n' :: t => some t
  | '#' :: t => skipComment ('#' :: t)
  | _ => none

def booleans : List (List Char × Toml) :=
  [("true".toList, .bool true), ("false".toList, .bool false)]

def readRun (s : List Char) : Reading Toml :=
  let run := s.takeWhile (!endsRun ·)
  let rest := s.drop run.length
  match moment? run with
  | some (.date d) =>
      let more := rest.takeWhile fun c => c = ' ' || !endsRun c
      let time := Text.dropEndWhile Text.isBlank more
      if time.isEmpty then some (.date d, rest.drop more.length)
      else (moment? (run ++ time)).map fun v => (v, rest.drop more.length)
  | some v => some (v, rest)
  | none => (number? run).map fun v => (v, rest)

def readPlain (s : List Char) : Reading Toml :=
  match s with
  | '"' :: _ | '\'' :: _ => (readQuoted s).map fun (t, _, r) => (.str t, r)
  | _ => match booleans.find? fun (word, _) => word.isPrefixOf s with
    | some (word, v) => some (v, s.drop word.length)
    | none => readRun s

def readItems (item : List Char → Reading Toml) :
    Nat → (afterItem : Bool) → List Char → Reading (List Toml)
  | 0, _, _ => none
  | fuel + 1, afterItem, s =>
      (skipFiller s.length s).bind fun s =>
        match s with
        | ']' :: r => some ([], r)
        | _ =>
            if afterItem then
              match s with
              | ',' :: r => readItems item fuel false r
              | _ => none
            else
              (item s).bind fun (v, r) =>
                (readItems item fuel true r).map fun (vs, r) => (v :: vs, r)

def readMembers (item : List Char → Reading Toml) :
    Nat → (afterEntry : Bool) → Entries → List Char → Reading Entries
  | 0, _, _, _ => none
  | fuel + 1, afterEntry, entries, s =>
      (skipFiller s.length s).bind fun s =>
        match s with
        | '\x7d' :: r => some (entries, r)
        | _ =>
            if afterEntry then
              match s with
              | ',' :: r => readMembers item fuel false entries r
              | _ => none
            else
              (readKey s).bind fun (key, r) =>
                (readEquals r).bind fun r =>
                  (item r).bind fun (v, r) =>
                    (addLine entries key v).bind fun entries =>
                      readMembers item fuel true entries r

def maxDepth : Nat := 100

def readValue : Nat → List Char → Reading Toml
  | depth + 1, '[' :: s =>
      (readItems (readValue depth) (s.length + 1) false s).map fun (vs, r) => (.array vs, r)
  | depth + 1, '\x7b' :: s =>
      (readMembers (readValue depth) (s.length + 1) false [] s).map fun (es, r) =>
        (.table .inline es, r)
  | _, s => readPlain s

end Residency.Toml
