import Residency.Number.DecimalText
import Residency.Number.Integer
import Residency.Text.Listing

namespace Residency

structure Date where
  year : Nat
  month : Nat
  day : Nat
  deriving DecidableEq, Repr

structure ClockTime where
  hour : Nat
  minute : Nat
  second : Nat
  microsecond : Nat
  deriving DecidableEq, Repr

structure TimeZone where
  seconds : Int
  name : String
  deriving DecidableEq, Repr

inductive TableOrigin where
  | header
  | implied
  | dotted
  | inline
  | joined
  deriving DecidableEq, Repr

inductive Toml where
  | str (s : String)
  | int (n : Int)
  | float (x : Number.Binary64)
  | bool (b : Bool)
  | date (d : Date)
  | time (t : ClockTime)
  | dateTime (d : Date) (t : ClockTime) (zone : Option TimeZone)
  | array (items : List Toml)
  | table (origin : TableOrigin) (entries : List (String × Toml))
  | tables (items : List (List (String × Toml)))

/-- The entries of a table. A name stands there more than once when the table under it is given in
several parts. -/
abbrev Toml.Entries := List (String × Toml)

namespace Toml

def isBareChar (c : Char) : Bool :=
  ('a' ≤ c && c ≤ 'z') || ('A' ≤ c && c ≤ 'Z') || ('0' ≤ c && c ≤ '9') || c = '-' || c = '_'

def arguments (ns : List Nat) : List Char :=
  Text.joined [',', ' '] (ns.map (Nat.toDigits 10))

def dateParts (d : Date) : List Nat :=
  [d.year, d.month, d.day]

def timeParts (t : ClockTime) : List Nat :=
  [t.hour, t.minute] ++
    (if t.microsecond ≠ 0 then [t.second, t.microsecond]
     else if t.second ≠ 0 then [t.second] else [])

def deltaText (seconds : Int) : List Char :=
  let days := seconds.fdiv 86400
  let rest := seconds.fmod 86400
  let parts :=
    (if days ≠ 0 then ["days=".toList ++ Number.decimal days] else []) ++
      (if rest ≠ 0 then ["seconds=".toList ++ Number.decimal rest] else [])
  "datetime.timedelta(".toList ++
    (if parts.isEmpty then ['0'] else Text.joined [',', ' '] parts) ++ [')']

def zoneText (z : TimeZone) : List Char :=
  "datetime.timezone(".toList ++ deltaText z.seconds ++ ", ".toList ++ Text.quoted z.name.toList ++
    [')']

def alterEntry (name : String) (f : Option Toml → Toml) : Entries → Entries
  | [] => [(name, f none)]
  | (k, v) :: es => if k = name then (k, f (some v)) :: es else (k, v) :: alterEntry name f es

mutual

/-- A value laid over another: of two tables all entries stay, and otherwise it takes its place. -/
def overlay (under : Option Toml) : Toml → Toml
  | .table origin es => match under with
    | some (.table _ below) => .table origin (overlayEntries below es)
    | _ => .table origin es
  | v => v

def overlayEntries (below : Entries) : Entries → Entries
  | [] => below
  | (k, v) :: es => overlayEntries (alterEntry k (fun w => overlay w v) below) es

end

mutual

def whole : Toml → Toml
  | .array items => .array (wholeItems items)
  | .table origin es => .table origin (wholeEntries [] es)
  | .tables items => .tables (wholeTables items)
  | v => v

def wholeItems : List Toml → List Toml
  | [] => []
  | v :: vs => whole v :: wholeItems vs

def wholeEntries (before : Entries) : Entries → Entries
  | [] => before
  | (k, v) :: es =>
      let v := whole v
      wholeEntries (alterEntry k (fun w => overlay w v) before) es

def wholeTables : List Entries → List Entries
  | [] => []
  | t :: ts => wholeEntries [] t :: wholeTables ts

end

mutual

def text : Toml → List Char
  | .str s => Text.quoted s.toList
  | .int n => Number.decimal n
  | .float x => x.text
  | .bool b => if b then "True".toList else "False".toList
  | .date d => "Date(".toList ++ arguments (dateParts d) ++ [')']
  | .time t => "Time(".toList ++ arguments (timeParts t) ++ [')']
  | .dateTime d t zone =>
      "DateTime(".toList ++ arguments (dateParts d ++ timeParts t) ++
        (match zone with
         | some z => ", tzinfo=".toList ++ zoneText z
         | none => []) ++ [')']
  | .array items => Text.bracketed (itemTexts items)
  | .table _ entries => Text.braced (entryTexts entries)
  | .tables items => Text.bracketed (tableTexts items)

def itemTexts : List Toml → List (List Char)
  | [] => []
  | v :: vs => text v :: itemTexts vs

def entryTexts : Entries → List (List Char × List Char)
  | [] => []
  | (k, v) :: es => (Text.quoted k.toList, text v) :: entryTexts es

def tableTexts : List Entries → List (List Char)
  | [] => []
  | t :: ts => Text.braced (entryTexts t) :: tableTexts ts

end

/-- The entries of a joined table: of each name the last one, where the name stands first. -/
def lastEntries (es : Entries) : Entries :=
  es.foldl (fun before (k, v) => alterEntry k (fun _ => v) before) []

/-- The text of a value that is no joined table. An array of tables is marked as one unless it
stands inside another value. -/
def ownText (v : Toml) : List Char :=
  match whole v with
  | .tables items => "<AoT ".toList ++ Text.bracketed (tableTexts items) ++ ['>']
  | v => text v

def shown : Toml → List Char
  | .table .joined es =>
      Text.braced ((lastEntries es).map fun (k, v) => (Text.quoted k.toList, ownText v))
  | v => ownText v

mutual

def hasShortNumerals : Toml → Bool
  | .int n => Number.isWritable n
  | .array items => itemsShort items
  | .table _ entries => entriesShort entries
  | .tables items => tablesShort items
  | _ => true

def itemsShort : List Toml → Bool
  | [] => true
  | v :: vs => hasShortNumerals v && itemsShort vs

def entriesShort : Entries → Bool
  | [] => true
  | (_, v) :: es => hasShortNumerals v && entriesShort es

def tablesShort : List Entries → Bool
  | [] => true
  | t :: ts => entriesShort t && tablesShort ts

end

def isWritable : Toml → Bool
  | .table .joined es => entriesShort (lastEntries es)
  | v => hasShortNumerals v

def typeName : Toml → String
  | .str _ => "String"
  | .int _ => "Integer"
  | .float _ => "Float"
  | .bool _ => "bool"
  | .date _ => "Date"
  | .time _ => "Time"
  | .dateTime .. => "DateTime"
  | .array _ => "Array"
  | .table .. => "Table"
  | .tables _ => "AoT"

end Toml

end Residency
