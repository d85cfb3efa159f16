import Residency.Csv
import Residency.Json.Printer
import Residency.Label
import Residency.Settings
import Residency.Snapshot

/-!
What the commands print: the table of the frequencies, a snapshot as a table, as rows with commas or
as JSON, and the settings. A report is printed piece by piece, so when a number has no label the
pieces before it have been printed.
-/
namespace Residency

structure Report where
  pieces : List (List Char) := []
  failure : Option LabelError := none

namespace Report

def alignRight (width : Nat) (s : List Char) : List Char :=
  List.replicate (width - s.length) ' ' ++ s

def alignLeft (width : Nat) (s : List Char) : List Char :=
  s ++ List.replicate (width - s.length) ' '

def numeral (n : Int) : Except LabelError (List Char) :=
  if Number.isWritable n then .ok (Number.decimal n) else .error .integerTooLong

def ofLines : List (Except LabelError (List Char)) → Report
  | [] => {}
  | .error e :: _ => { failure := some e }
  | .ok line :: rest =>
      let r := ofLines rest
      { r with pieces := (line ++ ['\n']) :: r.pieces }

def ofPiece : Except LabelError (List Char) → Report
  | .ok piece => { pieces := [piece] }
  | .error e => { failure := some e }

def dashes (n : Nat) : List Char :=
  List.replicate n '-'

def bucketLine (index : Nat) (khz : Int) : Except LabelError (List Char) :=
  (numeral khz).bind fun number => (Label.frequency khz).map fun label =>
    alignRight 6 (Nat.toDigits 10 index) ++ "  ".toList ++ alignRight 10 number ++ "  ".toList ++
      alignRight 8 label.toList

def frequencies (fs : List Int) : Report :=
  ofLines (.ok (alignRight 6 "Bucket".toList ++ "  ".toList ++ alignRight 10 "Min kHz".toList ++
      "  ".toList ++ alignRight 8 []) ::
    .ok (dashes 30) :: fs.mapIdx bucketLine)

def cells (label : Int → Except LabelError String) : List Int → Except LabelError (List Char)
  | [] => .ok []
  | n :: ns =>
      (label n).bind fun s => (cells label ns).map (' ' :: ' ' :: alignRight 8 s.toList ++ ·)

def title (p : ProcessUsage) : Except LabelError (List Char) :=
  (numeral p.id).bind fun id => (numeral p.uid).map fun uid =>
    "Process ".toList ++ id ++ " (".toList ++ p.name.toList ++ "), uid ".toList ++ uid ++
      ", ".toList ++ Nat.toDigits 10 p.threads.length ++ " threads".toList

/-- The row of a thread; its name is cut after sixteen characters. -/
def threadLine (t : ThreadUsage) : Except LabelError (List Char) :=
  (cells Label.duration t.times).bind fun row => (numeral t.id).map fun id =>
    alignRight 7 id ++ "  ".toList ++ alignLeft 16 (t.name.toList.take 16) ++ row

def headedLine (first second : String) (row : List Char) : List Char :=
  alignRight 7 first.toList ++ "  ".toList ++ alignLeft 16 second.toList ++ row

def table (fs : List Int) (p : ProcessUsage) : Report :=
  ofLines (title p ::
    ((cells Label.frequency fs).map (headedLine "TID" "Name")) ::
    .ok (dashes (25 + 10 * fs.length)) ::
    (p.threads.map threadLine ++
      [(cells Label.duration p.total).map (headedLine "" "total")]))

def numerals : List Int → Except LabelError (List (List Char))
  | [] => .ok []
  | n :: ns => (numeral n).bind fun s => (numerals ns).map (s :: ·)

def threadRow (t : ThreadUsage) : Except LabelError (List Char) :=
  (numerals (t.id :: t.times)).map fun
    | id :: times => Csv.row (id :: t.name.toList :: times)
    | [] => []

def threadRows : List ThreadUsage → Except LabelError (List Char)
  | [] => .ok []
  | t :: ts => (threadRow t).bind fun row => (threadRows ts).map (row ++ ·)

def rows (fs : List Int) (p : ProcessUsage) : Report :=
  ofPiece <| (numerals fs).bind fun names => (threadRows p.threads).map fun rows =>
    Csv.row ("thread_id".toList :: "thread_name".toList :: names) ++ rows

def snapshotValue (fs : List Int) (p : ProcessUsage) : Json :=
  .obj (p.toRecord.members ++ [("cpu_frequencies_khz", .arr (fs.map .int))])

def json (fs : List Int) (p : ProcessUsage) : Report :=
  let v := snapshotValue fs p
  ofPiece (if v.isWritable then .ok (Json.indented 0 v ++ ['\n']) else .error .integerTooLong)

def settingLine (s : Setting) (value : Except LabelError (List Char)) :
    Except LabelError (List Char) :=
  value.map fun v => "  ".toList ++ s.key.toList ++ " = ".toList ++ v

def settings (path : Path) (isThere : Bool) (s : Settings) : Report :=
  ofLines [
    .ok ("Config file: ".toList ++ path.toString.toList),
    .ok ("Exists: ".toList ++ (if isThere then "True" else "False").toList),
    .ok [],
    .ok "[collector]".toList,
    settingLine .procPath (.ok s.procPath.toList),
    settingLine .initialPath (.ok s.initialPath.toList),
    settingLine .buckets (numeral s.buckets),
    settingLine .tickMillis (numeral s.tickMillis),
    .ok [],
    .ok "[names]".toList,
    settingLine .processName (.ok s.processName.toList),
    settingLine .threadName (.ok s.threadName.toList),
    .ok [],
    .ok "[logging]".toList,
    settingLine .logBytes (numeral s.logBytes),
    settingLine .logBackups (numeral s.logBackups)]

end Report

end Residency
