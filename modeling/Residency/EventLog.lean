import Residency.Host
import Residency.Json.Printer
import Residency.Settings.Draft
import Residency.Template

/-!
The log: a file with one JSON object per line, one for each event of level `info` or above. When the
next line would fill it, the file is numbered and a new one begun. A line that cannot be written is
lost; what is told of it on the standard error stream is left out here. How deep a record may nest
depends on the calls around it, so that depth is a parameter.
-/
namespace Residency

inductive EventSource where
  | collector
  | library
  deriving DecidableEq, Repr

def EventSource.name : EventSource → String
  | .collector => "collector"
  | .library => "stdlib"

structure LogRecord where
  level : Level
  source : EventSource := .collector
  event : Json
  fields : List (String × Json) := []

def Event.toRecord (e : Event) : LogRecord :=
  { level := e.level, event := .str e.name, fields := e.fields }

inductive LogRecordError where
  | reserved (operation name : String)
  | noLength (values : Json)
  | notList
  | noEvent
  | notTemplate (event values : Json)
  | template (e : TemplateError)
  | tooDeep

def LogRecordError.message : LogRecordError → String
  | .reserved operation name =>
      "BoundLogger." ++ operation ++ "() got multiple values for argument " ++ Text.quote name
  | .noLength values => "object of type '" ++ values.typeName ++ "' has no len()"
  | .notList => "0"
  | .noEvent => "'event'"
  | .notTemplate event values =>
      "unsupported operand type(s) for %=: '" ++ event.typeName ++ "' and '" ++ values.typeName ++
        "'"
  | .template e => e.message
  | .tooDeep => "maximum recursion depth exceeded while getting the repr of an object"

namespace LogRecord

def isLogged (r : LogRecord) : Bool :=
  r.level != .debug

def valuesField : String := "positional_args"

def hiddenFields : List String :=
  ["_record", "_from_structlog", "exc_info", "stack_info"]

def reservedField? (r : LogRecord) : Option LogRecordError :=
  match r.fields.find? fun (name, _) => name = "event" ∨ name = "self" with
  | some (name, _) => some (.reserved r.level.name name)
  | none =>
      if (Json.member? "method_name" r.fields).isSome then
        some (.reserved "_proxy_to_logger" "method_name")
      else none

def templateValues : Json → Except LogRecordError Json
  | .arr [.obj (m :: ms)] => .ok (.obj (m :: ms))
  | .obj [_] => .error .notList
  | .arr items => .ok (.arr items)
  | .obj members => .ok (.obj members)
  | .str s => .ok (.str s)
  | v => .error (.noLength v)

def filledEvent (r : LogRecord) (values : Json) : Except LogRecordError Json :=
  (templateValues values).bind fun values => match r.event with
    | .str template =>
        ((Template.fill template.toList values).mapError .template).map fun s =>
          .str (String.ofList s)
    | .null => .error .noEvent
    | event => .error (.notTemplate event values)

/-- A record with its event filled in. The values are kept only when there are none. -/
def filled (r : LogRecord) : Except LogRecordError LogRecord :=
  match Json.member? valuesField r.fields with
  | none | some .null => .ok r
  | some values =>
      let r := { r with fields := r.fields.filter (·.1 != valuesField) }
      if values.countsAsTrue then (r.filledEvent values).map fun event => { r with event := event }
      else .ok r

def depth (r : LogRecord) : Nat :=
  (Json.obj (("event", r.event) :: r.fields)).depth

/-- How much deeper a record may nest to be told of when its line is lost. -/
def reportDepth : Nat := 8

/-- A record on its way to the log, unless it is logged and not even the report of its loss can be
written. -/
def reportable (host : Host) (r : LogRecord) : Except LogRecordError LogRecord :=
  if r.isLogged && host.depth + reportDepth < r.depth then .error .tooDeep else .ok r

def ready (host : Host) (r : LogRecord) : Except LogRecordError LogRecord :=
  if r.source = .library then r.reportable host
  else match r.reservedField? with
    | some e => .error e
    | none => if r.isLogged then r.filled.bind (·.reportable host) else .ok r

def readyAll (host : Host) : List LogRecord → List LogRecord × Option LogRecordError
  | [] => ([], none)
  | r :: rest => match r.ready host with
    | .error e => ([], some e)
    | .ok r =>
        let (more, e?) := readyAll host rest
        (r :: more, e?)

def eventMember (r : LogRecord) : List (String × Json) → List (String × Json) :=
  match r.source, r.event with
  | .library, v => Json.setMember "event" (.str v.displayed)
  | .collector, .null => id
  | .collector, v => Json.setMember "event" v

/-- The members of a record's line. What the log says of itself overrides fields of the same
names. -/
def members (stamp : String) (r : LogRecord) : List (String × Json) :=
  Json.setMember "source" (.str r.source.name) <|
    Json.setMember "level" (.str r.level.name) <|
      Json.setMember "ts" (.str stamp) <|
        r.eventMember (r.fields.filter fun (name, _) => !hiddenFields.contains name)

/-- The line of a record, unless it holds an integer that is too long to be written or nests too
deep. -/
def line? (host : Host) (r : LogRecord) : Option (List Char) :=
  let v := Json.obj (r.members host.stamp)
  if v.isWritable && r.event.isWritable && v.depth ≤ host.depth && r.event.depth ≤ host.depth then
    some (v.compact ++ ['\n'])
  else none

end LogRecord

inductive LogError where
  | file (e : FileError)
  | size (e : DraftError)
  | record (e : LogRecordError)

def LogError.message : LogError → String
  | .file e => e.message
  | .size e => e.message
  | .record e => e.message

structure LogLimits where
  maxBytes : Json
  backups : Json

def Draft.logLimits (d : Draft) : LogLimits :=
  { maxBytes := d.value .logBytes, backups := d.value .logBackups }

def Settings.logLimits (s : Settings) : LogLimits :=
  { maxBytes := .int s.logBytes, backups := .int s.logBackups }

namespace LogLimits

/-- Whether a log of a size would be full. A largest size that is not above zero is none. -/
def isFull (l : LogLimits) (size : Nat) : Bool :=
  match l.maxBytes, l.maxBytes.whole? with
  | .float x, _ => x.isAbove 0 && !x.isAbove size
  | _, some n => 0 < n && n ≤ size
  | _, none => false

def count? (l : LogLimits) : Option Nat :=
  match l.backups, l.backups.whole? with
  | .float x, _ => if x.isAbove 0 then none else some 0
  | _, some n => some n.toNat
  | _, none => none

end LogLimits

namespace FileTree

/-- Opens the log: its directory is made, and the file if it is missing. The largest size of the
file has to be a number. -/
def openLog (t : FileTree) (home : Path) (maxBytes : Json) : FileTree × Except LogError Unit :=
  match t.makeDirectories (Settings.stateDirectory home) with
  | .error e => (t.tryDirectories (Settings.stateDirectory home), .error (.file e))
  | .ok t => match maxBytes with
    | .int _ | .bool _ | .float _ => match t.appendBytes (Settings.logPath home) [] with
      | .error e => (t, .error (.file e))
      | .ok t => (t, .ok ())
    | v => (t, .error (.size (.notComparable ">" v)))

def loggedLines (host : Host) (records : List LogRecord) : List (LogRecord × List Char) :=
  (records.filter LogRecord.isLogged).filterMap fun r => (r.line? host).map fun l => (r, l)

def goOn (t : FileTree) (made : Except FileError FileTree)
    (next : FileTree → FileTree × Except FileError Unit) : FileTree × Except FileError Unit :=
  match made with
  | .error e => (t, .error e)
  | .ok t => next t

/-- Gives each of the first numbered files the number after its own, the last one first. The first
that cannot be renamed ends this, and those after it keep their numbers. -/
def shiftBackups (home : Path) : Nat → FileTree → FileTree × Except FileError Unit
  | 0, t => (t, .ok ())
  | n + 1, t =>
      t.goOn (t.supplant (Settings.backupPath home (n + 1)) (Settings.backupPath home (n + 2)))
        (shiftBackups home n)

def rollOver (t : FileTree) (home : Path) (backups : Nat) : FileTree × Except FileError Unit :=
  match shiftBackups home (backups - 1) t with
  | (t, .error e) => (t, .error e)
  | (t, .ok ()) =>
      t.goOn (t.supplant (Settings.logPath home) (Settings.backupPath home 1)) fun t => (t, .ok ())

end FileTree

/-- A tree with its log, and those of the records added that are in the file of the log and not in
a numbered one. -/
structure LogState where
  tree : FileTree
  records : List LogRecord := []

namespace LogState

def append (l : LogState) (home : Path) (r : LogRecord) (line : List Char) : LogState :=
  match l.tree.appendBytes (Settings.logPath home) (Text.Utf8.encode line) with
  | .ok t => { tree := t, records := l.records ++ [r] }
  | .error _ => l

/-- Adds a line to the log. When the line fills it and files are kept, it begins a new one; when no
new one can be begun, the line is lost. -/
def add (l : LogState) (home : Path) (limits : LogLimits) (r : LogRecord) (line : List Char) :
    LogState :=
  let size := ((l.tree.readBytes (Settings.logPath home)).toOption.getD []).length
  if limits.isFull (size + line.length) then
    match limits.count? with
    | none => l
    | some 0 => l.append home r line
    | some (n + 1) => match l.tree.rollOver home (n + 1) with
      | (t, .error _) => { l with tree := t }
      | (t, .ok ()) => ({ tree := t } : LogState).append home r line
  else l.append home r line

def addAll (l : LogState) (host : Host) (limits : LogLimits) (records : List LogRecord) :
    LogState :=
  (FileTree.loggedLines host records).foldl
    (fun l entry => l.add host.home limits entry.1 entry.2) l

end LogState

def FileTree.log (t : FileTree) (host : Host) (limits : LogLimits) (records : List LogRecord) :
    FileTree :=
  (({ tree := t } : LogState).addAll host limits records).tree

end Residency
