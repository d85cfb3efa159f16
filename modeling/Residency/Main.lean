import Residency.CommandLine

/-!
The program. It gathers the files that a run may read, runs the command line on them, and then
writes the settings file and the log with the files before it, and prints what the run has printed.
Only files are written and removed: a directory that stands in the place of a numbered log stays.
-/
namespace Residency.Program

open CommandLine

def bytes? (p : Path) : IO (Option (List UInt8)) := do
  try
    return some (← IO.FS.readBinFile p.toString).toList
  catch _ =>
    return none

def names (p : Path) : IO (List String) := do
  try
    let directory ← IO.FS.realPath p.toString
    return (← directory.readDir).toList.map (·.fileName)
  catch _ =>
    return []

def isDirectory (p : Path) : IO Bool := do
  try
    (← IO.FS.realPath p.toString).isDir
  catch _ =>
    return false

def withEntry (t : FileTree) (p : Path) : IO FileTree := do
  match ← bytes? p with
  | some bytes => return ((t.place p (.file bytes)).toOption).getD t
  | none =>
      if ← isDirectory p then return ((t.place p .directory).toOption).getD t
      else return t

def withEntries (t : FileTree) : List Path → IO FileTree
  | [] => return t
  | p :: ps => do withEntries (← withEntry t p) ps

def processPaths (process : Path) : IO (List Path) := do
  let threads := process ++ "task"
  let entries ← names threads
  return threads :: entries.map (threads ++ ·) ++
    (process ++ processNameFile) :: entries.flatMap fun entry =>
      [threads ++ entry ++ statisticsFile, threads ++ entry ++ threadNameFile]

def logPaths (home : Path) (s : Settings) : List Path :=
  ((List.range s.logBackups.toNat).map fun n => Settings.backupPath home (n + 1)).reverse ++
    [Settings.logPath home]

def processOf (procPath : Path) : Request → Option Path
  | .snapshot none _ => some (procPath ++ "self")
  | .snapshot (some pid) _ => (Number.decimal? pid).map (procPath ++ ·)
  | _ => none

def gather (home : Path) (request : Option Request) : IO FileTree := do
  let file := Settings.filePath home
  let t ← withEntry {} file
  match Settings.load t file, request with
  | .ok settings, some r =>
      let t ← if r.needsCollector then withEntries t (logPaths home settings) else pure t
      let t ← withEntry t settings.options.initial
      match processOf settings.options.procPath r with
      | some process => withEntries t (← processPaths process)
      | none => return t
  | _, _ => return t

/-- The owner of a process, by the first number in the `Uid:` line of its status. -/
def owner (process : String) : IO Owner := do
  match ← bytes? (Path.ofString "/proc" ++ process ++ "status") with
  | none => return .gone
  | some bytes =>
      let lines := Text.lines (Text.Utf8.decodeLossy bytes)
      let uid? := lines.findSome? fun line => match Text.words line with
        | title :: uid :: _ =>
            if title = "Uid:".toList then (Number.readInteger uid).toOption else none
        | _ => none
      match uid? with
      | some uid => return .known uid
      | none => return .denied

def ownPid : IO Int := do
  match ← bytes? (.ofString "/proc/self/stat") with
  | some bytes => match Text.words (Text.Utf8.decodeLossy bytes) with
    | pid :: _ => return (Number.readInteger pid).toOption.getD 0
    | [] => return 0
  | none => return 0

def twoDigits (n : Nat) : String :=
  (if n < 10 then "0" else "") ++ toString n

/-- The time, in seconds of universal time and microseconds: that of the process's own entry among
the processes. -/
def now : IO (Int × Nat) := do
  try
    let own ← IO.FS.realPath "/proc/self"
    let time := (← own.metadata).modified
    return (time.sec, time.nsec.toNat / 1000)
  catch _ =>
    return (0, 0)

def clock (seconds : Int) : String :=
  let second := (seconds % 86400).toNat
  ":".intercalate
    [twoDigits (second / 3600), twoDigits (second / 60 % 60), twoDigits (second % 60)]

def date (seconds : Int) : String :=
  let day := seconds / 86400 + 719468
  let era := day / 146097
  let dayOfEra := day % 146097
  let yearOfEra := (dayOfEra - dayOfEra / 1460 + dayOfEra / 36524 - dayOfEra / 146096) / 365
  let dayOfYear := dayOfEra - (365 * yearOfEra + yearOfEra / 4 - yearOfEra / 100)
  let monthFromMarch := (5 * dayOfYear + 2) / 153
  let dayOfMonth := dayOfYear - (153 * monthFromMarch + 2) / 5 + 1
  let month := if monthFromMarch < 10 then monthFromMarch + 3 else monthFromMarch - 9
  let year := yearOfEra + era * 400 + if month ≤ 2 then 1 else 0
  toString year ++ "-" ++ twoDigits month.toNat ++ "-" ++ twoDigits dayOfMonth.toNat

def stamp (seconds : Int) (micros : Nat) : String :=
  let digits := Nat.toDigits 10 micros
  date seconds ++ "T" ++ clock seconds ++ "." ++
    String.ofList (List.replicate (6 - digits.length) '0' ++ digits)

/-- The width of the console: one that is given, or eighty columns. -/
def columns : IO Nat := do
  match ← IO.getEnv "COLUMNS" with
  | some s => return if !s.isEmpty && s.toList.all Char.isDigit then s.toNat?.getD 80 else 80
  | none => return 80

def host (home : Path) (request : Option Request) : IO Host := do
  let pid ← ownPid
  let uid ← match ← owner "self" with
    | .known uid => pure uid
    | _ => pure 0
  let asked ← match request with
    | some (.snapshot (some asked) _) => match Number.decimal? asked with
      | some name => owner name
      | none => pure .gone
    | _ => pure .gone
  let (seconds, micros) ← now
  return {
    pid, uid, home
    clock := clock seconds
    owner := fun _ => asked
    stamp := stamp seconds micros
    columns := some (← columns) }

partial def ask (typed : String) : IO String := do
  IO.print (String.ofList question)
  (← IO.getStdout).flush
  let line ← (← IO.getStdin).getLine
  let typed := typed ++ line
  if line.isEmpty || (inputLines line).any fun l => (answer? l).isSome then return typed
  IO.print (String.ofList invalidAnswer)
  ask typed

def update (before after : FileTree) (p : Path) : IO Unit := do
  match (before.readBytes p).toOption, (after.readBytes p).toOption with
  | old, some bytes =>
      if old != some bytes then
        IO.FS.createDirAll p.parent.toString
        IO.FS.writeBinFile p.toString (ByteArray.mk bytes.toArray)
  | some _, none => IO.FS.removeFile p.toString
  | none, none => return ()

def updateAll (before after : FileTree) : List Path → IO Unit
  | [] => return ()
  | p :: ps => do
      update before after p
      updateAll before after ps

def run (args : List String) : IO UInt32 := do
  let home := Path.ofString ((← IO.getEnv "HOME").getD "/")
  let request := (Request.ofArguments args).toOption
  let before ← gather home request
  let (input, asked) ← match request with
    | some (.reset false _) => do
        let typed ← ask ""
        pure (typed, (confirm (inputLines typed)).1)
    | _ => pure ("", [])
  let o := CommandLine.run (← host home request) before args input
  let file := Settings.filePath home
  let kept := match Settings.load before file with
    | .ok settings => logPaths home settings
    | .error _ => []
  updateAll before o.tree (file :: kept)
  IO.eprint (String.ofList o.console)
  IO.print (String.ofList (o.output.drop asked.length))
  IO.eprint (String.ofList o.errors)
  match o.failure with
  | some f => IO.eprintln ("Error: " ++ f.message)
  | none => pure ()
  return o.exitCode.toUInt32

end Residency.Program

def main (args : List String) : IO UInt32 :=
  Residency.Program.run args
