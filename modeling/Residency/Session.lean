import Residency.CommandLine
import Residency.Json.Shown

namespace Residency

inductive DataOrigin where
  | files
  | table
  deriving DecidableEq, Repr

structure Session where
  host : Host
  tree : FileTree := {}
  data : Option StatsTable := none
  draft : Draft := ({} : Settings).toDraft
  reader : Option (DataOrigin × TableReader) := none
  collector : Option (DataOrigin × DraftCollector) := none

inductive DataKind where
  | listings
  | residences
  | firstLines
  | tokens
  deriving DecidableEq, Repr

inductive Datum where
  | listing (entries : List String)
  | residences (rs : List Residence)
  | firstLine (line : String)
  | tokens (tokens : List String)

inductive Step where
  | write (path : Path) (entry : FileEntry)
  | remove (path : Path)
  | read (path : Path)
  | setDatum (path : Path) (d : Datum)
  | removeDatum (path : Path) (kind : DataKind)
  | list (path : Path)
  | residences (path : Path)
  | firstLine (path : Path)
  | tokens (path : Path)
  | newReader (path : Path) (tick : Json)
  | readTimes (path : Path)
  | newCollector (parameters : Draft)
  | startCollector (load : Bool)
  | describeCollector
  | usage (path : Path) (pid uid : Json)
  | pidUsage (pid : Json) (uid : Option Json)
  | currentUsage
  | newSettings
  | loadSettings (path : Option Path)
  | setSetting (group key : String) (v : Unchecked)
  | saveSettings (path : Option Path)
  | settingsPaths
  | isDefault
  | notify (n : Notice)
  | log (records : List LogRecord)
  | run (args : List String) (input : String)

inductive Reply where
  | done
  | text (s : Option String)
  | names (names : List String)
  | residences (rs : Option (List Residence))
  | tokens (tokens : Option (List String))
  | frequencies (fs : FrequencyTable)
  | times (times : Option (List Json))
  | collector (c : Option DraftCollector)
  | usage (u : Option ProcessRecord)
  | settings (d : Draft)
  | paths (paths : List (String × Path))
  | truth (b : Bool)
  | outcome (o : CommandLine.Outcome)

structure Answer where
  reply : Except Fault Reply
  events : List Event := []
  records : List LogRecord := []
  console : List Char := []

namespace StatsTable

def put {α : Type} (p : Path) (a : α) (l : List (Path × α)) : List (Path × α) :=
  (p, a) :: l.filter (·.1 != p)

def set (t : StatsTable) (p : Path) : Datum → StatsTable
  | .listing entries => { t with listings := put p entries t.listings }
  | .residences rs => { t with residences := put p rs t.residences }
  | .firstLine line => { t with firstLines := put p line t.firstLines }
  | .tokens tokens => { t with tokens := put p tokens t.tokens }

def erase (t : StatsTable) (p : Path) : DataKind → StatsTable
  | .listings => { t with listings := t.listings.filter (·.1 != p) }
  | .residences => { t with residences := t.residences.filter (·.1 != p) }
  | .firstLines => { t with firstLines := t.firstLines.filter (·.1 != p) }
  | .tokens => { t with tokens := t.tokens.filter (·.1 != p) }

end StatsTable

namespace Session

def singleLineEnds : List Char → List Char
  | [] => []
  | '\r' :: '\n' :: s => '\n' :: singleLineEnds s
  | c :: s => c :: singleLineEnds s

/-- The files as a session reads them: it lists every directory in the order of the names. -/
def files (s : Session) : FileTree :=
  s.tree.sorted

def source (s : Session) : DataOrigin → StatsSource
  | .files => s.files.statsSource
  | .table => (s.data.getD {}).statsSource

def origin (s : Session) : DataOrigin :=
  if s.data.isSome then .table else .files

def answer (s : Session) (reply : Except Fault Reply) : Session × Answer :=
  (s, { reply := reply })

def usageAnswer (s : Session) (operation : String)
    (f : StatsSource → DraftCollector →
      List Event × Except DraftCollectorError (Option ProcessRecord)) : Session × Answer :=
  match s.collector with
  | none => s.answer (.error (.notMade operation))
  | some (origin, c) =>
      let (events, result) := f (s.source origin) c
      (s, { reply := (result.mapError .draftCollector).map .usage, events := events })

/-- Starts a collector from the settings of the session, or from those of the settings file. Its
data comes from the files in any case. -/
def start (s : Session) (load : Bool) : Session × Answer :=
  let s := { s with collector := none }
  let draft : Except Fault Draft :=
    if load then
      ((Settings.load s.tree (Settings.filePath s.host.home)).mapError .load).map Settings.toDraft
    else .ok s.draft
  let started := draft.bind fun d => (d.start s.tree.statsSource).mapError Fault.draftCollector
  match started with
  | .error e => s.answer (.error e)
  | .ok (event, made) =>
      ({ s with collector := made.map (.files, ·) },
        { reply := .ok (.collector made), events := [event] })

def save (s : Session) (path : Path) : Session × Answer :=
  let (tree, saved) := s.draft.save s.tree path
  let s := { s with tree := tree }
  match saved with
  | .error e => s.answer (.error (.save e))
  | .ok () => s.answer (((tree.readText? path).mapError .text).map .text)

def log (s : Session) (records : List LogRecord) : Session × Answer :=
  let (tree, opened) := s.tree.openLog s.host.home (s.draft.value .logBytes)
  match opened with
  | .error e => ({ s with tree := tree }, { reply := .error (.log e) })
  | .ok () =>
      let (records, e?) := LogRecord.readyAll s.host records
      let l := ({ tree := tree } : LogState).addAll s.host s.draft.logLimits records
      ({ s with tree := l.tree },
        { reply := match e? with
            | some e => .error (.log (.record e))
            | none => .ok .done
          records := l.records })

def paths (s : Session) : Except Fault Reply :=
  let home := s.host.home
  ((s.draft.path .procPath).mapError .draft).bind fun proc =>
    ((s.draft.path .initialPath).mapError .draft).map fun initial =>
      .paths [("config_dir", Settings.directory home), ("config_path", Settings.filePath home),
        ("state_dir", Settings.stateDirectory home), ("log_path", Settings.logPath home),
        ("proc_path", proc), ("initial_time_in_state_path", initial)]

def step (s : Session) : Step → Session × Answer
  | .write path entry => match s.tree.place path entry with
    | .ok tree => { s with tree := tree }.answer (.ok .done)
    | .error e => s.answer (.error (.file e))
  | .remove path =>
      let (tree, removed) := s.tree.remove path
      { s with tree := tree }.answer ((removed.mapError Fault.file).map fun _ => .done)
  | .read path => s.answer (((s.tree.readText? path).mapError .text).map .text)
  | .setDatum path d => { s with data := some ((s.data.getD {}).set path d) }.answer (.ok .done)
  | .removeDatum path kind =>
      { s with data := s.data.map fun (t : StatsTable) => t.erase path kind }.answer (.ok .done)
  | .list path => s.answer (((s.files.threadEntries path).mapError .file).map .names)
  | .residences path => s.answer (.ok (.residences (s.tree.residences path)))
  | .firstLine path => s.answer (((s.tree.firstLine path).mapError .file).map .text)
  | .tokens path => s.answer (((s.tree.tokens path).mapError .file).map .tokens)
  | .newReader path tick => match TableReader.create? (s.source s.origin) path tick with
    | some r =>
        { s with reader := some (s.origin, r) }.answer (.ok (.frequencies r.frequencies))
    | none => { s with reader := none }.answer (.error (.noTable path))
  | .readTimes path => match s.reader with
    | none => s.answer (.error (.notMade "read_usage_times_millis"))
    | some (origin, r) =>
        let (events, times) := r.read (s.source origin) path
        (s, { reply := (times.mapError .arithmetic).map .times, events := events })
  | .newCollector parameters => match parameters.collector (s.source s.origin) with
    | .ok c => { s with collector := some (s.origin, c) }.answer (.ok (.collector (some c)))
    | .error e => { s with collector := none }.answer (.error (.draftCollector e))
  | .startCollector load => s.start load
  | .describeCollector => match s.collector with
    | none => s.answer (.error (.notMade "cpu_frequencies_khz"))
    | some (_, c) => s.answer (.ok (.collector (some c)))
  | .usage path pid uid =>
      s.usageAnswer "get_process_cpu_usage" fun source c => c.usage source path pid uid
  | .pidUsage pid uid =>
      s.usageAnswer "get_pid_cpu_usage" fun source c => c.pidUsage source s.host.owner pid uid
  | .currentUsage =>
      s.usageAnswer "get_current_process_cpu_usage" fun source c =>
        c.currentUsage source s.host.pid s.host.uid
  | .newSettings =>
      let draft := ({} : Settings).toDraft
      { s with draft := draft }.answer (.ok (.settings draft))
  | .loadSettings path =>
      match Settings.load s.tree (path.getD (Settings.filePath s.host.home)) with
      | .ok settings =>
          { s with draft := settings.toDraft }.answer (.ok (.settings settings.toDraft))
      | .error e => s.answer (.error (.load e))
  | .setSetting group key v => match Setting.find? group key with
    | some setting => { s with draft := s.draft.put setting v }.answer (.ok .done)
    | none =>
        if Section.all.any (·.name = group) then s.answer (.ok .done)
        else s.answer (.error (.noSection group))
  | .saveSettings path => s.save (path.getD (Settings.filePath s.host.home))
  | .settingsPaths => s.answer s.paths
  | .isDefault => s.answer (.ok (.truth s.draft.isDefault))
  | .notify n => match n.line s.host.columns s.host.clock with
    | .ok line => (s, { reply := .ok .done, console := line })
    | .error e => s.answer (.error (.notice e))
  | .log records => s.log records
  | .run args input =>
      let o := CommandLine.run s.host s.files args input
      ({ s with tree := o.tree },
        { reply := .ok (.outcome { o with
            output := singleLineEnds o.output
            errors := singleLineEnds o.errors })
          records := o.records
          console := o.console })

def steps (s : Session) : List Step → Session × List Answer
  | [] => (s, [])
  | step :: rest =>
      let (s, a) := s.step step
      let (s, answers) := s.steps rest
      (s, a :: answers)

end Session

end Residency
