import Residency.CommandLine
import Residency.Proofs.Console.Notices
import Residency.Proofs.Log.Rotation
import Residency.Proofs.Records
import Residency.Proofs.SettingsFile
import Residency.Proofs.Usage

namespace Residency

def Path.slash (parts : List String) : Path :=
  { root := .slash, parts := parts }

def Collector.asked (c : Collector) (source : StatsSource) (host : Host) :
    Option ℤ → List Event × Except CollectorError (Option ProcessUsage)
  | none => c.currentUsage source host.pid host.uid
  | some pid => c.pidUsage source host.owner pid none

def Collector.readyEvent (c : Collector) : Event :=
  .collectorReady c.mapping.frequencies.length (.int c.mapping.count)

structure IsTold (c : Collector) (u : ProcessUsage) : Prop where
  slots : Number.isWritable c.frequencies.length = true
  id : Number.isWritable u.id = true
  threads : Number.isWritable u.threads.length = true

structure IsShort (c : Collector) (u : ProcessUsage) : Prop where
  usage : ∀ n ∈ u.integers, Number.isWritable n = true
  frequencies : ∀ n ∈ c.minFrequencies, Number.isWritable n = true
  slots : Number.isWritable c.frequencies.length = true
  threads : Number.isWritable u.threads.length = true

theorem IsShort.isTold {c : Collector} {u : ProcessUsage} (h : IsShort c u) : IsTold c u :=
  ⟨h.slots, h.usage u.id (by simp [ProcessUsage.integers]), h.threads⟩

namespace CommandLine

structure TakesSnapshot (host : Host) (tree opened : FileTree) (s : Settings) (c : Collector)
    (pid : Option ℤ) (u : ProcessUsage) : Prop where
  load : Settings.load tree (Settings.filePath host.home) = .ok s
  opens : tree.openLog host.home (.int s.logBytes) = (opened, .ok ())
  create : Collector.create opened.statsSource s.options = .ok c
  usage : (c.asked (opened.log host s.logLimits [c.readyEvent.toRecord]).statsSource host
    pid).2 = .ok (some u)

structure IsSilent (o : Outcome) : Prop where
  output : o.output = []
  errors : o.errors = []
  exitCode : o.exitCode = 0
  failure : o.failure = none

section Arguments

theorem ofArguments_snapshot (args : List String) :
    Request.ofArguments ("snapshot" :: args) = readLeaf .snapshot args := by
  have hword : isOption "snapshot" = false := by decide
  have hname : Command.program.children.lookup "snapshot" = some .snapshot := by decide
  have hargs : readArguments .program ("snapshot" :: args) =
      .ok { others := "snapshot" :: args } := by
    rw [readArguments, if_neg (by decide), hword]
    rfl
  rw [Request.ofArguments, readGroup, hargs]
  simp [hname, Parsed.page?]

theorem readArguments_format (name : String) :
    readArguments .snapshot ["--format", name] = .ok { options := [(.format, name)] } := by
  have hoption : isOption "--format" = true := by decide
  have hread : readOption .snapshot "--format" = .ok (.needsNext [] .format "--format") := by
    decide
  rw [readArguments, if_neg (by decide), if_pos hoption, hread]
  rfl

theorem isOption_decimal (n : ℕ) : isOption (String.ofList (Number.decimal n)) = false := by
  obtain ⟨d, ds, h, hd⟩ := Number.exists_toDigits n
  have hn : Number.decimal n = d :: ds := h
  rw [isOption, String.toList_ofList, hn]
  split
  · next heq =>
    cases heq
    exact absurd hd (by decide)
  · rfl

variable {name : String} {format : Format} (h : Format.names.lookup name = some format)
include h

theorem format_of_lookup (others : List String) :
    Parsed.format { options := [(.format, name)], others := others } = .ok format := by
  have hlast : [(Switch.format, name)].reverse.lookup .format = some name := rfl
  rw [Parsed.format, hlast]
  dsimp only
  rw [h]

theorem ofArguments_pid {pid : ℕ} (hpid : Number.isWritable pid = true) :
    Request.ofArguments ["snapshot", String.ofList (Number.decimal pid), "--format", name] =
      .ok (.snapshot (some pid) format) := by
  have hword : String.ofList (Number.decimal pid) ≠ "--" := by
    intro e
    have hoption := isOption_decimal pid
    rw [e] at hoption
    exact absurd hoption (by decide)
  have hargs : readArguments .snapshot [String.ofList (Number.decimal pid), "--format", name] =
      .ok { options := [(.format, name)], others := [String.ofList (Number.decimal pid)] } := by
    rw [readArguments, if_neg hword, isOption_decimal, readArguments_format]
    rfl
  rw [ofArguments_snapshot, readLeaf, hargs, ok_bind]
  dsimp only [Parsed.page?, List.findSome?]
  rw [readSnapshot, format_of_lookup h, ok_bind]
  dsimp only
  rw [String.toList_ofList, Number.readInteger_decimal hpid]
  rfl

end Arguments

section Run

variable {host : Host} {tree opened : FileTree} {s : Settings} {c : Collector} {pid : Option ℤ}
  {u : ProcessUsage}

theorem isWritable_count {source : StatsSource} {options : CollectorOptions}
    (h : Collector.create source options = .ok c)
    (hslots : Number.isWritable c.frequencies.length = true) :
    Number.isWritable c.mapping.count = true := by
  have hb := Collector.built_of_create h
  have hB := hb.buckets_pos
  have hshape := BucketMapping.shape_layout c.frequencies (B := options.buckets.toNat) (by omega)
  have hlittle := hshape.little_le
  have hbig := hshape.big_le
  have hsplit := hshape.split_le
  rw [Number.isWritable_iff] at hslots ⊢
  rw [hb.mapping, BucketMapping.count_layout]
  omega

theorem notice_eq {n : Notice} {parts : List Console.Markup.Part} (o : Outcome)
    (hmarkup : n.markup host.clock = .ok (String.ofList (Console.Markup.textOf parts)))
    (hb : Console.Markup.Balanced 0 parts) :
    ∃ line, o.notice host n = .ok { o with console := o.console ++ line } := by
  obtain ⟨line, hline⟩ := Notice.exists_line hmarkup hb host.columns
  exact ⟨line, by rw [Outcome.notice, hline]⟩

theorem run_of_request {args : List String} {r : Request}
    (h : Request.ofArguments args = .ok r) (input : String) : run host tree args input =
      Outcome.ofRun (runRequest host input { tree := tree } r) := by
  rw [run, h]

theorem foldl_print (pieces : List (List Char)) (o : Outcome) :
    pieces.foldl Outcome.print o =
      { o with output := o.output ++ pieces.flatMap Text.withoutEscapes } := by
  induction pieces generalizing o with
  | nil => simp
  | cons piece pieces ih =>
    rw [List.foldl_cons, ih, List.flatMap_cons, ← List.append_assoc]
    rfl

theorem startCollector_eq (hopen : tree.openLog host.home (.int s.logBytes) = (opened, .ok ()))
    (hcreate : Collector.create opened.statsSource s.options = .ok c) :
    startCollector host s { tree := tree } =
      ((Outcome.log host s.logLimits [c.readyEvent] { tree := opened }).notice host
        (.collectorReady (.int c.mapping.frequencies.length) (.int c.mapping.count))).map
          fun o => (c, o) := by
  have hstart : Collector.start opened.statsSource s.options = (c.readyEvent, some c) := by
    rw [Collector.start, hcreate]
    rfl
  unfold startCollector
  dsimp only
  rw [hopen]
  dsimp only
  rw [hstart]
  rfl

theorem startCollector_of_create
    (hopen : tree.openLog host.home (.int s.logBytes) = (opened, .ok ()))
    (hcreate : Collector.create opened.statsSource s.options = .ok c)
    (hclock : Notice.IsClock host.clock)
    (hslots : Number.isWritable c.frequencies.length = true) :
    ∃ o, startCollector host s { tree := tree } = .ok (c, o) ∧ IsSilent o ∧
      o.tree = opened.log host s.logLimits [c.readyEvent.toRecord] := by
  have htable : Number.isWritable c.mapping.frequencies.length = true := by
    rw [(Collector.built_of_create hcreate).mapping]
    exact hslots
  let started : Outcome := Outcome.log host s.logLimits [c.readyEvent] { tree := opened }
  obtain ⟨line, hline⟩ := notice_eq started
    (Notice.markup_collectorReady htable (isWritable_count hcreate hslots))
    (Notice.balanced_readyParts hclock _ _)
  refine ⟨{ started with console := started.console ++ line }, ?_, ⟨rfl, rfl, rfl, rfl⟩, rfl⟩
  rw [startCollector_eq hopen hcreate, hline]
  rfl

def concluded (host : Host) (c : Collector) (pid : Option ℤ) (format : Format) (o : Outcome) :
    Except CollectorError (Option ProcessUsage) → Except Outcome Outcome
  | .error e => o.fail (.collector e)
  | .ok none => (o.notice host (.snapshotUnavailable (.int (pid.getD host.pid)))).map
      (·.print "No usage available.\n".toList)
  | .ok (some u) => (o.notice host (.snapshotTaken (.int u.id) (.int u.threads.length))).bind
      (·.report (snapshotReport format c.minFrequencies u))

theorem runSnapshot_of_asked {o started : Outcome} (hload : loadSettings host o = .ok s)
    (hstart : startCollector host s o = .ok (c, started)) {events : List Event}
    {answer : Except CollectorError (Option ProcessUsage)}
    (hasked : c.asked started.tree.statsSource host pid = (events, answer)) (format : Format) :
    runSnapshot host pid format o =
      concluded host c pid format (started.log host s.logLimits events) answer := by
  rw [runSnapshot, hload, ok_bind_eq, hstart, ok_bind_eq]
  cases pid with
  | none =>
    have hcurrent : c.currentUsage started.tree.statsSource host.pid host.uid = _ := hasked
    dsimp only
    rw [hcurrent]
    rcases answer with e | (_ | u) <;> rfl
  | some pid =>
    have hpid : c.pidUsage started.tree.statsSource host.owner pid none = _ := hasked
    dsimp only
    rw [hpid]
    rcases answer with e | (_ | u) <;> rfl

theorem runSnapshot_eq (h : TakesSnapshot host tree opened s c pid u)
    (hclock : Notice.IsClock host.clock) (htold : IsTold c u) (format : Format) :
    ∃ o, runSnapshot host pid format { tree := tree } =
        o.report (snapshotReport format c.minFrequencies u) ∧ IsSilent o := by
  have hload : loadSettings host { tree := tree } = .ok s := by
    rw [loadSettings, h.load]
  obtain ⟨started, hstart, hsilent, htree⟩ :=
    startCollector_of_create h.opens h.create hclock htold.slots
  have husage := h.usage
  rw [← htree] at husage
  rcases hasked : c.asked started.tree.statsSource host pid with ⟨events, usage⟩
  rw [hasked] at husage
  cases husage
  let logged : Outcome := started.log host s.logLimits events
  obtain ⟨line, hline⟩ := notice_eq logged
    (Notice.markup_snapshotTaken htold.id htold.threads) (Notice.balanced_takenParts hclock _ _)
  refine ⟨{ logged with console := logged.console ++ line }, ?_,
    ⟨hsilent.output, hsilent.errors, hsilent.exitCode, hsilent.failure⟩⟩
  rw [runSnapshot_of_asked hload hstart hasked, concluded, hline]
  rfl

section Report

variable (h : TakesSnapshot host tree opened s c pid u) (hclock : Notice.IsClock host.clock)
  (htold : IsTold c u) {args : List String} {format : Format}
  (hargs : Request.ofArguments args = .ok (.snapshot pid format))
include h hclock htold hargs

theorem run_of_piece {piece : List Char}
    (hpiece : snapshotReport format c.minFrequencies u = { pieces := [piece] }) (input : String) :
    (run host tree args input).exitCode = 0 ∧ (run host tree args input).failure = none ∧
      (run host tree args input).errors = [] ∧
      (run host tree args input).output = Text.withoutEscapes piece := by
  obtain ⟨o, ho, hsilent⟩ := runSnapshot_eq h hclock htold format
  have hrun : run host tree args input = { o with
      output := o.output ++ Text.withoutEscapes piece } := by
    rw [run_of_request hargs, runRequest, ho, hpiece]
    rfl
  rw [hrun]
  dsimp only
  rw [hsilent.output]
  exact ⟨hsilent.exitCode, hsilent.failure, hsilent.errors, rfl⟩

theorem run_of_failure {e : LabelError}
    (hfailure : snapshotReport format c.minFrequencies u = { failure := some e }) (input : String) :
    (run host tree args input).exitCode = 1 ∧
      (run host tree args input).failure = some (.label e) ∧
      (run host tree args input).output = [] := by
  obtain ⟨o, ho, hsilent⟩ := runSnapshot_eq h hclock htold format
  have hrun : run host tree args input = { o with
      exitCode := 1
      failure := some (.label e) } := by
    rw [run_of_request hargs, runRequest, ho, hfailure]
    rfl
  rw [hrun]
  exact ⟨rfl, rfl, hsilent.output⟩

end Report

end Run

section Sample

variable (tick : ℤ) (name : String)

def sampleHost : Host :=
  { pid := 9, uid := 1000, clock := "12:34:56", home := .slash ["home"]
    owner := fun _ => .known 0 }

def sampleSettings : Settings :=
  { procPath := "/p", initialPath := "/p/table", buckets := 2, tickMillis := tick
    threadName := name }

def sampleTree (log : List UInt8) : FileTree :=
  { entries := [
      (.slash ["home"], .directory),
      (.slash ["home", ".config"], .directory),
      (.slash ["home", ".config", "cpu-residency"], .directory),
      (.slash ["home", ".config", "cpu-residency", "config.toml"], .file (Text.Utf8.encode
        ((sampleSettings tick name).toDraft.sections.flatMap Toml.blockText))),
      (.slash ["home", ".local"], .directory),
      (.slash ["home", ".local", "state"], .directory),
      (.slash ["home", ".local", "state", "cpu-residency"], .directory),
      (.slash ["home", ".local", "state", "cpu-residency", "cpu-residency.log"], .file log),
      (.slash ["p"], .directory),
      (.slash ["p", "table"], .file (Text.Utf8.encode "100 0\n200 0\n150 0\n".toList)),
      (.slash ["p", "5"], .directory),
      (.slash ["p", "5", "cmdline"], .file (Text.Utf8.encode "sh\x1b[0m\r\n\"😀\x00-c\x00".toList)),
      (.slash ["p", "5", "task"], .directory),
      (.slash ["p", "5", "task", "5"], .directory),
      (.slash ["p", "5", "task", "5", "time_in_state"],
        .file (Text.Utf8.encode "100 1\n200 2\n150 3\n".toList)),
      (.slash ["p", "5", "task", "8"], .directory),
      (.slash ["p", "5", "task", "8", "comm"],
        .file (Text.Utf8.encode "\"\x1b[;2H😀,\x1b[\\\x07\nrest".toList)),
      (.slash ["p", "5", "task", "8", "time_in_state"],
        .file (Text.Utf8.encode "100 4\n200 0\n150 0\n".toList))] }

def sampleProcess : Path := .slash ["p", "5"]

def sampleCollector : Collector :=
  { procPath := .slash ["p"]
    frequencies := [100, 200, 150]
    tickMillis := tick
    mapping := .layout [100, 200, 150] 2
    minFrequencies := [100, 150]
    defaultProcessName := "unknown_process"
    defaultThreadName := name }

def sampleUsage : ProcessUsage :=
  { id := 5, name := "sh\x1b[0m\r\n\"😀", uid := 0
    threads := [
      { id := 5, name := name, times := [0 + 1 * tick + 2 * tick, 0 + 3 * tick] },
      { id := 8, name := "\"\x1b[;2H😀,\x1b[\\\x07"
        times := [0 + 4 * tick + 0 * tick, 0 + 0 * tick] }] }

def sampleOutcome (format : String) : Outcome :=
  run sampleHost (sampleTree tick name []) ["snapshot", "5", "--format", format] ""

theorem listing_sample {t : FileTree} (hplace : t.locate (sampleProcess ++ "task") =
    .ok (sampleProcess.child "task"))
    (hentry : t.entryAt (sampleProcess.child "task") = some .directory)
    (hnames : t.namesAt (sampleProcess.child "task") = ["5", "8"]) :
    t.statsSource.listing sampleProcess = .ok ["5", "8"] := by
  have hlist : t.list (sampleProcess ++ "task") = .ok ["5", "8"] := by
    rw [FileTree.list, hplace, ok_bind, hentry, ← hnames]
  exact hlist

theorem listing_sampleTree (log : List UInt8) :
    (sampleTree tick name log).statsSource.listing sampleProcess = .ok ["5", "8"] :=
  listing_sample rfl rfl rfl

theorem isTold_sample : IsTold (sampleCollector tick name) (sampleUsage tick name) :=
  ⟨(by decide : Number.isWritable 3 = true), (by decide : Number.isWritable 5 = true),
    (by decide : Number.isWritable 2 = true)⟩

theorem isWritable_sampleFrequencies :
    ∀ n ∈ (sampleCollector tick name).minFrequencies, Number.isWritable n = true :=
  (by decide : ∀ n ∈ [100, 150], Number.isWritable n = true)

theorem isShort_sample : IsShort (sampleCollector 10 name) (sampleUsage 10 name) := by
  have hints : ∀ n ∈ [5, 0, 5, 30, 30, 8, 40, 0], Number.isWritable n = true := by decide
  have htold := isTold_sample 10 name
  exact ⟨hints, isWritable_sampleFrequencies 10 name, htold.slots, htold.threads⟩

theorem isClock_sampleHost : Notice.IsClock sampleHost.clock := by
  decide

variable {tick}

theorem load_sample (hpos : 1 ≤ tick) (hshort : Number.isWritable tick = true) {t : FileTree}
    (hbytes : t.readBytes (Settings.filePath sampleHost.home) = .ok (Text.Utf8.encode
      ((sampleSettings tick name).toDraft.sections.flatMap Toml.blockText))) :
    Settings.load t (Settings.filePath sampleHost.home) = .ok (sampleSettings tick name) := by
  have hrange : (sampleSettings tick name).InRange :=
    ⟨(by decide : (1 : ℤ) ≤ 2), hpos, (by decide : (1 : ℤ) ≤ 5242880), (by decide : (0 : ℤ) ≤ 3)⟩
  have hints : ∀ n ∈ [2, tick, 5242880, 3], Number.isWritable n = true := by
    rw [List.forall_mem_cons, List.forall_mem_cons]
    exact ⟨by decide, hshort, by decide⟩
  exact Settings.load_of_readBytes hrange hints hbytes

theorem load_sampleTree (hpos : 1 ≤ tick) (hshort : Number.isWritable tick = true)
    (log : List UInt8) :
    Settings.load (sampleTree tick name log) (Settings.filePath sampleHost.home) =
      .ok (sampleSettings tick name) :=
  load_sample name hpos hshort rfl

theorem create_sample {t : FileTree} (htable : FrequencyTable.ofSource? t.statsSource
    (.slash ["p", "table"]) = some [100, 200, 150]) :
    Collector.create t.statsSource (sampleSettings tick name).options =
      .ok (sampleCollector tick name) := by
  have hproc : (sampleSettings tick name).options.procPath = .slash ["p"] := by
    change Path.ofString "/p" = _
    decide
  have hinitial : (sampleSettings tick name).options.initial = .slash ["p", "table"] := by
    change Path.ofString "/p/table" = _
    decide
  have hmapping : BucketMapping.create [100, 200, 150] 2 = .ok (.layout [100, 200, 150] 2) := rfl
  have hlowest : (BucketMapping.layout [100, 200, 150] 2).minFrequencies = .ok [100, 150] := rfl
  have hbuckets : (sampleSettings tick name).options.buckets = 2 := rfl
  rw [Collector.create, hinitial, htable]
  dsimp only
  rw [hbuckets, hmapping, ok_bind, hlowest, hproc]
  rfl

def sampleRecord : LogRecord :=
  (Event.collectorReady 3 (.int 2)).toRecord

def sampleLine : List Char :=
  (sampleRecord.line? sampleHost).getD []

def sampleLog : List UInt8 :=
  Text.Utf8.encode sampleLine

theorem line_sample : sampleRecord.line? sampleHost = some sampleLine := by
  have hsome : (sampleRecord.line? sampleHost).isSome = true := by decide +kernel
  obtain ⟨line, hline⟩ := Option.isSome_iff_exists.mp hsome
  rw [sampleLine, hline]
  rfl

theorem loggedLines_sample : FileTree.loggedLines sampleHost
    [(sampleCollector tick name).readyEvent.toRecord] = [(sampleRecord, sampleLine)] := by
  change (([sampleRecord].filterMap fun r => (r.line? sampleHost).map fun l => (r, l))) = _
  rw [List.filterMap_cons, line_sample]
  rfl

theorem log_sample {t logged : FileTree}
    (hempty : t.readBytes (Settings.logPath sampleHost.home) = .ok [])
    (happend : t.appendBytes (Settings.logPath sampleHost.home) sampleLog = .ok logged) :
    t.log sampleHost (sampleSettings tick name).logLimits
      [(sampleCollector tick name).readyEvent.toRecord] = logged := by
  have hroom : (sampleSettings tick name).logLimits.isFull
      (([] : List UInt8).length + sampleLine.length) = false :=
    (by decide +kernel : (decide (0 < (5242880 : ℤ)) &&
      decide ((5242880 : ℤ) ≤ (([] : List UInt8).length + sampleLine.length : ℕ))) = false)
  have hadd := LogState.add_of_not_full (l := { tree := t }) hempty sampleRecord sampleLine hroom
  rw [FileTree.log, LogState.addAll, loggedLines_sample, List.foldl_cons, List.foldl_nil, hadd,
    LogState.append]
  rw [sampleLog] at happend
  dsimp only
  rw [happend]

theorem append_sampleTree : (sampleTree tick name []).appendBytes
    (Settings.logPath sampleHost.home) sampleLog = .ok (sampleTree tick name sampleLog) := rfl

theorem log_sampleTree : (sampleTree tick name []).log sampleHost
    (sampleSettings tick name).logLimits [(sampleCollector tick name).readyEvent.toRecord] =
      sampleTree tick name sampleLog :=
  log_sample name rfl (append_sampleTree name)

theorem takesSnapshot_of_scan (hpos : 1 ≤ tick) (hshort : Number.isWritable tick = true)
    {t logged : FileTree} {process : String} {threads : List ThreadUsage}
    (hbytes : t.readBytes (Settings.filePath sampleHost.home) = .ok (Text.Utf8.encode
      ((sampleSettings tick name).toDraft.sections.flatMap Toml.blockText)))
    (hopen : t.openLog sampleHost.home (.int 5242880) = (t, .ok ()))
    (htable : FrequencyTable.ofSource? t.statsSource (.slash ["p", "table"]) =
      some [100, 200, 150])
    (hempty : t.readBytes (Settings.logPath sampleHost.home) = .ok [])
    (happend : t.appendBytes (Settings.logPath sampleHost.home) sampleLog = .ok logged)
    (hlist : logged.statsSource.listing sampleProcess = .ok ["5", "8"])
    (hscan : (scanThreads [100, 200, 150] logged.statsSource .scan
      (sampleCollector tick name).threadUsage (sampleProcess ++ "task") ["5", "8"]).2 =
        .ok threads)
    (hne : threads.isEmpty = false)
    (hname : processName logged.statsSource sampleProcess = some process) :
    TakesSnapshot sampleHost t t (sampleSettings tick name) (sampleCollector tick name) (some 5)
      { id := 5, name := process, uid := 0, threads := threads } := by
  refine ⟨load_sample name hpos hshort hbytes, hopen, create_sample name htable, ?_⟩
  have husage := Collector.usage_of_listing (c := sampleCollector tick name) hlist 5 0
  have hfrequencies : (sampleCollector tick name).frequencies = [100, 200, 150] := rfl
  rw [hfrequencies, hscan, hname] at husage
  rw [log_sample name hempty happend]
  cases threads with
  | nil => cases hne
  | cons => exact husage

theorem takesSnapshot_sample (hpos : 1 ≤ tick) (hshort : Number.isWritable tick = true) :
    TakesSnapshot sampleHost (sampleTree tick name []) (sampleTree tick name [])
      (sampleSettings tick name) (sampleCollector tick name) (some 5) (sampleUsage tick name) :=
  takesSnapshot_of_scan name hpos hshort rfl rfl rfl rfl (append_sampleTree name)
    (listing_sampleTree tick name sampleLog) rfl rfl rfl

theorem ofArguments_sample {word : String} {format : Format}
    (h : Format.names.lookup word = some format) :
    Request.ofArguments ["snapshot", "5", "--format", word] = .ok (.snapshot (some 5) format) := by
  have hpid : Number.isWritable (5 : ℕ) = true := by decide
  exact ofArguments_pid h hpid

end Sample

end CommandLine

end Residency
