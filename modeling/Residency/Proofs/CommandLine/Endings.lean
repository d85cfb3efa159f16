import Residency.Proofs.CommandLine.Snapshots
import Residency.Proofs.Conservation

namespace Residency

theorem isDigits_decimal (m : ℕ) : IsDigits (String.ofList (Number.decimal m)) := by
  have hdigits : Number.decimal m = Nat.toDigits 10 m := rfl
  rw [hdigits]
  constructor
  · intro h
    have := congrArg String.toList h
    rw [String.toList_ofList] at this
    exact Nat.toDigits_ne_nil this
  · rw [String.toList_ofList]
    exact Number.isDigit_of_mem_toDigits

theorem nul_not_mem_decimal (m : ℕ) :
    (String.ofList (Number.decimal m)).toList.contains (Char.ofNat 0) = false := by
  rw [Bool.eq_false_iff]
  intro h
  exact absurd ((isDigits_decimal m).2 _ (List.contains_iff_mem.mp h)) (by decide)

theorem Collector.id_of_usage {c : Collector} {source : StatsSource} {process : Path} {pid uid : ℤ}
    {u : ProcessUsage} (h : (c.usage source process pid uid).2 = .ok (some u)) : u.id = pid := by
  rw [usage] at h
  split at h
  · cases h
  · cases h
  · cases h
    rfl

def StatsSource.ListsShort (source : StatsSource) : Prop :=
  ∀ process entries, source.listing process = .ok entries →
    ∀ e ∈ entries, e.length ≤ Number.maxDigits

theorem Collector.exists_usage {source₀ source : StatsSource} {options : CollectorOptions}
    {c : Collector} (hc : create source₀ options = .ok c) (hs : source.KeepsProtocol)
    {process : Path} (hnul : process.hasNul = false)
    (hlen : source.ListsShort) (pid uid : ℤ) :
    ∃ answer, (c.usage source process pid uid).2 = .ok answer := by
  cases hlist : source.listing process with
  | error e =>
    cases e with
    | embeddedNul => exact absurd hlist (hs process hnul)
    | refused cause p => exact ⟨none, usage_of_error hlist pid uid⟩
  | ok entries =>
    obtain ⟨answer, hanswer, -⟩ :=
      (built_of_create hc).usage_listed hlist (hlen process entries hlist) pid uid
    exact ⟨answer, hanswer⟩

namespace CommandLine

structure HasCollector (host : Host) (tree opened : FileTree) (s : Settings) (c : Collector) :
    Prop where
  opens : tree.openLog host.home (.int s.logBytes) = (opened, .ok ())
  create : Collector.create opened.statsSource s.options = .ok c

def answer (host : Host) (opened : FileTree) (s : Settings) (c : Collector) (pid : Option ℤ) :
    Except CollectorError (Option ProcessUsage) :=
  (c.asked (opened.log host s.logLimits [c.readyEvent.toRecord]).statsSource host pid).2

abbrev Ending := Except Fault (ℕ × List Char)

def Outcome.ending (o : Outcome) : Ending :=
  match o.failure with
  | none => .ok (o.exitCode, o.output)
  | some f => .error f

def reported (r : Report) : Ending :=
  match r.failure with
  | none => .ok (0, r.pieces.flatMap Text.withoutEscapes)
  | some e => .error (.label e)

inductive Ends (host : Host) (tree : FileTree) (s : Settings) : Request → Ending → Prop where
  | noLog {r : Request} {opened : FileTree} {e : LogError}
      (opens : tree.openLog host.home (.int s.logBytes) = (opened, .error e)) :
      Ends host tree s r (.error (.log e))
  | noCollector {r : Request} {opened : FileTree} {e : CollectorError} {line : List Char}
      (opens : tree.openLog host.home (.int s.logBytes) = (opened, .ok ()))
      (create : Collector.create opened.statsSource s.options = .error e)
      (shown : (Notice.collectorFailed (.str s.options.initial.toString)).line host.columns
        host.clock = .ok line) : Ends host tree s r (.ok (1, []))
  | untold {r : Request} {opened : FileTree} {e : CollectorError} {flaw : NoticeError}
      (opens : tree.openLog host.home (.int s.logBytes) = (opened, .ok ()))
      (create : Collector.create opened.statsSource s.options = .error e)
      (shown : (Notice.collectorFailed (.str s.options.initial.toString)).line host.columns
        host.clock = .error flaw) : Ends host tree s r (.error (.notice flaw))
  | frequencies {opened : FileTree} {c : Collector} (has : HasCollector host tree opened s c) :
      Ends host tree s .frequencies (reported (Report.frequencies c.minFrequencies))
  | snapshot {opened : FileTree} {c : Collector} {pid : Option ℤ} {format : Format}
      {u : ProcessUsage} (has : HasCollector host tree opened s c)
      (asked : answer host opened s c pid = .ok (some u)) :
      Ends host tree s (.snapshot pid format) (reported (snapshotReport format c.minFrequencies u))
  | unavailable {opened : FileTree} {c : Collector} {pid : Option ℤ} {format : Format}
      (has : HasCollector host tree opened s c) (asked : answer host opened s c pid = .ok none) :
      Ends host tree s (.snapshot pid format) (.ok (0, "No usage available.\n".toList))
  | refused {opened : FileTree} {c : Collector} {pid : Option ℤ} {format : Format}
      {e : CollectorError} (has : HasCollector host tree opened s c)
      (asked : answer host opened s c pid = .error e) :
      Ends host tree s (.snapshot pid format) (.error (.collector e))

def Request.pid : Request → Option ℤ
  | .snapshot pid _ => pid
  | _ => none

structure IsCounted (host : Host) (tree : FileTree) (s : Settings) (r : Request) : Prop where
  pid : Number.isWritable (r.pid.getD host.pid) = true
  slots : ∀ opened c, HasCollector host tree opened s c →
    Number.isWritable c.frequencies.length = true
  threads : ∀ opened c u, HasCollector host tree opened s c →
    answer host opened s c r.pid = .ok (some u) → Number.isWritable u.threads.length = true

section Run

variable {host : Host} {tree opened : FileTree} {s : Settings} {c : Collector} {r : Request}

theorem ending_report {o : Outcome} (h : IsSilent o) (report : Report) :
    (Outcome.ofRun (o.report report)).ending = reported report := by
  rw [Outcome.report, foldl_print, h.output, reported]
  cases report.failure with
  | none =>
    rw [Outcome.ending, h.failure, h.exitCode]
    rfl
  | some e => rfl

theorem IsSilent.withConsole {o : Outcome} (h : IsSilent o) (console : List Char) :
    IsSilent { o with console := console } :=
  ⟨h.output, h.errors, h.exitCode, h.failure⟩

theorem runRequest_of_error {o : Outcome} (hload : loadSettings host { tree := tree } = .ok s)
    (hstart : startCollector host s { tree := tree } = .error o) (hr : r.needsCollector = true)
    (input : String) : runRequest host input { tree := tree } r = .error o := by
  cases r with
  | frequencies =>
    rw [runRequest, runFrequencies, hload, ok_bind_eq, hstart]
    rfl
  | snapshot pid format =>
    rw [runRequest, runSnapshot, hload, ok_bind_eq, hstart]
    rfl
  | _ => cases hr

theorem startCollector_of_noLog {e : LogError}
    (opens : tree.openLog host.home (.int s.logBytes) = (opened, .error e)) :
    startCollector host s { tree := tree } =
      .error { tree := opened, exitCode := 1, failure := some (.log e) } := by
  unfold startCollector
  dsimp only
  rw [opens]
  rfl

theorem startCollector_of_noCollector {e : CollectorError}
    (opens : tree.openLog host.home (.int s.logBytes) = (opened, .ok ()))
    (create : Collector.create opened.statsSource s.options = .error e) :
    startCollector host s { tree := tree } =
      ((Outcome.log host s.logLimits [.collectorFailed s.options.initial e.message]
        { tree := opened }).notice host
          (.collectorFailed (.str s.options.initial.toString))).bind (·.exit 1) := by
  have hstart : Collector.start opened.statsSource s.options =
      (.collectorFailed s.options.initial e.message, none) := by
    rw [Collector.start, create]
  unfold startCollector
  dsimp only
  rw [opens]
  dsimp only
  rw [hstart]
  rfl

theorem runFrequencies_of_started {o started : Outcome} (hload : loadSettings host o = .ok s)
    (hstart : startCollector host s o = .ok (c, started)) :
    runFrequencies host o = started.report (Report.frequencies c.minFrequencies) := by
  rw [runFrequencies, hload, ok_bind_eq, hstart]
  rfl

theorem id_of_answer {pid : Option ℤ} {u : ProcessUsage}
    (h : answer host opened s c pid = .ok (some u)) : u.id = pid.getD host.pid := by
  cases pid with
  | none => exact Collector.id_of_usage h
  | some pid =>
    obtain ⟨uid, h⟩ := Collector.usage_of_pidUsage h
    exact Collector.id_of_usage h

theorem ending_snapshot {pid : Option ℤ} {format : Format}
    {answered : Except CollectorError (Option ProcessUsage)}
    (hload : loadSettings host { tree := tree } = .ok s) (hclock : Notice.IsClock host.clock)
    (hcounted : IsCounted host tree s (.snapshot pid format))
    (has : HasCollector host tree opened s c) (hanswer : answer host opened s c pid = answered)
    (input : String) : ∃ o, IsSilent o ∧
      runRequest host input { tree := tree } (.snapshot pid format) =
        concluded host c pid format o answered := by
  obtain ⟨o, hstart, hsilent, htree⟩ := startCollector_of_create has.opens has.create hclock
    (hcounted.slots _ _ has)
  rw [answer, ← htree] at hanswer
  rcases hasked : c.asked o.tree.statsSource host pid with ⟨events, usage⟩
  rw [hasked] at hanswer
  refine ⟨o.log host s.logLimits events,
    ⟨hsilent.output, hsilent.errors, hsilent.exitCode, hsilent.failure⟩, ?_⟩
  rw [runRequest, runSnapshot_of_asked hload hstart hasked, ← hanswer]

theorem ending_of_ends {x : Ending} (hclock : Notice.IsClock host.clock)
    (hcounted : IsCounted host tree s r)
    (hload : Settings.load tree (Settings.filePath host.home) = .ok s) {args : List String}
    (hargs : Request.ofArguments args = .ok r) (hr : r.needsCollector = true) (input : String)
    (h : Ends host tree s r x) :
    (run host tree args input).ending = x := by
  have hsettings : loadSettings host { tree := tree } = .ok s := by
    rw [loadSettings, hload]
  rw [run_of_request hargs]
  cases h with
  | noLog opens =>
    rw [runRequest_of_error hsettings (startCollector_of_noLog opens) hr]
    rfl
  | noCollector opens create shown =>
    have hstart := startCollector_of_noCollector opens create
    rw [Outcome.notice, shown] at hstart
    rw [runRequest_of_error hsettings hstart hr]
    rfl
  | untold opens create shown =>
    have hstart := startCollector_of_noCollector opens create
    rw [Outcome.notice, shown] at hstart
    rw [runRequest_of_error hsettings hstart hr]
    rfl
  | frequencies has =>
    obtain ⟨o, hstart, hsilent, -⟩ := startCollector_of_create has.opens has.create hclock
      (hcounted.slots _ _ has)
    rw [runRequest, runFrequencies_of_started hsettings hstart]
    exact ending_report hsilent _
  | @snapshot opened c pid format u has asked =>
    obtain ⟨o, hsilent, hrun⟩ := ending_snapshot hsettings hclock hcounted has asked input
    have hid : Number.isWritable u.id = true := by
      rw [id_of_answer asked]
      exact hcounted.pid
    obtain ⟨line, hline⟩ := notice_eq o
      (Notice.markup_snapshotTaken hid (hcounted.threads _ _ u has asked))
      (Notice.balanced_takenParts hclock _ _)
    rw [hrun, concluded, hline]
    exact ending_report (hsilent.withConsole _) _
  | @unavailable opened c pid format has asked =>
    obtain ⟨o, hsilent, hrun⟩ := ending_snapshot hsettings hclock hcounted has asked input
    have hpid : Number.isWritable (pid.getD host.pid) = true := hcounted.pid
    obtain ⟨line, hline⟩ := notice_eq o (Notice.markup_snapshotUnavailable hpid)
      (Notice.balanced_unavailableParts hclock _)
    rw [hrun, concluded, hline]
    exact ending_report (hsilent.withConsole _) { pieces := ["No usage available.\n".toList] }
  | refused has asked =>
    obtain ⟨o, hsilent, hrun⟩ := ending_snapshot hsettings hclock hcounted has asked input
    rw [hrun]
    rfl

theorem exists_answer {pid : Option ℤ} (has : HasCollector host tree opened s c)
    (hpid : Number.isWritable (pid.getD host.pid) = true) (hpos : ∀ n ∈ pid, 0 ≤ n)
    (hnul : s.options.procPath.hasNul = false)
    (hlen : (opened.log host s.logLimits [c.readyEvent.toRecord]).statsSource.ListsShort) :
    ∃ answered, answer host opened s c pid = .ok answered := by
  have hproc : c.procPath = s.options.procPath := (Collector.built_of_create has.create).procPath
  have hkeeps := (opened.log host s.logLimits [c.readyEvent.toRecord]).keepsProtocol
  rw [answer]
  generalize (opened.log _ _ _).statsSource = source at hkeeps hlen ⊢
  have husage {process : Path} (hprocess : process.hasNul = false) (pid uid : ℤ) :
      ∃ answered, (c.usage source process pid uid).2 = .ok answered :=
    Collector.exists_usage has.create hkeeps hprocess hlen pid uid
  rw [← hproc] at hnul
  cases pid with
  | none =>
    have hself : (c.procPath ++ "self").hasNul = false := by
      rw [Path.append_name _ (by decide) (by decide) (by decide), Path.hasNul_child, hnul]
      rfl
    exact husage hself host.pid host.uid
  | some n =>
    obtain ⟨m, rfl⟩ := Int.eq_ofNat_of_zero_le (hpos n rfl)
    have hname : (c.procPath ++ String.ofList (Number.decimal m)).hasNul = false := by
      rw [append_entry _ (isDigits_decimal m), Path.hasNul_child, hnul,
        nul_not_mem_decimal m]
      rfl
    have hnonneg : ¬ (m : ℤ) < 0 := by omega
    have hshort : Number.isWritable m = true := hpid
    change ∃ answered, (c.pidUsage source host.owner m none).2 = .ok answered
    unfold Collector.pidUsage
    dsimp only
    rw [if_neg hnonneg]
    cases host.owner m with
    | known uid =>
      dsimp only
      rw [Number.decimal?, if_pos hshort]
      exact husage hname m uid
    | gone | denied => exact ⟨none, rfl⟩

theorem reported_ne_collector (report : Report) (e : CollectorError) :
    reported report ≠ .error (.collector e) := by
  rw [reported]
  cases report.failure <;> simp

theorem exists_refused {x : Ending} {e : CollectorError} (h : Ends host tree s r x)
    (hx : x = .error (.collector e)) : ∃ opened c, HasCollector host tree opened s c ∧
      answer host opened s c r.pid = .error e := by
  cases h with
  | refused has asked =>
    cases hx
    exact ⟨_, _, has, asked⟩
  | frequencies | snapshot => exact absurd hx (reported_ne_collector _ e)
  | noLog | noCollector | untold | unavailable => cases hx

theorem exists_ends (host : Host) (tree : FileTree) (s : Settings)
    (hr : r.needsCollector = true) : ∃ x, Ends host tree s r x := by
  rcases hopen : tree.openLog host.home (.int s.logBytes) with ⟨opened, e | ⟨⟨⟩⟩⟩
  · exact ⟨_, .noLog hopen⟩
  cases hcreate : Collector.create opened.statsSource s.options with
  | error e =>
    cases hline : (Notice.collectorFailed (.str s.options.initial.toString)).line host.columns
      host.clock with
    | error flaw => exact ⟨_, .untold hopen hcreate hline⟩
    | ok line => exact ⟨_, .noCollector hopen hcreate hline⟩
  | ok c =>
    have has : HasCollector host tree opened s c := ⟨hopen, hcreate⟩
    cases r with
    | frequencies => exact ⟨_, .frequencies has⟩
    | snapshot pid format =>
      rcases hanswer : answer host opened s c pid with e | (_ | u)
      · exact ⟨_, .refused has hanswer⟩
      · exact ⟨_, .unavailable has hanswer⟩
      · exact ⟨_, .snapshot has hanswer⟩
    | _ => cases hr

end Run

section Sample

theorem hasCollector_sample : HasCollector sampleHost (sampleTree 10 "t" []) (sampleTree 10 "t" [])
    (sampleSettings 10 "t") (sampleCollector 10 "t") :=
  let h := takesSnapshot_sample "t" (by decide : (1 : ℤ) ≤ 10) (by decide)
  ⟨h.opens, h.create⟩

theorem eq_of_hasCollector_sample {opened : FileTree} {c : Collector}
    (h : HasCollector sampleHost (sampleTree 10 "t" []) opened (sampleSettings 10 "t") c) :
    opened = sampleTree 10 "t" [] ∧ c = sampleCollector 10 "t" := by
  obtain rfl := (Prod.mk.inj (h.opens.symm.trans hasCollector_sample.opens)).1
  exact ⟨rfl, Except.ok.inj (h.create.symm.trans hasCollector_sample.create)⟩

theorem isCounted_sample {r : Request} (hpid : Number.isWritable (r.pid.getD 9) = true)
    (hthreads : ∀ u, answer sampleHost (sampleTree 10 "t" []) (sampleSettings 10 "t")
      (sampleCollector 10 "t") r.pid = .ok (some u) →
        Number.isWritable u.threads.length = true) :
    IsCounted sampleHost (sampleTree 10 "t" []) (sampleSettings 10 "t") r where
  pid := hpid
  slots opened c h := by
    obtain ⟨-, rfl⟩ := eq_of_hasCollector_sample h
    exact (isTold_sample 10 "t").slots
  threads opened c u h hu := by
    obtain ⟨rfl, rfl⟩ := eq_of_hasCollector_sample h
    exact hthreads u hu

end Sample

end CommandLine

end Residency
