import Residency.Proofs.CommandLine.Consent
import Residency.Proofs.CommandLine.Endings
import Residency.Proofs.Log.Rotation

namespace Residency

namespace Settings

def filePlace (home : Path) : Path :=
  (filePath home).destination

theorem length_filePlace (home : Path) :
    (filePlace home).parts.length = home.destination.parts.length + 3 := by
  have hpath : filePath home =
      ((home.child ".config").child "cpu-residency").child "config.toml" := by
    rw [filePath, directory, Path.append_name _ (by decide) (by decide) (by decide),
      Path.append_name _ (by decide) (by decide) (by decide),
      Path.append_name _ (by decide) (by decide) (by decide)]
  rw [filePlace, hpath, Path.destination_child _ (by decide), Path.destination_child _ (by decide),
    Path.destination_child _ (by decide)]
  simp [Path.child]

theorem length_stateDirectory (home : Path) :
    (stateDirectory home).destination.parts.length = home.destination.parts.length + 3 := by
  have hpath : stateDirectory home =
      ((home.child ".local").child "state").child "cpu-residency" := by
    rw [stateDirectory, Path.append_name _ (by decide) (by decide) (by decide),
      Path.append_name _ (by decide) (by decide) (by decide),
      Path.append_name _ (by decide) (by decide) (by decide)]
  rw [hpath, Path.destination_child _ (by decide), Path.destination_child _ (by decide),
    Path.destination_child _ (by decide)]
  simp [Path.child]

theorem filePlace_not_isUnder {home top : Path} {n : ℕ} (h : top ∈ logPlaces home n) :
    (filePlace home).isUnder top = false := by
  obtain ⟨name, rfl⟩ := exists_child_of_mem_logPlaces h
  rw [← Bool.not_eq_true, Path.isUnder_iff]
  rintro ⟨-, hprefix⟩
  have hlength := hprefix.length_le
  rw [length_filePlace, Path.child, List.length_append, length_stateDirectory,
    List.length_singleton] at hlength
  omega

end Settings

namespace CommandLine

def Leaves {α : Type} (Q : FileTree → Prop) (next : α → FileTree) : Except Outcome α → Prop
  | .ok a => Q (next a)
  | .error o => Q o.tree

section Steps

variable {α β : Type} {Q : FileTree → Prop} {next : α → FileTree} {next' : β → FileTree}
  {host : Host} {tree : FileTree} {o : Outcome} {s : Settings}

theorem Leaves.bind {x : Except Outcome α} {f : α → Except Outcome β} (h : Leaves Q next x)
    (hf : ∀ a, x = .ok a → Q (next a) → Leaves Q next' (f a)) : Leaves Q next' (x >>= f) := by
  cases x with
  | error o => exact h
  | ok a => exact hf a rfl h

theorem Leaves.map {x : Except Outcome α} {f : α → β} (h : Leaves Q next x)
    (hf : ∀ a, Q (next a) → Q (next' (f a))) : Leaves Q next' (x.map f) := by
  cases x with
  | error o => exact h
  | ok a => exact hf a h

theorem Leaves.of_ok {x : Except Outcome α} {a : α} (h : Leaves Q next x) (hx : x = .ok a) :
    Q (next a) := by
  rw [hx] at h
  exact h

theorem Leaves.of_error {x : Except Outcome α} (h : Leaves Q next x) (hx : x = .error o) :
    Q o.tree := by
  rw [hx] at h
  exact h

theorem leaves_ofRun {x : Except Outcome Outcome} (h : Leaves Q Outcome.tree x) :
    Q (Outcome.ofRun x).tree := by
  cases x with
  | error o => exact h
  | ok o => exact h

theorem leaves_notice (h : Q o.tree) (n : Notice) : Leaves Q Outcome.tree (o.notice host n) := by
  rw [Outcome.notice]
  cases n.line host.columns host.clock with
  | error e => exact h
  | ok line => exact h

theorem leaves_report (h : Q o.tree) (r : Report) : Leaves Q Outcome.tree (o.report r) := by
  rw [Outcome.report, foldl_print]
  cases r.failure with
  | none => exact h
  | some e => exact h

theorem leaves_concluded (h : Q o.tree) (c : Collector) (pid : Option ℤ) (format : Format)
    (answer : Except CollectorError (Option ProcessUsage)) :
    Leaves Q Outcome.tree (concluded host c pid format o answer) := by
  rcases answer with e | (_ | u)
  · exact h
  · exact (leaves_notice h _).map fun _ ho => ho
  · exact (leaves_notice h _).bind fun _ _ ho => leaves_report ho _

theorem leaves_loadSettings (h : Q o.tree) : Leaves Q (fun _ => o.tree) (loadSettings host o) := by
  rw [loadSettings]
  cases Settings.load o.tree (Settings.filePath host.home) with
  | error e => exact h
  | ok s => exact h

theorem leaves_runShow (h : Q o.tree) : Leaves Q Outcome.tree (runShow host o) :=
  (leaves_loadSettings h).bind fun _ _ _ => leaves_report h _

structure KeptByLog (Q : FileTree → Prop) (host : Host) (s : Settings) : Prop where
  opened : ∀ t, Q t → Q (t.openLog host.home (.int s.logBytes)).1
  logged : ∀ (o : Outcome) (events : List Event), Q o.tree → Q (o.log host s.logLimits events).tree

theorem leaves_startCollector (hlog : KeptByLog Q host s) (h : Q o.tree) :
    Leaves Q (fun started : Collector × Outcome => started.2.tree) (startCollector host s o) := by
  have hopened := hlog.opened o.tree h
  unfold startCollector
  rcases hopen : o.tree.openLog host.home (.int s.logBytes) with ⟨opened, e | _⟩
  · rw [hopen] at hopened
    exact hopened
  · rw [hopen] at hopened
    have hlogged (event : Event) :
        Q (Outcome.log host s.logLimits [event] { o with tree := opened }).tree :=
      hlog.logged { o with tree := opened } [event] hopened
    dsimp only
    rcases Collector.start opened.statsSource s.options with ⟨event, _ | c⟩
    · exact (leaves_notice (hlogged event) _).bind fun _ _ ho => ho
    · exact (leaves_notice (hlogged event) _).bind fun _ _ ho => ho

section Run

variable (h : Q o.tree) (hlog : ∀ s, loadSettings host o = .ok s → KeptByLog Q host s)
include h hlog

theorem leaves_runFrequencies : Leaves Q Outcome.tree (runFrequencies host o) :=
  (leaves_loadSettings h).bind fun s hload _ =>
    (leaves_startCollector (hlog s hload) h).bind fun _ _ hstarted => leaves_report hstarted _

theorem leaves_runSnapshot (pid : Option ℤ) (format : Format) :
    Leaves Q Outcome.tree (runSnapshot host pid format o) := by
  cases hload : loadSettings host o with
  | error failed =>
    rw [runSnapshot, hload]
    exact (leaves_loadSettings h).of_error hload
  | ok s =>
    have hleaves := leaves_startCollector (hlog s hload) h
    cases hstart : startCollector host s o with
    | error failed =>
      rw [runSnapshot, hload, ok_bind_eq, hstart]
      exact hleaves.of_error hstart
    | ok started =>
      have hstarted := hleaves.of_ok hstart
      rcases hasked : started.1.asked started.2.tree.statsSource host pid with ⟨events, answer⟩
      rw [runSnapshot_of_asked hload hstart hasked]
      exact leaves_concluded ((hlog s hload).logged _ events hstarted) _ _ _ _

end Run

end Steps

section Log

variable {host : Host} {tree : FileTree} {s : Settings}

theorem isSize_int (n : ℤ) : IsSize (.int n) := trivial

theorem keptByLog_of_none (h : s.logBackups.toNat = 0) :
    KeptByLog (tree.WritesOnly [Settings.logPlace host.home]) host s where
  opened _ ht := ht.trans (writesOnly_openLog (isSize_int _))
  logged o _ ho := ho.trans
    (LogState.writesOnly_addAll { tree := o.tree, records := o.records } s.logLimits host h _)

theorem keptByLog_of_count {n : ℕ} (h : s.logBackups.toNat = n) :
    KeptByLog (tree.ChangesOnly (Settings.logPlaces host.home n)) host s where
  opened _ ht := by
    refine ht.trans ((writesOnly_openLog (isSize_int _)).changesOnly ?_)
    simp [Settings.logPlaces]
  logged o events ho := by
    have hkept := LogState.keepsOutside_addAll { tree := o.tree, records := o.records }
      s.logLimits host (events.map Event.toRecord)
    have hcount : s.logLimits.count?.getD 0 = n := h
    rw [hcount] at hkept
    exact ho.trans hkept.changesOnly

end Log

section Reset

variable {host : Host} {o : Outcome} {input : String}

theorem runConfirm_of_yes {confirmed : Bool} (h : confirmed = true ∨ AnswersYes input)
    (o : Outcome) : ∃ o', runConfirm confirmed input o = .ok o' ∧ o'.tree = o.tree := by
  cases confirmed with
  | true => exact ⟨o, rfl, rfl⟩
  | false =>
    have hyes := confirm_iff.mpr (h.resolve_left (by simp))
    unfold runConfirm
    dsimp only
    rw [hyes]
    exact ⟨_, rfl, rfl⟩

theorem runConfirm_of_no (h : ¬ AnswersYes input) (o : Outcome) :
    ∃ o', runConfirm false input o = .error o' ∧ o'.tree = o.tree := by
  have hno : (confirm (inputLines input)).2 = false := by
    rw [← Bool.not_eq_true, confirm_iff]
    exact h
  unfold runConfirm
  dsimp only
  rw [hno]
  exact ⟨_, rfl, rfl⟩

inductive Resets (host : Host) (tree : FileTree) (o : Outcome) : Prop where
  | saved (load : Settings.load o.tree (Settings.filePath host.home) = .ok {})
      (files : tree.WritesOnly [Settings.filePlace host.home] o.tree)
  | refused (hfile : ¬ tree.IsWritable (Settings.filePath host.home)) (e : SaveError)
      (failure : o.failure = some (.save e)) (files : tree.WritesOnly [] o.tree)

theorem resets_runReset (host : Host) (o : Outcome) :
    Resets host o.tree (Outcome.ofRun (runReset host o)) := by
  have hints : ∀ n ∈ ({} : Settings).integers, Number.isWritable n = true := by decide
  rcases hsave : ({} : Settings).toDraft.save o.tree (Settings.filePath host.home) with
    ⟨tree, e | ⟨⟨⟩⟩⟩
  · have hreset : runReset host o =
        .error { o with tree := tree, exitCode := 1, failure := some (.save e) } := by
      rw [runReset, hsave]
      rfl
    rw [hreset]
    refine .refused (fun hfile => ?_) e rfl
      (Draft.writesOnly_of_save_error (Settings.isLoose_toDraft {}) hsave)
    obtain ⟨tree', hsave'⟩ := Settings.exists_save hints hfile
    cases hsave.symm.trans hsave'
  · have hreset : Leaves (· = tree) Outcome.tree (runReset host o) := by
      rw [runReset, hsave]
      refine Leaves.map (leaves_notice (o := { o with tree := tree }) ?_ _) fun _ ho => ?_
      · rfl
      · exact ho
    have htree := leaves_ofRun hreset
    refine .saved ?_ ?_
    · rw [htree]
      exact Settings.load_of_saved hints Settings.inRange_default hsave
    · rw [htree]
      exact Draft.writesOnly_of_save hsave

theorem Resets.writesOnly {tree : FileTree} (h : Resets host tree o) :
    tree.WritesOnly [Settings.filePlace host.home] o.tree := by
  cases h with
  | saved _ files => exact files
  | refused _ _ _ files => exact files.mono (List.nil_subset _)

end Reset

section Run

def Agreed (args : List String) (input : String) : Prop :=
  ∃ confirmed, Request.ofArguments args = .ok (.reset confirmed []) ∧
    (confirmed = true ∧ "--yes" ∈ args ∨ AnswersYes input)

example : Agreed ["config", "reset", "--yes"] "" :=
  ⟨true, by decide +kernel, .inl ⟨rfl, by decide⟩⟩

example : Agreed ["config", "reset"] "maybe\n Y " :=
  ⟨false, by decide +kernel, .inr (confirm_iff.mp (by decide +kernel))⟩

def keptLogs (host : Host) (tree : FileTree) : ℕ :=
  match Settings.load tree (Settings.filePath host.home) with
  | .ok s => s.logBackups.toNat
  | .error _ => 0

structure Footprint (host : Host) (tree : FileTree) (args : List String) (input : String)
    (o : Outcome) : Prop where
  files : tree.ChangesOnly
    (Settings.filePlace host.home :: Settings.logPlaces host.home (keptLogs host tree)) o.tree
  apart : ∀ top ∈ Settings.logPlaces host.home (keptLogs host tree),
    (Settings.filePlace host.home).isUnder top = false
  /-- Without an agreed reset the settings file is not written either. -/
  kept : ¬ Agreed args input →
    tree.ChangesOnly (Settings.logPlaces host.home (keptLogs host tree)) o.tree
  /-- A log that is not renamed is the only file that is written then. -/
  single : ¬ Agreed args input → (keptLogs host tree = 0 ∨
    tree.entryAt (Settings.logPlace host.home) = some .directory) →
      tree.WritesOnly [Settings.logPlace host.home] o.tree
  resets : Agreed args input → Resets host tree o
  refused : ∀ extra, Request.ofArguments args = .ok (.reset false extra) → ¬ AnswersYes input →
    o.tree = tree

variable {host : Host} {tree : FileTree} {args : List String} {input : String} {r : Request}

theorem refused_run {extra : List String} (h : Request.ofArguments args = .ok (.reset false extra))
    (hno : ¬ AnswersYes input) : (run host tree args input).tree = tree := by
  obtain ⟨o, ho, htree⟩ := runConfirm_of_no hno { tree := tree }
  rw [run_of_request h, runRequest, ho]
  exact htree

theorem kept_run {Q : FileTree → Prop} (h : ¬ Agreed args input) (hstart : Q tree)
    (hrun : ∀ r, Request.needsCollector r = true →
      Leaves Q Outcome.tree (runRequest host input { tree := tree } r)) :
    Q (run host tree args input).tree := by
  cases hargs : Request.ofArguments args with
  | error m =>
    rw [run, hargs]
    exact hstart
  | ok r =>
    rw [run_of_request hargs]
    cases r with
    | help | nothing | version => exact hstart
    | frequencies | snapshot => exact leaves_ofRun (hrun _ rfl)
    | «show» =>
      have hshown : Leaves Q Outcome.tree (runShow host { tree := tree }) := leaves_runShow hstart
      exact leaves_ofRun hshown
    | reset confirmed extra =>
      by_cases hyes : confirmed = true ∨ AnswersYes input
      · obtain ⟨o, ho, htree⟩ := runConfirm_of_yes hyes { tree := tree }
        -- A reset that goes on although it is not agreed to has arguments that it does not take.
        have hextra : extra ≠ [] := by
          rintro rfl
          refine h ⟨confirmed, hargs, hyes.imp_left ?_⟩
          rintro rfl
          exact ⟨rfl, isBacked_ofArguments hargs [] rfl⟩
        rw [runRequest, ho, ok_bind, if_neg (by simpa using hextra)]
        rw [show tree = o.tree from htree.symm] at hstart
        exact hstart
      · obtain ⟨hconfirmed, hno⟩ := not_or.mp hyes
        rw [Bool.not_eq_true] at hconfirmed
        subst hconfirmed
        rw [← run_of_request hargs, refused_run hargs hno]
        exact hstart

theorem keptLogs_of_load {s : Settings} (h : loadSettings host { tree := tree } = .ok s) :
    s.logBackups.toNat = keptLogs host tree := by
  rw [loadSettings] at h
  rw [keptLogs]
  cases hload : Settings.load tree (Settings.filePath host.home) with
  | error e =>
    rw [hload] at h
    cases h
  | ok loaded =>
    rw [hload] at h
    cases h
    rfl

theorem leaves_collector {Q : FileTree → Prop} (h : Q tree)
    (hlog : ∀ s, loadSettings host { tree := tree } = .ok s → KeptByLog Q host s)
    (hr : r.needsCollector = true) :
    Leaves Q Outcome.tree (runRequest host input { tree := tree } r) := by
  cases r with
  | frequencies => exact leaves_runFrequencies (o := { tree := tree }) h hlog
  | snapshot pid format => exact leaves_runSnapshot (o := { tree := tree }) h hlog pid format
  | _ => cases hr

theorem leaves_collector_of_directory
    (h : tree.entryAt (Settings.logPlace host.home) = some .directory)
    (hr : r.needsCollector = true) :
    Leaves (tree.WritesOnly []) Outcome.tree (runRequest host input { tree := tree } r) := by
  cases hload : loadSettings host { tree := tree } with
  | error failed =>
    have hfailed : tree.WritesOnly [] failed.tree :=
      (leaves_loadSettings (.refl tree [])).of_error hload
    cases r with
    | frequencies =>
      rw [runRequest, runFrequencies, hload]
      exact hfailed
    | snapshot pid format =>
      rw [runRequest, runSnapshot, hload]
      exact hfailed
    | _ => cases hr
  | ok s =>
    obtain ⟨e, herror, hkept⟩ := writesOnly_openLog_of_directory h (isSize_int s.logBytes)
    have hstart := startCollector_of_noLog (Prod.ext rfl herror)
    rw [runRequest_of_error hload hstart hr]
    exact hkept

theorem resets_run (h : Agreed args input) : Resets host tree (run host tree args input) := by
  obtain ⟨confirmed, hargs, hyes⟩ := h
  obtain ⟨o, ho, htree⟩ := runConfirm_of_yes (hyes.imp_left And.left) { tree := tree }
  have hrequest : runRequest host input { tree := tree } (.reset confirmed []) =
      runReset host o := by
    rw [runRequest, ho]
    rfl
  have hreset := resets_runReset host o
  rw [htree, ← hrequest] at hreset
  rw [run_of_request hargs]
  exact hreset

theorem changesOnly_run (h : ¬ Agreed args input) :
    tree.ChangesOnly (Settings.logPlaces host.home (keptLogs host tree))
      (run host tree args input).tree :=
  kept_run h (.refl tree _) fun _ => leaves_collector (.refl tree _) fun _ hload =>
    keptByLog_of_count (keptLogs_of_load hload)

theorem writesOnly_run (h : ¬ Agreed args input) (hsingle : keptLogs host tree = 0 ∨
    tree.entryAt (Settings.logPlace host.home) = some .directory) :
    tree.WritesOnly [Settings.logPlace host.home] (run host tree args input).tree := by
  rcases hsingle with hnone | hdirectory
  · exact kept_run h (.refl tree _) fun _ => leaves_collector (.refl tree _) fun _ hload =>
      keptByLog_of_none ((keptLogs_of_load hload).trans hnone)
  · have hkept : tree.WritesOnly [] (run host tree args input).tree :=
      kept_run h (.refl tree []) fun _ => leaves_collector_of_directory hdirectory
    exact hkept.mono (List.nil_subset _)

theorem footprint_run (host : Host) (tree : FileTree) (args : List String) (input : String) :
    Footprint host tree args input (run host tree args input) where
  files := by
    by_cases h : Agreed args input
    · exact (resets_run h).writesOnly.changesOnly (by simp)
    · exact (changesOnly_run h).mono (List.subset_cons_self _ _)
  apart _ := Settings.filePlace_not_isUnder
  kept := changesOnly_run
  single := writesOnly_run
  resets := resets_run
  refused _ h hno := refused_run h hno

end Run

section Sample

def narrowSettings : Settings :=
  { sampleSettings 10 "t" with logBytes := 1, logBackups := 2 }

def olderLog : List UInt8 := Text.Utf8.encode "older\n".toList

def narrowTree : FileTree :=
  { entries := [
      (.slash ["home"], .directory),
      (.slash ["home", ".config"], .directory),
      (.slash ["home", ".config", "cpu-residency"], .directory),
      (.slash ["home", ".config", "cpu-residency", "config.toml"], .file (Text.Utf8.encode
        (narrowSettings.toDraft.sections.flatMap Toml.blockText))),
      (.slash ["home", ".local"], .directory),
      (.slash ["home", ".local", "state"], .directory),
      (.slash ["home", ".local", "state", "cpu-residency"], .directory),
      (.slash ["home", ".local", "state", "cpu-residency", "cpu-residency.log"], .file []),
      (.slash ["home", ".local", "state", "cpu-residency", "cpu-residency.log.1"], .file olderLog),
      (.slash ["p"], .directory),
      (.slash ["p", "table"], .file (Text.Utf8.encode "100 0\n200 0\n150 0\n".toList))] }

theorem load_narrow :
    Settings.load narrowTree (Settings.filePath sampleHost.home) = .ok narrowSettings := by
  have hrange : narrowSettings.InRange :=
    ⟨(by decide : (1 : ℤ) ≤ 2), (by decide : (1 : ℤ) ≤ 10), (by decide : (1 : ℤ) ≤ 1),
      (by decide : (0 : ℤ) ≤ 2)⟩
  have hints : ∀ n ∈ narrowSettings.integers, Number.isWritable n = true :=
    (by decide : ∀ n ∈ [2, 10, 1, 2], Number.isWritable n = true)
  exact Settings.load_of_readBytes hrange hints rfl

theorem hasLogFiles_narrow : HasLogFiles narrowTree sampleHost.home
    { log := [], older := [none, some olderLog] } :=
  ⟨⟨rfl, rfl⟩, ⟨_, rfl, rfl⟩, ⟨_, rfl, rfl⟩, trivial⟩

theorem tree_narrow : (run sampleHost narrowTree ["frequencies"] "").tree =
    narrowTree.log sampleHost narrowSettings.logLimits
      [(sampleCollector 10 "t").readyEvent.toRecord] := by
  have hargs : Request.ofArguments ["frequencies"] = .ok .frequencies := by decide +kernel
  have hload : loadSettings sampleHost { tree := narrowTree } = .ok narrowSettings := by
    rw [loadSettings, load_narrow]
  have hcreate : Collector.create narrowTree.statsSource (sampleSettings 10 "t").options =
      .ok (sampleCollector 10 "t") := create_sample "t" rfl
  have hopen : narrowTree.openLog sampleHost.home (.int narrowSettings.logBytes) =
      (narrowTree, .ok ()) := rfl
  obtain ⟨o, hstart, -, htree⟩ :=
    startCollector_of_create hopen hcreate isClock_sampleHost (isTold_sample 10 "t").slots
  rw [run_of_request hargs, runRequest, runFrequencies_of_started hload hstart, ← htree]
  exact leaves_ofRun (leaves_report (Q := (· = o.tree)) rfl _)

theorem numberedLog_not_kept :
    narrowTree.readBytes (Settings.backupPath sampleHost.home 1) = .ok olderLog ∧
      (run sampleHost narrowTree ["frequencies"] "").tree.readBytes
        (Settings.backupPath sampleHost.home 1) = .ok [] ∧
      ¬ narrowTree.WritesOnly
        [Settings.logPlace sampleHost.home, Settings.filePlace sampleHost.home]
        (run sampleHost narrowTree ["frequencies"] "").tree := by
  have hold : narrowTree.readBytes (Settings.backupPath sampleHost.home 1) = .ok olderLog := rfl
  have hlength : (Text.Utf8.encode sampleLine).length = sampleLine.length := by decide +kernel
  have hne : Text.Utf8.encode sampleLine ≠ [] := by decide +kernel
  have hadded : HasLogFiles (LogState.add { tree := narrowTree } sampleHost.home
      narrowSettings.logLimits sampleRecord sampleLine).tree sampleHost.home _ :=
    (LogState.add_of_hasLogFiles hasLogFiles_narrow rfl sampleRecord hlength).1
  rw [LogFiles.add_of_one_byte rfl (by simp) hne] at hadded
  have hpushed (bytes : List UInt8) :
      LogFiles.pushed [] [none, some bytes] = [some bytes, some []] := rfl
  have holder := hadded.older
  rw [hpushed] at holder
  have hnew : (run sampleHost narrowTree ["frequencies"] "").tree.readBytes
      (Settings.backupPath sampleHost.home 1) = .ok [] := by
    rw [tree_narrow, FileTree.log, LogState.addAll, loggedLines_sample, List.foldl_cons,
      List.foldl_nil, ← FileTree.holds_some]
    exact holder.2.1
  refine ⟨hold, hnew, fun hkept => ?_⟩
  have hapart : Settings.backupPlace sampleHost.home 1 ∉
      [Settings.logPlace sampleHost.home, Settings.filePlace sampleHost.home] := by
    decide
  cases (hkept.readBytes hapart hold).symm.trans hnew

end Sample

end CommandLine

end Residency
