import Residency.EventLog
import Residency.Proofs.Usage

namespace Residency

def isUnreadable (source : StatsSource) (process : Path) (e : String) : Bool :=
  decide (IsDigits e) && (source.residences (process.threadFile e "time_in_state")).isNone

def warnings (fs : FrequencyTable) (source : StatsSource) (process : Path) (e : String) :
    List LogRecord :=
  if IsDigits e then
    match source.residences (process.threadFile e "time_in_state") with
    | none => []
    | some rs =>
        if rs.map (·.frequency) = fs then []
        else [{ level := .warning
                event := .str "time_in_state_table_changed"
                fields := [("path", .str (process.threadFile e "time_in_state").toString),
                  ("expected", .int fs.length), ("actual", .int rs.length)] }]
  else [{ level := .warning
          event := .str "thread_id_parse_failed"
          fields := [("entry", .str e), ("path", .str (process.child "task").toString)] }]

def readRecord (pid : ℤ) (u : ProcessUsage) : LogRecord :=
  { level := .debug
    event := .str "thread_usages_read"
    fields := [("pid", .int pid), ("threads", .int u.threads.length)] }

def isWarning (r : LogRecord) : Bool := r.level == .warning

section Entry

variable {fs : FrequencyTable} {source : StatsSource} {process : Path}

theorem records_of_outcome {e : String} {events : List Event} {r : Option ThreadReading}
    (h : EntryOutcome fs source process e (events, .ok r)) :
    events.map Event.toRecord = warnings fs source process e := by
  cases h with
  | rejected hd =>
    rw [warnings, if_neg hd]
    rfl
  | unreadable hd _ hr =>
    rw [warnings, if_pos hd, hr]
    rfl
  | changed hd _ hr hf =>
    rw [warnings, if_pos hd, hr]
    dsimp only
    rw [if_neg hf]
    rfl
  | included hd _ hr hf =>
    rw [warnings, if_pos hd, hr]
    dsimp only
    rw [if_pos hf]
    rfl

theorem isWarning_of_mem_warnings {e : String} {r : LogRecord}
    (h : r ∈ warnings fs source process e) : isWarning r = true := by
  unfold warnings at h
  split_ifs at h
  · split at h
    · cases h
    · split_ifs at h
      · cases h
      · rw [List.mem_singleton.mp h]
        rfl
  · rw [List.mem_singleton.mp h]
    rfl

theorem countP_isWarning (entries : List String) :
    (entries.flatMap (warnings fs source process)).countP isWarning =
      (entries.flatMap (warnings fs source process)).length := by
  rw [List.countP_eq_length]
  intro r hr
  obtain ⟨e, -, he⟩ := List.mem_flatMap.mp hr
  exact isWarning_of_mem_warnings he

theorem one_outcome (fs : FrequencyTable) (source : StatsSource) (process : Path) (e : String) :
    [e].countP (qualifies fs source process) + (warnings fs source process e).length +
      [e].countP (isUnreadable source process) = 1 := by
  by_cases hd : IsDigits e
  · cases hr : source.residences (process.threadFile e "time_in_state") with
    | none => simp [warnings, qualifies, isUnreadable, hd, hr]
    | some rs =>
      by_cases hf : rs.map (·.frequency) = fs
      · simp [warnings, qualifies, isUnreadable, hd, hr, hf]
      · simp [warnings, qualifies, isUnreadable, hd, hr, hf]
  · simp [warnings, qualifies, isUnreadable, hd]

theorem length_eq_outcomes (fs : FrequencyTable) (source : StatsSource) (process : Path)
    (entries : List String) :
    entries.length = entries.countP (qualifies fs source process) +
      (entries.flatMap (warnings fs source process)).length +
      entries.countP (isUnreadable source process) := by
  induction entries with
  | nil => rfl
  | cons e entries ih =>
    have h := one_outcome fs source process e
    rw [List.length_cons, List.flatMap_cons, List.length_append, ← List.singleton_append,
      List.countP_append, List.countP_append]
    omega

end Entry

theorem records_scanThreads {α ε : Type} {fs : FrequencyTable} {source : StatsSource}
    {fail : ScanError → ε} {f : ThreadReading → Except ε α} {process : Path}
    {entries : List String} {as : List α}
    (h : (scanThreads fs source fail f (process ++ "task") entries).2 = .ok as) :
    (scanThreads fs source fail f (process ++ "task") entries).1.map Event.toRecord =
      entries.flatMap (warnings fs source process) := by
  induction entries generalizing as with
  | nil => rfl
  | cons e entries ih =>
    have ho := readThread_outcome fs source process e
    rw [scanThreads] at h ⊢
    generalize readThread fs source (process ++ "task") e = result at ho h ⊢
    obtain ⟨events, err | (_ | r)⟩ := result
    · cases h
    · dsimp only at h ⊢
      rw [List.map_append, List.flatMap_cons, records_of_outcome ho, ih h]
    · dsimp only at h ⊢
      cases hfr : f r with
      | error err =>
        rw [hfr] at h
        cases h
      | ok a =>
        rw [hfr] at h
        obtain ⟨rest, hrest, -⟩ := map_eq_ok.mp h
        dsimp only
        rw [List.map_append, List.flatMap_cons, records_of_outcome ho, ih hrest]

namespace Collector

variable {source₀ source : StatsSource} {options : CollectorOptions} {c : Collector}
  {process : Path} {pid uid : ℤ}

theorem records_of_refused {e : FileError} (hl : source.listing process = .error e) :
    (c.usage source process pid uid).1 = [] := by
  rw [usage, scanProcess, hl]
  cases e <;> rfl

theorem records_of_listing {entries : List String} {answer : Option ProcessUsage}
    (hl : source.listing process = .ok entries)
    (h : (c.usage source process pid uid).2 = .ok answer) :
    (c.usage source process pid uid).1.map Event.toRecord =
      entries.flatMap (warnings c.frequencies source process) ++
        (answer.map (readRecord pid)).toList := by
  have hrecords (as : List ThreadUsage) : (scanThreads c.frequencies source .scan c.threadUsage
      (process ++ "task") entries).2 = .ok as → _ := records_scanThreads
  rw [usage, scanProcess, hl] at h ⊢
  dsimp only at h ⊢
  generalize scanThreads c.frequencies source .scan c.threadUsage (process ++ "task") entries =
    scan at h hrecords ⊢
  obtain ⟨events, e | threads⟩ := scan
  · cases h
  · rw [← hrecords threads rfl]
    cases threads with
    | nil =>
      cases h
      exact (List.append_nil _).symm
    | cons thread threads =>
      cases h
      exact List.map_append

structure Accounts (c : Collector) (source : StatsSource) (process : Path) (pid : ℤ)
    (entries : List String) (records : List LogRecord) (answer : Option ProcessUsage) : Prop where
  told : records = entries.flatMap (warnings c.frequencies source process) ++
    (answer.map (readRecord pid)).toList
  threads : (answer.elim 0 (·.threads.length)) =
    entries.countP (qualifies c.frequencies source process)
  length : entries.length = answer.elim 0 (·.threads.length) + records.countP isWarning +
    entries.countP (isUnreadable source process)

theorem usage_accounts (hc : create source₀ options = .ok c)
    (hs : source.listing process ≠ .error .embeddedNul)
    (hlen : ∀ entries, source.listing process = .ok entries →
      ∀ e ∈ entries, e.length ≤ Number.maxDigits) (pid uid : ℤ) :
    ∃ (events : List Event) (answer : Option ProcessUsage),
      c.usage source process pid uid = (events, .ok answer) ∧
      ((∃ cause p, source.listing process = .error (.refused cause p)) →
        events = [] ∧ answer = none) ∧
      ∀ entries, source.listing process = .ok entries →
        Accounts c source process pid entries (events.map Event.toRecord) answer := by
  cases hlist : source.listing process with
  | error e =>
    cases e with
    | embeddedNul => exact absurd hlist hs
    | refused cause p =>
      refine ⟨[], none, Prod.ext (records_of_refused hlist) (usage_of_error hlist pid uid), ?_, ?_⟩
      · exact fun _ => ⟨rfl, rfl⟩
      · exact nofun
  | ok entries =>
    obtain ⟨answer, ha, hnone, hsome⟩ :=
      (built_of_create hc).usage_listed hlist (hlen entries hlist) pid uid
    have hrecords := records_of_listing hlist ha
    have hthreads : answer.elim 0 (·.threads.length) =
        entries.countP (qualifies c.frequencies source process) := by
      rw [List.countP_eq_length_filter]
      cases answer with
      | none =>
        rw [List.filter_eq_nil_iff.mpr (by simpa using hnone.mp rfl)]
        rfl
      | some u => exact (hsome u rfl).threads.length_eq.symm
    refine ⟨_, answer, Prod.ext rfl ha, ?_, ?_⟩
    · rintro ⟨_, _, h⟩
      cases h
    rintro _ ⟨⟩
    refine ⟨hrecords, hthreads, ?_⟩
    have hquiet : ((answer.map (readRecord pid)).toList).countP isWarning = 0 := by
      cases answer <;> rfl
    rw [hthreads, hrecords, List.countP_append, countP_isWarning, hquiet]
    exact length_eq_outcomes c.frequencies source process entries

theorem usage_accounts_of_mixed_listing :
    create mixedTable.statsSource mixedOptions = .ok mixedCollector ∧
      ∃ events u,
        mixedCollector.usage mixedTable.statsSource mixedProcess 9 1000 = (events, .ok (some u)) ∧
        (events.map Event.toRecord).map (·.event) =
          [.str "thread_id_parse_failed", .str "time_in_state_table_changed",
            .str "thread_id_parse_failed", .str "thread_usages_read"] ∧
        6 = u.threads.length + (events.map Event.toRecord).countP isWarning + 1 := by
  have hc : create mixedTable.statsSource mixedOptions = .ok mixedCollector := by rfl
  have hlist : mixedTable.statsSource.listing mixedProcess =
      .ok ["12", "x1", "7", "8", "", "12"] := by rfl
  have hlen : ∀ entries, mixedTable.statsSource.listing mixedProcess = .ok entries →
      ∀ e ∈ entries, e.length ≤ Number.maxDigits := by
    intro entries he
    rw [hlist] at he
    cases he
    decide +kernel
  obtain ⟨events, answer, hu, -, haccounts⟩ :=
    usage_accounts hc (mixedTable.keepsProtocol _ (by decide +kernel)) hlen 9 1000
  have h := haccounts _ hlist
  have hthreads : ["12", "x1", "7", "8", "", "12"].countP
      (qualifies mixedCollector.frequencies mixedTable.statsSource mixedProcess) = 2 := by
    decide +kernel
  have hunreadable : ["12", "x1", "7", "8", "", "12"].countP
      (isUnreadable mixedTable.statsSource mixedProcess) = 1 := by
    decide +kernel
  cases answer with
  | none => exact absurd (h.threads.trans hthreads) (by decide)
  | some u =>
    refine ⟨hc, events, u, hu, ?_, ?_⟩
    · rw [h.told]
      rfl
    · rw [← hunreadable]
      exact h.length

end Collector

end Residency
