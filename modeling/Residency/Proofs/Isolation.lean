import Residency.Proofs.Usage

namespace Residency

inductive SameListing : Except FileError (List String) → Except FileError (List String) → Prop where
  | listed (entries : List String) : SameListing (.ok entries) (.ok entries)
  | refused (cause cause' : FileCause) (p p' : String) :
      SameListing (.error (.refused cause p)) (.error (.refused cause' p'))
  | embeddedNul : SameListing (.error .embeddedNul) (.error .embeddedNul)

/-- Two sources that hold the same for one process; nothing is said of any other path. -/
structure StatsSource.AgreeOn (process : Path) (source source' : StatsSource) : Prop where
  listing : SameListing (source.listing process) (source'.listing process)
  residences : ∀ {entries : List String}, source.listing process = .ok entries →
    ∀ e ∈ entries, IsDigits e → source.residences (process.threadFile e "time_in_state") =
      source'.residences (process.threadFile e "time_in_state")
  firstLine : ∀ {entries : List String}, source.listing process = .ok entries →
    ∀ e ∈ entries, IsDigits e → source.firstLine (process.threadFile e "comm") =
      source'.firstLine (process.threadFile e "comm")
  tokens : source.tokens (process.child "cmdline") = source'.tokens (process.child "cmdline")

section Scan

variable {α ε : Type} {fs : FrequencyTable} {source source' : StatsSource}
  {fail : ScanError → ε} {f : ThreadReading → Except ε α} {process : Path}

theorem readThread_congr {e : String}
    (hr : IsDigits e → source.residences (process.threadFile e "time_in_state") =
      source'.residences (process.threadFile e "time_in_state"))
    (hn : IsDigits e → source.firstLine (process.threadFile e "comm") =
      source'.firstLine (process.threadFile e "comm")) :
    readThread fs source (process ++ "task") e = readThread fs source' (process ++ "task") e := by
  by_cases hd : IsDigits e
  · simp only [readThread, FrequencyTable.ticks, append_entry_statisticsFile process hd,
      append_entry_threadNameFile process hd, hr hd, hn hd]
  · have hentry : isThreadEntry e = false := by
      rw [← Bool.not_eq_true, isThreadEntry_iff]
      exact hd
    simp only [readThread, hentry, Bool.not_false, if_true]

theorem scanThreads_congr {threads : Path} {entries : List String}
    (h : ∀ e ∈ entries, readThread fs source threads e = readThread fs source' threads e) :
    scanThreads fs source fail f threads entries =
      scanThreads fs source' fail f threads entries := by
  induction entries with
  | nil => rfl
  | cons e entries ih =>
    have hrest := ih fun d hd => h d (by simp [hd])
    rw [scanThreads, scanThreads, h e (by simp), hrest]

theorem scanProcess_congr (h : source.AgreeOn process source') :
    scanProcess fs source fail f process = scanProcess fs source' fail f process := by
  have hname : processName source process = processName source' process := by
    rw [processName, processName, append_processNameFile]
    exact congrArg (fun tokens => tokens.bind (·.head?)) h.tokens
  have hl := h.listing
  rw [scanProcess, scanProcess, hname]
  cases hlist : source.listing process with
  | error e =>
    rw [hlist] at hl
    generalize source'.listing process = result at hl
    cases hl <;> rfl
  | ok entries =>
    have hthreads : ∀ e ∈ entries, readThread fs source (process ++ "task") e =
        readThread fs source' (process ++ "task") e := fun e he =>
      readThread_congr (h.residences hlist e he) (h.firstLine hlist e he)
    rw [hlist] at hl
    generalize source'.listing process = result at hl
    cases hl
    dsimp only
    rw [scanThreads_congr hthreads]

end Scan

namespace Collector

theorem create_congr {source source' : StatsSource} {options : CollectorOptions}
    (h : FrequencyTable.ofSource? source options.initial =
      FrequencyTable.ofSource? source' options.initial) :
    create source options = create source' options := by
  rw [create, create, h]

theorem usage_congr {source source' : StatsSource} {process : Path}
    (h : source.AgreeOn process source') (c : Collector) (pid uid : ℤ) :
    c.usage source process pid uid = c.usage source' process pid uid := by
  rw [usage, usage, scanProcess_congr h]

theorem usage_of_agreeOn {source₀ source₀' source source' : StatsSource}
    {options : CollectorOptions} {c c' : Collector}
    (hc : create source₀ options = .ok c) (hc' : create source₀' options = .ok c')
    (htable : FrequencyTable.ofSource? source₀ options.initial =
      FrequencyTable.ofSource? source₀' options.initial)
    {process : Path} (h : source.AgreeOn process source') (pid uid : ℤ) :
    c.usage source process pid uid = c'.usage source' process pid uid := by
  have hsame : c = c' := Except.ok.inj (hc.symm.trans ((create_congr htable).trans hc'))
  rw [hsame]
  exact usage_congr h c' pid uid

def busyTable : StatsTable :=
  { listings := (({ root := .slash, parts := ["proc", "10"] } : Path), ["12"]) ::
      mixedTable.listings
    residences := [(mixedOptions.initial, [⟨100, 70⟩, ⟨200, 80⟩, ⟨150, 90⟩]),
      (mixedProcess.threadFile "x1" "time_in_state", [⟨100, 4⟩, ⟨200, 5⟩, ⟨150, 6⟩])] ++
        mixedTable.residences
    firstLines := (mixedProcess.threadFile "x1" "comm", "stranger") :: mixedTable.firstLines
    tokens := (mixedProcess.child "environ", ["HOME=/root"]) :: mixedTable.tokens }

theorem usage_of_busy_table :
    create mixedTable.statsSource mixedOptions = create busyTable.statsSource mixedOptions ∧
      mixedTable.statsSource.residences mixedOptions.initial ≠
        busyTable.statsSource.residences mixedOptions.initial ∧
      mixedTable.statsSource.AgreeOn mixedProcess busyTable.statsSource ∧
      mixedCollector.usage mixedTable.statsSource mixedProcess 9 1000 =
        mixedCollector.usage busyTable.statsSource mixedProcess 9 1000 := by
  have hc : create mixedTable.statsSource mixedOptions = .ok mixedCollector := by rfl
  have hc' : create busyTable.statsSource mixedOptions = .ok mixedCollector := by rfl
  have hlist : mixedTable.statsSource.listing mixedProcess =
      .ok ["12", "x1", "7", "8", "", "12"] := by rfl
  have hagree : mixedTable.statsSource.AgreeOn mixedProcess busyTable.statsSource := by
    refine ⟨.listed ["12", "x1", "7", "8", "", "12"], ?_, ?_, by rfl⟩
    · intro entries he
      obtain rfl := Except.ok.inj (hlist.symm.trans he)
      decide +kernel
    · intro entries he
      obtain rfl := Except.ok.inj (hlist.symm.trans he)
      decide +kernel
  exact ⟨hc.trans hc'.symm, by decide +kernel, hagree,
    usage_of_agreeOn hc hc' (by rfl) hagree 9 1000⟩

end Collector

end Residency
