import Residency.Collector
import Residency.Proofs.Buckets.Minima
import Residency.Proofs.Outcomes
import Residency.Proofs.ThreadReadings

namespace Residency

namespace Path

theorem hasNul_child (p : Path) (name : String) :
    (p.child name).hasNul = (p.hasNul || name.toList.contains (Char.ofNat 0)) := by
  simp [hasNul, child]

end Path

def StatsSource.KeepsProtocol (source : StatsSource) : Prop :=
  ∀ process : Path, process.hasNul = false → source.listing process ≠ .error .embeddedNul

namespace FileTree

theorem locate_ne_embeddedNul (t : FileTree) {p : Path} (hp : p.hasNul = false) :
    t.locate p ≠ .error .embeddedNul := by
  intro h
  unfold locate at h
  rw [hp, if_neg Bool.false_ne_true] at h
  by_cases hl : p.toString.utf8ByteSize > maxPathBytes
  · rw [if_pos hl] at h
    cases h
  · rw [if_neg hl] at h
    dsimp only at h
    generalize t.follow _ _ = place at h
    cases place <;> cases h

theorem list_ne_embeddedNul (t : FileTree) {p : Path} (hp : p.hasNul = false) :
    t.list p ≠ .error .embeddedNul := by
  intro h
  unfold list at h
  cases hl : t.locate p with
  | error e =>
    rw [hl] at h
    cases h
    exact t.locate_ne_embeddedNul hp hl
  | ok place =>
    rw [hl] at h
    dsimp only [Except.bind] at h
    split at h <;> cases h

theorem keepsProtocol (t : FileTree) : t.statsSource.KeepsProtocol := by
  intro process hp
  apply t.list_ne_embeddedNul
  rw [append_task, Path.hasNul_child, hp]
  rfl

end FileTree

theorem StatsTable.keepsProtocol (t : StatsTable) : t.statsSource.KeepsProtocol := by
  intro process _ h
  unfold statsSource at h
  dsimp only at h
  split at h <;> cases h

namespace Collector

structure Built (source : StatsSource) (options : CollectorOptions) (c : Collector) : Prop where
  buckets_pos : 1 ≤ options.buckets
  table : FrequencyTable.ofSource? source options.initial = some c.frequencies
  mapping : c.mapping = BucketMapping.layout c.frequencies options.buckets.toNat
  minFrequencies : c.mapping.minFrequencies = .ok c.minFrequencies
  procPath : c.procPath = options.procPath
  tickMillis : c.tickMillis = options.tickMillis
  defaultProcessName : c.defaultProcessName = options.defaultProcessName
  defaultThreadName : c.defaultThreadName = options.defaultThreadName

theorem built_of_create {source : StatsSource} {options : CollectorOptions} {c : Collector}
    (h : create source options = .ok c) : Built source options c := by
  unfold create at h
  cases ht : FrequencyTable.ofSource? source options.initial with
  | none =>
    rw [ht] at h
    cases h
  | some fs =>
    rw [ht] at h
    obtain ⟨m, hm, h⟩ := bind_eq_ok.mp (mapError_eq_ok.mp h)
    obtain ⟨lowest, hlowest, rfl⟩ := map_eq_ok.mp h
    unfold BucketMapping.create at hm
    split_ifs at hm with hb
    cases hm
    exact ⟨by omega, ht, rfl, hlowest, rfl, rfl, rfl, rfl⟩

theorem exists_create {source : StatsSource} {options : CollectorOptions} {fs : FrequencyTable}
    (ht : FrequencyTable.ofSource? source options.initial = some fs)
    (hb : 1 ≤ options.buckets) : ∃ c, create source options = .ok c := by
  have hB : 1 ≤ options.buckets.toNat := by omega
  rw [create, ht]
  dsimp only
  rw [BucketMapping.create_of_pos fs hb, ok_bind, BucketMapping.minFrequencies_layout fs hB]
  exact ⟨_, rfl⟩

theorem ofSource?_eq_some {source : StatsSource} {initial : Path} {fs : FrequencyTable} :
    FrequencyTable.ofSource? source initial = some fs ↔
      ∃ rs, rs ≠ [] ∧ source.residences initial = some rs ∧ fs = rs.map (·.frequency) := by
  unfold FrequencyTable.ofSource?
  split
  · next h => simp [h]
  · next h => simp [h]
  · next rs hne h =>
    have hrs : rs ≠ [] := hne
    simp [h, hrs, eq_comm]

theorem threadUsage_eq_ok {c : Collector} {r : ThreadReading} {t : ThreadUsage} :
    c.threadUsage r = .ok t ↔ t.id = r.id ∧ t.name = r.name.getD c.defaultThreadName ∧
      c.mapping.bucketValues (r.ticks.map (· * c.tickMillis)) = .ok t.times := by
  unfold threadUsage bucketTimes
  rw [map_eq_ok]
  constructor
  · rintro ⟨times, ht, rfl⟩
    exact ⟨rfl, rfl, mapError_eq_ok.mp ht⟩
  · rintro ⟨hi, hn, ht⟩
    refine ⟨t.times, mapError_eq_ok.mpr ht, ?_⟩
    rw [← hi, ← hn]

theorem pidUsage_some (c : Collector) (source : StatsSource) (owner : ℤ → Owner) (pid uid : ℤ) :
    c.pidUsage source owner pid (some uid) =
      if Number.isWritable pid then
        c.usage source (c.procPath ++ String.ofList (Number.decimal pid)) pid uid
      else ([], .error .pidTooLong) := by
  unfold pidUsage Number.decimal?
  split_ifs <;> rfl

section Usage

variable {source₀ source : StatsSource} {options : CollectorOptions} {c : Collector}

theorem Built.exists_bucketValues (h : Built source₀ options c) {values : List ℤ}
    (hv : values.length = c.frequencies.length) :
    ∃ times, c.mapping.bucketValues values = .ok times := by
  have hB := h.buckets_pos
  rw [h.mapping]
  exact ⟨_, BucketMapping.sumsBy_slotBucket c.frequencies (by omega) values hv⟩

theorem Built.exists_threadUsage (h : Built source₀ options c) (r : ThreadReading)
    (hr : r.ticks.length = c.frequencies.length) : ∃ t, c.threadUsage r = .ok t := by
  have hlen : (r.ticks.map (· * c.tickMillis)).length = c.frequencies.length := by
    rw [List.length_map, hr]
  obtain ⟨times, ht⟩ := h.exists_bucketValues hlen
  exact ⟨⟨r.id, r.name.getD c.defaultThreadName, times⟩, threadUsage_eq_ok.mpr ⟨rfl, rfl, ht⟩⟩

structure IsUsageOf (m : BucketMapping) (options : CollectorOptions) (source : StatsSource)
    (process : Path) (e : String) (t : ThreadUsage) : Prop where
  id : t.id = Number.decimalValue e.toList
  name : t.name = (source.firstLine (process.threadFile e "comm")).getD options.defaultThreadName
  times : ∃ rs, source.residences (process.threadFile e "time_in_state") = some rs ∧
    m.bucketValues (rs.map (·.time * options.tickMillis)) = .ok t.times

theorem Built.isUsageOf (h : Built source₀ options c) {process : Path} {e : String}
    {rs : List Residence} {t : ThreadUsage}
    (hr : source.residences (process.threadFile e "time_in_state") = some rs)
    (ht : c.threadUsage (threadReading source process e rs) = .ok t) :
    IsUsageOf c.mapping options source process e t := by
  obtain ⟨hi, hn, hv⟩ := threadUsage_eq_ok.mp ht
  rw [h.defaultThreadName] at hn
  rw [h.tickMillis, threadReading, List.map_map] at hv
  exact ⟨hi, hn, rs, hr, hv⟩

theorem usage_of_error {process : Path} {cause : FileCause} {p : String}
    (hl : source.listing process = .error (.refused cause p)) (pid uid : ℤ) :
    (c.usage source process pid uid).2 = .ok none := by
  have hs : (scanProcess c.frequencies source .scan c.threadUsage process).2 = .ok none :=
    scanProcess_of_refused hl
  rw [usage]
  generalize scanProcess c.frequencies source .scan c.threadUsage process = scan at hs ⊢
  obtain ⟨events, result⟩ := scan
  cases hs
  rfl

theorem usage_of_listing {process : Path} {entries : List String}
    (hl : source.listing process = .ok entries) (pid uid : ℤ) :
    (c.usage source process pid uid).2 =
      (scanThreads c.frequencies source .scan c.threadUsage (process ++ "task") entries).2.map
        fun threads => if threads.isEmpty then none else some
          { id := pid
            name := (processName source process).getD c.defaultProcessName
            uid := uid
            threads := threads } := by
  have hs : (scanProcess c.frequencies source .scan c.threadUsage process).2 = _ :=
    scanProcess_of_listing hl
  rw [usage]
  generalize scanProcess c.frequencies source .scan c.threadUsage process = scan at hs ⊢
  obtain ⟨events, result⟩ := scan
  dsimp only at hs
  subst hs
  cases (scanThreads c.frequencies source .scan c.threadUsage (process ++ "task") entries).2 with
  | error e => rfl
  | ok threads => cases threads <;> rfl

structure IsSnapshotOf (m : BucketMapping) (options : CollectorOptions) (fs : FrequencyTable)
    (source : StatsSource) (process : Path) (pid uid : ℤ) (entries : List String)
    (u : ProcessUsage) : Prop where
  id : u.id = pid
  uid : u.uid = uid
  name : u.name = ((source.tokens (process.child "cmdline")).bind (·.head?)).getD
    options.defaultProcessName
  threads : List.Forall₂ (IsUsageOf m options source process)
    (entries.filter (qualifies fs source process)) u.threads

theorem Built.usage_listed (h : Built source₀ options c) {process : Path} {entries : List String}
    (hlist : source.listing process = .ok entries)
    (hlen : ∀ e ∈ entries, e.length ≤ Number.maxDigits) (pid uid : ℤ) :
    ∃ answer, (c.usage source process pid uid).2 = .ok answer ∧
      (answer = none ↔ ∀ e ∈ entries, qualifies c.frequencies source process e = false) ∧
      ∀ u, answer = some u →
        IsSnapshotOf c.mapping options c.frequencies source process pid uid entries u := by
  have htotal : ∃ threads, (scanThreads c.frequencies source .scan c.threadUsage
      (process ++ "task") entries).2 = .ok threads :=
    scanThreads_total hlen h.exists_threadUsage
  obtain ⟨threads, ht⟩ := htotal
  have hthreads := (scanThreads_forall₂ ht).imp fun e t ⟨rs, hr, hrt⟩ => h.isUsageOf hr hrt
  have hnone : threads = [] ↔ ∀ e ∈ entries, qualifies c.frequencies source process e = false := by
    rw [← List.length_eq_zero_iff, ← hthreads.length_eq, List.length_eq_zero_iff,
      List.filter_eq_nil_iff]
    simp
  rw [usage_of_listing hlist, ht]
  refine ⟨_, rfl, ?_, ?_⟩
  · rw [← hnone]
    cases threads <;> simp
  · intro u hu
    dsimp only at hu
    split_ifs at hu
    cases hu
    refine ⟨rfl, rfl, ?_, hthreads⟩
    dsimp only
    rw [processName, append_processNameFile, h.defaultProcessName]
    rfl

theorem usage_of_create {process : Path} (hc : create source₀ options = .ok c)
    (hs : source.KeepsProtocol) (hp : process.hasNul = false)
    (hlen : ∀ entries, source.listing process = .ok entries →
      ∀ e ∈ entries, e.length ≤ Number.maxDigits) (pid uid : ℤ) :
    ∃ (rs₀ : List Residence) (fs : FrequencyTable) (answer : Option ProcessUsage),
      source₀.residences options.initial = some rs₀ ∧ fs = rs₀.map (·.frequency) ∧
      BucketMapping.create fs options.buckets = .ok c.mapping ∧
      (c.usage source process pid uid).2 = .ok answer ∧
      (answer = none ↔
        (∃ cause p, source.listing process = .error (.refused cause p)) ∨
        ∃ entries, source.listing process = .ok entries ∧
          ∀ e ∈ entries, qualifies fs source process e = false) ∧
      ∀ u, answer = some u → ∃ entries, source.listing process = .ok entries ∧
        IsSnapshotOf c.mapping options fs source process pid uid entries u := by
  have hb := built_of_create hc
  obtain ⟨rs₀, -, hr₀, hf⟩ := ofSource?_eq_some.mp hb.table
  have hpos := hb.buckets_pos
  have hm : BucketMapping.create c.frequencies options.buckets = .ok c.mapping := by
    rw [BucketMapping.create, if_neg (by omega), hb.mapping]
  cases hlist : source.listing process with
  | error e =>
    cases e with
    | embeddedNul => exact absurd hlist (hs process hp)
    | refused cause p =>
      refine ⟨rs₀, c.frequencies, none, hr₀, hf, hm, usage_of_error hlist pid uid, ?_, ?_⟩
      · simp
      · simp
  | ok entries =>
    obtain ⟨answer, ha, hnone, hsome⟩ := hb.usage_listed hlist (hlen entries hlist) pid uid
    refine ⟨rs₀, c.frequencies, answer, hr₀, hf, hm, ha, ?_, ?_⟩
    · simp [hnone]
    · intro u hu
      exact ⟨entries, rfl, hsome u hu⟩

end Usage

def mixedProcess : Path := { root := .slash, parts := ["proc", "9"] }

def mixedOptions : CollectorOptions :=
  { procPath := { root := .slash, parts := ["proc"] }
    initial := { root := .slash, parts := ["table"] }
    buckets := 2 }

def mixedTable : StatsTable :=
  { listings := [(mixedProcess, ["12", "x1", "7", "8", "", "12"])]
    residences := [(mixedOptions.initial, [⟨100, 0⟩, ⟨200, 0⟩, ⟨150, 0⟩]),
      (mixedProcess.threadFile "12" "time_in_state", [⟨100, 1⟩, ⟨200, 2⟩, ⟨150, 3⟩]),
      (mixedProcess.threadFile "8" "time_in_state", [⟨100, 1⟩])]
    firstLines := [(mixedProcess.threadFile "12" "comm", "worker")]
    tokens := [(mixedProcess.child "cmdline", ["shell", "-c"])] }

def mixedCollector : Collector :=
  { procPath := mixedOptions.procPath
    frequencies := [100, 200, 150]
    tickMillis := 10
    mapping := .layout [100, 200, 150] 2
    minFrequencies := [100, 150]
    defaultProcessName := "unknown_process"
    defaultThreadName := "unknown_thread" }

theorem usage_of_mixed_listing :
    create mixedTable.statsSource mixedOptions = .ok mixedCollector ∧
      ∃ u, (mixedCollector.usage mixedTable.statsSource mixedProcess 9 1000).2 = .ok (some u) ∧
        u.name = "shell" ∧ u.threads.length = 2 := by
  have hc : create mixedTable.statsSource mixedOptions = .ok mixedCollector := by rfl
  have hlist : mixedTable.statsSource.listing mixedProcess =
      .ok ["12", "x1", "7", "8", "", "12"] := by rfl
  have hlen : ∀ entries, mixedTable.statsSource.listing mixedProcess = .ok entries →
      ∀ e ∈ entries, e.length ≤ Number.maxDigits := by
    intro entries he
    rw [hlist] at he
    cases he
    decide +kernel
  obtain ⟨rs₀, fs, answer, hr₀, rfl, -, ha, hnone, hsome⟩ :=
    usage_of_create hc mixedTable.keepsProtocol (by decide +kernel) hlen 9 1000
  obtain rfl : [⟨100, 0⟩, ⟨200, 0⟩, ⟨150, 0⟩] = rs₀ := Option.some.inj hr₀
  have hfilter : ["12", "x1", "7", "8", "", "12"].filter
      (qualifies [100, 200, 150] mixedTable.statsSource mixedProcess) = ["12", "12"] := by
    decide +kernel
  cases answer with
  | none =>
    rcases hnone.mp rfl with ⟨cause, p, he⟩ | ⟨entries, he, hall⟩
    · rw [hlist] at he
      cases he
    · rw [hlist] at he
      cases he
      exact absurd (hall "12" (by decide)) (by decide +kernel)
  | some u =>
    obtain ⟨entries, he, hu⟩ := hsome u rfl
    rw [hlist] at he
    cases he
    refine ⟨hc, u, ha, hu.name, ?_⟩
    exact hu.threads.length_eq ▸ congrArg List.length hfilter

end Collector

end Residency
