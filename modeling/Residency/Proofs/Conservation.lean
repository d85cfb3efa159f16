import Mathlib.Algebra.BigOperators.Ring.List
import Residency.Proofs.Outcomes
import Residency.Proofs.TimeInState
import Residency.Proofs.Usage

namespace Residency

namespace TimeInState

def secondNumber (line : List Char) : Option ℤ :=
  (Text.words line)[1]?.bind fun word => (Number.readInteger word).toOption

def secondColumn (text : List Char) : List ℤ :=
  (((Text.lines text).map Text.trim).filter (!isSkipped ·)).filterMap secondNumber

theorem secondNumber_of_readLine {line : List Char} {r : Residence} (h : readLine line = .ok r) :
    secondNumber line = some r.time := by
  obtain ⟨f, time, hwords, -, htime⟩ := readLine_eq_ok_iff.mp h
  rw [secondNumber, hwords]
  exact toOption_eq_some.mpr htime

theorem times_of_readLines {ls : List (List Char)} {rs : List Residence}
    (h : readLines ls = .ok rs) :
    rs.map (·.time) = ((ls.map Text.trim).filter (!isSkipped ·)).filterMap secondNumber := by
  induction ls generalizing rs with
  | nil =>
    cases h
    rfl
  | cons l ls ih =>
    rw [readLines] at h
    rw [List.map_cons]
    split_ifs at h with hskip
    · rw [List.filter_cons_of_neg (by simpa using hskip)]
      exact ih h
    · obtain ⟨r, hr, h⟩ := bind_eq_ok.mp h
      obtain ⟨rest, hrest, rfl⟩ := map_eq_ok.mp h
      rw [List.filter_cons_of_pos (by simpa using hskip),
        List.filterMap_cons_some (secondNumber_of_readLine hr), List.map_cons, ih hrest]

theorem times_of_parse {text : List Char} {rs : List Residence} (h : parse text = .ok rs) :
    rs.map (·.time) = secondColumn text :=
  times_of_readLines h

end TimeInState

theorem FileTree.residences_eq_some {t : FileTree} {p : Path} {rs : List Residence} :
    t.residences p = some rs ↔
      ∃ text, t.readText p = .ok text ∧ TimeInState.parse text = .ok rs := by
  rw [residences, Option.bind_eq_some_iff]
  constructor
  · rintro ⟨text, ht, hp⟩
    exact ⟨text, toOption_eq_some.mp ht, toOption_eq_some.mp hp⟩
  · rintro ⟨text, ht, hp⟩
    exact ⟨text, toOption_eq_some.mpr ht, toOption_eq_some.mpr hp⟩

theorem length_sumTimes {n : ℕ} {rows : List (List ℤ)} (hne : rows ≠ [])
    (h : ∀ row ∈ rows, row.length = n) : (sumTimes rows).length = n := by
  fun_induction sumTimes rows with
  | case1 => exact absurd rfl hne
  | case2 row => exact h row (by simp)
  | case3 row rest hrest ih =>
    rw [List.length_zipWith, h row (by simp), ih hrest fun r hr => h r (by simp [hr]), min_self]

theorem sum_sumTimes {n : ℕ} {rows : List (List ℤ)} (h : ∀ row ∈ rows, row.length = n) :
    (sumTimes rows).sum = (rows.map List.sum).sum := by
  fun_induction sumTimes rows with
  | case1 => rfl
  | case2 row => simp
  | case3 row rest hrest ih =>
    have hr : ∀ r ∈ rest, r.length = n := fun r hr => h r (by simp [hr])
    rw [← List.sum_add_sum_eq_sum_zipWith_of_length_eq, ih hr, List.map_cons, List.sum_cons]
    rw [h row (by simp), length_sumTimes hrest hr]

namespace BucketMapping

theorem length_bucketValues (fs : FrequencyTable) {B : ℕ} (hB : 1 ≤ B) {values times : List ℤ}
    (h : (layout fs B).bucketValues values = .ok times) :
    times.length = littleCount fs B + bigCount fs B := by
  obtain ⟨-, rfl⟩ := (bucketValues_layout_eq_ok fs hB).mp h
  rw [List.length_map, List.length_range]

theorem sum_bucketValues (fs : FrequencyTable) {B : ℕ} (hB : 1 ≤ B) {values times : List ℤ}
    (h : (layout fs B).bucketValues values = .ok times) : times.sum = values.sum := by
  obtain ⟨hv, rfl⟩ := (bucketValues_layout_eq_ok fs hB).mp h
  exact sum_bucketSum (cuts_layout fs hB) hv

end BucketMapping

namespace Collector

inductive Taken (c : Collector) (source : StatsSource) : Path → ProcessUsage → Prop where
  | ofPath {process : Path} {pid uid : ℤ} {u : ProcessUsage}
      (h : (c.usage source process pid uid).2 = .ok (some u)) : Taken c source process u
  | ofPid {owner : ℤ → Owner} {pid : ℤ} {uid : Option ℤ} {u : ProcessUsage}
      (h : (c.pidUsage source owner pid uid).2 = .ok (some u)) :
      Taken c source (c.procPath ++ String.ofList (Number.decimal pid)) u
  | ofSelf {pid uid : ℤ} {u : ProcessUsage}
      (h : (c.currentUsage source pid uid).2 = .ok (some u)) :
      Taken c source (c.procPath ++ "self") u

theorem usage_of_pidUsage {c : Collector} {source : StatsSource} {owner : ℤ → Owner} {pid : ℤ}
    {uid : Option ℤ} {u : ProcessUsage}
    (h : (c.pidUsage source owner pid uid).2 = .ok (some u)) :
    ∃ uid, (c.usage source (c.procPath ++ String.ofList (Number.decimal pid)) pid uid).2 =
      .ok (some u) := by
  have hsome : ∀ uid, (c.pidUsage source owner pid (some uid)).2 = .ok (some u) →
      (c.usage source (c.procPath ++ String.ofList (Number.decimal pid)) pid uid).2 =
        .ok (some u) := by
    intro uid hu
    rw [pidUsage_some] at hu
    split_ifs at hu
    exact hu
  cases uid with
  | some uid => exact ⟨uid, hsome uid h⟩
  | none =>
    unfold pidUsage at h
    dsimp only at h
    split_ifs at h
    cases ho : owner pid with
    | known uid =>
      rw [ho] at h
      exact ⟨uid, hsome uid h⟩
    | gone =>
      rw [ho] at h
      cases h
    | denied =>
      rw [ho] at h
      cases h

theorem Taken.exists_usage {c : Collector} {source : StatsSource} {process : Path}
    {u : ProcessUsage} (h : Taken c source process u) :
    ∃ pid uid, (c.usage source process pid uid).2 = .ok (some u) := by
  cases h with
  | ofPath h => exact ⟨_, _, h⟩
  | ofPid h => exact ⟨_, usage_of_pidUsage h⟩
  | ofSelf h => exact ⟨_, _, h⟩

theorem exists_pairs {α β γ : Type} {R : α × β → γ → Prop} {as : List α} {cs : List γ}
    (h : List.Forall₂ (fun a c => ∃ b, R (a, b) c) as cs) :
    ∃ pairs : List (α × β), pairs.map (·.1) = as ∧ List.Forall₂ R pairs cs := by
  induction h with
  | nil => exact ⟨[], rfl, .nil⟩
  | cons hb _ ih =>
    obtain ⟨b, hb⟩ := hb
    obtain ⟨pairs, rfl, hall⟩ := ih
    exact ⟨_ :: pairs, rfl, .cons hb hall⟩

theorem threads_of_usage {c : Collector} {source : StatsSource} {process : Path} {pid uid : ℤ}
    {u : ProcessUsage} (h : (c.usage source process pid uid).2 = .ok (some u)) :
    ∃ entries, source.listing process = .ok entries ∧ u.threads ≠ [] ∧
      (scanThreads c.frequencies source .scan c.threadUsage (process ++ "task") entries).2 =
        .ok u.threads := by
  cases hlist : source.listing process with
  | error e =>
    cases e with
    | embeddedNul =>
      rw [usage, scanProcess, hlist] at h
      cases h
    | refused cause p =>
      rw [usage_of_error hlist] at h
      cases h
  | ok entries =>
    rw [usage_of_listing hlist] at h
    obtain ⟨threads, ht, hu⟩ := map_eq_ok.mp h
    split_ifs at hu with hempty
    cases hu
    exact ⟨entries, rfl, by simpa using hempty, ht⟩

structure KeepsTime (buckets : ℕ) (tickMillis : ℤ) (t : FileTree) (process : Path)
    (file : String × List Char) (thread : ThreadUsage) : Prop where
  id : thread.id = Number.decimalValue file.1.toList
  text : t.readText (process.threadFile file.1 "time_in_state") = .ok file.2
  length : thread.times.length = buckets
  sum : thread.times.sum = tickMillis * (TimeInState.secondColumn file.2).sum

section Time

variable {t₀ t : FileTree} {options : CollectorOptions} {c : Collector}

theorem Built.length_minFrequencies (h : Built t₀.statsSource options c) :
    c.minFrequencies.length = BucketMapping.littleCount c.frequencies options.buckets.toNat +
      BucketMapping.bigCount c.frequencies options.buckets.toNat := by
  have hB := h.buckets_pos
  have hm := h.minFrequencies
  rw [h.mapping, BucketMapping.minFrequencies_layout _ (by omega), Except.ok.injEq] at hm
  rw [← hm, List.length_map, List.length_range]

theorem Built.keepsTime (h : Built t₀.statsSource options c) {process : Path} {e : String}
    {rs : List Residence} {thread : ThreadUsage}
    (hr : t.statsSource.residences (process.threadFile e "time_in_state") = some rs)
    (ht : c.threadUsage (threadReading t.statsSource process e rs) = .ok thread) :
    ∃ text, KeepsTime c.minFrequencies.length options.tickMillis t process (e, text) thread := by
  have hB := h.buckets_pos
  obtain ⟨text, htext, hparse⟩ := FileTree.residences_eq_some.mp hr
  obtain ⟨hid, -, hv⟩ := threadUsage_eq_ok.mp ht
  rw [h.mapping] at hv
  refine ⟨text, hid, htext, ?_, ?_⟩
  · rw [h.length_minFrequencies]
    exact BucketMapping.length_bucketValues _ (by omega) hv
  · rw [BucketMapping.sum_bucketValues _ (by omega) hv, threadReading, h.tickMillis,
      TimeInState.times_of_parse hparse, List.sum_map_mul_right, List.map_id', mul_comm]

theorem Built.files (h : Built t₀.statsSource options c) {process : Path} {entries : List String}
    {threads : List ThreadUsage}
    (ht : (scanThreads c.frequencies t.statsSource .scan c.threadUsage (process ++ "task")
      entries).2 = .ok threads) :
    ∃ files : List (String × List Char), (files.map (·.1)).Sublist entries ∧
      List.Forall₂ (KeepsTime c.minFrequencies.length options.tickMillis t process)
        files threads := by
  have hread := (scanThreads_forall₂ ht).imp fun e thread ⟨rs, hr, hrt⟩ => h.keepsTime hr hrt
  obtain ⟨files, hfiles, hall⟩ := exists_pairs hread
  exact ⟨files, hfiles ▸ List.filter_sublist, hall⟩

theorem length_of_keepsTime {buckets : ℕ} {tickMillis : ℤ} {process : Path}
    {files : List (String × List Char)} {threads : List ThreadUsage}
    (h : List.Forall₂ (KeepsTime buckets tickMillis t process) files threads) :
    ∀ row ∈ threads.map (·.times), row.length = buckets := by
  induction h with
  | nil => simp
  | cons hfile _ ih =>
    intro row hrow
    rcases List.mem_cons.mp hrow with rfl | hrow
    · exact hfile.length
    · exact ih row hrow

theorem sum_of_keepsTime {buckets : ℕ} {tickMillis : ℤ} {process : Path}
    {files : List (String × List Char)} {threads : List ThreadUsage}
    (h : List.Forall₂ (KeepsTime buckets tickMillis t process) files threads) :
    ((threads.map (·.times)).map List.sum).sum =
      tickMillis * (files.map fun file => (TimeInState.secondColumn file.2).sum).sum := by
  induction h with
  | nil => simp
  | cons hfile _ ih =>
    simp only [List.map_cons, List.sum_cons]
    rw [ih, hfile.sum, mul_add]

theorem time_conserved {process : Path} {u : ProcessUsage}
    (hc : create t₀.statsSource options = .ok c) (hu : Taken c t.statsSource process u) :
    ∃ (entries : List String) (files : List (String × List Char)),
      t.threadEntries process = .ok entries ∧ (files.map (·.1)).Sublist entries ∧
      List.Forall₂ (KeepsTime c.minFrequencies.length options.tickMillis t process)
        files u.threads ∧
      u.total.length = c.minFrequencies.length ∧
      u.total.sum = options.tickMillis *
        (files.map fun file => (TimeInState.secondColumn file.2).sum).sum := by
  have hb := built_of_create hc
  obtain ⟨pid, uid, husage⟩ := hu.exists_usage
  obtain ⟨entries, hlist, hne, ht⟩ := threads_of_usage husage
  obtain ⟨files, hsub, hfiles⟩ := hb.files ht
  have hrows := length_of_keepsTime hfiles
  refine ⟨entries, files, hlist, hsub, hfiles, ?_, ?_⟩
  · exact length_sumTimes (by simpa using hne) hrows
  · rw [ProcessUsage.total, sum_sumTimes hrows, sum_of_keepsTime hfiles]

end Time

def treeProcess : Path := { root := .slash, parts := ["proc", "9"] }

def treeOptions : CollectorOptions :=
  { procPath := { root := .slash, parts := ["proc"] }
    initial := { root := .slash, parts := ["table"] }
    buckets := 2 }

def tableTree : FileTree :=
  { entries := [
      (treeOptions.initial, .file (Text.Utf8.encode "100 0\n200 0\n150 0\n".toList))] }

def processTree : FileTree :=
  { entries := [
      (treeOptions.procPath, .directory),
      (treeProcess, .directory),
      (treeProcess.child "task", .directory),
      ((treeProcess.child "task").child "12", .directory),
      (treeProcess.threadFile "12" "time_in_state",
        .file (Text.Utf8.encode "100 4\n200 5\n150 6".toList)),
      ((treeProcess.child "task").child "7", .directory),
      (treeProcess.threadFile "7" "time_in_state",
        .file (Text.Utf8.encode "cpu0\n100 1\n200 2\ncpu2\n150 3\n".toList))] }

def treeCollector : Collector :=
  { procPath := treeOptions.procPath
    frequencies := [100, 200, 150]
    tickMillis := 10
    mapping := .layout [100, 200, 150] 2
    minFrequencies := [100, 150]
    defaultProcessName := "unknown_process"
    defaultThreadName := "unknown_thread" }

def treeUsage : ProcessUsage :=
  { id := 9
    name := "unknown_process"
    uid := 1000
    threads := [
      { id := 12, name := "unknown_thread", times := [90, 60] },
      { id := 7, name := "unknown_thread", times := [30, 30] }] }

theorem time_conserved_of_two_threads :
    Taken treeCollector processTree.statsSource treeProcess treeUsage ∧
      ∃ files, List.Forall₂ (KeepsTime 2 10 processTree treeProcess) files treeUsage.threads ∧
        treeUsage.total.sum = 210 ∧
        10 * (files.map fun file => (TimeInState.secondColumn file.2).sum).sum = 210 := by
  have hc : create tableTree.statsSource treeOptions = .ok treeCollector := by rfl
  have hu : Taken treeCollector processTree.statsSource treeProcess treeUsage := by
    have hlist : processTree.statsSource.listing treeProcess = .ok ["12", "7"] := rfl
    have h : (treeCollector.usage processTree.statsSource treeProcess 9 1000).2 =
        .ok (some treeUsage) := by
      rw [usage_of_listing hlist]
      decide +kernel
    exact .ofPath h
  obtain ⟨-, files, -, -, hfiles, -, hsum⟩ := time_conserved hc hu
  exact ⟨hu, files, hfiles, by decide, hsum.symm⟩

end Collector

end Residency
