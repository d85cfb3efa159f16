import Mathlib.Data.List.GetD
import Residency.DraftCollector
import Residency.Proofs.Outcomes
import Residency.Proofs.Usage
import Residency.Startup

namespace Residency

namespace DraftMapping

theorem set_map_int (sums : List ℤ) (k : ℕ) (v : ℤ) :
    (sums.map Json.int).set k (.int (sums.getD k 0 + v)) =
      (sums.modify k (· + v)).map Json.int := by
  rw [← List.map_set]
  congr 1
  apply List.ext_getElem
  · rw [List.length_set, List.length_modify]
  · intro i h1 h2
    rw [List.getElem_set, List.getElem_modify]
    split_ifs with h
    · subst h
      rw [List.length_modify] at h2
      rw [List.getD_eq_getElem?_getD, List.getElem?_eq_getElem h2, Option.getD_some]
    · rfl

theorem addFrom_int {m : BucketMapping} {slot : ℕ} {values sums result : List ℤ}
    (h : m.addFrom slot values sums = .ok result) :
    addFrom m slot (values.map .int) (sums.map .int) = .ok (result.map .int) := by
  induction values generalizing slot sums with
  | nil =>
    cases h
    rfl
  | cons v values ih =>
    rw [BucketMapping.addFrom] at h
    obtain ⟨b, hb, h⟩ := bind_eq_ok.mp h
    rw [List.map_cons, addFrom, hb, ok_mapError, ok_bind, List.length_map]
    cases hk : BucketMapping.index? sums.length b with
    | none =>
      rw [hk] at h
      cases h
    | some k =>
      rw [hk] at h
      dsimp only
      rw [List.getD_map]
      change addFrom m (slot + 1) (values.map .int)
        ((sums.map Json.int).set k (.int (sums.getD k 0 + v))) = _
      rw [set_map_int]
      exact ih h

theorem bucketValues_ofLayout {m : BucketMapping} {values times : List ℤ}
    (h : m.bucketValues values = .ok times) :
    (ofLayout m).bucketValues (values.map .int) = .ok (times.map .int) := by
  unfold BucketMapping.bucketValues at h
  split at h
  · cases h
  · split at h
    · cases h
    · change (if m.count = 1 then ((Json.sum (values.map .int)).mapError _).map ([·])
        else addFrom m 0 (values.map .int) (List.replicate m.count.toNat (.int 0))) = _
      split_ifs at h ⊢ with hc
      · cases h
        rw [Json.sum_int]
        rfl
      · rw [← List.map_replicate]
        exact addFrom_int h

end DraftMapping

section Scan

variable {α β ε δ : Type} {fs : FrequencyTable} {source : StatsSource} {fail : ScanError → ε}
  {f : ThreadReading → Except ε α} {g : ThreadReading → Except δ β} {lift : ε → δ} {k : α → β}

theorem length_ticks_of_readThread {threads : Path} {e : String} {events : List Event}
    {r : ThreadReading} (h : readThread fs source threads e = (events, .ok (some r))) :
    r.ticks.length = fs.length := by
  unfold readThread at h
  split_ifs at h
  · cases h
  · split at h
    · cases h
    · dsimp only at h
      generalize ht : fs.ticks source _ = result at h
      rcases result with ⟨more, _ | ticks⟩
      · cases h
      · cases h
        exact FrequencyTable.length_of_ticks ht

theorem scanThreads_map (h : ∀ r, r.ticks.length = fs.length → g r = ((f r).mapError lift).map k)
    (threads : Path) (entries : List String) :
    scanThreads fs source (fun e => lift (fail e)) g threads entries =
      ((scanThreads fs source fail f threads entries).1,
        ((scanThreads fs source fail f threads entries).2.mapError lift).map (List.map k)) := by
  induction entries with
  | nil => rfl
  | cons e entries ih =>
    rw [scanThreads, scanThreads]
    generalize hr : readThread fs source threads e = result
    rcases result with ⟨events, err | (_ | r)⟩
    · rfl
    · dsimp only
      rw [ih]
    · dsimp only
      rw [h r (length_ticks_of_readThread hr), ih]
      cases f r with
      | error err => rfl
      | ok a =>
        rcases scanThreads fs source fail f threads entries with ⟨more, err | rest⟩
        · rfl
        · rfl

theorem scanProcess_map (h : ∀ r, r.ticks.length = fs.length → g r = ((f r).mapError lift).map k)
    (process : Path) :
    scanProcess fs source (fun e => lift (fail e)) g process =
      ((scanProcess fs source fail f process).1,
        ((scanProcess fs source fail f process).2.mapError lift).map
          (Option.map fun r => { name := r.name, threads := r.threads.map k })) := by
  unfold scanProcess
  rcases source.listing process with (⟨⟩ | _) | entries
  · rfl
  · rfl
  · dsimp only
    rw [scanThreads_map h]
    rcases scanThreads fs source fail f (process ++ "task") entries with ⟨events, e | threads⟩
    · rfl
    · cases threads <;> rfl

end Scan

namespace Collector

def toDraft (c : Collector) : DraftCollector :=
  { procPath := c.procPath
    frequencies := c.frequencies
    tick := .int c.tickMillis
    mapping := .ofLayout c.mapping
    minFrequencies := c.minFrequencies
    defaultProcessName := .str c.defaultProcessName
    defaultThreadName := .str c.defaultThreadName }

theorem getD_map_str (name : Option String) (default : String) :
    (name.map Json.str).getD (.str default) = .str (name.getD default) := by
  cases name <;> rfl

def lifted (result : List Event × Except CollectorError (Option ProcessUsage)) :
    List Event × Except DraftCollectorError (Option ProcessRecord) :=
  (result.1, (result.2.mapError .collector).map (Option.map ProcessUsage.toRecord))

section Built

variable {source₀ : StatsSource} {options : CollectorOptions} {c : Collector}
  (h : Built source₀ options c)
include h

theorem Built.threadRecord_toDraft (r : ThreadReading)
    (hr : r.ticks.length = c.frequencies.length) :
    c.toDraft.threadRecord r =
      ((c.threadUsage r).mapError .collector).map ThreadUsage.toRecord := by
  obtain ⟨t, ht⟩ := h.exists_threadUsage r hr
  obtain ⟨hi, hn, hv⟩ := threadUsage_eq_ok.mp ht
  have hmillis : TableReader.millis (.int c.tickMillis) r.ticks =
      .ok ((r.ticks.map (· * c.tickMillis)).map .int) := by
    rw [TableReader.millis_int, List.map_map]
    rfl
  rw [ht, DraftCollector.threadRecord]
  change ((TableReader.millis (.int c.tickMillis) r.ticks).mapError _).bind _ = _
  rw [hmillis]
  change (((DraftMapping.ofLayout c.mapping).bucketValues _).mapError _).map _ = _
  rw [DraftMapping.bucketValues_ofLayout hv]
  change Except.ok _ = Except.ok _
  rw [ThreadUsage.toRecord, hi, hn, ← getD_map_str]
  rfl

theorem Built.usage_toDraft (source : StatsSource) (process : Path) (pid uid : ℤ) :
    c.toDraft.usage source process (.int pid) (.int uid) =
      lifted (c.usage source process pid uid) := by
  have hscan : scanProcess c.toDraft.frequencies source (fun e => .collector (.scan e))
      c.toDraft.threadRecord process = _ := scanProcess_map h.threadRecord_toDraft process
  rw [DraftCollector.usage, hscan, usage]
  generalize scanProcess c.frequencies source .scan c.threadUsage process = scan
  rcases scan with ⟨events, e | (_ | r)⟩
  · rfl
  · rfl
  · change (events ++ [.threadsRead (.int pid) (r.threads.map ThreadUsage.toRecord).length], _) = _
    rw [List.length_map]
    change (_, Except.ok (some _)) = (_, Except.ok (some _))
    congr 3
    rw [ProcessUsage.toRecord, ← getD_map_str]
    rfl

theorem Built.pidUsage_toDraft (source : StatsSource) (owner : ℤ → Owner) (pid : ℤ)
    (uid : Option ℤ) :
    c.toDraft.pidUsage source owner (.int pid) (uid.map .int) =
      lifted (c.pidUsage source owner pid uid) := by
  have hsome : ∀ uid : ℤ, c.toDraft.pidUsage source owner (.int pid) (some (.int uid)) =
      lifted (c.pidUsage source owner pid (some uid)) := by
    intro uid
    rw [pidUsage_some]
    change (if Number.isWritable pid then
      c.toDraft.usage source (c.procPath ++ String.ofList (Number.decimal pid)) (.int pid)
        (.int uid)
      else _) = _
    split_ifs
    · exact h.usage_toDraft source _ pid uid
    · rfl
  cases uid with
  | some uid => exact hsome uid
  | none =>
    unfold DraftCollector.pidUsage pidUsage
    dsimp only [Json.whole?, Option.map]
    by_cases hn : pid < 0
    · rw [if_pos hn, if_pos hn]
      rfl
    · rw [if_neg hn, if_neg hn]
      cases owner pid with
      | known uid => exact hsome uid
      | gone => rfl
      | denied => rfl

theorem Built.currentUsage_toDraft (source : StatsSource) (pid uid : ℤ) :
    c.toDraft.currentUsage source pid uid = lifted (c.currentUsage source pid uid) :=
  h.usage_toDraft source (c.procPath ++ "self") pid uid

end Built

end Collector

def CollectorError.toDraft : CollectorError → DraftCollectorError
  | .mapping e => .mapping (.mapping e)
  | e => .collector e

theorem CollectorError.message_toDraft (e : CollectorError) : e.toDraft.message = e.message := by
  cases e <;> rfl

theorem CollectorError.isReported_toDraft (e : CollectorError) : e.toDraft.isReported = true := by
  cases e <;> rfl

namespace Settings

theorem collector_toDraft (s : Settings) (source : StatsSource) :
    s.toDraft.collector source =
      ((Collector.create source s.options).mapError CollectorError.toDraft).map
        Collector.toDraft := by
  have hproc : s.toDraft.path .procPath = .ok (.ofString s.procPath) := rfl
  have hinitial : s.toDraft.path .initialPath = .ok s.options.initial := rfl
  rw [Draft.collector, Collector.create, hproc, hinitial, ok_mapError, ok_bind, ok_mapError,
    ok_bind]
  cases FrequencyTable.ofSource? source s.options.initial with
  | none => rfl
  | some fs =>
    have hcreate : DraftMapping.create fs (s.toDraft.value .buckets) =
      ((BucketMapping.create fs s.options.buckets).mapError .mapping).map .ofLayout := rfl
    dsimp only
    rw [hcreate, BucketMapping.create]
    by_cases hb : s.options.buckets ≤ 0
    · rw [if_pos hb]
      rfl
    · rw [if_neg hb]
      have hB : 1 ≤ s.options.buckets.toNat := by omega
      have hmin := BucketMapping.minFrequencies_layout fs hB
      change (((BucketMapping.layout fs s.options.buckets.toNat).minFrequencies.mapError
          CollectorError.mapping).mapError _).map _ =
        ((((BucketMapping.layout fs s.options.buckets.toNat).minFrequencies.map _).mapError
          _).mapError _).map _
      rw [hmin]
      rfl

theorem start_toDraft (s : Settings) (source : StatsSource) :
    s.toDraft.start source = .ok ((Collector.start source s.options).1,
      (Collector.start source s.options).2.map Collector.toDraft) := by
  have hinitial : s.toDraft.path .initialPath = .ok s.options.initial := rfl
  rw [Draft.start, collector_toDraft, hinitial, Collector.start]
  cases hc : Collector.create source s.options with
  | error e =>
    change (if e.toDraft.isReported then
      Except.ok (Event.collectorFailed s.options.initial e.toDraft.message, none) else _) = _
    rw [e.isReported_toDraft, e.message_toDraft]
    rfl
  | ok c =>
    have hf : c.mapping.frequencies = c.frequencies := by
      rw [(Collector.built_of_create hc).mapping]
      rfl
    dsimp only
    rw [hf]
    rfl

end Settings

end Residency
