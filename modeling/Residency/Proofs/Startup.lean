import Residency.Proofs.Buckets.Safety
import Residency.Proofs.CheckedParameters
import Residency.Proofs.Conservation
import Residency.Session

namespace Residency

inductive FileTree.NoTable (t : FileTree) (p : Path) : Prop where
  | unreadable {e : FileError} (h : t.readBytes p = .error e)
  | undecodable {bytes : List UInt8} {e : Text.Utf8.DecodeError} (h : t.readBytes p = .ok bytes)
      (he : Text.Utf8.decode bytes = .error e)
  | malformed {text : List Char} {e : TimeInStateError} (h : t.readText p = .ok text)
      (he : TimeInState.parse text = .error e)
  | empty {text : List Char} (h : t.readText p = .ok text) (hp : TimeInState.parse text = .ok [])

namespace FileTree

variable {t : FileTree} {p : Path}

theorem noTable_or_lists (t : FileTree) (p : Path) : t.NoTable p ∨
    ∃ text r rs, t.readText p = .ok text ∧ TimeInState.parse text = .ok (r :: rs) := by
  cases hb : t.readBytes p with
  | error e => exact .inl (.unreadable hb)
  | ok bytes =>
    cases hd : Text.Utf8.decode bytes with
    | error e => exact .inl (.undecodable hb hd)
    | ok s =>
      have ht : t.readText p = .ok (Text.universalNewlines s) := by
        rw [readText, hb]
        dsimp only
        rw [hd]
        rfl
      cases hp : TimeInState.parse (Text.universalNewlines s) with
      | error e => exact .inl (.malformed ht hp)
      | ok rs =>
        cases rs with
        | nil => exact .inl (.empty ht hp)
        | cons r rs => exact .inr ⟨_, r, rs, ht, hp⟩

theorem NoTable.not_lists (h : t.NoTable p) {text : List Char} {r : Residence}
    {rs : List Residence} (ht : t.readText p = .ok text) :
    TimeInState.parse text ≠ .ok (r :: rs) := by
  intro hp
  cases h with
  | unreadable hb =>
    rw [readText, hb] at ht
    cases ht
  | undecodable hb hd =>
    rw [readText, hb] at ht
    dsimp only at ht
    rw [hd] at ht
    cases ht
  | malformed ht' hp' =>
    cases ht.symm.trans ht'
    cases hp.symm.trans hp'
  | empty ht' hp' =>
    cases ht.symm.trans ht'
    cases hp.symm.trans hp'

theorem ofSource?_of_lists {text : List Char} {r : Residence} {rs : List Residence}
    (ht : t.readText p = .ok text) (hp : TimeInState.parse text = .ok (r :: rs)) :
    FrequencyTable.ofSource? t.statsSource p = some ((r :: rs).map (·.frequency)) :=
  Collector.ofSource?_eq_some.mpr
    ⟨r :: rs, List.cons_ne_nil r rs, residences_eq_some.mpr ⟨text, ht, hp⟩, rfl⟩

theorem ofSource?_of_noTable (h : t.NoTable p) :
    FrequencyTable.ofSource? t.statsSource p = none := by
  rw [Option.eq_none_iff_forall_ne_some]
  intro fs hfs
  obtain ⟨rs, hne, hr, -⟩ := Collector.ofSource?_eq_some.mp hfs
  obtain ⟨text, ht, hp⟩ := residences_eq_some.mp hr
  obtain ⟨r, rs, rfl⟩ := List.exists_cons_of_ne_nil hne
  exact h.not_lists ht hp

end FileTree

inductive Starts (t : FileTree) (s : Settings) : Event × Option Collector → Prop where
  | noTable (h : t.NoTable s.options.initial) :
      Starts t s (.collectorFailed s.options.initial (noTableMessage s.options.initial), none)
  | noBucket (h : ¬ t.NoTable s.options.initial) (hb : s.buckets ≤ 0) :
      Starts t s (.collectorFailed s.options.initial
        (MappingError.nonPositiveCount s.buckets).message, none)
  | ready {text : List Char} {rs : List Residence} {c : Collector}
      (h : ¬ t.NoTable s.options.initial) (hb : 1 ≤ s.buckets)
      (ht : t.readText s.options.initial = .ok text) (hp : TimeInState.parse text = .ok rs)
      (hne : rs ≠ []) (hf : c.frequencies = rs.map (·.frequency))
      (hc : Collector.Built t.statsSource s.options c) :
      Starts t s (.collectorReady rs.length (.int c.mapping.count), some c)

theorem starts_start (t : FileTree) (s : Settings) :
    Starts t s (Collector.start t.statsSource s.options) := by
  rcases t.noTable_or_lists s.options.initial with h | ⟨text, r, rs, ht, hp⟩
  · rw [Collector.start, Collector.create, FileTree.ofSource?_of_noTable h]
    exact .noTable h
  · have hlists : ¬ t.NoTable s.options.initial := fun h => h.not_lists ht hp
    have htable := FileTree.ofSource?_of_lists ht hp
    rcases le_or_gt s.buckets 0 with hb | hb
    · have hcreate : Collector.create t.statsSource s.options =
          .error (.mapping (.nonPositiveCount s.buckets)) := by
        rw [Collector.create, htable]
        dsimp only
        rw [BucketMapping.create, if_pos (show s.options.buckets ≤ 0 from hb)]
        rfl
      rw [Collector.start, hcreate]
      exact .noBucket hlists hb
    · obtain ⟨c, hc⟩ := Collector.exists_create htable (show 1 ≤ s.options.buckets from hb)
      have hbuilt := Collector.built_of_create hc
      have hf : c.frequencies = (r :: rs).map (·.frequency) :=
        Option.some.inj (hbuilt.table.symm.trans htable)
      have hlength : c.mapping.frequencies.length = (r :: rs).length := by
        rw [hbuilt.mapping, BucketMapping.frequencies_layout, hf, List.length_map]
      rw [Collector.start, hc]
      dsimp only
      rw [hlength]
      exact .ready hlists hb ht hp (List.cons_ne_nil r rs) hf hbuilt

theorem Collector.Built.count_bounds {source : StatsSource} {options : CollectorOptions}
    {c : Collector} (h : Built source options c) (hne : c.frequencies ≠ []) :
    1 ≤ c.mapping.count ∧ c.mapping.count ≤ min options.buckets c.frequencies.length := by
  rw [h.mapping, BucketMapping.count_layout_eq c.frequencies h.buckets_pos]
  exact BucketMapping.effectiveCount_bounds hne h.buckets_pos

def Draft.StartsAs (d : Draft) (s : Settings) : Prop :=
  ∀ k : Setting, k.home ≠ .logging → d.value k = s.value k

theorem Draft.StartsAs.start_eq {d : Draft} {s : Settings} (h : d.StartsAs s)
    (source : StatsSource) : d.start source = s.toDraft.start source := by
  have hpath (k : Setting) (hk : k.home ≠ .logging) : d.path k = s.toDraft.path k := by
    rw [Draft.path, h k hk]
    rfl
  have hvalue (k : Setting) (hk : k.home ≠ .logging) : d.value k = s.toDraft.value k := h k hk
  simp only [Draft.start, Draft.collector, hpath .procPath (by decide),
    hpath .initialPath (by decide), hvalue .buckets (by decide), hvalue .tickMillis (by decide),
    hvalue .processName (by decide), hvalue .threadName (by decide)]

def failedRecord (initial : Path) (message : String) : LogRecord :=
  { level := .error
    event := .str "collector_init_failed"
    fields := [("path", .str initial.toString), ("error", .str message)] }

def readyRecord (frequencies : ℕ) (buckets : ℤ) : LogRecord :=
  { level := .info
    event := .str "collector_initialized"
    fields := [("frequencies", .int frequencies), ("buckets", .int buckets)] }

structure Collector.IsStarted (t : FileTree) (s : Settings) (event : Event) (c : Collector) :
    Prop where
  table : ∃ text rs, t.readText s.options.initial = .ok text ∧
    TimeInState.parse text = .ok rs ∧ c.frequencies = rs.map (·.frequency)
  mapping : BucketMapping.create c.frequencies s.buckets = .ok c.mapping
  told : event.toRecord = readyRecord c.frequencies.length c.mapping.count
  one_le_count : 1 ≤ c.mapping.count
  count_le : c.mapping.count ≤ min s.buckets c.frequencies.length

theorem Starts.eq_none_iff {t : FileTree} {s : Settings} {event : Event} {made : Option Collector}
    (h : Starts t s (event, made)) :
    made = none ↔ s.buckets ≤ 0 ∨ t.NoTable s.options.initial := by
  cases h with
  | noTable h => exact iff_of_true rfl (.inr h)
  | noBucket h hb => exact iff_of_true rfl (.inl hb)
  | ready h hb => exact iff_of_false nofun (not_or.mpr ⟨by omega, h⟩)

theorem Starts.failed {t : FileTree} {s : Settings} {event : Event}
    (h : Starts t s (event, none)) :
    ∃ message, event.toRecord = failedRecord s.options.initial message := by
  cases h with
  | noTable h => exact ⟨_, rfl⟩
  | noBucket h hb => exact ⟨_, rfl⟩

theorem Starts.isStarted {t : FileTree} {s : Settings} {event : Event} {c : Collector}
    (h : Starts t s (event, some c)) : c.IsStarted t s event := by
  cases h with
  | @ready text rs _ _ hb ht hp hne hf hc =>
    have hfs : c.frequencies ≠ [] := by
      rw [hf]
      exact mt List.map_eq_nil_iff.mp hne
    obtain ⟨hone, hle⟩ := hc.count_bounds hfs
    refine ⟨⟨text, rs, ht, hp, hf⟩, ?_, ?_, hone, hle⟩
    · rw [hc.mapping]
      exact BucketMapping.create_of_pos c.frequencies hb
    · rw [hf, List.length_map]
      rfl

namespace Session

theorem startCollector_of_startsAs {σ : Session} {s : Settings} (h : σ.draft.StartsAs s)
    {event : Event} {made : Option Collector}
    (hstart : Collector.start σ.tree.statsSource s.options = (event, made)) :
    σ.step (.startCollector false) =
      ({ σ with collector := made.map fun c => (.files, c.toDraft) },
        { reply := .ok (.collector (made.map Collector.toDraft)), events := [event] }) := by
  have hdraft : σ.draft.start σ.tree.statsSource = .ok (event, made.map Collector.toDraft) := by
    rw [h.start_eq, s.start_toDraft, hstart]
  rw [Session.step, Session.start, if_neg (by decide), ok_bind]
  dsimp only
  rw [hdraft, ok_mapError]
  dsimp only
  rw [Option.map_map]
  rfl

def tableSettings : Settings :=
  { procPath := "/proc", initialPath := "/table", buckets := 7, tickMillis := -1 }

def tableSession : Session :=
  { host :=
      { pid := 1
        uid := 1000
        clock := "12:34:56"
        home := { root := .slash, parts := ["home"] }
        owner := fun _ => .gone }
    tree := Collector.tableTree
    draft := (tableSettings.toDraft.set .logBytes .null).set .logBackups (.arr [.null]) }

end Session

end Residency
