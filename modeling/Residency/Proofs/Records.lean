import Residency.Proofs.Json.Depth
import Residency.Snapshot

/-!
Records are exchanged without loss. Whatever shape the fields of a value have, the record made from
it is written as a value that gives the same record again. The first reading may reshape a field;
the second finds nothing left to reshape. Its text gives the record back as well, or else nests
deeper than texts are read, which is reported.
-/
namespace Residency

structure Json.Plain (depth : ℕ) (v : Json) : Prop where
  within : v.Within depth
  floatFree : v.FloatFree

namespace Json

variable {depth : ℕ}

theorem plain_str (s : String) : Plain depth (.str s) :=
  ⟨.str s, .str s⟩

theorem plain_int {n : ℤ} (h : Number.isWritable n = true) : Plain depth (.int n) :=
  ⟨.int h, .int n⟩

theorem plain_arr {items : List Json} (h : ∀ v ∈ items, Plain depth v) :
    Plain (depth + 1) (.arr items) :=
  ⟨.arr fun v hv => (h v hv).within, .arr fun v hv => (h v hv).floatFree⟩

theorem plain_obj {members : List (String × Json)} (names : (members.map (·.1)).Nodup)
    (h : ∀ m ∈ members, Plain depth m.2) : Plain (depth + 1) (.obj members) :=
  ⟨.obj names fun m hm => (h m hm).within, .obj fun m hm => (h m hm).floatFree⟩

theorem mem_of_member? {k : String} {v : Json} {ms : List (String × Json)}
    (h : member? k ms = some v) : (k, v) ∈ ms :=
  mem_of_lookup h

theorem Plain.field {v w : Json} {key : String} (hv : Plain (depth + 1) v)
    (h : v.field key = .ok w) : Plain depth w := by
  obtain ⟨hwithin, hfree⟩ := hv
  cases v with
  | obj members =>
    rw [Json.field] at h
    split at h
    · next found =>
      cases h
      have hmem := mem_of_member? found
      exact ⟨(within_obj.mp hwithin).2 _ hmem, floatFree_obj.mp hfree _ hmem⟩
    · cases h
  | _ => cases h

theorem Plain.elements {v : Json} {vs : List Json} (hv : Plain (depth + 1) v)
    (h : v.elements = .ok vs) : ∀ w ∈ vs, Plain depth w := by
  obtain ⟨hwithin, hfree⟩ := hv
  intro w hw
  cases v with
  | arr items =>
    cases h
    exact ⟨within_arr.mp hwithin w hw, floatFree_arr.mp hfree w hw⟩
  | str s =>
    cases h
    obtain ⟨c, -, rfl⟩ := List.mem_map.mp hw
    exact plain_str _
  | obj members =>
    cases h
    obtain ⟨m, -, rfl⟩ := List.mem_map.mp hw
    exact plain_str _
  | _ => cases h

theorem areWritable_iff {vs : List Json} :
    areWritable vs = true ↔ ∀ v ∈ vs, isWritable v = true := by
  induction vs with
  | nil => simp [areWritable]
  | cons v vs ih => simp [areWritable, ih]

theorem membersWritable_iff {ms : List (String × Json)} :
    membersWritable ms = true ↔ ∀ m ∈ ms, isWritable m.2 = true := by
  induction ms with
  | nil => simp [membersWritable]
  | cons m ms ih => simp [membersWritable, ih]

theorem isWritable_of_within {v : Json} (h : Within depth v) : isWritable v = true := by
  induction h with
  | null => rfl
  | bool b => rfl
  | int h => exact h
  | float x => rfl
  | str s => rfl
  | arr h ih => exact areWritable_iff.mpr ih
  | obj names h ih => exact membersWritable_iff.mpr ih

end Json

section ReadAll

variable {α β : Type} {f : α → Except RecordError β}

theorem readAll_map {g : β → α} {bs : List β} (h : ∀ b ∈ bs, f (g b) = .ok b) :
    readAll f (bs.map g) = .ok bs := by
  induction bs with
  | nil => rfl
  | cons b bs ih =>
    rw [List.map_cons, readAll, h b (by simp), ok_bind, ih fun c hc => h c (by simp [hc])]
    rfl

theorem exists_of_mem_readAll {l : List α} {bs : List β} (h : readAll f l = .ok bs) :
    ∀ b ∈ bs, ∃ a ∈ l, f a = .ok b := by
  induction l generalizing bs with
  | nil =>
    cases h
    simp
  | cons a l ih =>
    rw [readAll] at h
    obtain ⟨b, hb, h⟩ := bind_eq_ok.mp h
    obtain ⟨cs, hcs, rfl⟩ := map_eq_ok.mp h
    intro c hc
    rcases List.mem_cons.mp hc with rfl | hc
    · exact ⟨a, by simp, hb⟩
    · obtain ⟨a', ha', hfa'⟩ := ih hcs c hc
      exact ⟨a', by simp [ha'], hfa'⟩

end ReadAll

namespace ThreadRecord

variable {depth : ℕ}

theorem ofJson_toJson (t : ThreadRecord) : ofJson t.toJson = .ok t := rfl

theorem plain_toJson {t : ThreadRecord} (hid : t.id.Plain (depth + 1))
    (hname : t.name.Plain (depth + 1)) (htimes : ∀ v ∈ t.times, v.Plain depth) :
    t.toJson.Plain (depth + 2) :=
  Json.plain_obj (by simp) (by simp [hid, hname, Json.plain_arr htimes])

theorem plain_of_ofJson {v : Json} {t : ThreadRecord} (hv : v.Plain (depth + 2))
    (h : ofJson v = .ok t) : t.toJson.Plain (depth + 2) := by
  rw [ofJson] at h
  obtain ⟨id, hid, h⟩ := bind_eq_ok.mp h
  obtain ⟨name, hname, h⟩ := bind_eq_ok.mp h
  obtain ⟨times, htimes, h⟩ := bind_eq_ok.mp h
  obtain ⟨items, hitems, rfl⟩ := map_eq_ok.mp h
  exact plain_toJson (hv.field hid) (hv.field hname) ((hv.field htimes).elements hitems)

end ThreadRecord

namespace ProcessRecord

variable {depth : ℕ}

theorem ofJson_toJson (p : ProcessRecord) : ofJson p.toJson = .ok p := by
  have hthreads : readAll ThreadRecord.ofJson (p.threads.map ThreadRecord.toJson) = .ok p.threads :=
    readAll_map fun t _ => t.ofJson_toJson
  change (readAll ThreadRecord.ofJson (p.threads.map ThreadRecord.toJson)).map _ = _
  rw [hthreads]
  rfl

theorem plain_toJson {p : ProcessRecord} (hid : p.id.Plain (depth + 3))
    (hname : p.name.Plain (depth + 3)) (huid : p.uid.Plain (depth + 3))
    (hthreads : ∀ t ∈ p.threads, t.toJson.Plain (depth + 2)) : p.toJson.Plain (depth + 4) := by
  have hlist : Json.Plain (depth + 3) (.arr (p.threads.map ThreadRecord.toJson)) := by
    refine Json.plain_arr fun v hv => ?_
    obtain ⟨t, ht, rfl⟩ := List.mem_map.mp hv
    exact hthreads t ht
  exact Json.plain_obj (by simp [members]) (by simp [members, hid, hname, huid, hlist])

theorem plain_of_ofJson {v : Json} {p : ProcessRecord} (hv : v.Plain (depth + 4))
    (h : ofJson v = .ok p) : p.toJson.Plain (depth + 4) := by
  rw [ofJson] at h
  obtain ⟨id, hid, h⟩ := bind_eq_ok.mp h
  obtain ⟨name, hname, h⟩ := bind_eq_ok.mp h
  obtain ⟨uid, huid, h⟩ := bind_eq_ok.mp h
  obtain ⟨threads, hthreads, h⟩ := bind_eq_ok.mp h
  obtain ⟨items, hitems, h⟩ := bind_eq_ok.mp h
  obtain ⟨records, hrecords, rfl⟩ := map_eq_ok.mp h
  have hitem := (hv.field hthreads).elements hitems
  refine plain_toJson (hv.field hid) (hv.field hname) (hv.field huid) fun t ht => ?_
  obtain ⟨item, hmem, hread⟩ := exists_of_mem_readAll hrecords t ht
  exact ThreadRecord.plain_of_ofJson (hitem item hmem) hread

theorem ofText_toText {p : ProcessRecord} (h : p.toJson.Plain Json.maxDepth) :
    ∃ written, p.toText = .ok written ∧ ofText written = .ok p := by
  refine ⟨p.toJson.render, ?_, ?_⟩
  · rw [toText, if_pos (Json.isWritable_of_within h.within)]
  · rw [ofText, Json.read_render h.within h.floatFree, ok_mapError, ok_bind, ofJson_toJson]

theorem ofText_toText_of_deep {p : ProcessRecord} (h : p.toJson.Plain depth)
    (hdeep : ¬ p.toJson.Within Json.maxDepth) :
    ∃ n, p.toText.bind ofText = .error (.text (.tooDeep n)) := by
  obtain ⟨n, hn⟩ := Json.read_render_of_not_within h.within h.floatFree hdeep
  refine ⟨n, ?_⟩
  rw [toText, if_pos (Json.isWritable_of_within h.within), ok_bind, ofText, hn]
  rfl

end ProcessRecord

namespace ProcessUsage

def integers (p : ProcessUsage) : List ℤ :=
  p.id :: p.uid :: p.threads.flatMap fun t => t.id :: t.times

theorem mem_integers {p : ProcessUsage} {t : ThreadUsage} {n : ℤ} (ht : t ∈ p.threads)
    (hn : n ∈ t.id :: t.times) : n ∈ p.integers := by
  rw [integers, List.mem_cons, List.mem_cons, List.mem_flatMap]
  exact .inr (.inr ⟨t, ht, hn⟩)

theorem plain_toJson {depth : ℕ} {p : ProcessUsage}
    (h : ∀ n ∈ p.integers, Number.isWritable n = true) : p.toJson.Plain (depth + 4) := by
  refine ProcessRecord.plain_toJson (Json.plain_int (h p.id (by simp [integers])))
    (Json.plain_str p.name) (Json.plain_int (h p.uid (by simp [integers]))) ?_
  intro r hr
  obtain ⟨t, ht, rfl⟩ := List.mem_map.mp hr
  have hin : ∀ n ∈ t.id :: t.times, Number.isWritable n = true :=
    fun n hn => h n (mem_integers ht hn)
  refine ThreadRecord.plain_toJson (Json.plain_int (hin t.id (by simp))) (Json.plain_str t.name) ?_
  intro v hv
  obtain ⟨n, hn, rfl⟩ := List.mem_map.mp hv
  exact Json.plain_int (hin n (by simp [hn]))

end ProcessUsage

theorem ProcessRecord.lossless :
    (∀ v p, ofJson v = .ok p → ofJson p.toJson = .ok p) ∧
      (∀ v p depth, v.FloatFree → v.Within depth → ofJson v = .ok p →
        (p.toJson.Within Json.maxDepth →
            ∃ written, p.toText = .ok written ∧ ofText written = .ok p) ∧
          (¬ p.toJson.Within Json.maxDepth →
            ∃ n, p.toText.bind ofText = .error (.text (.tooDeep n)))) ∧
      ∀ u : ProcessUsage, (∀ n ∈ u.integers, Number.isWritable n = true) →
        ∃ written, u.toRecord.toText = .ok written ∧ ofText written = .ok u.toRecord := by
  refine ⟨fun _ p _ => p.ofJson_toJson, ?_, ?_⟩
  · intro v p depth hfree hwithin hread
    have hplain : p.toJson.Plain (depth + 4) :=
      plain_of_ofJson ⟨hwithin.mono (by omega), hfree⟩ hread
    exact ⟨fun h => ofText_toText ⟨h, hplain.floatFree⟩, ofText_toText_of_deep hplain⟩
  · intro u hu
    exact ofText_toText (u.plain_toJson hu)

def oddShapes : Json :=
  .obj [("uid", .null),
    ("thread_cpu_usages", .arr [
      .obj [("usage_times_millis", .str "a😀"), ("thread_id", .arr [.bool true]),
        ("thread_name", .str "\"\\\n\x00")],
      .obj [("usage_times_millis", .obj [("k", .int (-5))]), ("thread_id", .int 7),
        ("thread_name", .obj [])]]),
    ("process_name", .str "é"), ("process_id", .int (-3))]

def oddRecord : ProcessRecord :=
  { id := .int (-3), name := .str "é", uid := .null,
    threads := [
      { id := .arr [.bool true], name := .str "\"\\\n\x00", times := [.str "a", .str "😀"] },
      { id := .int 7, name := .obj [], times := [.str "k"] }] }

def oddUsage : ProcessUsage :=
  { id := -1, name := "\"\\\r😀\uFFFF", uid := 0,
    threads := [
      { id := 2, name := "", times := [] }, { id := -3, name := "\x7f", times := [0, -40] }] }

def Json.nested : ℕ → Json
  | 0 => .arr []
  | n + 1 => .arr [nested n]

theorem Json.within_nested {depth n : ℕ} : Within depth (nested n) ↔ n < depth := by
  induction n generalizing depth with
  | zero =>
    cases depth with
    | zero => exact iff_of_false (fun h => by cases h) (by omega)
    | succ depth => simp [nested]
  | succ n ih =>
    cases depth with
    | zero => exact iff_of_false (fun h => by cases h) (by omega)
    | succ depth => simp [nested, ih]

theorem Json.floatFree_nested (n : ℕ) : FloatFree (nested n) := by
  induction n with
  | zero => simp [nested]
  | succ n ih => simp [nested, ih]

def nestedRecord (n : ℕ) : ProcessRecord :=
  { id := .nested n, name := .str "", uid := .int 0, threads := [] }

theorem within_nestedRecord {depth n : ℕ} :
    (nestedRecord n).toJson.Within (depth + 2) ↔ n ≤ depth := by
  have hzero : Number.isWritable 0 = true := by decide
  simp [nestedRecord, ProcessRecord.toJson, ProcessRecord.members, Json.within_nested, hzero]

theorem not_within_nestedRecord {n : ℕ} (h : Json.maxDepth ≤ n) :
    ¬ (nestedRecord n).toJson.Within Json.maxDepth := by
  have hdepth : Json.maxDepth = 986 + 2 := rfl
  rw [hdepth, within_nestedRecord]
  omega

theorem floatFree_nestedRecord (n : ℕ) : (nestedRecord n).toJson.FloatFree := by
  simp [nestedRecord, ProcessRecord.toJson, ProcessRecord.members, Json.floatFree_nested]

theorem ProcessRecord.lossless_of_oddShapes :
    (oddShapes.FloatFree ∧ oddShapes.Within 4 ∧ ofJson oddShapes = .ok oddRecord ∧
      ofJson oddRecord.toJson = .ok oddRecord ∧ oddRecord.toJson.Within Json.maxDepth ∧
      ∃ written, oddRecord.toText = .ok written ∧ ofText written = .ok oddRecord) ∧
    ((nestedRecord 1000).toJson.FloatFree ∧ (nestedRecord 1000).toJson.Within 1002 ∧
      ofJson (nestedRecord 1000).toJson = .ok (nestedRecord 1000) ∧
      ¬ (nestedRecord 1000).toJson.Within Json.maxDepth ∧
      ∃ n, (nestedRecord 1000).toText.bind ofText = .error (.text (.tooDeep n))) ∧
    (∀ n ∈ oddUsage.integers, Number.isWritable n = true) ∧
      ∃ written, oddUsage.toRecord.toText = .ok written ∧
        ofText written = .ok oddUsage.toRecord := by
  refine ⟨?_, ?_, ?_⟩
  · have hfree : oddShapes.FloatFree := by simp [oddShapes]
    have hints : ∀ n ∈ [-5, 7, -3], Number.isWritable n = true := by decide
    have hwithin : oddShapes.Within 4 := by simpa [oddShapes, and_assoc] using hints
    have hread : ofJson oddShapes = .ok oddRecord := rfl
    have hkept : ∀ n ∈ [-3, 7], Number.isWritable n = true := by decide
    have hdepth : oddRecord.toJson.Within Json.maxDepth := by
      simpa [oddRecord, toJson, members, ThreadRecord.toJson, Json.maxDepth] using hkept
    exact ⟨hfree, hwithin, hread, lossless.1 _ _ hread, hdepth,
      (lossless.2.1 _ _ _ hfree hwithin hread).1 hdepth⟩
  · have hfree := floatFree_nestedRecord 1000
    have hwithin : (nestedRecord 1000).toJson.Within 1002 := within_nestedRecord.mpr le_rfl
    have hread := (nestedRecord 1000).ofJson_toJson
    have hdeep : ¬ (nestedRecord 1000).toJson.Within Json.maxDepth :=
      not_within_nestedRecord (by decide)
    exact ⟨hfree, hwithin, hread, hdeep, (lossless.2.1 _ _ _ hfree hwithin hread).2 hdeep⟩
  · have hints : ∀ n ∈ oddUsage.integers, Number.isWritable n = true := by decide
    exact ⟨hints, lossless.2.2 _ hints⟩

theorem ProcessRecord.not_ofText_of_nested :
    (nestedRecord 12000).toJson.FloatFree ∧ (nestedRecord 12000).toJson.Within 12002 ∧
      ofJson (nestedRecord 12000).toJson = .ok (nestedRecord 12000) ∧
      ¬ ∃ written, (nestedRecord 12000).toText = .ok written ∧
        ofText written = .ok (nestedRecord 12000) := by
  have hfree := floatFree_nestedRecord 12000
  have hwithin : (nestedRecord 12000).toJson.Within 12002 := within_nestedRecord.mpr le_rfl
  refine ⟨hfree, hwithin, (nestedRecord 12000).ofJson_toJson, ?_⟩
  rintro ⟨written, hwritten, hread⟩
  obtain ⟨n, hn⟩ := ofText_toText_of_deep ⟨hwithin, hfree⟩ (not_within_nestedRecord (by decide))
  rw [hwritten, ok_bind, hread] at hn
  cases hn

end Residency
