import Mathlib.Algebra.Order.BigOperators.Group.List
import Residency.Proofs.Buckets.Linearity
import Residency.Proofs.Conservation
import Residency.Proofs.Lists

/-!
Totals of processes. To add up the buckets of threads is to bucket what their slots add up to, so
neither a bucket nor a total is lower where no counter is.
-/
namespace Residency

section SlotSums

def slotSums (n : ℕ) (columns : List (List ℤ)) : List ℤ :=
  (List.range n).map fun i => (columns.map (·.getD i 0)).sum

variable {n : ℕ}

theorem slotSums_singleton {column : List ℤ} (h : column.length = n) :
    slotSums n [column] = column := by
  apply List.ext_getElem
  · simp [slotSums, h]
  · intro i _ hi
    simp [slotSums, hi]

theorem slotSums_cons {column : List ℤ} (h : column.length = n) (columns : List (List ℤ)) :
    slotSums n (column :: columns) = List.zipWith (· + ·) column (slotSums n columns) := by
  apply List.ext_getElem
  · simp [slotSums, h]
  · intro i hi _
    have hi : i < column.length := by simpa [slotSums, h] using hi
    simp [slotSums, hi]

theorem slotSums_perm {columns others : List (List ℤ)} (h : columns.Perm others) :
    slotSums n columns = slotSums n others :=
  List.map_congr_left fun _ _ => (h.map _).sum_eq

theorem sum_getD_mono {before after : List (List ℤ)}
    (h : List.Forall₂ (List.Forall₂ (· ≤ ·)) before after) (i : ℕ) :
    (before.map (·.getD i 0)).sum ≤ (after.map (·.getD i 0)).sum := by
  refine List.Forall₂.sum_le_sum ?_
  rw [List.forall₂_map_left_iff, List.forall₂_map_right_iff]
  refine h.imp fun column later hc => ?_
  induction hc generalizing i with
  | nil => exact le_rfl
  | cons hxy _ ih =>
    cases i with
    | zero => exact hxy
    | succ i => exact ih i

theorem getD_nonneg {column : List ℤ} (h : ∀ x ∈ column, 0 ≤ x) (i : ℕ) :
    0 ≤ column.getD i 0 := by
  rw [List.getD_eq_getElem?_getD]
  cases hget : column[i]? with
  | none => exact le_rfl
  | some x => exact h x (List.mem_of_getElem? hget)

theorem sum_getD_nonneg {columns : List (List ℤ)} (h : ∀ column ∈ columns, ∀ x ∈ column, 0 ≤ x)
    (i : ℕ) : 0 ≤ (columns.map (·.getD i 0)).sum := by
  apply List.sum_nonneg
  intro x hx
  obtain ⟨column, hc, rfl⟩ := List.mem_map.mp hx
  exact getD_nonneg (h column hc) i

theorem exists_slotSum_ge {columns : List (List ℤ)}
    (h : ∀ column ∈ columns, ∀ x ∈ column, 0 ≤ x) {column : List ℤ} (hcolumn : column ∈ columns)
    (hlength : column.length = n) : ∀ x ∈ column, ∃ total ∈ slotSums n columns, x ≤ total := by
  intro x hx
  obtain ⟨i, hi, rfl⟩ := List.getElem_of_mem hx
  refine ⟨_, List.mem_map_of_mem (List.mem_range.mpr (hlength ▸ hi)), ?_⟩
  have hslot : column[i] ∈ columns.map (·.getD i 0) := by
    have hget : column.getD i 0 = column[i] := by
      rw [List.getD_eq_getElem?_getD, List.getElem?_eq_getElem hi, Option.getD_some]
    exact List.mem_map.mpr ⟨column, hcolumn, hget⟩
  refine List.single_le_sum (fun y hy => ?_) _ hslot
  obtain ⟨other, hother, rfl⟩ := List.mem_map.mp hy
  exact getD_nonneg (h other hother) i

theorem BucketMapping.IsLinear.bucketValues_slotSums {m : BucketMapping} (hm : m.IsLinear)
    {columns rows : List (List ℤ)} (hne : columns ≠ [])
    (h : List.Forall₂ (fun column row => column.length = n ∧ m.bucketValues column = .ok row)
      columns rows) :
    m.bucketValues (slotSums n columns) = .ok (sumTimes rows) := by
  induction h with
  | nil => exact absurd rfl hne
  | @cons column row columns rows hcr hrest ih =>
    cases hrest with
    | nil =>
      rw [slotSums_singleton hcr.1]
      exact hcr.2
    | cons =>
      rw [slotSums_cons hcr.1]
      exact hm.add hcr.2 (ih (List.cons_ne_nil _ _))

end SlotSums

namespace Collector

structure IsRead (c : Collector) (source : StatsSource) (process : Path)
    (read : String × List ℤ) (thread : ThreadUsage) : Prop where
  id : thread.id = Number.decimalValue read.1.toList
  ticks : ∃ rs, source.residences (process.threadFile read.1 "time_in_state") = some rs ∧
    rs.map (·.frequency) = c.frequencies ∧ rs.map (·.time) = read.2
  times : c.mapping.bucketValues (read.2.map (· * c.tickMillis)) = .ok thread.times

structure AreReads (c : Collector) (source : StatsSource) (process : Path)
    (reads : List (String × List ℤ)) (u : ProcessUsage) : Prop where
  entries : ∃ entries, source.listing process = .ok entries ∧
    reads.map (·.1) = entries.filter (qualifies c.frequencies source process)
  threads : List.Forall₂ (c.IsRead source process) reads u.threads

def inMillis (tickMillis : ℤ) (reads : List (String × List ℤ)) : List (String × List ℤ) :=
  reads.map fun read => (read.1, read.2.map (· * tickMillis))

/-- No counter of one read is lower in a later one, whatever the order of the threads, and threads
that are new bring no negative counter. -/
def Grown (before after : List (String × List ℤ)) : Prop :=
  ∃ kept new, after.Perm (kept ++ new) ∧
    List.Forall₂ (fun read later => later.1 = read.1 ∧ List.Forall₂ (· ≤ ·) read.2 later.2)
      before kept ∧
    ∀ read ∈ new, ∀ ticks ∈ read.2, 0 ≤ ticks

theorem Grown.inMillis {before after : List (String × List ℤ)} (h : Grown before after)
    {tickMillis : ℤ} (ht : 0 ≤ tickMillis) :
    Grown (inMillis tickMillis before) (inMillis tickMillis after) := by
  obtain ⟨kept, new, hperm, hkept, hnew⟩ := h
  refine ⟨Collector.inMillis tickMillis kept, Collector.inMillis tickMillis new, ?_, ?_, ?_⟩
  · simpa [Collector.inMillis] using hperm.map fun read => (read.1, read.2.map (· * tickMillis))
  · unfold Collector.inMillis
    rw [List.forall₂_map_left_iff, List.forall₂_map_right_iff]
    refine hkept.imp fun read later ⟨hid, hle⟩ => ⟨hid, ?_⟩
    rw [List.forall₂_map_left_iff, List.forall₂_map_right_iff]
    exact hle.imp fun x y hxy => mul_le_mul_of_nonneg_right hxy ht
  · intro read hr x hx
    obtain ⟨read, hread, rfl⟩ := List.mem_map.mp hr
    obtain ⟨y, hy, rfl⟩ := List.mem_map.mp hx
    exact mul_nonneg (hnew read hread y hy) ht

theorem Grown.slotSums {before after : List (String × List ℤ)} (h : Grown before after) (n : ℕ) :
    List.Forall₂ (· ≤ ·) (slotSums n (before.map (·.2))) (slotSums n (after.map (·.2))) := by
  obtain ⟨kept, new, hperm, hkept, hnew⟩ := h
  rw [slotSums_perm (hperm.map _), Residency.slotSums, Residency.slotSums,
    List.forall₂_map_left_iff, List.forall₂_map_right_iff, List.forall₂_same]
  intro i _
  rw [List.map_append, List.map_append, List.sum_append]
  have hle : ((before.map (·.2)).map (·.getD i 0)).sum ≤
      ((kept.map (·.2)).map (·.getD i 0)).sum := by
    apply sum_getD_mono
    rw [List.forall₂_map_left_iff, List.forall₂_map_right_iff]
    exact hkept.imp fun _ _ hrl => hrl.2
  have hnonneg : 0 ≤ ((new.map (·.2)).map (·.getD i 0)).sum := by
    apply sum_getD_nonneg
    intro column hc
    obtain ⟨read, hr, rfl⟩ := List.mem_map.mp hc
    exact hnew read hr
  omega

structure NoLower (u later : ProcessUsage) : Prop where
  threads : ∀ thread ∈ u.threads, ∃ other ∈ later.threads, other.id = thread.id ∧
    List.Forall₂ (· ≤ ·) thread.times other.times
  total : List.Forall₂ (· ≤ ·) u.total later.total

section Reads

variable {source₀ source source' : StatsSource} {options : CollectorOptions} {c : Collector}
  {process process' : Path} {u u' : ProcessUsage} {reads reads' : List (String × List ℤ)}

theorem Built.isLinear (h : Built source₀ options c) : c.mapping.IsLinear := by
  have hB := h.buckets_pos
  rw [h.mapping]
  exact BucketMapping.isLinear_layout _ (by omega)

theorem Taken.threads_ne_nil (hu : Taken c source process u) : u.threads ≠ [] := by
  obtain ⟨pid, uid, husage⟩ := hu.exists_usage
  obtain ⟨entries, -, hne, -⟩ := threads_of_usage husage
  exact hne

theorem AreReads.ne_nil (h : AreReads c source process reads u)
    (hu : Taken c source process u) : reads ≠ [] := by
  rintro rfl
  exact hu.threads_ne_nil (List.forall₂_nil_left_iff.mp h.threads)

theorem exists_areReads (hu : Taken c source process u) :
    ∃ reads, AreReads c source process reads u := by
  obtain ⟨pid, uid, husage⟩ := hu.exists_usage
  obtain ⟨entries, hlist, -, ht⟩ := threads_of_usage husage
  have hall := (List.forall₂_and_left _ _).mpr
    ⟨fun e he => (qualifies_iff.mp (List.mem_filter.mp he).2).2, scanThreads_forall₂ ht⟩
  obtain ⟨reads, hreads, hthreads⟩ := exists_pairs (R := c.IsRead source process) <|
    hall.imp fun e thread ⟨⟨rs, hr, hf⟩, rs', hr', ht⟩ => by
      cases hr.symm.trans hr'
      obtain ⟨hid, -, hv⟩ := threadUsage_eq_ok.mp ht
      exact ⟨(threadReading source process e rs).ticks, hid, ⟨rs, hr, hf, rfl⟩, hv⟩
  exact ⟨reads, ⟨entries, hlist, hreads⟩, hthreads⟩

theorem AreReads.total (hm : c.mapping.IsLinear) (h : AreReads c source process reads u)
    (hne : reads ≠ []) :
    c.mapping.bucketValues
        (slotSums c.frequencies.length ((inMillis c.tickMillis reads).map (·.2))) =
      .ok u.total := by
  refine hm.bucketValues_slotSums (by simpa [inMillis] using hne) ?_
  rw [inMillis, List.map_map, List.forall₂_map_left_iff, List.forall₂_map_right_iff]
  refine h.threads.imp fun read thread hread => ⟨?_, hread.times⟩
  obtain ⟨rs, -, hf, ht⟩ := hread.ticks
  change (read.2.map (· * c.tickMillis)).length = _
  rw [List.length_map, ← ht, ← hf, List.length_map, List.length_map]

theorem AreReads.noLower (hm : c.mapping.IsLinear) (h : AreReads c source process reads u)
    (h' : AreReads c source' process' reads' u') (hne : reads ≠ []) (hne' : reads' ≠ [])
    (hgrown : Grown (inMillis c.tickMillis reads) (inMillis c.tickMillis reads')) :
    NoLower u u' where
  threads := by
    intro thread ht
    obtain ⟨read, hread, hr⟩ := exists_mem_of_forall₂ h.threads.flip ht
    obtain ⟨kept, new, hperm, hkept, -⟩ := hgrown
    obtain ⟨later, hlater, hid, hle⟩ := exists_mem_of_forall₂ hkept (List.mem_map_of_mem hread)
    obtain ⟨read', hread', rfl⟩ :=
      List.mem_map.mp (hperm.mem_iff.mpr (List.mem_append_left _ hlater))
    obtain ⟨other, hother, hr'⟩ := exists_mem_of_forall₂ h'.threads hread'
    refine ⟨other, hother, ?_, hm.mono hr.times hr'.times hle⟩
    rw [hr.id, hr'.id]
    exact congrArg (fun name : String => (Number.decimalValue name.toList : ℤ)) hid
  total := hm.mono (h.total hm hne) (h'.total hm hne') (hgrown.slotSums _)

theorem totals_linear {fs : FrequencyTable} {requested : ℤ} {m : BucketMapping}
    (hm : BucketMapping.create fs requested = .ok m) (hc : create source₀ options = .ok c) :
    m.IsLinear ∧
    (∀ {source process u}, Taken c source process u →
      (∃ reads, AreReads c source process reads u) ∧
      ∀ {reads}, AreReads c source process reads u →
        c.mapping.bucketValues
            (slotSums c.frequencies.length ((inMillis options.tickMillis reads).map (·.2))) =
          .ok u.total) ∧
    ∀ {source source' process process' u u' reads reads'},
      Taken c source process u → AreReads c source process reads u →
      Taken c source' process' u' → AreReads c source' process' reads' u' →
      (Grown (inMillis options.tickMillis reads) (inMillis options.tickMillis reads') →
        NoLower u u') ∧
      (0 ≤ options.tickMillis → Grown reads reads' → NoLower u u') := by
  have hb := built_of_create hc
  have hlinear := hb.isLinear
  rw [← hb.tickMillis]
  refine ⟨BucketMapping.isLinear_of_create hm, ?_, ?_⟩
  · intro source process u hu
    exact ⟨exists_areReads hu, fun hreads => hreads.total hlinear (hreads.ne_nil hu)⟩
  · intro source source' process process' u u' reads reads' hu hreads hu' hreads'
    have h := hreads.noLower hlinear hreads' (hreads.ne_nil hu) (hreads'.ne_nil hu')
    exact ⟨h, fun ht hgrown => h (hgrown.inMillis ht)⟩

end Reads

def laterTree : FileTree :=
  { entries := [
      (treeOptions.procPath, .directory),
      (treeProcess, .directory),
      (treeProcess.child "task", .directory),
      ((treeProcess.child "task").child "12", .directory),
      (treeProcess.threadFile "12" "time_in_state",
        .file (Text.Utf8.encode "100 4\n200 8\n150 6".toList)),
      ((treeProcess.child "task").child "15", .directory),
      (treeProcess.threadFile "15" "time_in_state",
        .file (Text.Utf8.encode "100 1\n200 0\n150 0".toList)),
      ((treeProcess.child "task").child "7", .directory),
      (treeProcess.threadFile "7" "time_in_state",
        .file (Text.Utf8.encode "100 1\n200 2\n150 5\n".toList))] }

def laterUsage : ProcessUsage :=
  { treeUsage with
    threads := [
      { id := 12, name := "unknown_thread", times := [120, 60] },
      { id := 15, name := "unknown_thread", times := [10, 0] },
      { id := 7, name := "unknown_thread", times := [30, 50] }] }

theorem totals_linear_of_two_reads :
    BucketMapping.IsLinear (.layout [100, 200, 150] 2) ∧
      treeCollector.mapping.bucketValues (slotSums 3 [[40, 50, 60], [10, 20, 30]]) = .ok [120, 90] ∧
      NoLower treeUsage laterUsage := by
  have hm : BucketMapping.create [100, 200, 150] 2 = .ok (.layout [100, 200, 150] 2) := rfl
  have hc : create tableTree.statsSource treeOptions = .ok treeCollector := by rfl
  have hlist : processTree.statsSource.listing treeProcess = .ok ["12", "7"] := rfl
  have hlist' : laterTree.statsSource.listing treeProcess = .ok ["12", "15", "7"] := rfl
  have hu : Taken treeCollector processTree.statsSource treeProcess treeUsage := by
    have h : (treeCollector.usage processTree.statsSource treeProcess 9 1000).2 =
        .ok (some treeUsage) := by
      rw [usage_of_listing hlist]
      decide +kernel
    exact .ofPath h
  have hu' : Taken treeCollector laterTree.statsSource treeProcess laterUsage := by
    have h : (treeCollector.usage laterTree.statsSource treeProcess 9 1000).2 =
        .ok (some laterUsage) := by
      rw [usage_of_listing hlist']
      decide +kernel
    exact .ofPath h
  have hreads : AreReads treeCollector processTree.statsSource treeProcess
      [("12", [4, 5, 6]), ("7", [1, 2, 3])] treeUsage := by
    refine ⟨⟨_, hlist, by decide +kernel⟩, .cons ?_ (.cons ?_ .nil)⟩
    · exact ⟨by decide +kernel, ⟨[⟨100, 4⟩, ⟨200, 5⟩, ⟨150, 6⟩], by decide +kernel, rfl, rfl⟩,
        by decide +kernel⟩
    · exact ⟨by decide +kernel, ⟨[⟨100, 1⟩, ⟨200, 2⟩, ⟨150, 3⟩], by decide +kernel, rfl, rfl⟩,
        by decide +kernel⟩
  have hreads' : AreReads treeCollector laterTree.statsSource treeProcess
      [("12", [4, 8, 6]), ("15", [1, 0, 0]), ("7", [1, 2, 5])] laterUsage := by
    refine ⟨⟨_, hlist', by decide +kernel⟩, .cons ?_ (.cons ?_ (.cons ?_ .nil))⟩
    · exact ⟨by decide +kernel, ⟨[⟨100, 4⟩, ⟨200, 8⟩, ⟨150, 6⟩], by decide +kernel, rfl, rfl⟩,
        by decide +kernel⟩
    · exact ⟨by decide +kernel, ⟨[⟨100, 1⟩, ⟨200, 0⟩, ⟨150, 0⟩], by decide +kernel, rfl, rfl⟩,
        by decide +kernel⟩
    · exact ⟨by decide +kernel, ⟨[⟨100, 1⟩, ⟨200, 2⟩, ⟨150, 5⟩], by decide +kernel, rfl, rfl⟩,
        by decide +kernel⟩
  have hgrown : Grown [("12", [4, 5, 6]), ("7", [1, 2, 3])]
      [("12", [4, 8, 6]), ("15", [1, 0, 0]), ("7", [1, 2, 5])] :=
    ⟨[("12", [4, 8, 6]), ("7", [1, 2, 5])], [("15", [1, 0, 0])], (List.Perm.swap _ _ _).cons _,
      by simp, by simp⟩
  obtain ⟨hlinear, htotal, hnoLower⟩ := totals_linear hm hc
  have hrows : (inMillis treeOptions.tickMillis [("12", [4, 5, 6]), ("7", [1, 2, 3])]).map (·.2) =
      [[40, 50, 60], [10, 20, 30]] := by decide
  have hsum := (htotal hu).2 hreads
  rw [hrows] at hsum
  exact ⟨hlinear, hsum, (hnoLower hu hreads hu' hreads').2 (by decide) hgrown⟩

end Collector

end Residency
