import Mathlib.Data.List.Perm.Basic
import Residency.Proofs.Isolation

namespace Residency

theorem zipWith_add_left_comm (a b c : List ℤ) :
    List.zipWith (· + ·) a (List.zipWith (· + ·) b c) =
      List.zipWith (· + ·) b (List.zipWith (· + ·) a c) := by
  apply List.ext_getElem
  · simp only [List.length_zipWith]
    omega
  · intro i _ _
    simp [add_left_comm]

theorem sumTimes_cons (row : List ℤ) {rows : List (List ℤ)} (h : rows ≠ []) :
    sumTimes (row :: rows) = List.zipWith (· + ·) row (sumTimes rows) := by
  cases rows with
  | nil => exact absurd rfl h
  | cons => rfl

theorem sumTimes_perm {rows rows' : List (List ℤ)} (h : rows.Perm rows') :
    sumTimes rows = sumTimes rows' := by
  induction h with
  | nil => rfl
  | @cons row l l' h ih =>
    rcases eq_or_ne l [] with rfl | hl
    · rw [List.nil_perm.mp h]
    · have hl' : l' ≠ [] := by
        rintro rfl
        exact hl h.eq_nil
      rw [sumTimes_cons row hl, sumTimes_cons row hl', ih]
  | swap a b l =>
    rcases eq_or_ne l [] with rfl | hl
    · exact List.zipWith_comm_of_comm add_comm
    · rw [sumTimes_cons b (List.cons_ne_nil a l), sumTimes_cons a hl,
        sumTimes_cons a (List.cons_ne_nil b l), sumTimes_cons b hl, zipWith_add_left_comm]
  | trans _ _ ih ih' => exact ih.trans ih'

structure StatsSource.Reorders (process : Path) (entries entries' : List String)
    (source source' : StatsSource) : Prop where
  perm : entries.Perm entries'
  listing : source.listing process = .ok entries
  listing' : source'.listing process = .ok entries'
  residences : ∀ e ∈ entries, IsDigits e →
    source.residences (process.threadFile e "time_in_state") =
      source'.residences (process.threadFile e "time_in_state")
  firstLine : ∀ e ∈ entries, IsDigits e →
    source.firstLine (process.threadFile e "comm") = source'.firstLine (process.threadFile e "comm")
  tokens : source.tokens (process.child "cmdline") = source'.tokens (process.child "cmdline")

structure ProcessUsage.SameContent (u u' : ProcessUsage) : Prop where
  id : u.id = u'.id
  name : u.name = u'.name
  uid : u.uid = u'.uid
  threads : u.threads.Perm u'.threads
  total : u.total = u'.total

def StatsSource.relisted (source source' : StatsSource) : StatsSource :=
  { source with listing := source'.listing }

theorem StatsSource.Reorders.agreeOn {process : Path} {entries entries' : List String}
    {source source' : StatsSource} (h : source.Reorders process entries entries' source') :
    (source.relisted source').AgreeOn process source' where
  listing := by
    rw [relisted, h.listing']
    exact .listed entries'
  residences := by
    intro found hfound e he hd
    cases h.listing'.symm.trans hfound
    exact h.residences e (h.perm.mem_iff.mpr he) hd
  firstLine := by
    intro found hfound e he hd
    cases h.listing'.symm.trans hfound
    exact h.firstLine e (h.perm.mem_iff.mpr he) hd
  tokens := h.tokens

namespace Collector

variable {source₀ source source' : StatsSource} {options : CollectorOptions} {c : Collector}
  {process : Path} {pid uid : ℤ} {entries entries' : List String} {u u' : ProcessUsage}

theorem rightUnique_isUsageOf (m : BucketMapping) (options : CollectorOptions)
    (source : StatsSource) (process : Path) :
    Relator.RightUnique (IsUsageOf m options source process) := by
  intro e t t' h h'
  obtain ⟨rs, hr, hv⟩ := h.times
  obtain ⟨rs', hr', hv'⟩ := h'.times
  cases hr.symm.trans hr'
  have htimes : t.times = t'.times := Except.ok.inj (hv.symm.trans hv')
  have hid : t.id = t'.id := h.id.trans h'.id.symm
  have hname : t.name = t'.name := h.name.trans h'.name.symm
  cases t
  cases t'
  cases hid
  cases hname
  cases htimes
  rfl

theorem isUsageOf_relisted {m : BucketMapping} {e : String} {t : ThreadUsage}
    (h : IsUsageOf m options (source.relisted source') process e t) :
    IsUsageOf m options source process e t :=
  ⟨h.id, h.name, h.times⟩

theorem IsSnapshotOf.sameContent {m : BucketMapping} {fs : FrequencyTable}
    (hperm : entries.Perm entries')
    (hu : IsSnapshotOf m options fs source process pid uid entries u)
    (hu' : IsSnapshotOf m options fs (source.relisted source') process pid uid entries' u') :
    u.SameContent u' := by
  have hthreads : u.threads.Perm u'.threads :=
    List.rel_perm_imp (rightUnique_isUsageOf m options source process) hu.threads
      (hu'.threads.imp fun _ _ => isUsageOf_relisted) (hperm.filter _)
  exact ⟨hu.id.trans hu'.id.symm, hu.name.trans hu'.name.symm, hu.uid.trans hu'.uid.symm,
    hthreads, sumTimes_perm (hthreads.map _)⟩

theorem usage_of_reorders (hc : create source₀ options = .ok c)
    (h : source.Reorders process entries entries' source')
    (hlen : ∀ e ∈ entries, e.length ≤ Number.maxDigits) (pid uid : ℤ) :
    ∃ answer answer', (c.usage source process pid uid).2 = .ok answer ∧
      (c.usage source' process pid uid).2 = .ok answer' ∧
      Option.Rel ProcessUsage.SameContent answer answer' := by
  have hb := built_of_create hc
  have hlist' : (source.relisted source').listing process = .ok entries' := h.listing'
  obtain ⟨answer, ha, hnone, hsome⟩ := hb.usage_listed h.listing hlen pid uid
  obtain ⟨answer', ha', hnone', hsome'⟩ :=
    hb.usage_listed hlist' (fun e he => hlen e (h.perm.mem_iff.mpr he)) pid uid
  rw [usage_congr h.agreeOn c pid uid] at ha'
  have hiff : answer = none ↔ answer' = none := by
    rw [hnone, hnone']
    exact ⟨fun hq e he => hq e (h.perm.mem_iff.mpr he), fun hq e he => hq e (h.perm.mem_iff.mp he)⟩
  refine ⟨answer, answer', ha, ha', ?_⟩
  cases answer with
  | none =>
    rw [hiff.mp rfl]
    exact .none
  | some u =>
    cases answer' with
    | none => exact absurd (hiff.mpr rfl) (Option.some_ne_none u)
    | some u' => exact .some ((hsome u rfl).sameContent h.perm (hsome' u' rfl))

def twinTable (entries : List String) : StatsTable :=
  { listings := [(mixedProcess, entries)]
    residences := [(mixedOptions.initial, [⟨100, 0⟩, ⟨200, 0⟩, ⟨150, 0⟩]),
      (mixedProcess.threadFile "12" "time_in_state", [⟨100, 1⟩, ⟨200, 2⟩, ⟨150, 3⟩]),
      (mixedProcess.threadFile "7" "time_in_state", [⟨100, 5⟩, ⟨200, 0⟩, ⟨150, 1⟩])]
    firstLines := [(mixedProcess.threadFile "12" "comm", "worker")] }

def twinUsage (threads : List ThreadUsage) : ProcessUsage :=
  { id := 9, name := "unknown_process", uid := 1000, threads := threads }

def workerUsage : ThreadUsage :=
  { id := 12, name := "worker", times := [30, 30] }

def namelessUsage : ThreadUsage :=
  { id := 7, name := "unknown_thread", times := [50, 10] }

theorem usage_of_reordered_twins :
    (twinTable ["12", "x", "7"]).statsSource.Reorders mixedProcess ["12", "x", "7"] ["7", "12", "x"]
        (twinTable ["7", "12", "x"]).statsSource ∧
      (mixedCollector.usage (twinTable ["12", "x", "7"]).statsSource mixedProcess 9 1000).2 =
        .ok (some (twinUsage [workerUsage, namelessUsage])) ∧
      (mixedCollector.usage (twinTable ["7", "12", "x"]).statsSource mixedProcess 9 1000).2 =
        .ok (some (twinUsage [namelessUsage, workerUsage])) ∧
      (twinUsage [workerUsage, namelessUsage]).SameContent
        (twinUsage [namelessUsage, workerUsage]) := by
  have hc : create (twinTable []).statsSource mixedOptions = .ok mixedCollector := by rfl
  have h : (twinTable ["12", "x", "7"]).statsSource.Reorders mixedProcess ["12", "x", "7"]
      ["7", "12", "x"] (twinTable ["7", "12", "x"]).statsSource :=
    ⟨by decide, by rfl, by rfl, fun _ _ _ => rfl, fun _ _ _ => rfl, rfl⟩
  have hu : (mixedCollector.usage (twinTable ["12", "x", "7"]).statsSource mixedProcess 9 1000).2 =
      .ok (some (twinUsage [workerUsage, namelessUsage])) := by decide +kernel
  have hu' : (mixedCollector.usage (twinTable ["7", "12", "x"]).statsSource mixedProcess 9 1000).2 =
      .ok (some (twinUsage [namelessUsage, workerUsage])) := by decide +kernel
  obtain ⟨answer, answer', ha, ha', hrel⟩ := usage_of_reorders hc h (by decide) 9 1000
  cases hu.symm.trans ha
  cases hu'.symm.trans ha'
  cases hrel with
  | some hsame => exact ⟨h, hu, hu', hsame⟩

end Collector

end Residency
