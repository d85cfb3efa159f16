import Mathlib.Data.List.Forall2
import Residency.Proofs.Numerals
import Residency.ThreadScan

namespace Residency

namespace Path

theorem ofString_name {name : String} (he : name ≠ "") (hd : name ≠ ".")
    (hs : '/' ∉ name.toList) :
    ofString name = { root := .workingDirectory, parts := [name] } := by
  have hroot : rootOf name.toList = .workingDirectory := by
    unfold rootOf
    split
    · next heq => simp [heq] at hs
    · next heq => simp [heq] at hs
    · next heq => simp [heq] at hs
    · rfl
  have hsplit : name.toList.splitOnP (· = '/') = [name.toList] := by
    apply List.splitOnP_eq_singleton
    intro c hc
    rw [decide_eq_false_iff_not]
    rintro rfl
    exact hs hc
  have hne : name.toList ≠ [] := by simpa using he
  have hdot : name.toList ≠ ['.'] := by
    intro h
    apply hd
    rw [← String.ofList_toList (s := name), h]
  rw [ofString, hroot, partsOf, hsplit]
  simp [hne, hdot]

theorem append_name (p : Path) {name : String} (he : name ≠ "") (hd : name ≠ ".")
    (hs : '/' ∉ name.toList) : p ++ name = p.child name := by
  change p.append (ofString name) = p.child name
  rw [ofString_name he hd hs]
  rfl

def threadFile (process : Path) (entry file : String) : Path :=
  ((process.child "task").child entry).child file

end Path

def IsDigits (e : String) : Prop := e ≠ "" ∧ ∀ c ∈ e.toList, c.isDigit = true

theorem isThreadEntry_iff {e : String} : isThreadEntry e = true ↔ IsDigits e := by
  have hdigit (c : Char) : ('0' ≤ c && c ≤ '9') = c.isDigit := rfl
  simp [isThreadEntry, IsDigits, hdigit, -Bool.decide_and]

instance (e : String) : Decidable (IsDigits e) :=
  decidable_of_iff _ isThreadEntry_iff

theorem append_entry (p : Path) {e : String} (h : IsDigits e) : p ++ e = p.child e := by
  refine p.append_name h.1 ?_ ?_
  · rintro rfl
    exact absurd (h.2 '.' (by decide)) (by decide)
  · intro hs
    exact absurd (h.2 '/' hs) (by decide)

theorem append_task (p : Path) : p ++ "task" = p.child "task" :=
  p.append_name (by decide) (by decide) (by decide)

theorem append_statisticsFile (p : Path) : p ++ statisticsFile = p.child statisticsFile :=
  p.append_name (by decide) (by decide) (by decide)

theorem append_threadNameFile (p : Path) : p ++ threadNameFile = p.child threadNameFile :=
  p.append_name (by decide) (by decide) (by decide)

theorem append_processNameFile (p : Path) : p ++ processNameFile = p.child processNameFile :=
  p.append_name (by decide) (by decide) (by decide)

theorem append_entry_statisticsFile (process : Path) {e : String} (h : IsDigits e) :
    process ++ "task" ++ e ++ statisticsFile = process.threadFile e "time_in_state" := by
  rw [append_task, append_entry _ h, append_statisticsFile]
  rfl

theorem append_entry_threadNameFile (process : Path) {e : String} (h : IsDigits e) :
    process ++ "task" ++ e ++ threadNameFile = process.threadFile e "comm" := by
  rw [append_task, append_entry _ h, append_threadNameFile]
  rfl

def threadReading (source : StatsSource) (process : Path) (e : String) (rs : List Residence) :
    ThreadReading :=
  { id := Number.decimalValue e.toList
    name := source.firstLine (process.threadFile e "comm")
    ticks := rs.map (·.time) }

inductive EntryOutcome (fs : FrequencyTable) (source : StatsSource) (process : Path) (e : String) :
    List Event × Except ScanError (Option ThreadReading) → Prop where
  | rejected (hd : ¬ IsDigits e) :
      EntryOutcome fs source process e ([.threadIdRejected e (process.child "task")], .ok none)
  | tooLong (hd : IsDigits e) (hl : Number.maxDigits < e.length) :
      EntryOutcome fs source process e ([], .error (.threadId (.tooLong e.length)))
  | unreadable (hd : IsDigits e) (hl : e.length ≤ Number.maxDigits)
      (hr : source.residences (process.threadFile e "time_in_state") = none) :
      EntryOutcome fs source process e ([], .ok none)
  | changed (hd : IsDigits e) (hl : e.length ≤ Number.maxDigits) {rs : List Residence}
      (hr : source.residences (process.threadFile e "time_in_state") = some rs)
      (hf : rs.map (·.frequency) ≠ fs) :
      EntryOutcome fs source process e
        ([.tableChanged (process.threadFile e "time_in_state") fs.length rs.length], .ok none)
  | included (hd : IsDigits e) (hl : e.length ≤ Number.maxDigits) {rs : List Residence}
      (hr : source.residences (process.threadFile e "time_in_state") = some rs)
      (hf : rs.map (·.frequency) = fs) :
      EntryOutcome fs source process e ([], .ok (some (threadReading source process e rs)))

theorem readThread_outcome (fs : FrequencyTable) (source : StatsSource) (process : Path)
    (e : String) :
    EntryOutcome fs source process e (readThread fs source (process ++ "task") e) := by
  by_cases hd : IsDigits e
  · have hne : e.toList ≠ [] := by simpa using hd.1
    simp only [readThread, isThreadEntry_iff.mpr hd, Bool.not_true, Bool.false_eq_true, if_false,
      Number.readInteger_of_digits hne hd.2, append_entry_statisticsFile process hd,
      append_entry_threadNameFile process hd, FrequencyTable.ticks, String.length_toList]
    rcases Nat.lt_or_ge Number.maxDigits e.length with hl | hl
    · rw [if_pos hl]
      exact .tooLong hd hl
    · rw [if_neg (by omega)]
      cases hr : source.residences (process.threadFile e "time_in_state") with
      | none => exact .unreadable hd hl hr
      | some rs =>
        by_cases hf : rs.map (·.frequency) = fs
        · simp only [hf, if_true]
          exact .included hd hl hr hf
        · simp only [hf, if_false]
          exact .changed hd hl hr hf
  · have hentry : isThreadEntry e = false := by
      rw [← Bool.not_eq_true, isThreadEntry_iff]
      exact hd
    simp only [readThread, hentry, Bool.not_false, if_true, append_task]
    exact .rejected hd

def qualifies (fs : FrequencyTable) (source : StatsSource) (process : Path) (e : String) : Bool :=
  decide (IsDigits e) && (source.residences (process.threadFile e "time_in_state")).any
    fun rs => rs.map (·.frequency) = fs

theorem qualifies_iff {fs : FrequencyTable} {source : StatsSource} {process : Path} {e : String} :
    qualifies fs source process e = true ↔ IsDigits e ∧ ∃ rs,
      source.residences (process.threadFile e "time_in_state") = some rs ∧
        rs.map (·.frequency) = fs := by
  simp [qualifies, Option.any_eq_true]

section Scan

variable {α ε : Type} {fs : FrequencyTable} {source : StatsSource} {fail : ScanError → ε}
  {f : ThreadReading → Except ε α} {process : Path}

theorem scanThreads_cons (e : String) (entries : List String) :
    (scanThreads fs source fail f process (e :: entries)).2 =
      ((readThread fs source process e).2.mapError fail).bind fun
        | none => (scanThreads fs source fail f process entries).2
        | some r => (f r).bind fun a =>
            (scanThreads fs source fail f process entries).2.map (a :: ·) := by
  rw [scanThreads]
  rcases readThread fs source process e with ⟨events, err | (_ | r)⟩
  · rfl
  · rfl
  · dsimp only
    change _ = (f r).bind _
    cases f r <;> rfl

theorem scanThreads_forall₂ {entries : List String} {as : List α}
    (h : (scanThreads fs source fail f (process ++ "task") entries).2 = .ok as) :
    List.Forall₂ (fun e a => ∃ rs,
        source.residences (process.threadFile e "time_in_state") = some rs ∧
          f (threadReading source process e rs) = .ok a)
      (entries.filter (qualifies fs source process)) as := by
  induction entries generalizing as with
  | nil =>
    cases h
    exact .nil
  | cons e entries ih =>
    have ho := readThread_outcome fs source process e
    rw [scanThreads_cons] at h
    generalize readThread fs source (process ++ "task") e = result at ho h
    cases ho with
    | rejected hd =>
      rw [List.filter_cons_of_neg (by simp [qualifies, hd])]
      exact ih h
    | tooLong => cases h
    | unreadable _ _ hr =>
      rw [List.filter_cons_of_neg (by simp [qualifies, hr])]
      exact ih h
    | changed _ _ hr hf =>
      rw [List.filter_cons_of_neg (by simp [qualifies, hr, hf])]
      exact ih h
    | @included hd _ rs hr hf =>
      rw [List.filter_cons_of_pos (qualifies_iff.mpr ⟨hd, rs, hr, hf⟩)]
      change (f (threadReading source process e rs)).bind _ = _ at h
      cases hfr : f (threadReading source process e rs) with
      | error err =>
        rw [hfr] at h
        cases h
      | ok a =>
        rw [hfr] at h
        cases hrest : (scanThreads fs source fail f (process ++ "task") entries).2 with
        | error err =>
          rw [hrest] at h
          cases h
        | ok rest =>
          rw [hrest] at h
          cases h
          exact .cons ⟨rs, hr, hfr⟩ (ih hrest)

theorem scanThreads_total {entries : List String} (hl : ∀ e ∈ entries, e.length ≤ Number.maxDigits)
    (hf : ∀ r, r.ticks.length = fs.length → ∃ a, f r = .ok a) :
    ∃ as, (scanThreads fs source fail f (process ++ "task") entries).2 = .ok as := by
  induction entries with
  | nil => exact ⟨[], rfl⟩
  | cons e entries ih =>
    obtain ⟨as, has⟩ := ih fun d hd => hl d (by simp [hd])
    have ho := readThread_outcome fs source process e
    rw [scanThreads_cons, has]
    generalize readThread fs source (process ++ "task") e = result at ho ⊢
    cases ho with
    | rejected => exact ⟨as, rfl⟩
    | tooLong _ hlong => exact absurd (hl e (by simp)) (by omega)
    | unreadable => exact ⟨as, rfl⟩
    | changed => exact ⟨as, rfl⟩
    | @included _ _ rs _ hfs =>
      obtain ⟨a, ha⟩ := hf (threadReading source process e rs) (by simp [threadReading, ← hfs])
      refine ⟨a :: as, ?_⟩
      change (f (threadReading source process e rs)).bind _ = _
      rw [ha]
      rfl

theorem scanProcess_of_listing {entries : List String} (h : source.listing process = .ok entries) :
    (scanProcess fs source fail f process).2 =
      (scanThreads fs source fail f (process ++ "task") entries).2.map fun threads =>
        if threads.isEmpty then none
        else some { name := processName source process, threads := threads } := by
  rw [scanProcess, h]
  dsimp only
  rcases scanThreads fs source fail f (process ++ "task") entries with ⟨events, e | threads⟩
  · rfl
  · cases threads <;> rfl

theorem scanProcess_of_refused {cause : FileCause} {p : String}
    (h : source.listing process = .error (.refused cause p)) :
    (scanProcess fs source fail f process).2 = .ok none := by
  rw [scanProcess, h]

end Scan

end Residency
