import Residency.Proofs.Log.Lines
import Residency.Proofs.Log.Rotation
import Residency.Session

namespace Residency

namespace LogRecord

def isWritten (host : Host) (r : LogRecord) : Bool :=
  r.isLogged && r.depth ≤ host.depth

def linesOf (host : Host) (records : List LogRecord) : List (List Char) :=
  (records.filter (isWritten host)).map fun r => (Json.obj (r.lineMembers host.stamp)).compact

def lineBytes (line : List Char) : List UInt8 :=
  Text.Utf8.encode (line ++ ['\n'])

theorem linesOf_append (host : Host) (records more : List LogRecord) :
    linesOf host (records ++ more) = linesOf host records ++ linesOf host more := by
  simp [linesOf]

theorem length_encode_of_ascii {s : List Char} (h : ∀ c ∈ s, c ≤ '~') :
    (Text.Utf8.encode s).length = s.length := by
  rw [Text.Utf8.encode]
  induction s with
  | nil => rfl
  | cons c s ih =>
    have hsize : (String.utf8EncodeChar c).length = 1 := by
      rw [String.length_utf8EncodeChar, Char.utf8Size_eq_one_iff]
      exact UInt32.le_trans (Char.le_def.mp (h c (by simp))) (by decide)
    rw [List.flatMap_cons, List.length_append, hsize, ih fun d hd => h d (by simp [hd]),
      List.length_cons, Nat.add_comm]

variable {host : Host} {records : List LogRecord} (h : ∀ r ∈ records, r.Admissible)
include h

theorem readyAll_of_admissible
    (hdepth : ∀ r ∈ records, r.isLogged = true → r.depth ≤ host.depth + reportDepth) :
    readyAll host records = (records, none) := by
  induction records with
  | nil => rfl
  | cons r rest ih =>
    rw [readyAll, (h r (by simp)).ready_eq (hdepth r (by simp))]
    dsimp only
    rw [ih (fun other ho => h other (by simp [ho])) fun other ho => hdepth other (by simp [ho])]

theorem loggedLines_of_admissible : FileTree.loggedLines host records =
    (records.filter (isWritten host)).map fun r =>
      (r, (Json.obj (r.lineMembers host.stamp)).compact ++ ['\n']) := by
  rw [FileTree.loggedLines]
  induction records with
  | nil => rfl
  | cons r rest ih =>
    have hrest := ih fun other ho => h other (by simp [ho])
    cases hlogged : r.isLogged with
    | false => simpa [List.filter_cons, isWritten, hlogged] using hrest
    | true =>
      rw [List.filter_cons_of_pos hlogged, List.filterMap_cons]
      by_cases hdepth : r.depth ≤ host.depth
      · rw [(h r (by simp)).line?_eq host hdepth, hrest]
        simp [isWritten, hlogged, hdepth]
      · rw [(h r (by simp)).line?_eq_none host (Nat.lt_of_not_le hdepth), hrest]
        simp [isWritten, hlogged, hdepth]

theorem forall₂_isLineOf : List.Forall₂ (IsLineOf host.stamp) (records.filter (isWritten host))
    (linesOf host records) := by
  rw [linesOf, List.forall₂_map_right_iff, List.forall₂_same]
  exact fun r hr => (h r (List.mem_of_mem_filter hr)).isLineOf host.stamp

theorem addAll_of_admissible {l : LogState} {limits : LogLimits} {f : LogFiles}
    (hlog : HasLogFiles l.tree host.home f) (hcount : limits.count? = some f.older.length) :
    HasLogFiles (l.addAll host limits records).tree host.home
        (((linesOf host records).map lineBytes).foldl (LogFiles.add limits) f) ∧
      (l.addAll host limits records).records <:+ l.records ++ records.filter (isWritten host) := by
  have hlines : ∀ entry ∈ FileTree.loggedLines host records,
      (Text.Utf8.encode entry.2).length = entry.2.length := by
    rw [loggedLines_of_admissible h, List.forall_mem_map]
    intro r hr
    refine length_encode_of_ascii fun c hc => ?_
    obtain hc | hc := List.mem_append.mp hc
    · exact (((h r (List.mem_of_mem_filter hr)).isLineOf host.stamp).printable c hc).2
    · rw [List.mem_singleton.mp hc]
      decide
  obtain ⟨hfiles, hrecords⟩ := LogState.addAll_of_hasLogFiles hlog hcount hlines
  rw [loggedLines_of_admissible h, List.map_map] at hfiles hrecords
  refine ⟨?_, ?_⟩
  · rw [linesOf, List.map_map, LogState.addAll, loggedLines_of_admissible h]
    exact hfiles
  · rw [LogState.addAll, loggedLines_of_admissible h]
    simpa [Function.comp_def] using hrecords

end LogRecord

namespace Session

open LogRecord

variable {s : Session} {opened : FileTree} {f : LogFiles} {older : List (Option (List UInt8))}
  {batch : List LogRecord}

def TellsOf (host : Host) (batch : List LogRecord) (a : Answer) : Prop :=
  ∃ records, a = { reply := .ok .done, records := records } ∧
    records <:+ batch.filter (isWritten host)

theorem log_of_openLog (h : ∀ r ∈ batch, r.Admissible)
    (hdepth : ∀ r ∈ batch, r.isLogged = true → r.depth ≤ s.host.depth + reportDepth)
    (hopen : s.tree.openLog s.host.home (s.draft.value .logBytes) = (opened, .ok ()))
    (hlog : HasLogFiles opened s.host.home f)
    (hcount : s.draft.logLimits.count? = some f.older.length) :
    ∃ t' a, s.step (.log batch) = ({ s with tree := t' }, a) ∧ TellsOf s.host batch a ∧
      HasLogFiles t' s.host.home
        (((linesOf s.host batch).map lineBytes).foldl (LogFiles.add s.draft.logLimits) f) := by
  obtain ⟨hfiles, hrecords⟩ := addAll_of_admissible h (l := { tree := opened }) hlog hcount
  refine ⟨_, _, ?_, ⟨_, rfl, hrecords⟩, hfiles⟩
  rw [step, log, hopen]
  dsimp only
  rw [readyAll_of_admissible h hdepth]

theorem steps_cons {step : Step} {rest : List Step} {s' : Session} {a : Answer}
    (h : s.step step = (s', a)) :
    s.steps (step :: rest) = ((s'.steps rest).1, a :: (s'.steps rest).2) := by
  rw [steps, h]

theorem steps_log {batches : List (List LogRecord)}
    (h : ∀ batch ∈ batches, ∀ r ∈ batch, r.Admissible)
    (hdepth : ∀ batch ∈ batches, ∀ r ∈ batch, r.isLogged = true →
      r.depth ≤ s.host.depth + reportDepth)
    (hsize : IsSize (s.draft.value .logBytes)) (hlog : HasLogFiles s.tree s.host.home f)
    (hcount : s.draft.logLimits.count? = some f.older.length) :
    ∃ t' answers, s.steps (batches.map .log) = ({ s with tree := t' }, answers) ∧
      List.Forall₂ (TellsOf s.host) batches answers ∧ HasLogFiles t' s.host.home
        (((linesOf s.host batches.flatten).map lineBytes).foldl
          (LogFiles.add s.draft.logLimits) f) := by
  induction batches generalizing s f with
  | nil => exact ⟨s.tree, [], rfl, .nil, hlog⟩
  | cons batch batches ih =>
    obtain ⟨opened, hopen, hopened⟩ := hlog.openLog hsize
    obtain ⟨next, a, hstep, ha, hnext⟩ :=
      log_of_openLog (h batch (by simp)) (hdepth batch (by simp)) hopen hopened hcount
    obtain ⟨t', answers, hsteps, hanswers, ht'⟩ := ih (s := { s with tree := next })
      (fun other ho => h other (List.mem_cons_of_mem batch ho))
      (fun other ho => hdepth other (List.mem_cons_of_mem batch ho)) hsize hnext
      (by rw [LogFiles.length_older_foldl_add]; exact hcount)
    refine ⟨t', a :: answers, ?_, .cons ha hanswers, ?_⟩
    · rw [List.map_cons, steps_cons hstep, hsteps]
    · rw [List.flatten_cons, linesOf_append, List.map_append, List.foldl_append]
      exact ht'

def tinySettings : Settings :=
  { logBytes := 1, logBackups := 2 }

def tinySession : Session :=
  { host :=
      { pid := 1
        uid := 1000
        clock := "12:34:56"
        home := { root := .slash, parts := ["home"] }
        owner := fun _ => .gone }
    draft := tinySettings.toDraft }

def forgedRecord : LogRecord :=
  { level := .info
    event := .str "done\n\x7b\"event\": \"forged\"\x7d %s"
    fields := [("user\r\n", .str "\u2028\""), ("ids", .arr [.int (-3), .null, .bool true])] }

def hiddenRecord : LogRecord :=
  { level := .debug, event := .str "unseen", fields := [("k", .obj [("a", .int 1)])] }

def libraryRecord : LogRecord :=
  { level := .warning, source := .library, event := .str "100%\n" }

theorem lineBytes_ne_nil (line : List Char) : lineBytes line ≠ [] := by
  intro h
  have hlength := congrArg List.length h
  rw [lineBytes, Text.Utf8.encode, List.flatMap_append, List.length_append] at hlength
  exact absurd hlength (Nat.succ_ne_zero _)

def deepValue : ℕ → Json
  | 0 => .null
  | n + 1 => .arr [deepValue n]

def deepRecord : LogRecord :=
  { level := .info, event := .str "deep", fields := [("k", deepValue 1000)] }

theorem length_le_count_newline (lines : List (List Char)) :
    lines.length ≤ (Text.Utf8.encode (lines.flatMap (· ++ ['\n']))).count 10 := by
  induction lines with
  | nil => exact Nat.zero_le _
  | cons line lines ih =>
    rw [Text.Utf8.encode] at ih ⊢
    rw [List.flatMap_cons, List.flatMap_append, List.flatMap_append, List.count_append,
      List.count_append]
    have hnewline : (['\n'].flatMap String.utf8EncodeChar).count 10 = 1 := by decide +kernel
    rw [List.length_cons, hnewline]
    omega

end Session

end Residency
