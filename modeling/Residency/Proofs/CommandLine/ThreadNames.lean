import Residency.Proofs.CommandLine.CsvReport
import Residency.Proofs.CommandLine.JsonReport

namespace Residency.CommandLine

section Names

def namesInRows (limit : ℕ) (output : List Char) : Option (List String) :=
  (Csv.read limit output).toOption.bind fun rows =>
    rows.tail.mapM fun row => row[1]?.map String.ofList

def threadName? (record : Json) : Option String :=
  match record.field "thread_name" with
  | .ok (.str name) => some name
  | _ => none

def namesInJson (output : List Char) : Option (List String) :=
  (Json.read (String.ofList output)).toOption.bind fun value =>
    (value.field "thread_cpu_usages").toOption.bind fun threads =>
      threads.elements.toOption.bind fun records => records.mapM threadName?

def IsKept (limit : ℕ) (name : String) : Prop :=
  name.toList.length ≤ limit ∧ ∀ q, Text.IsSequence q → ¬ q <:+: name.toList

theorem isKept_iff {limit : ℕ} {name : String}
    (hfits : (Text.withoutEscapes name.toList).length ≤ limit) :
    IsKept limit name ↔ String.ofList (Text.withoutEscapes name.toList) = name := by
  have heq : String.ofList (Text.withoutEscapes name.toList) = name ↔
      Text.withoutEscapes name.toList = name.toList := by
    rw [← String.toList_inj, String.toList_ofList]
  rw [IsKept, heq, Text.withoutEscapes_eq_self_iff, and_iff_right_iff_imp]
  intro hnone
  rwa [← Text.withoutEscapes_eq_self_iff.mpr hnone]

theorem IsKept.length_le {limit : ℕ} {name : String} (h : IsKept limit name) :
    (Text.withoutEscapes name.toList).length ≤ limit :=
  (Text.removed_withoutEscapes name.toList).sublist.length_le.trans h.1

end Names

section Run

variable {host : Host} {tree opened : FileTree} {s : Settings} {c : Collector} {pid : Option ℤ}
  {u : ProcessUsage} (h : TakesSnapshot host tree opened s c pid u)
  (hclock : Notice.IsClock host.clock) (hshort : IsShort c u)
include h hclock hshort

theorem namesInJson_run {args : List String}
    (hargs : Request.ofArguments args = .ok (.snapshot pid .json)) (input : String) :
    (run host tree args input).exitCode = 0 ∧ (run host tree args input).failure = none ∧
      namesInJson (run host tree args input).output = some (u.threads.map (·.name)) := by
  have hplain : (Report.snapshotValue c.minFrequencies u).Plain Json.maxDepth :=
    Report.plain_snapshotValue hshort.usage hshort.frequencies
  obtain ⟨hcode, hfailure, -, houtput⟩ :=
    run_of_piece h hclock hshort.isTold hargs (Report.json_of_plain hplain) input
  have hlines : ∀ ch ∈ Json.indented 0 (Report.snapshotValue c.minFrequencies u) ++ ['\n'],
      Json.InLines ch := by
    rw [List.forall_mem_append]
    exact ⟨Json.inLines_of_mem_indented hplain.floatFree 0, by decide⟩
  have hread : Json.read (String.ofList
      (Json.indented 0 (Report.snapshotValue c.minFrequencies u) ++ ['\n'])) =
        .ok (Report.snapshotValue c.minFrequencies u) :=
    Json.read_indented hplain.within hplain.floatFree (Json.endsNumber_newLine 0 []) (by decide)
  have hfield : (Report.snapshotValue c.minFrequencies u).field "thread_cpu_usages" =
      .ok (.arr (u.threads.map fun t => t.toRecord.toJson)) := by
    rw [← Function.comp_def, ← List.map_map]
    rfl
  refine ⟨hcode, hfailure, ?_⟩
  rw [houtput, printed_eq_self hlines, namesInJson, hread]
  simp only [Except.toOption, Option.bind_some, hfield, Json.elements]
  refine mapM_map_of_some (fun t => ?_) u.threads
  rfl

variable {args : List String} (hargs : Request.ofArguments args = .ok (.snapshot pid .csv))
  (hnames : ∀ t ∈ u.threads, '\r' ∉ t.name.toList) {limit : ℕ} (hlimit : Number.maxDigits < limit)
include hargs hnames hlimit

theorem namesInRows_run
    (hfits : ∀ t ∈ u.threads, (Text.withoutEscapes t.name.toList).length ≤ limit)
    (input : String) : namesInRows limit (run host tree args input).output =
      some (u.threads.map fun t => String.ofList (Text.withoutEscapes t.name.toList)) := by
  rw [namesInRows, read_run h hclock hshort hargs hnames hlimit hfits]
  simp only [Except.toOption, Option.bind_some, List.tail_cons]
  refine mapM_map_of_some (fun t => ?_) u.threads
  rfl

theorem namesInRows_run_of_long
    (hlong : ∃ t ∈ u.threads, limit < (Text.withoutEscapes t.name.toList).length)
    (input : String) : namesInRows limit (run host tree args input).output = none := by
  obtain ⟨-, -, houtput⟩ := run_csv h hclock hshort hargs input
  rw [namesInRows, houtput, read_printedRows_of_long hnames hlimit hshort.frequencies
    (fun t ht n hn => hshort.usage n (ProcessUsage.mem_integers ht hn)) hlong]
  rfl

omit hargs hnames in
/-- A name that was read is a first line, so only the default name could have a carriage return. -/
theorem names_agree_iff {csvArgs jsonArgs : List String}
    (hcsv : Request.ofArguments csvArgs = .ok (.snapshot pid .csv))
    (hjson : Request.ofArguments jsonArgs = .ok (.snapshot pid .json))
    (hdefault : ∀ t ∈ u.threads, t.name = c.defaultThreadName → '\r' ∉ t.name.toList)
    (input : String) :
    (run host tree csvArgs input).exitCode = 0 ∧ (run host tree csvArgs input).failure = none ∧
      (run host tree jsonArgs input).exitCode = 0 ∧ (run host tree jsonArgs input).failure = none ∧
      namesInJson (run host tree jsonArgs input).output = some (u.threads.map (·.name)) ∧
      (∀ names, namesInRows limit (run host tree csvArgs input).output = some names →
        List.Forall₂ (fun t name => Text.Removed Text.IsSequence t.name.toList name.toList)
          u.threads names) ∧
      (namesInRows limit (run host tree csvArgs input).output =
          namesInJson (run host tree jsonArgs input).output ↔
        ∀ t ∈ u.threads, IsKept limit t.name) := by
  have hnames := h.return_not_mem_names hdefault
  obtain ⟨hcode, hfailure, -⟩ := run_csv h hclock hshort hcsv input
  obtain ⟨hcode', hfailure', hread⟩ := namesInJson_run h hclock hshort hjson input
  refine ⟨hcode, hfailure, hcode', hfailure', hread, ?_⟩
  rw [hread]
  by_cases hfits : ∀ t ∈ u.threads, (Text.withoutEscapes t.name.toList).length ≤ limit
  · rw [namesInRows_run h hclock hshort hcsv hnames hlimit hfits]
    constructor
    · intro names hshown
      cases hshown
      rw [List.forall₂_map_right_iff, List.forall₂_same]
      intro t _
      rw [String.toList_ofList]
      exact Text.removed_withoutEscapes _
    · rw [Option.some.injEq, List.map_inj_left]
      exact forall₂_congr fun t ht => (isKept_iff (hfits t ht)).symm
  · have hlong : ∃ t ∈ u.threads, limit < (Text.withoutEscapes t.name.toList).length := by
      simpa using hfits
    rw [namesInRows_run_of_long h hclock hshort hcsv hnames hlimit hlong]
    exact ⟨nofun, iff_of_false nofun fun hkept => hfits fun t ht => (hkept t ht).length_le⟩

end Run

theorem ofArguments_json : Request.ofArguments ["snapshot", "5", "--format", "json"] =
    .ok (.snapshot (some 5) .json) :=
  ofArguments_sample rfl

theorem names_agree_iff_of_sample :
    namesInJson (sampleOutcome 10 "a,\"b\"\n\x1b[31mc\x1b[3" "json").output =
        some ["a,\"b\"\n\x1b[31mc\x1b[3", "\"\x1b[;2H😀,\x1b[\\\x07"] ∧
      namesInRows Csv.fieldLimit (sampleOutcome 10 "a,\"b\"\n\x1b[31mc\x1b[3" "csv").output ≠
        namesInJson (sampleOutcome 10 "a,\"b\"\n\x1b[31mc\x1b[3" "json").output := by
  let u := sampleUsage 10 "a,\"b\"\n\x1b[31mc\x1b[3"
  have hnames : ∀ t ∈ u.threads, '\r' ∉ t.name.toList := by decide
  obtain ⟨-, -, -, -, hjson, -, hagree⟩ :=
    names_agree_iff (takesSnapshot_sample _ (by decide) (by decide)) isClock_sampleHost
      (isShort_sample _) (by decide : Number.maxDigits < Csv.fieldLimit) ofArguments_csv
      ofArguments_json (fun t ht _ => hnames t ht) ""
  refine ⟨hjson, fun heq => ?_⟩
  have hkept := hagree.mp heq _ List.mem_cons_self
  refine hkept.2 "\x1b[31m".toList ⟨['3', '1'], [], 'm', by decide, by decide, by decide, rfl⟩ ?_
  exact ⟨"a,\"b\"\n".toList, "c\x1b[3".toList, by decide⟩

theorem names_differ_of_sample :
    (sampleOutcome 10 "k" "csv").exitCode = 0 ∧ (sampleOutcome 10 "k" "json").exitCode = 0 ∧
      namesInRows Csv.fieldLimit (sampleOutcome 10 "k" "csv").output = some ["k", "\"😀,\x07"] ∧
      namesInJson (sampleOutcome 10 "k" "json").output =
        some ["k", "\"\x1b[;2H😀,\x1b[\\\x07"] := by
  have htakes := takesSnapshot_sample "k" (by decide : (1 : ℤ) ≤ 10) (by decide)
  have hnames : ∀ t ∈ (sampleUsage 10 "k").threads, '\r' ∉ t.name.toList := by decide
  have hfits : ∀ t ∈ (sampleUsage 10 "k").threads,
      (Text.withoutEscapes t.name.toList).length ≤ Csv.fieldLimit := by decide
  obtain ⟨hcode, -, -⟩ :=
    run_csv htakes isClock_sampleHost (isShort_sample _) ofArguments_csv ""
  obtain ⟨hcode', -, hjson⟩ :=
    namesInJson_run htakes isClock_sampleHost (isShort_sample _) ofArguments_json ""
  have hrows := namesInRows_run htakes isClock_sampleHost (isShort_sample _) ofArguments_csv hnames
    (by decide : Number.maxDigits < Csv.fieldLimit) hfits ""
  refine ⟨hcode, hcode', hrows.trans ?_, hjson⟩
  decide

end Residency.CommandLine
