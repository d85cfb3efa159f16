import Residency.Proofs.CommandLine.Snapshots
import Residency.Proofs.Json.Indented
import Residency.Proofs.Json.Printable

namespace Residency

namespace Report

variable {fs : List ℤ} {u : ProcessUsage}

theorem plain_snapshotValue {depth : ℕ} (hu : ∀ n ∈ u.integers, Number.isWritable n = true)
    (hf : ∀ n ∈ fs, Number.isWritable n = true) : (snapshotValue fs u).Plain (depth + 4) := by
  have hrecord : u.toJson.Plain (depth + 4) := u.plain_toJson hu
  have hfrequencies : Json.Plain (depth + 3) (.arr (fs.map .int)) := by
    refine Json.plain_arr fun v hv => ?_
    obtain ⟨n, hn, rfl⟩ := List.mem_map.mp hv
    exact Json.plain_int (hf n hn)
  refine Json.plain_obj (by simp [ProcessRecord.members]) fun m hm => ?_
  rcases List.mem_append.mp hm with hm | hm
  · exact ⟨(Json.within_obj.mp hrecord.within).2 m hm, Json.floatFree_obj.mp hrecord.floatFree m hm⟩
  · rw [List.mem_singleton.mp hm]
    exact hfrequencies

theorem json_of_plain {depth : ℕ} (h : (snapshotValue fs u).Plain depth) :
    json fs u = { pieces := [Json.indented 0 (snapshotValue fs u) ++ ['\n']] } := by
  rw [json, if_pos (Json.isWritable_of_within h.within)]
  rfl

end Report

namespace CommandLine

theorem printed_eq_self {s : List Char} (h : ∀ c ∈ s, Json.InLines c) :
    Text.withoutEscapes s = s :=
  Text.withoutEscapes_of_escape_not_mem fun hmem => absurd (h _ hmem) (by decide)

theorem snapshot_json {host : Host} {tree opened : FileTree} {s : Settings} {c : Collector}
    {pid : Option ℤ} {u : ProcessUsage} (h : TakesSnapshot host tree opened s c pid u)
    (hclock : Notice.IsClock host.clock) (hshort : IsShort c u) {args : List String}
    (hargs : Request.ofArguments args = .ok (.snapshot pid .json)) (input : String) :
    (run host tree args input).exitCode = 0 ∧ (run host tree args input).failure = none ∧
      Json.read (String.ofList (run host tree args input).output) =
        .ok (.obj (u.toRecord.members ++
          [("cpu_frequencies_khz", .arr (c.minFrequencies.map .int))])) := by
  have hplain : (Report.snapshotValue c.minFrequencies u).Plain Json.maxDepth :=
    Report.plain_snapshotValue hshort.usage hshort.frequencies
  obtain ⟨hcode, hfailure, -, houtput⟩ :=
    run_of_piece h hclock hshort.isTold hargs (Report.json_of_plain hplain) input
  have hlines : ∀ ch ∈ Json.indented 0 (Report.snapshotValue c.minFrequencies u) ++ ['\n'],
      Json.InLines ch := by
    rw [List.forall_mem_append]
    exact ⟨Json.inLines_of_mem_indented hplain.floatFree 0, by decide⟩
  refine ⟨hcode, hfailure, ?_⟩
  rw [houtput, printed_eq_self hlines]
  exact Json.read_indented hplain.within hplain.floatFree (Json.endsNumber_newLine 0 []) (by decide)

theorem snapshot_json_of_sample :
    (sampleOutcome 10 "a,\"b\"\n\x1b[31mc\x1b[3" "json").exitCode = 0 ∧
    Json.read (String.ofList (sampleOutcome 10 "a,\"b\"\n\x1b[31mc\x1b[3" "json").output) =
      .ok (.obj [("process_id", .int 5), ("process_name", .str "sh\x1b[0m\r\n\"😀"),
        ("uid", .int 0),
        ("thread_cpu_usages", .arr [
          .obj [("thread_id", .int 5), ("thread_name", .str "a,\"b\"\n\x1b[31mc\x1b[3"),
            ("usage_times_millis", .arr [.int 30, .int 30])],
          .obj [("thread_id", .int 8), ("thread_name", .str "\"\x1b[;2H😀,\x1b[\\\x07"),
            ("usage_times_millis", .arr [.int 40, .int 0])]]),
        ("cpu_frequencies_khz", .arr [.int 100, .int 150])]) := by
  have hargs : Request.ofArguments ["snapshot", "5", "--format", "json"] =
      .ok (.snapshot (some 5) .json) := ofArguments_sample rfl
  obtain ⟨hcode, -, hread⟩ := snapshot_json (takesSnapshot_sample _ (by decide) (by decide))
    isClock_sampleHost (isShort_sample _) hargs ""
  exact ⟨hcode, hread⟩

end CommandLine

end Residency
