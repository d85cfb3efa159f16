import Residency.Proofs.CommandLine.Endings
import Residency.Proofs.EscapeSequences
import Residency.Proofs.Labels.Figures
import Residency.Proofs.Words

namespace Residency

section Lines

open Text

variable {l : List Char} {ls : List (List Char)}

theorem Text.lines_flatMap (h : ∀ l ∈ ls, IsUnbroken l) :
    lines (ls.flatMap (· ++ ['\n'])) = ls := by
  induction ls with
  | nil => rfl
  | cons l ls ih =>
    obtain ⟨hl, hls⟩ := List.forall_mem_cons.mp h
    have hfeed : lines ('\n' :: ls.flatMap (· ++ ['\n'])) = [] :: ls := by
      rw [lines_break_cons (by decide) (by simp), ih hls]
    rw [List.flatMap_cons, List.append_assoc]
    rw [List.singleton_append, lines_unbroken_append hl hfeed, List.append_nil]

namespace CommandLine

theorem escape_not_mem_of_printable (h : ∀ c ∈ l, IsPrintable c) : escape ∉ l :=
  fun hmem => (h _ hmem).ne_of_lt (by decide) rfl

theorem withoutEscapes_of_printable (h : ∀ c ∈ l, IsPrintable c) : withoutEscapes l = l :=
  withoutEscapes_of_escape_not_mem (escape_not_mem_of_printable h)

theorem feed_not_mem_stripped (h : ∀ l ∈ ls, '\n' ∉ l) : ∀ l ∈ ls.map withoutEscapes, '\n' ∉ l := by
  rw [List.forall_mem_map]
  exact fun l hl hmem => h l hl ((removed_withoutEscapes l).subset hmem)

theorem unbroken_stripped (h : ∀ l ∈ ls, IsUnbroken l) :
    ∀ l ∈ ls.map withoutEscapes, IsUnbroken l := by
  rw [List.forall_mem_map]
  exact fun l hl c hc => h l hl c ((removed_withoutEscapes l).subset hc)

theorem withoutEscapes_newLine (l : List Char) :
    withoutEscapes (l ++ ['\n']) = withoutEscapes l ++ ['\n'] := by
  have hinert : Inert ['\n'] := inert_of_line (l := []) (by simp) []
  rw [withoutEscapes_append hinert]
  rfl

theorem printed_lines (ls : List (List Char)) :
    (ls.map (· ++ ['\n'])).flatMap withoutEscapes =
      (ls.map withoutEscapes).flatMap (· ++ ['\n']) := by
  rw [List.flatMap_map, List.flatMap_map]
  exact List.flatMap_congr fun l _ => withoutEscapes_newLine l

end CommandLine

end Lines

namespace Report

theorem failure_ofLines_eq_none_iff {xs : List (Except LabelError (List Char))} :
    (ofLines xs).failure = none ↔ ∀ x ∈ xs, ∃ l, x = .ok l := by
  induction xs with
  | nil => exact iff_of_true rfl (by simp)
  | cons x xs ih =>
    rw [List.forall_mem_cons, ← ih]
    cases x with
    | error e =>
      refine iff_of_false (Option.some_ne_none e) ?_
      rintro ⟨⟨l, hl⟩, -⟩
      cases hl
    | ok l => exact ⟨fun h => ⟨⟨l, rfl⟩, h⟩, fun h => h.2⟩

theorem lines_of_ofLines {xs : List (Except LabelError (List Char))}
    (h : (ofLines xs).failure = none) : ∃ ls, List.Forall₂ (fun x l => x = .ok l) xs ls ∧
      (ofLines xs).pieces = ls.map (· ++ ['\n']) := by
  induction xs with
  | nil => exact ⟨[], .nil, rfl⟩
  | cons x xs ih =>
    cases x with
    | error e => cases h
    | ok l =>
      obtain ⟨ls, hls, hpieces⟩ := ih h
      refine ⟨l :: ls, .cons rfl hls, ?_⟩
      rw [List.map_cons, ← hpieces]
      rfl

end Report

namespace CommandLine

section Run

variable {host : Host} {tree opened : FileTree} {s : Settings} {c : Collector}

structure IsCutOff (o : Outcome) : Prop where
  exitCode : o.exitCode = 1
  output : o.output = []

theorem notice_cases {o : Outcome} (h : IsSilent o) (host : Host) (n : Notice) :
    (∃ line, o.notice host n = .ok { o with console := o.console ++ line }) ∨
      ∃ ended, o.notice host n = .error ended ∧ IsCutOff ended := by
  rw [Outcome.notice]
  cases n.line host.columns host.clock with
  | ok line => exact .inl ⟨line, rfl⟩
  | error e => exact .inr ⟨_, rfl, rfl, h.output⟩

theorem startCollector_cases (has : HasCollector host tree opened s c) :
    (∃ o, startCollector host s { tree := tree } = .ok (c, o) ∧ IsSilent o ∧
      o.tree = opened.log host s.logLimits [c.readyEvent.toRecord]) ∨
    ∃ ended, startCollector host s { tree := tree } = .error ended ∧ IsCutOff ended := by
  have hsilent : IsSilent (Outcome.log host s.logLimits [c.readyEvent] { tree := opened }) :=
    ⟨rfl, rfl, rfl, rfl⟩
  rw [startCollector_eq has.opens has.create]
  rcases notice_cases hsilent host
    (.collectorReady (.int c.mapping.frequencies.length) (.int c.mapping.count)) with
    ⟨line, hline⟩ | ⟨ended, hended, hcut⟩
  · rw [hline]
    exact .inl ⟨_, rfl, ⟨rfl, rfl, rfl, rfl⟩, rfl⟩
  · rw [hended]
    exact .inr ⟨ended, rfl, hcut⟩

theorem runSnapshot_cases (hload : loadSettings host { tree := tree } = .ok s)
    (has : HasCollector host tree opened s c) {pid : Option ℤ} {u : ProcessUsage}
    (hanswer : answer host opened s c pid = .ok (some u)) (format : Format) :
    (∃ o, runSnapshot host pid format { tree := tree } =
        o.report (snapshotReport format c.minFrequencies u) ∧ IsSilent o) ∨
      ∃ ended, runSnapshot host pid format { tree := tree } = .error ended ∧ IsCutOff ended := by
  rcases startCollector_cases has with ⟨o, hstart, hsilent, htree⟩ | ⟨ended, hended, hcut⟩
  · rw [answer, ← htree] at hanswer
    rcases hasked : c.asked o.tree.statsSource host pid with ⟨events, usage⟩
    rw [hasked] at hanswer
    dsimp only at hanswer
    have hlogged : IsSilent (o.log host s.logLimits events) :=
      ⟨hsilent.output, hsilent.errors, hsilent.exitCode, hsilent.failure⟩
    rw [runSnapshot_of_asked hload hstart hasked, hanswer, concluded]
    rcases notice_cases hlogged host (.snapshotTaken (.int u.id) (.int u.threads.length)) with
      ⟨line, hline⟩ | ⟨ended, hended, hcut⟩
    · rw [hline]
      exact .inl ⟨_, rfl, hlogged.withConsole _⟩
    · rw [hended]
      exact .inr ⟨ended, rfl, hcut⟩
  · refine .inr ⟨ended, ?_, hcut⟩
    rw [runSnapshot, hload, ok_bind_eq, hended]
    rfl

theorem reported_of_exitCode {o : Outcome} (h : IsSilent o) {r : Report}
    (hcode : (Outcome.ofRun (o.report r)).exitCode = 0) :
    reported r = .ok (0, (Outcome.ofRun (o.report r)).output) := by
  rw [Outcome.report, foldl_print, h.output] at hcode ⊢
  rw [reported]
  cases hfailure : r.failure with
  | none => rfl
  | some e =>
    rw [hfailure] at hcode
    cases hcode

theorem exitCode_of_report {o : Outcome} (h : IsSilent o) {r : Report}
    (hfailure : r.failure = none) : (Outcome.ofRun (o.report r)).exitCode = 0 := by
  rw [Outcome.report, foldl_print, hfailure]
  exact h.exitCode

variable {args : List String} {input : String}
  (hload : Settings.load tree (Settings.filePath host.home) = .ok s)
  (has : HasCollector host tree opened s c)
include hload has

theorem reported_frequencies (hargs : Request.ofArguments args = .ok .frequencies)
    (hcode : (run host tree args input).exitCode = 0) :
    reported (Report.frequencies c.minFrequencies) =
      .ok (0, (run host tree args input).output) := by
  have hsettings : loadSettings host { tree := tree } = .ok s := by rw [loadSettings, hload]
  rw [run_of_request hargs] at hcode ⊢
  rcases startCollector_cases has with ⟨o, hstart, hsilent, -⟩ | ⟨ended, hended, hcut⟩
  · rw [runRequest, runFrequencies_of_started hsettings hstart] at hcode ⊢
    exact reported_of_exitCode hsilent hcode
  · rw [runRequest_of_error hsettings hended rfl] at hcode
    cases hcut.exitCode.symm.trans hcode

theorem printed_snapshot {pid : Option ℤ} {format : Format} {u : ProcessUsage}
    (hargs : Request.ofArguments args = .ok (.snapshot pid format))
    (hanswer : answer host opened s c pid = .ok (some u)) :
    ((run host tree args input).exitCode = 1 ∧ (run host tree args input).output = []) ∨
      ((run host tree args input).output =
          (snapshotReport format c.minFrequencies u).pieces.flatMap Text.withoutEscapes ∧
        ((run host tree args input).exitCode = 0 ↔
          (snapshotReport format c.minFrequencies u).failure = none)) := by
  have hsettings : loadSettings host { tree := tree } = .ok s := by rw [loadSettings, hload]
  rw [run_of_request hargs, runRequest]
  rcases runSnapshot_cases hsettings has hanswer format with
    ⟨o, hreport, hsilent⟩ | ⟨ended, hended, hcut⟩
  · right
    rw [hreport, Outcome.report, foldl_print, hsilent.output]
    cases (snapshotReport format c.minFrequencies u).failure with
    | none => exact ⟨rfl, iff_of_true hsilent.exitCode rfl⟩
    | some e => exact ⟨rfl, iff_of_false Nat.one_ne_zero (Option.some_ne_none e)⟩
  · left
    rw [hended]
    exact ⟨hcut.exitCode, hcut.output⟩

theorem reported_snapshot {pid : Option ℤ} {format : Format} {u : ProcessUsage}
    (hargs : Request.ofArguments args = .ok (.snapshot pid format))
    (hanswer : answer host opened s c pid = .ok (some u))
    (hcode : (run host tree args input).exitCode = 0) :
    reported (snapshotReport format c.minFrequencies u) =
      .ok (0, (run host tree args input).output) := by
  rcases printed_snapshot hload has hargs hanswer with ⟨hone, -⟩ | ⟨houtput, hfailure⟩
  · cases hone.symm.trans hcode
  · rw [reported, hfailure.mp hcode, houtput]

end Run

structure IsPrinted (output : List Char) (ls : List (List Char)) : Prop where
  output : output = ls.flatMap (· ++ ['\n'])
  line : ∀ l ∈ ls, '\n' ∉ l

theorem IsPrinted.lines_eq {output : List Char} {ls : List (List Char)} (h : IsPrinted output ls)
    (hls : ∀ l ∈ ls, Text.IsUnbroken l) : Text.lines output = ls := by
  rw [h.output, Text.lines_flatMap hls]

theorem printed_of_reported {xs : List (Except LabelError (List Char))} {output : List Char}
    (h : reported (Report.ofLines xs) = .ok (0, output)) :
    ∃ ls, List.Forall₂ (fun x l => x = .ok l) xs ls ∧
      ((∀ l ∈ ls, '\n' ∉ l) → IsPrinted output (ls.map Text.withoutEscapes)) := by
  rw [reported] at h
  cases hfailure : (Report.ofLines xs).failure with
  | some e =>
    rw [hfailure] at h
    cases h
  | none =>
    rw [hfailure] at h
    cases h
    obtain ⟨ls, hls, hpieces⟩ := Report.lines_of_ofLines hfailure
    exact ⟨ls, hls, fun hfeed => ⟨by rw [hpieces, printed_lines], feed_not_mem_stripped hfeed⟩⟩

end CommandLine

end Residency
