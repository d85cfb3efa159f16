import Residency.Proofs.CommandLine.Tables
import Residency.Proofs.Labels.Widths

namespace Residency

section Cells

open Report

variable {width : ℕ} {s row : List Char} {label : ℤ → Except LabelError String}
  {values : List ℤ}

theorem length_alignRight (h : s.length ≤ width) : (alignRight width s).length = width := by
  rw [alignRight, List.length_append, List.length_replicate]
  omega

theorem length_alignLeft (h : s.length ≤ width) : (alignLeft width s).length = width := by
  rw [alignLeft, List.length_append, List.length_replicate]
  omega

theorem exists_cells (h : ∀ n ∈ values, Label.FitsCell label n) :
    ∃ row, cells label values = .ok row ∧ row.length = 10 * values.length := by
  induction values with
  | nil => exact ⟨[], rfl, rfl⟩
  | cons n values ih =>
    obtain ⟨⟨s, hs, hwidth⟩, hvalues⟩ := List.forall_mem_cons.mp h
    obtain ⟨row, hrow, hlength⟩ := ih hvalues
    refine ⟨' ' :: ' ' :: alignRight 8 s.toList ++ row, ?_, ?_⟩
    · rw [cells, hs, ok_bind, hrow]
      rfl
    · simp only [List.length_append, List.length_cons, length_alignRight hwidth, hlength]
      omega

theorem exists_numeral {n : ℤ} (hlow : 0 ≤ n) (hhigh : n < 10 ^ 7) :
    ∃ s, numeral n = .ok s ∧ s.length ≤ 7 := by
  obtain ⟨m, rfl⟩ := Int.eq_ofNat_of_zero_le hlow
  have hlt : m < 10 ^ 7 := by exact_mod_cast hhigh
  have hlength := Label.length_toDigits_le (by decide) hlt
  have hshort : Number.isWritable m = true :=
    decide_eq_true (hlength.trans (by decide))
  exact ⟨Nat.toDigits 10 m, if_pos hshort, hlength⟩

end Cells

section Lines

open Report CommandLine

variable {fs : List ℤ} {u : ProcessUsage} {t : ThreadUsage} {width : ℕ} {s row : List Char}

structure IsTabular (fs : List ℤ) (u : ProcessUsage) : Prop where
  ids : ∀ t ∈ u.threads, t.id < 10 ^ 7
  times : ∀ t ∈ u.threads, ∀ n ∈ t.times, 0 ≤ n
  totals : ∀ n ∈ u.total, n < 6 * 10 ^ 8
  frequencies : ∀ f ∈ fs, 0 ≤ f ∧ f ≤ 99994999
  name : '\n' ∉ u.name.toList
  names : ∀ t ∈ u.threads, '\n' ∉ t.name.toList ∧ Text.escape ∉ t.name.toList

def IsAligned (width : ℕ) (x : Except LabelError (List Char)) : Prop :=
  ∃ l, x = .ok l ∧ l.length = width ∧ Text.withoutEscapes l = l

theorem isAligned_of_printable {l : List Char} (hlength : l.length = width)
    (h : ∀ c ∈ l, IsPrintable c) : IsAligned width (.ok l) :=
  ⟨l, rfl, hlength, withoutEscapes_of_printable h⟩

theorem isAligned_headedLine {label : ℤ → Except LabelError String} {values : List ℤ}
    {first second : String} (hlabel : ∀ n s, label n = .ok s → IsFigure s.toList)
    (hfits : ∀ n ∈ values, Label.FitsCell label n)
    (hfirst : first.toList.length ≤ 7 ∧ ∀ c ∈ first.toList, IsPrintable c)
    (hsecond : second.toList.length ≤ 16 ∧ ∀ c ∈ second.toList, IsPrintable c) :
    IsAligned (25 + 10 * values.length) ((cells label values).map (headedLine first second)) := by
  obtain ⟨row, hrow, hlength⟩ := exists_cells hfits
  have hline : (cells label values).map (headedLine first second) =
      .ok (headedLine first second row) := by
    rw [hrow]
    rfl
  have hplain := isPrintable_of_headedLine hlabel hfirst.2 hsecond.2 hline
  rw [hline]
  refine isAligned_of_printable ?_ hplain
  simp only [headedLine, List.length_append, length_alignRight hfirst.1,
    length_alignLeft hsecond.1, hlength]
  rfl

theorem isAligned_threadLine (hid : 0 ≤ t.id ∧ t.id < 10 ^ 7)
    (hfits : ∀ n ∈ t.times, Label.FitsCell Label.duration n)
    (hname : Text.escape ∉ t.name.toList) :
    IsAligned (25 + 10 * t.times.length) (threadLine t) := by
  obtain ⟨row, hrow, hlength⟩ := exists_cells hfits
  obtain ⟨id, hnumeral, hwidth⟩ := exists_numeral hid.1 hid.2
  have hcut : (t.name.toList.take 16).length ≤ 16 := by
    rw [List.length_take]
    exact min_le_left 16 _
  refine ⟨alignRight 7 id ++ "  ".toList ++ alignLeft 16 (t.name.toList.take 16) ++ row, ?_, ?_, ?_⟩
  · rw [threadLine, hrow, ok_bind, hnumeral]
    rfl
  · simp only [List.length_append, length_alignRight hwidth, length_alignLeft hcut, hlength]
    rfl
  · apply Text.withoutEscapes_of_escape_not_mem
    have hcells : Text.escape ∉ row :=
      escape_not_mem_of_printable (isPrintable_cells (fun _ _ => Label.isFigure_of_duration) hrow)
    have hleft : Text.escape ∉ alignRight 7 id :=
      escape_not_mem_of_printable (isPrintable_alignRight (isPrintable_numeral hnumeral))
    rw [List.append_assoc, List.append_assoc, List.mem_append, List.mem_append, List.mem_append,
      alignLeft, List.mem_append]
    rintro (hmem | hmem | (hmem | hmem) | hmem)
    · exact hleft hmem
    · exact absurd hmem (by decide)
    · exact hname (List.mem_of_mem_take hmem)
    · exact escape_not_mem_of_printable (isPrintable_replicate (by decide) _) hmem
    · exact hcells hmem

theorem isAligned_tableLines (hids : ∀ t ∈ u.threads, 0 ≤ t.id)
    (hlength : ∀ t ∈ u.threads, t.times.length = fs.length)
    (htotal : u.total = slotSums fs.length (u.threads.map (·.times))) (hu : IsTabular fs u) :
    ∀ x ∈ (tableLines fs u).tail, IsAligned (25 + 10 * fs.length) x := by
  have htimes : ∀ column ∈ u.threads.map (·.times), ∀ n ∈ column, 0 ≤ n := by
    rw [List.forall_mem_map]
    exact hu.times
  rw [tableLines, List.tail_cons, List.forall_mem_cons, List.forall_mem_cons,
    List.forall_mem_append, List.forall_mem_map, List.forall_mem_singleton]
  refine ⟨?_, ?_, fun t ht => ?_, ?_⟩
  · exact isAligned_headedLine (fun _ _ => Label.isFigure_of_frequency)
      (fun f hf => Label.fitsCell_frequency (hu.frequencies f hf).1 (hu.frequencies f hf).2)
      (by decide) (by decide)
  · exact isAligned_of_printable List.length_replicate (isPrintable_dashes _)
  · rw [← hlength t ht]
    refine isAligned_threadLine ⟨hids t ht, hu.ids t ht⟩ (fun n hn => ?_) (hu.names t ht).2
    obtain ⟨total, hmem, hle⟩ :=
      exists_slotSum_ge htimes (List.mem_map_of_mem ht) (hlength t ht) n hn
    rw [← htotal] at hmem
    exact Label.fitsCell_duration (hu.times t ht n hn) (hle.trans_lt (hu.totals total hmem))
  · have hwidth : u.total.length = fs.length := by
      rw [htotal, slotSums, List.length_map, List.length_range]
    rw [← hwidth]
    refine isAligned_headedLine (fun _ _ => Label.isFigure_of_duration) (fun n hn => ?_)
      (by decide) (by decide)
    refine Label.fitsCell_duration ?_ (hu.totals n hn)
    rw [htotal] at hn
    obtain ⟨i, -, rfl⟩ := List.mem_map.mp hn
    exact sum_getD_nonneg htimes i

theorem length_of_isAligned {xs : List (Except LabelError (List Char))} {ls : List (List Char)}
    (h : ∀ x ∈ xs, IsAligned width x) (hls : List.Forall₂ (fun x l => x = .ok l) xs ls) :
    ∀ l ∈ ls.map Text.withoutEscapes, l.length = width := by
  rw [List.forall_mem_map]
  intro l hl
  obtain ⟨x, hx, rfl⟩ := exists_mem_of_forall₂ hls.flip hl
  obtain ⟨l', heq, hlength, hshown⟩ := h _ hx
  obtain rfl := Except.ok.inj heq
  rw [hshown, hlength]

theorem failure_table_eq_none_iff (h : ∀ x ∈ (tableLines fs u).tail, IsAligned width x) :
    (table fs u).failure = none ↔ ∃ l, title u = .ok l := by
  rw [table_eq, failure_ofLines_eq_none_iff, tableLines, List.forall_mem_cons]
  refine and_iff_left fun x hx => ?_
  obtain ⟨l, hl, -⟩ := h x hx
  exact ⟨l, hl⟩

theorem exists_title (hid : Number.isWritable u.id = true)
    (huid : Number.isWritable u.uid = true) : ∃ l, title u = .ok l := by
  unfold title numeral
  rw [if_pos hid, if_pos huid]
  exact ⟨_, rfl⟩

theorem pieces_of_title_error {e : LabelError} (h : title u = .error e) :
    (table fs u).pieces = [] := by
  rw [table_eq, tableLines, h]
  rfl

theorem printed_table (h : ∀ x ∈ (tableLines fs u).tail, IsAligned width x)
    (hname : '\n' ∉ u.name.toList) (hnames : ∀ t ∈ u.threads, '\n' ∉ t.name.toList) :
    ∃ ls, IsPrinted ((table fs u).pieces.flatMap Text.withoutEscapes) ls ∧
      (∀ l ∈ ls.tail, l.length = width) ∧
      ((table fs u).failure = none ∧ ls.length = u.threads.length + 4 ∨
        (table fs u).failure ≠ none ∧ ls = []) ∧
      (Text.IsUnbroken u.name.toList → (∀ t ∈ u.threads, Text.IsUnbroken t.name.toList) →
        ∀ l ∈ ls, Text.IsUnbroken l) := by
  cases htitle : title u with
  | error e =>
    have hfailure : (table fs u).failure ≠ none := by
      rw [Ne, failure_table_eq_none_iff h, htitle]
      rintro ⟨l, hl⟩
      cases hl
    rw [pieces_of_title_error htitle]
    exact ⟨[], ⟨rfl, by simp⟩, by simp, .inr ⟨hfailure, rfl⟩, by simp⟩
  | ok first =>
    have hfailure := (failure_table_eq_none_iff h).mpr ⟨first, htitle⟩
    rw [table_eq] at hfailure ⊢
    obtain ⟨ls, hls, hpieces⟩ := lines_of_ofLines hfailure
    have hfeed : ∀ l ∈ ls, '\n' ∉ l := fun l hl hmem =>
      forall_mem_tableLines (P := (· ≠ '\n')) (fun c hc => hc.ne_of_lt (by decide)) hls
        (fun c hc hfeed => hname (hfeed ▸ hc)) (fun t ht c hc hfeed => hnames t ht (hfeed ▸ hc))
        l hl _ hmem rfl
    refine ⟨ls.map Text.withoutEscapes, ⟨?_, ?_⟩, ?_, .inl ⟨hfailure, ?_⟩,
      fun hunbroken hothers => ?_⟩
    · rw [hpieces, printed_lines]
    · exact feed_not_mem_stripped hfeed
    · rcases hls with _ | ⟨-, hrest⟩
      exact length_of_isAligned h hrest
    · rw [List.length_map, ← hls.length_eq]
      simp only [tableLines, List.length_cons, List.length_append, List.length_map, List.length_nil]
    · exact unbroken_stripped (forall_mem_tableLines (fun _ hc => hc.isLineBreak_eq_false) hls
        hunbroken hothers)

end Lines

namespace CommandLine

section Run

variable {host : Host} {tree opened : FileTree} {s : Settings} {c : Collector} {pid : Option ℤ}
  {u : ProcessUsage}

theorem TakesSnapshot.ids_nonneg (h : TakesSnapshot host tree opened s c pid u) :
    ∀ t ∈ u.threads, 0 ≤ t.id := by
  obtain ⟨process, htaken⟩ := h.exists_taken
  obtain ⟨reads, hreads⟩ := Collector.exists_areReads htaken
  intro t ht
  obtain ⟨read, -, hread⟩ := exists_mem_of_forall₂ hreads.threads.flip ht
  rw [hread.id]
  exact Int.natCast_nonneg _

theorem TakesSnapshot.isAligned (h : TakesSnapshot host tree opened s c pid u)
    (hu : IsTabular c.minFrequencies u) :
    ∀ x ∈ (tableLines c.minFrequencies u).tail,
      IsAligned (25 + 10 * c.minFrequencies.length) x :=
  isAligned_tableLines h.ids_nonneg h.length_times h.total_eq hu

theorem snapshot_aligned {args : List String} (h : TakesSnapshot host tree opened s c pid u)
    (hargs : Request.ofArguments args = .ok (.snapshot pid .table))
    (hu : IsTabular c.minFrequencies u) (input : String) :
    (Notice.IsClock host.clock → IsTold c u → Number.isWritable u.uid = true →
      (run host tree args input).exitCode = 0) ∧
    ∃ ls, IsPrinted (run host tree args input).output ls ∧
      (∀ l ∈ ls.tail, (l.length : ℤ) = 25 + 10 * c.mapping.count) ∧
      ((run host tree args input).exitCode = 0 ∧ ls.length = u.threads.length + 4 ∨
        (run host tree args input).exitCode ≠ 0 ∧ ls = []) ∧
      (Text.IsUnbroken u.name.toList → (∀ t ∈ u.threads, Text.IsUnbroken t.name.toList) →
        Text.lines (run host tree args input).output = ls) := by
  have haligned := h.isAligned hu
  constructor
  · intro hclock htold huid
    obtain ⟨o, hreport, hsilent⟩ := runSnapshot_eq h hclock htold .table
    have hfailure := (failure_table_eq_none_iff haligned).mpr (exists_title htold.id huid)
    rw [run_of_request hargs, runRequest, hreport]
    exact exitCode_of_report hsilent hfailure
  · obtain ⟨ls, hls, hwidth, hend, hunbroken⟩ :=
      printed_table haligned hu.name fun t ht => (hu.names t ht).1
    have hlength : ∀ l ∈ ls.tail, (l.length : ℤ) = 25 + 10 * c.mapping.count := by
      intro l hl
      rw [hwidth l hl, h.count_eq]
      push_cast
      rfl
    rcases printed_snapshot h.load ⟨h.opens, h.create⟩ hargs h.usage with
      ⟨hone, hempty⟩ | ⟨houtput, hcode⟩
    · rw [hone, hempty]
      exact ⟨[], ⟨rfl, by simp⟩, by simp, .inr ⟨Nat.one_ne_zero, rfl⟩, fun _ _ => rfl⟩
    · rw [snapshotReport] at houtput hcode
      rw [Ne, hcode, houtput]
      exact ⟨ls, hls, hlength, hend, fun hname hnames => hls.lines_eq (hunbroken hname hnames)⟩

end Run

section Sample

def wideName : String := "kworker/u17:3-events_unbound"

def wideTree (log : List UInt8) : FileTree :=
  ((sampleTree 10 "worker" log).set (sampleProcess.child "cmdline")
    (.file (Text.Utf8.encode "sh".toList))).set (.slash ["p", "5", "task", "8", "comm"])
      (.file (Text.Utf8.encode wideName.toList))

def wideUsage : ProcessUsage :=
  { id := 5, name := "sh", uid := 0
    threads := [
      { id := 5, name := "worker", times := [30, 30] },
      { id := 8, name := wideName, times := [40, 0] }] }

theorem takesSnapshot_wide : TakesSnapshot sampleHost (wideTree []) (wideTree [])
    (sampleSettings 10 "worker") (sampleCollector 10 "worker") (some 5) wideUsage := by
  have happend : (wideTree []).appendBytes (Settings.logPath sampleHost.home) sampleLog =
      .ok (wideTree sampleLog) := rfl
  have hlist : (wideTree sampleLog).statsSource.listing sampleProcess = .ok ["5", "8"] :=
    listing_sample rfl rfl rfl
  exact takesSnapshot_of_scan "worker" (by decide) (by decide) rfl rfl rfl rfl happend hlist
    rfl rfl rfl

theorem snapshot_aligned_of_sample :
    (run sampleHost (wideTree []) ["snapshot", "5", "--format", "table"] "").exitCode = 0 ∧
    ∃ ls, IsPrinted
        (run sampleHost (wideTree []) ["snapshot", "5", "--format", "table"] "").output ls ∧
      ls.length = 6 ∧ ∀ l ∈ ls.tail, l.length = 45 := by
  have hargs : Request.ofArguments ["snapshot", "5", "--format", "table"] =
      .ok (.snapshot (some 5) .table) :=
    ofArguments_sample rfl
  have htold : IsTold (sampleCollector 10 "worker") wideUsage :=
    let told := isTold_sample 10 "worker"
    ⟨told.slots, told.id, told.threads⟩
  have htabular : IsTabular [100, 150] wideUsage :=
    ⟨by decide, by decide, by decide, by decide, by decide, by decide⟩
  obtain ⟨hcode, ls, hls, hwidth, hend, -⟩ :=
    snapshot_aligned takesSnapshot_wide hargs htabular ""
  have hzero := hcode isClock_sampleHost htold (by decide)
  refine ⟨hzero, ls, hls, ?_, fun l hl => ?_⟩
  · rcases hend with ⟨-, hlength⟩ | ⟨hne, -⟩
    · exact hlength
    · exact absurd hzero hne
  · have hcount : (sampleCollector 10 "worker").mapping.count = 2 := rfl
    have hlength := hwidth l hl
    rw [hcount] at hlength
    exact_mod_cast hlength

end Sample

end CommandLine

end Residency
