import Residency.Proofs.CommandLine.Snapshots
import Residency.Proofs.Conservation
import Residency.Proofs.Csv.Rows

namespace Residency

namespace Report

theorem numerals_eq {ns : List ℤ} (h : ∀ n ∈ ns, Number.isWritable n = true) :
    numerals ns = .ok (ns.map Number.decimal) := by
  induction ns with
  | nil => rfl
  | cons n ns ih =>
    rw [List.forall_mem_cons] at h
    rw [numerals, numeral, if_pos h.1, ok_bind, ih h.2]
    rfl

theorem threadRow_eq {t : ThreadUsage} (h : ∀ n ∈ t.id :: t.times, Number.isWritable n = true) :
    threadRow t =
      .ok (Csv.row (Number.decimal t.id :: t.name.toList :: t.times.map Number.decimal)) := by
  rw [threadRow, numerals_eq h]
  rfl

theorem threadRows_eq {ts : List ThreadUsage}
    (h : ∀ t ∈ ts, ∀ n ∈ t.id :: t.times, Number.isWritable n = true) :
    threadRows ts = .ok (ts.flatMap fun t =>
      Csv.row (Number.decimal t.id :: t.name.toList :: t.times.map Number.decimal)) := by
  induction ts with
  | nil => rfl
  | cons t ts ih =>
    rw [List.forall_mem_cons] at h
    rw [threadRows, threadRow_eq h.1, ok_bind, ih h.2]
    rfl

theorem rows_eq {fs : List ℤ} {u : ProcessUsage} (hu : ∀ n ∈ u.integers, Number.isWritable n = true)
    (hf : ∀ n ∈ fs, Number.isWritable n = true) :
    rows fs u = { pieces := [
      Csv.row ("thread_id".toList :: "thread_name".toList :: fs.map Number.decimal) ++
        u.threads.flatMap fun t =>
          Csv.row (Number.decimal t.id :: t.name.toList :: t.times.map Number.decimal)] } := by
  have hthreads : ∀ t ∈ u.threads, ∀ n ∈ t.id :: t.times, Number.isWritable n = true :=
    fun t ht n hn => hu n (ProcessUsage.mem_integers ht hn)
  rw [rows, numerals_eq hf, ok_bind, threadRows_eq hthreads]
  rfl

theorem numerals_of_long {ns : List ℤ} (h : ∃ n ∈ ns, Number.isWritable n = false) :
    numerals ns = .error .integerTooLong := by
  induction ns with
  | nil => simp at h
  | cons n ns ih =>
    rw [numerals, numeral]
    cases hn : Number.isWritable n with
    | false => rfl
    | true =>
      have hrest := ((List.exists_mem_cons_iff ..).mp h).resolve_left (by simp [hn])
      rw [if_pos rfl, ok_bind, ih hrest]
      rfl

theorem threadRows_of_long {ts : List ThreadUsage}
    (h : ∃ t ∈ ts, ∃ n ∈ t.id :: t.times, Number.isWritable n = false) :
    threadRows ts = .error .integerTooLong := by
  induction ts with
  | nil => simp at h
  | cons t ts ih =>
    rw [threadRows]
    by_cases ht : ∃ n ∈ t.id :: t.times, Number.isWritable n = false
    · rw [threadRow, numerals_of_long ht]
      rfl
    · have hrest := ((List.exists_mem_cons_iff ..).mp h).resolve_left ht
      have hshort : ∀ n ∈ t.id :: t.times, Number.isWritable n = true := by
        simpa only [not_exists, not_and, Bool.not_eq_false] using ht
      rw [threadRow_eq hshort, ok_bind, ih hrest]
      rfl

theorem rows_of_long {fs : List ℤ} {u : ProcessUsage}
    (hf : ∀ n ∈ fs, Number.isWritable n = true)
    (h : ∃ t ∈ u.threads, ∃ n ∈ t.id :: t.times, Number.isWritable n = false) :
    rows fs u = { failure := some .integerTooLong } := by
  rw [rows, numerals_eq hf, ok_bind, threadRows_of_long h]
  rfl

end Report

theorem FileTree.return_not_mem_firstLine {t : FileTree} {p : Path} {name : String}
    (h : t.statsSource.firstLine p = some name) : '\r' ∉ name.toList := by
  have hline : (t.firstLine p).toOption.join = some name := h
  rw [FileTree.firstLine] at hline
  split at hline
  · next bytes _ =>
    have hfirst : FileTree.firstLineOf bytes = some name := hline
    rw [FileTree.firstLineOf] at hfirst
    split_ifs at hfirst
    cases hfirst
    rw [String.toList_ofList]
    exact fun hmem => Text.carriageReturn_not_mem_universalNewlines _
      ((List.takeWhile_sublist _).mem hmem)
  · cases hline
  · cases hline

theorem Collector.Taken.return_not_mem_name {c : Collector} {t : FileTree} {process : Path}
    {u : ProcessUsage} (h : Taken c t.statsSource process u) :
    ∀ thread ∈ u.threads, thread.name = c.defaultThreadName ∨ '\r' ∉ thread.name.toList := by
  obtain ⟨pid, uid, husage⟩ := h.exists_usage
  obtain ⟨entries, -, -, hthreads⟩ := threads_of_usage husage
  intro thread hmem
  obtain ⟨e, -, rs, -, hread⟩ := exists_mem_of_forall₂ (scanThreads_forall₂ hthreads).flip hmem
  obtain ⟨-, hname, -⟩ := threadUsage_eq_ok.mp hread
  cases hline : t.statsSource.firstLine (process.threadFile e "comm") with
  | none =>
    left
    rw [hname, threadReading, hline]
    rfl
  | some name =>
    right
    rw [hname, threadReading, hline]
    exact FileTree.return_not_mem_firstLine hline

namespace CommandLine

def headerRow (fs : List ℤ) : List (List Char) :=
  "thread_id".toList :: "thread_name".toList :: fs.map Number.decimal

def IsThreadRow (P : List Char → Prop) (t : ThreadUsage) (row : List (List Char)) : Prop :=
  ∃ name, Text.Removed P t.name.toList name ∧
    row = Number.decimal t.id :: name :: t.times.map Number.decimal

def HasRows (P : List Char → Prop) (limit : ℕ) (c : Collector) (u : ProcessUsage)
    (text : List Char) : Prop :=
  ∃ rows, Csv.read limit text = .ok (headerRow c.minFrequencies :: rows) ∧
    List.Forall₂ (IsThreadRow P) u.threads rows ∧
    ∀ row ∈ headerRow c.minFrequencies :: rows, (row.length : ℤ) = 2 + c.mapping.count

section Run

variable {host : Host} {tree opened : FileTree} {s : Settings} {c : Collector} {pid : Option ℤ}
  {u : ProcessUsage}

theorem TakesSnapshot.exists_taken (h : TakesSnapshot host tree opened s c pid u) :
    ∃ process, Collector.Taken c
      (opened.log host s.logLimits [c.readyEvent.toRecord]).statsSource process u := by
  cases pid with
  | none => exact ⟨_, .ofSelf h.usage⟩
  | some pid => exact ⟨_, .ofPid h.usage⟩

theorem TakesSnapshot.length_times (h : TakesSnapshot host tree opened s c pid u) :
    ∀ t ∈ u.threads, t.times.length = c.minFrequencies.length := by
  obtain ⟨process, htaken⟩ := h.exists_taken
  obtain ⟨pid, uid, husage⟩ := htaken.exists_usage
  obtain ⟨entries, -, -, hthreads⟩ := Collector.threads_of_usage husage
  obtain ⟨files, -, hfiles⟩ := (Collector.built_of_create h.create).files hthreads
  intro t ht
  exact Collector.length_of_keepsTime hfiles t.times (List.mem_map_of_mem ht)

theorem TakesSnapshot.return_not_mem_names (h : TakesSnapshot host tree opened s c pid u)
    (hdefault : ∀ t ∈ u.threads, t.name = c.defaultThreadName → '\r' ∉ t.name.toList) :
    ∀ t ∈ u.threads, '\r' ∉ t.name.toList := by
  obtain ⟨process, htaken⟩ := h.exists_taken
  intro t ht
  exact (htaken.return_not_mem_name t ht).elim (hdefault t ht) id

theorem TakesSnapshot.count_eq (h : TakesSnapshot host tree opened s c pid u) :
    c.mapping.count = c.minFrequencies.length := by
  have hb := Collector.built_of_create h.create
  rw [hb.length_minFrequencies, hb.mapping, BucketMapping.count_layout]

end Run

section Text

variable {fs : List ℤ} {ts : List ThreadUsage}

def printedRows (fs : List ℤ) (ts : List ThreadUsage) : List (List Char) :=
  Csv.strippedRow "thread_id".toList "thread_name".toList fs ::
    ts.map fun t => Csv.strippedRow (Number.decimal t.id) t.name.toList t.times

theorem isPlain_threadId : ∀ c ∈ "thread_id".toList, Csv.IsPlain c := by
  decide

theorem escape_not_mem_decimal (n : ℤ) : Text.escape ∉ Number.decimal n :=
  fun h => absurd (Csv.isInner_of_mem_decimal _ h) (by decide)

theorem withoutEscapes_rows : Text.withoutEscapes
    (Csv.row ("thread_id".toList :: "thread_name".toList :: fs.map Number.decimal) ++
      ts.flatMap fun t =>
        Csv.row (Number.decimal t.id :: t.name.toList :: t.times.map Number.decimal)) =
      (printedRows fs ts).flatten := by
  have hthreads : Text.withoutEscapes (ts.flatMap fun t =>
      Csv.row (Number.decimal t.id :: t.name.toList :: t.times.map Number.decimal)) =
      (ts.map fun t => Csv.strippedRow (Number.decimal t.id) t.name.toList t.times).flatten := by
    induction ts with
    | nil => rfl
    | cons t ts ih =>
      rw [List.flatMap_cons, Csv.withoutEscapes_row Csv.isPlain_of_mem_decimal
        (escape_not_mem_decimal t.id), ih]
      rfl
  rw [Csv.withoutEscapes_row isPlain_threadId (by decide), hthreads]
  rfl

theorem isRowOf_header {limit : ℕ} (hlimit : Number.maxDigits < limit)
    (hf : ∀ n ∈ fs, Number.isWritable n = true) :
    Csv.IsRowOf limit (headerRow fs)
      (Csv.strippedRow "thread_id".toList "thread_name".toList fs) := by
  have hname : Text.withoutEscapes "thread_name".toList = "thread_name".toList :=
    Text.withoutEscapes_of_escape_not_mem (by decide)
  have hwords : 11 ≤ limit := le_trans (by decide) hlimit.le
  have hlen : ∀ f ∈ "thread_id".toList :: Text.withoutEscapes "thread_name".toList ::
      fs.map Number.decimal, f.length ≤ limit := by
    rw [hname, List.forall_mem_cons, List.forall_mem_cons, List.forall_mem_map]
    exact ⟨le_trans (by decide) hwords, hwords,
      fun n hn => (Number.length_decimal_le (hf n hn)).trans hlimit⟩
  have hrow := Csv.isRowOf_strippedRow isPlain_threadId (by decide) hlen
  rwa [hname] at hrow

theorem read_printedRows {limit : ℕ} (h : ∀ t ∈ ts, '\r' ∉ t.name.toList)
    (hlimit : Number.maxDigits < limit)
    (hfits : ∀ t ∈ ts, (Text.withoutEscapes t.name.toList).length ≤ limit)
    (hf : ∀ n ∈ fs, Number.isWritable n = true)
    (ht : ∀ t ∈ ts, ∀ n ∈ t.id :: t.times, Number.isWritable n = true) :
    Csv.read limit (printedRows fs ts).flatten = .ok (headerRow fs :: ts.map fun t =>
      Number.decimal t.id :: Text.withoutEscapes t.name.toList :: t.times.map Number.decimal) := by
  have hnumber : ∀ n, Number.isWritable n = true → (Number.decimal n).length ≤ limit :=
    fun n hn => (Number.length_decimal_le hn).trans hlimit
  refine Csv.read_rows (.cons (isRowOf_header hlimit hf) ?_)
  rw [List.forall₂_map_left_iff, List.forall₂_map_right_iff, List.forall₂_same]
  intro t hmem
  refine Csv.isRowOf_strippedRow Csv.isPlain_of_mem_decimal (h t hmem) ?_
  have hnumbers := List.forall_mem_cons.mp (ht t hmem)
  rw [List.forall_mem_cons, List.forall_mem_cons, List.forall_mem_map]
  exact ⟨hnumber t.id hnumbers.1, hfits t hmem, fun n hn => hnumber n (hnumbers.2 n hn)⟩

theorem read_printedRows_of_long {limit : ℕ} (h : ∀ t ∈ ts, '\r' ∉ t.name.toList)
    (hlimit : Number.maxDigits < limit) (hf : ∀ n ∈ fs, Number.isWritable n = true)
    (ht : ∀ t ∈ ts, ∀ n ∈ t.id :: t.times, Number.isWritable n = true)
    (hlong : ∃ t ∈ ts, limit < (Text.withoutEscapes t.name.toList).length) :
    Csv.read limit (printedRows fs ts).flatten = .error .fieldTooLong := by
  have hnumber : ∀ n, Number.isWritable n = true → (Number.decimal n).length ≤ limit :=
    fun n hn => (Number.length_decimal_le hn).trans hlimit
  have hrows : Csv.readFrom limit {} (Csv.marked (ts.map fun t =>
      Csv.strippedRow (Number.decimal t.id) t.name.toList t.times).flatten) =
      .error .fieldTooLong := by
    induction ts with
    | nil => simp at hlong
    | cons t ts ih =>
      rw [List.forall_mem_cons] at h ht
      have hnumbers := List.forall_mem_cons.mp ht.1
      rw [List.map_cons, List.flatten_cons]
      by_cases hname : (Text.withoutEscapes t.name.toList).length ≤ limit
      · have hrest := ((List.exists_mem_cons_iff ..).mp hlong).resolve_left (by omega)
        have hlen : ∀ f ∈ Number.decimal t.id :: Text.withoutEscapes t.name.toList ::
            t.times.map Number.decimal, f.length ≤ limit := by
          rw [List.forall_mem_cons, List.forall_mem_cons, List.forall_mem_map]
          exact ⟨hnumber t.id hnumbers.1, hname, fun n hn => hnumber n (hnumbers.2 n hn)⟩
        rw [Csv.readFrom_row (Csv.isRowOf_strippedRow Csv.isPlain_of_mem_decimal h.1 hlen),
          ih h.2 ht.2 hrest]
        rfl
      · have hshape := Csv.strippedRow_append (Number.decimal t.id) t.name.toList t.times
          (ts.map fun t => Csv.strippedRow (Number.decimal t.id) t.name.toList t.times).flatten
        rw [hshape]
        exact Csv.readFrom_longSecond (.plain Csv.isPlain_of_mem_decimal) (hnumber _ hnumbers.1)
          (Csv.isTextOf_strippedField h.1) (not_le.mp hname) (by simp)
  rw [Csv.read, printedRows, List.flatten_cons, Csv.readFrom_row (isRowOf_header hlimit hf), hrows]
  rfl

end Text

section Run

variable {host : Host} {tree opened : FileTree} {s : Settings} {c : Collector} {pid : Option ℤ}
  {u : ProcessUsage} (h : TakesSnapshot host tree opened s c pid u)
  (hclock : Notice.IsClock host.clock) (hshort : IsShort c u) {args : List String}
  (hargs : Request.ofArguments args = .ok (.snapshot pid .csv))
  (hnames : ∀ t ∈ u.threads, '\r' ∉ t.name.toList)
include h hclock hshort hargs

theorem run_csv (input : String) :
    (run host tree args input).exitCode = 0 ∧ (run host tree args input).failure = none ∧
      (run host tree args input).output = (printedRows c.minFrequencies u.threads).flatten := by
  have hrows := Report.rows_eq hshort.usage hshort.frequencies
  obtain ⟨hcode, hfailure, -, houtput⟩ := run_of_piece h hclock hshort.isTold hargs hrows input
  rw [withoutEscapes_rows] at houtput
  exact ⟨hcode, hfailure, houtput⟩

include hnames in
theorem read_run {limit : ℕ} (hlimit : Number.maxDigits < limit)
    (hfits : ∀ t ∈ u.threads, (Text.withoutEscapes t.name.toList).length ≤ limit)
    (input : String) : Csv.read limit (run host tree args input).output =
      .ok (headerRow c.minFrequencies :: u.threads.map fun t => Number.decimal t.id ::
        Text.withoutEscapes t.name.toList :: t.times.map Number.decimal) := by
  obtain ⟨-, -, houtput⟩ := run_csv h hclock hshort hargs input
  rw [houtput]
  exact read_printedRows hnames hlimit hfits hshort.frequencies
    fun t ht n hn => hshort.usage n (ProcessUsage.mem_integers ht hn)

/-- A name that was read is a first line, so only the default name could have a carriage return. -/
theorem snapshot_csv
    (hdefault : ∀ t ∈ u.threads, t.name = c.defaultThreadName → '\r' ∉ t.name.toList)
    {limit : ℕ} (hlimit : Number.maxDigits < limit)
    (hfits : ∀ t ∈ u.threads, (Text.withoutEscapes t.name.toList).length ≤ limit)
    (input : String) :
    (run host tree args input).exitCode = 0 ∧ (run host tree args input).failure = none ∧
      HasRows Text.IsSequence limit c u (run host tree args input).output := by
  have hnames := h.return_not_mem_names hdefault
  obtain ⟨hcode, hfailure, -⟩ := run_csv h hclock hshort hargs input
  refine ⟨hcode, hfailure, _, read_run h hclock hshort hargs hnames hlimit hfits input, ?_, ?_⟩
  · rw [List.forall₂_map_right_iff, List.forall₂_same]
    exact fun t _ => ⟨_, Text.removed_withoutEscapes t.name.toList, rfl⟩
  · rw [List.forall_mem_cons, List.forall_mem_map, h.count_eq]
    refine ⟨?_, fun t ht => ?_⟩
    · rw [headerRow, List.length_cons, List.length_cons, List.length_map]
      omega
    · rw [List.length_cons, List.length_cons, List.length_map, h.length_times t ht]
      omega

end Run

theorem ofArguments_csv : Request.ofArguments ["snapshot", "5", "--format", "csv"] =
    .ok (.snapshot (some 5) .csv) :=
  ofArguments_sample rfl

theorem snapshot_csv_of_sample :
    (sampleOutcome 10 "a,\"b\"\n\x1b[31mc\x1b[3" "csv").exitCode = 0 ∧
    Csv.read Csv.fieldLimit (sampleOutcome 10 "a,\"b\"\n\x1b[31mc\x1b[3" "csv").output = .ok [
      ["thread_id".toList, "thread_name".toList, "100".toList, "150".toList],
      ["5".toList, "a,\"b\"\nc\x1b[3".toList, "30".toList, "30".toList],
      ["8".toList, "\"😀,\x07".toList, "40".toList, "0".toList]] := by
  let u := sampleUsage 10 "a,\"b\"\n\x1b[31mc\x1b[3"
  have hnames : ∀ t ∈ u.threads, '\r' ∉ t.name.toList := by decide
  have hfits : ∀ t ∈ u.threads, (Text.withoutEscapes t.name.toList).length ≤ Csv.fieldLimit := by
    decide
  obtain ⟨hcode, -, rows, hread, hrows, -⟩ :=
    snapshot_csv (takesSnapshot_sample _ (by decide) (by decide)) isClock_sampleHost
      (isShort_sample _) ofArguments_csv (fun t ht _ => hnames t ht) (by decide) hfits ""
  refine ⟨hcode, hread.trans ?_⟩
  cases hrows with
  | cons hfirst hrest =>
    cases hrest with
    | cons hsecond hnil =>
      cases hnil
      obtain ⟨_, hremoved, rfl⟩ := hfirst
      obtain ⟨_, hremoved', rfl⟩ := hsecond
      rw [← hremoved.eq_withoutEscapes, ← hremoved'.eq_withoutEscapes]
      decide

def IsLetterSequence (q : List Char) : Prop :=
  ∃ parameters last, q = Text.escape :: '[' :: (parameters ++ [last]) ∧
    (∀ c ∈ parameters, c = ';' ∨ c = '?' ∨ c.isDigit = true) ∧ last.isAlpha = true

theorem not_prefix_key {q : List Char} (hq : IsLetterSequence q) :
    ¬ q <+: [Text.escape, '[', '5', '~', 'k'] := by
  obtain ⟨ps, last, rfl, hps, hlast⟩ := hq
  rw [List.cons_prefix_cons, List.cons_prefix_cons]
  rintro ⟨-, -, hprefix⟩
  rcases ps with - | ⟨a, - | ⟨b, ps⟩⟩
  · obtain ⟨rfl, -⟩ := List.cons_prefix_cons.mp hprefix
    exact absurd hlast (by decide)
  · obtain ⟨rfl, htilde⟩ := List.cons_prefix_cons.mp hprefix
    obtain ⟨rfl, -⟩ := List.cons_prefix_cons.mp htilde
    exact absurd hlast (by decide)
  · obtain ⟨rfl, htilde⟩ := List.cons_prefix_cons.mp hprefix
    obtain ⟨rfl, -⟩ := List.cons_prefix_cons.mp htilde
    exact absurd (hps '~' (by simp)) (by decide)

theorem not_removed_key :
    ¬ Text.Removed IsLetterSequence [Text.escape, '[', '5', '~', 'k'] ['k'] := by
  intro h
  obtain ⟨t, ht, -⟩ := h.exists_of_cons fun q hq => not_prefix_key hq
  exact absurd (List.head_eq_of_cons_eq ht) (by decide)

section Misread

variable (tick : ℤ) (name : String)

structure Misread : Prop where
  takes : TakesSnapshot sampleHost (sampleTree tick name []) (sampleTree tick name [])
    (sampleSettings tick name) (sampleCollector tick name) (some 5) (sampleUsage tick name)
  names : ∀ t ∈ (sampleUsage tick name).threads, '\r' ∉ t.name.toList
  rows : ¬ HasRows IsLetterSequence Csv.fieldLimit (sampleCollector tick name)
    (sampleUsage tick name) (sampleOutcome tick name "csv").output

variable {tick name}

theorem return_not_mem_sampleNames (hreturn : '\r' ∉ name.toList) :
    ∀ t ∈ (sampleUsage tick name).threads, '\r' ∉ t.name.toList := by
  simp only [sampleUsage, List.forall_mem_cons]
  exact ⟨hreturn, by decide, by simp⟩

theorem output_sample (name : String) : (sampleOutcome 10 name "csv").output =
    (printedRows [100, 150] (sampleUsage 10 name).threads).flatten := by
  obtain ⟨-, -, houtput⟩ := run_csv (takesSnapshot_sample name (by decide) (by decide))
    isClock_sampleHost (isShort_sample name) ofArguments_csv ""
  exact houtput

theorem misread_key : Misread 10 "\x1b[5~k" := by
  have hnames : ∀ t ∈ (sampleUsage 10 "\x1b[5~k").threads, '\r' ∉ t.name.toList :=
    return_not_mem_sampleNames (by decide)
  refine ⟨takesSnapshot_sample _ (by decide) (by decide), hnames, ?_⟩
  rw [output_sample]
  rintro ⟨rows, hread, hrows, -⟩
  have hfits : ∀ t ∈ (sampleUsage 10 "\x1b[5~k").threads,
      (Text.withoutEscapes t.name.toList).length ≤ Csv.fieldLimit := by decide
  have hread' := read_printedRows hnames (by decide) hfits (isWritable_sampleFrequencies 10 "")
    fun t ht n hn => (isShort_sample _).usage n (ProcessUsage.mem_integers ht hn)
  have heq := Except.ok.inj (hread'.symm.trans hread)
  rw [List.cons.injEq] at heq
  obtain ⟨-, rfl⟩ := heq
  cases hrows with
  | cons hfirst _ =>
    obtain ⟨name, hremoved, hname⟩ := hfirst
    rw [List.cons.injEq, List.cons.injEq] at hname
    rw [← hname.2.1] at hremoved
    have hkey : Text.withoutEscapes "\x1b[5~k".toList = ['k'] := by decide
    have htext : "\x1b[5~k".toList = [Text.escape, '[', '5', '~', 'k'] := by decide
    have hsample : Text.Removed IsLetterSequence "\x1b[5~k".toList
        (Text.withoutEscapes "\x1b[5~k".toList) := hremoved
    rw [hkey, htext] at hsample
    exact not_removed_key hsample

def longName : String :=
  String.ofList (List.replicate (Csv.fieldLimit + 1) 'a')

theorem toList_longName : longName.toList = List.replicate (Csv.fieldLimit + 1) 'a' :=
  String.toList_ofList

theorem eq_of_mem_longName : ∀ c ∈ longName.toList, c = 'a' := by
  rw [toList_longName]
  exact fun c hc => List.eq_of_mem_replicate hc

theorem read_longName :
    Csv.read Csv.fieldLimit (printedRows [100, 150] (sampleUsage 10 longName).threads).flatten =
      .error .fieldTooLong := by
  have hreturn : '\r' ∉ longName.toList := fun h => absurd (eq_of_mem_longName _ h) (by decide)
  have hescape : Text.escape ∉ longName.toList :=
    fun h => absurd (eq_of_mem_longName _ h) (by decide)
  refine read_printedRows_of_long (return_not_mem_sampleNames hreturn) (by decide)
    (isWritable_sampleFrequencies 10 "")
    (fun t ht n hn => (isShort_sample longName).usage n (ProcessUsage.mem_integers ht hn))
    ⟨_, List.mem_cons_self, ?_⟩
  change Csv.fieldLimit < (Text.withoutEscapes longName.toList).length
  rw [Text.withoutEscapes_of_escape_not_mem hescape, toList_longName, List.length_replicate]
  exact Nat.lt_succ_self _

theorem misread_longName : Misread 10 longName := by
  have hreturn : '\r' ∉ longName.toList :=
    fun h => absurd (eq_of_mem_longName _ h) (by decide)
  refine ⟨takesSnapshot_sample _ (by decide) (by decide), return_not_mem_sampleNames hreturn, ?_⟩
  rw [output_sample, HasRows, read_longName]
  rintro ⟨rows, hread, -⟩
  cases hread

def longTick : ℤ :=
  (10 ^ Number.maxDigits : ℕ) - 1

theorem isWritable_longTick : 1 ≤ longTick ∧ Number.isWritable longTick = true ∧
    Number.isWritable (0 + 1 * longTick + 2 * longTick) = false := by
  have hpow : 10 ≤ 10 ^ Number.maxDigits := Nat.le_self_pow (by decide) 10
  rw [← Bool.not_eq_true, Number.isWritable_iff, Number.isWritable_iff, longTick]
  generalize 10 ^ Number.maxDigits = bound at hpow
  omega

theorem misread_longTick : Misread longTick "k" := by
  obtain ⟨hpos, hwritable, hlong⟩ := isWritable_longTick
  have htakes := takesSnapshot_sample "k" hpos hwritable
  have hrows := Report.rows_of_long (u := sampleUsage longTick "k")
    (isWritable_sampleFrequencies longTick "k")
    ⟨_, List.mem_cons_self, _, List.mem_cons_of_mem _ List.mem_cons_self, hlong⟩
  obtain ⟨-, -, houtput⟩ := run_of_failure htakes isClock_sampleHost (isTold_sample _ _)
    ofArguments_csv hrows ""
  refine ⟨htakes, return_not_mem_sampleNames (by decide), ?_⟩
  rw [sampleOutcome, houtput]
  rintro ⟨rows, hread, -⟩
  cases hread

end Misread

/-- A key sequence ends in a tilde and is removed as well; a reader stops at a long name; and there
are no rows when a time is too long to be written. -/
theorem not_hasRows_of_letterSequences :
    Misread 10 "\x1b[5~k" ∧ Misread 10 longName ∧ Misread longTick "k" :=
  ⟨misread_key, misread_longName, misread_longTick⟩

end CommandLine

end Residency
