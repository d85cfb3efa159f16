import Residency.Proofs.CommandLine.CsvReport
import Residency.Proofs.CommandLine.PrintedLines
import Residency.Proofs.Totals

/-!
The two tables that are printed for readers. Whatever stands in a name, no escape sequence goes on
from it into the cells, so the last words of a line are the labels of its row.
-/
namespace Residency

section Cells

open Report

variable {label : ℤ → Except LabelError String} {values : List ℤ} {labels : List (List Char)}
  {row s : List Char} {n : ℤ}

def AreLabels (label : ℤ → Except LabelError String) (values : List ℤ)
    (labels : List (List Char)) : Prop :=
  List.Forall₂ (fun n word => ∃ s, label n = .ok s ∧ word = s.toList) values labels

def HasCells (label : ℤ → Except LabelError String) (values : List ℤ) (row : List Char) : Prop :=
  ∃ before labels, Text.words row = before ++ labels ∧ AreLabels label values labels

def rowText (labels : List (List Char)) : List Char :=
  labels.flatMap fun word => ' ' :: ' ' :: alignRight 8 word

theorem cells_eq_ok (h : cells label values = .ok row) :
    ∃ labels, AreLabels label values labels ∧ row = rowText labels := by
  induction values generalizing row with
  | nil =>
    cases h
    exact ⟨[], .nil, rfl⟩
  | cons n values ih =>
    obtain ⟨s, hs, hrest⟩ := bind_eq_ok.mp h
    obtain ⟨rest, hcells, rfl⟩ := map_eq_ok.mp hrest
    obtain ⟨labels, hlabels, rfl⟩ := ih hcells
    exact ⟨s.toList :: labels, .cons ⟨s, hs, rfl⟩ hlabels, rfl⟩

theorem isPrintable_replicate {c : Char} (h : IsPrintable c) (n : ℕ) :
    ∀ d ∈ List.replicate n c, IsPrintable d := by
  intro d hd
  rw [List.eq_of_mem_replicate hd]
  exact h

theorem isPrintable_alignRight {width : ℕ} (h : ∀ c ∈ s, IsPrintable c) :
    ∀ c ∈ alignRight width s, IsPrintable c :=
  List.forall_mem_append.mpr ⟨isPrintable_replicate (by decide) _, h⟩

theorem isBlanks_replicate (n : ℕ) : Text.IsBlanks (List.replicate n ' ') := by
  intro c hc
  rw [List.eq_of_mem_replicate hc]
  decide

theorem IsFigure.isPrintable (h : IsFigure s) : ∀ c ∈ s, IsPrintable c :=
  fun c hc => (h.isVisible c hc).isPrintable

theorem isPrintable_rowText (h : ∀ word ∈ labels, IsFigure word) :
    ∀ c ∈ rowText labels, IsPrintable c := by
  intro c hc
  obtain ⟨word, hword, hc⟩ := List.mem_flatMap.mp hc
  have hcell : ∀ c ∈ ' ' :: ' ' :: alignRight 8 word, IsPrintable c := by
    rw [List.forall_mem_cons, List.forall_mem_cons]
    exact ⟨by decide, by decide, isPrintable_alignRight (h word hword).isPrintable⟩
  exact hcell c hc

theorem words_append_rowText (h : ∀ word ∈ labels, IsFigure word) (s : List Char) :
    Text.words (s ++ rowText labels) = Text.words s ++ labels := by
  induction labels generalizing s with
  | nil => rw [rowText, List.flatMap_nil, List.append_nil, List.append_nil]
  | cons word labels ih =>
    obtain ⟨hword, hlabels⟩ := List.forall_mem_cons.mp h
    have hblanks : Text.IsBlanks (' ' :: List.replicate (8 - word.length) ' ') :=
      isBlanks_replicate (8 - word.length + 1)
    have hcell : Text.words (s ++ ' ' :: ' ' :: alignRight 8 word) = Text.words s ++ [word] := by
      rw [Text.words_append_blank (by decide), alignRight, ← List.cons_append,
        Text.words_blanks_append hblanks, Text.words_of_isWord hword.isWord]
    have hrow : s ++ rowText (word :: labels) =
        s ++ ' ' :: ' ' :: alignRight 8 word ++ rowText labels := by
      rw [rowText, List.flatMap_cons, List.append_assoc]
      rfl
    rw [hrow, ih hlabels, hcell, List.append_assoc, List.singleton_append]

theorem isIntermediate_replicate (n : ℕ) :
    ∀ c ∈ List.replicate n ' ', Text.isIntermediate c = true := by
  intro c hc
  rw [List.eq_of_mem_replicate hc]
  decide

/-- A sequence that a name has begun cannot go on at a digit after blanks. -/
theorem not_completes_figure (h : IsFigure s) (n : ℕ) (t : List Char) :
    ¬ Text.Completes (' ' :: List.replicate n ' ' ++ (s ++ t)) := by
  have hdigit {d : Char} (hd : d.isDigit = true) :
      Text.isIntermediate d = false ∧ Text.isFinal d = false := by
    have := Number.toNat_of_isDigit hd
    rw [← Bool.not_eq_true, ← Bool.not_eq_true, Text.isIntermediate_iff, Text.isFinal_iff]
    omega
  have hblanks := isIntermediate_replicate (n + 1)
  cases h with
  | @digit d r hd _ =>
    exact Text.not_completes_of_intermediates hblanks (hdigit hd).1 (hdigit hd).2
  | @minus d r hd _ =>
    have hsign : ∀ c ∈ ' ' :: (List.replicate n ' ' ++ ['-']), Text.isIntermediate c = true := by
      rw [← List.cons_append, List.forall_mem_append]
      exact ⟨hblanks, by decide⟩
    have := Text.not_completes_of_intermediates (r := r ++ t) hsign (hdigit hd).1 (hdigit hd).2
    simpa using this

theorem withoutEscapes_append_rowText (h : ∀ word ∈ labels, IsFigure word) (s : List Char) :
    Text.withoutEscapes (s ++ rowText labels) = Text.withoutEscapes s ++ rowText labels := by
  have hrow := CommandLine.withoutEscapes_of_printable (isPrintable_rowText h)
  cases labels with
  | nil => rw [rowText, List.flatMap_nil, List.append_nil, List.append_nil]
  | cons word labels =>
    have htext : rowText (word :: labels) =
        ' ' :: List.replicate (8 - word.length + 1) ' ' ++ (word ++ rowText labels) := by
      rw [rowText, List.flatMap_cons, alignRight, List.replicate_succ]
      simp [rowText]
    have hnot : ¬ Text.Completes (rowText (word :: labels)) := by
      rw [htext]
      exact not_completes_figure (h word (by simp)) _ _
    rw [Text.withoutEscapes_append_of_not_completes hnot, hrow]

theorem AreLabels.isFigure (h : AreLabels label values labels)
    (hlabel : ∀ n s, label n = .ok s → IsFigure s.toList) : ∀ word ∈ labels, IsFigure word := by
  intro word hword
  obtain ⟨n, -, s, hs, rfl⟩ := exists_mem_of_forall₂ h.flip hword
  exact hlabel n s hs

theorem isPrintable_cells (hlabel : ∀ n s, label n = .ok s → IsFigure s.toList)
    (h : cells label values = .ok row) : ∀ c ∈ row, IsPrintable c := by
  obtain ⟨labels, hlabels, rfl⟩ := cells_eq_ok h
  exact isPrintable_rowText (hlabels.isFigure hlabel)

theorem hasCells_stripped (hlabel : ∀ n s, label n = .ok s → IsFigure s.toList)
    (h : cells label values = .ok row) (s : List Char) :
    HasCells label values (Text.withoutEscapes (s ++ row)) := by
  obtain ⟨labels, hlabels, rfl⟩ := cells_eq_ok h
  have hfigures := hlabels.isFigure hlabel
  refine ⟨Text.words (Text.withoutEscapes s), labels, ?_, hlabels⟩
  rw [withoutEscapes_append_rowText hfigures, words_append_rowText hfigures]

end Cells

section Lines

open Report

variable {fs : List ℤ} {u : ProcessUsage} {t : ThreadUsage} {l : List Char} {P : Char → Prop}
  (hP : ∀ c, IsPrintable c → P c)

theorem numeral_eq_ok {n : ℤ} (h : numeral n = .ok l) : l = Number.decimal n := by
  unfold numeral at h
  split_ifs at h
  exact (Except.ok.inj h).symm

theorem isPrintable_numeral {n : ℤ} (h : numeral n = .ok l) : ∀ c ∈ l, IsPrintable c := by
  rw [numeral_eq_ok h]
  exact (isFigure_decimal n).isPrintable

theorem isPrintable_dashes (n : ℕ) : ∀ c ∈ dashes n, IsPrintable c :=
  isPrintable_replicate (by decide) n

include hP

theorem forall_mem_title (h : title u = .ok l) (hname : ∀ c ∈ u.name.toList, P c) :
    ∀ c ∈ l, P c := by
  obtain ⟨id, hid, h⟩ := bind_eq_ok.mp h
  obtain ⟨uid, huid, rfl⟩ := map_eq_ok.mp h
  have hplain {s : List Char} (hs : ∀ c ∈ s, IsPrintable c) : ∀ c ∈ s, P c :=
    fun c hc => hP c (hs c hc)
  simp only [List.forall_mem_append, and_assoc]
  exact ⟨hplain (by decide), hplain (isPrintable_numeral hid), hplain (by decide), hname,
    hplain (by decide), hplain (isPrintable_numeral huid), hplain (by decide),
    hplain (isFigure_toDigits _).isPrintable, hplain (by decide)⟩

theorem forall_mem_threadLine (h : threadLine t = .ok l) (hname : ∀ c ∈ t.name.toList, P c) :
    ∀ c ∈ l, P c := by
  obtain ⟨row, hrow, h⟩ := bind_eq_ok.mp h
  obtain ⟨id, hid, rfl⟩ := map_eq_ok.mp h
  have hplain {s : List Char} (hs : ∀ c ∈ s, IsPrintable c) : ∀ c ∈ s, P c :=
    fun c hc => hP c (hs c hc)
  simp only [alignLeft, List.forall_mem_append, and_assoc]
  refine ⟨hplain (isPrintable_alignRight (isPrintable_numeral hid)), hplain (by decide), ?_,
    hplain (isPrintable_replicate (by decide) _),
    hplain (isPrintable_cells (fun _ _ => Label.isFigure_of_duration) hrow)⟩
  exact fun c hc => hname c (List.mem_of_mem_take hc)

end Lines

section Tables

open Report CommandLine

variable {fs : List ℤ} {u : ProcessUsage} {l : List Char} {ls : List (List Char)} {index : ℕ}
  {khz : ℤ}

def IsBucketRow (index : ℕ) (khz : ℤ) (row : List Char) : Prop :=
  ∃ label, Label.frequency khz = .ok label ∧
    Text.words row = [Nat.toDigits 10 index, Number.decimal khz, label.toList]

def IsFrequencyTable (fs : List ℤ) (ls : List (List Char)) : Prop :=
  ∃ first second rows, ls = first :: second :: rows ∧ rows.length = fs.length ∧
    ∀ i khz row, fs[i]? = some khz → rows[i]? = some row → IsBucketRow i khz row

def IsSnapshotTable (fs : List ℤ) (u : ProcessUsage) (ls : List (List Char)) : Prop :=
  ∃ first header third rows total, ls = first :: header :: third :: (rows ++ [total]) ∧
    HasCells Label.frequency fs header ∧
    List.Forall₂ (fun t row => HasCells Label.duration t.times row) u.threads rows ∧
    HasCells Label.duration (slotSums fs.length (u.threads.map (·.times))) total

theorem words_alignRight {word : List Char} (h : IsFigure word) (width : ℕ) :
    Text.words (alignRight width word) = [word] := by
  rw [alignRight, Text.words_blanks_append (isBlanks_replicate _), Text.words_of_isWord h.isWord]

theorem bucketLine_eq_ok (h : bucketLine index khz = .ok l) :
    IsBucketRow index khz l ∧ ∀ c ∈ l, IsPrintable c := by
  obtain ⟨number, hnumber, h⟩ := bind_eq_ok.mp h
  obtain ⟨label, hlabel, rfl⟩ := map_eq_ok.mp h
  obtain rfl := numeral_eq_ok hnumber
  have hindex := isFigure_toDigits index
  have hkhz := isFigure_decimal khz
  have hfigure := Label.isFigure_of_frequency hlabel
  refine ⟨⟨label, hlabel, ?_⟩, ?_⟩
  · have hgap (s t : List Char) :
        Text.words (s ++ ("  ".toList ++ t)) = Text.words s ++ Text.words t := by
      change Text.words (s ++ ' ' :: ' ' :: t) = _
      rw [Text.words_append_blank (by decide), Text.words_cons_blank (by decide)]
    rw [List.append_assoc, List.append_assoc, List.append_assoc, hgap, hgap,
      words_alignRight hindex, words_alignRight hkhz, words_alignRight hfigure]
    rfl
  · simp only [List.forall_mem_append, and_assoc]
    exact ⟨isPrintable_alignRight hindex.isPrintable, by decide,
      isPrintable_alignRight hkhz.isPrintable, by decide,
      isPrintable_alignRight hfigure.isPrintable⟩

def frequencyLines (fs : List ℤ) : List (Except LabelError (List Char)) :=
  .ok (alignRight 6 "Bucket".toList ++ "  ".toList ++ alignRight 10 "Min kHz".toList ++
      "  ".toList ++ alignRight 8 []) ::
    .ok (dashes 30) :: fs.mapIdx bucketLine

def tableLines (fs : List ℤ) (u : ProcessUsage) : List (Except LabelError (List Char)) :=
  title u :: (cells Label.frequency fs).map (headedLine "TID" "Name") ::
    .ok (dashes (25 + 10 * fs.length)) ::
    (u.threads.map threadLine ++ [(cells Label.duration u.total).map (headedLine "" "total")])

theorem frequencies_eq (fs : List ℤ) : frequencies fs = ofLines (frequencyLines fs) := rfl

theorem table_eq (fs : List ℤ) (u : ProcessUsage) : table fs u = ofLines (tableLines fs u) := rfl

theorem bucketLine_of_rows {rows : List (List Char)}
    (h : List.Forall₂ (fun x l => x = .ok l) (fs.mapIdx bucketLine) rows) :
    rows.length = fs.length ∧ ∀ i khz row, fs[i]? = some khz → rows[i]? = some row →
      bucketLine i khz = .ok row := by
  obtain ⟨hlength, hrow⟩ := List.forall₂_iff_get.mp h
  rw [List.length_mapIdx] at hlength
  refine ⟨hlength.symm, fun i khz row hkhz hget => ?_⟩
  obtain ⟨hi, rfl⟩ := List.getElem?_eq_some_iff.mp hkhz
  obtain ⟨hi', rfl⟩ := List.getElem?_eq_some_iff.mp hget
  have hline := hrow i (by rwa [List.length_mapIdx]) hi'
  simpa only [List.get_eq_getElem, List.getElem_mapIdx] using hline

theorem isFrequencyTable_of_lines
    (h : List.Forall₂ (fun x l => x = .ok l) (frequencyLines fs) ls) :
    IsFrequencyTable fs ls ∧ ∀ l ∈ ls, ∀ c ∈ l, IsPrintable c := by
  rcases h with _ | ⟨hfirst, _ | ⟨hsecond, hrest⟩⟩
  obtain rfl := Except.ok.inj hfirst
  obtain rfl := Except.ok.inj hsecond
  obtain ⟨hlength, hrows⟩ := bucketLine_of_rows hrest
  refine ⟨⟨_, _, _, rfl, hlength, fun i khz row hkhz hget =>
    (bucketLine_eq_ok (hrows i khz row hkhz hget)).1⟩, ?_⟩
  rw [List.forall_mem_cons, List.forall_mem_cons]
  refine ⟨by decide, isPrintable_dashes 30, fun row hmem => ?_⟩
  obtain ⟨i, hi, rfl⟩ := List.getElem_of_mem hmem
  have hkhz : fs[i]? = some fs[i] := List.getElem?_eq_getElem (hlength ▸ hi)
  exact (bucketLine_eq_ok (hrows i _ _ hkhz (List.getElem?_eq_getElem hi))).2

theorem exists_rows {α β : Type} {R : α → β → Prop} {as : List α} {a : α} {bs : List β}
    (h : List.Forall₂ R (as ++ [a]) bs) :
    ∃ rows last, bs = rows ++ [last] ∧ List.Forall₂ R as rows ∧ R a last := by
  induction as generalizing bs with
  | nil =>
    rcases h with _ | ⟨hlast, _ | _⟩
    exact ⟨[], _, rfl, .nil, hlast⟩
  | cons b as ih =>
    rcases h with _ | ⟨hb, hrest⟩
    obtain ⟨rows, last, rfl, hrows, hlast⟩ := ih hrest
    exact ⟨_ :: rows, last, rfl, .cons hb hrows, hlast⟩

theorem hasCells_of_headedLine {label : ℤ → Except LabelError String} {values : List ℤ}
    {first second : String} (hlabel : ∀ n s, label n = .ok s → IsFigure s.toList)
    (h : (cells label values).map (headedLine first second) = .ok l) :
    HasCells label values (Text.withoutEscapes l) := by
  obtain ⟨row, hrow, rfl⟩ := map_eq_ok.mp h
  exact hasCells_stripped hlabel hrow _

theorem isPrintable_of_headedLine {label : ℤ → Except LabelError String} {values : List ℤ}
    {first second : String} (hlabel : ∀ n s, label n = .ok s → IsFigure s.toList)
    (hfirst : ∀ c ∈ first.toList, IsPrintable c) (hsecond : ∀ c ∈ second.toList, IsPrintable c)
    (h : (cells label values).map (headedLine first second) = .ok l) :
    ∀ c ∈ l, IsPrintable c := by
  obtain ⟨row, hrow, rfl⟩ := map_eq_ok.mp h
  simp only [headedLine, alignLeft, List.forall_mem_append, and_assoc]
  exact ⟨isPrintable_alignRight hfirst, by decide, hsecond, isPrintable_replicate (by decide) _,
    isPrintable_cells hlabel hrow⟩

theorem hasCells_of_threadLine {t : ThreadUsage} (h : threadLine t = .ok l) :
    HasCells Label.duration t.times (Text.withoutEscapes l) := by
  obtain ⟨row, hrow, h⟩ := bind_eq_ok.mp h
  obtain ⟨id, -, rfl⟩ := map_eq_ok.mp h
  exact hasCells_stripped (fun _ _ => Label.isFigure_of_duration) hrow _

theorem isSnapshotTable_of_lines
    (h : List.Forall₂ (fun x l => x = .ok l) (tableLines fs u) ls)
    (htotal : u.total = slotSums fs.length (u.threads.map (·.times))) :
    IsSnapshotTable fs u (ls.map Text.withoutEscapes) := by
  rcases h with _ | ⟨-, _ | ⟨hheader, _ | ⟨-, hrest⟩⟩⟩
  obtain ⟨rows, total, rfl, hrows, hlast⟩ := exists_rows hrest
  rw [htotal] at hlast
  rw [List.forall₂_map_left_iff] at hrows
  refine ⟨_, _, _, rows.map Text.withoutEscapes, _, by
    rw [List.map_cons, List.map_cons, List.map_cons, List.map_append, List.map_singleton],
    hasCells_of_headedLine (fun _ _ => Label.isFigure_of_frequency) hheader, ?_,
    hasCells_of_headedLine (fun _ _ => Label.isFigure_of_duration) hlast⟩
  rw [List.forall₂_map_right_iff]
  exact hrows.imp fun t row hrow => hasCells_of_threadLine hrow

theorem forall_mem_tableLines {P : Char → Prop} (hP : ∀ c, IsPrintable c → P c)
    (h : List.Forall₂ (fun x l => x = .ok l) (tableLines fs u) ls)
    (hname : ∀ c ∈ u.name.toList, P c) (hnames : ∀ t ∈ u.threads, ∀ c ∈ t.name.toList, P c) :
    ∀ l ∈ ls, ∀ c ∈ l, P c := by
  rcases h with _ | ⟨htitle, _ | ⟨hheader, _ | ⟨hdashes, hrest⟩⟩⟩
  obtain ⟨rows, total, rfl, hrows, hlast⟩ := exists_rows hrest
  rw [List.forall₂_map_left_iff] at hrows
  have hheader := isPrintable_of_headedLine (fun _ _ => Label.isFigure_of_frequency) (by decide)
    (by decide) hheader
  have hlast := isPrintable_of_headedLine (fun _ _ => Label.isFigure_of_duration) (by decide)
    (by decide) hlast
  obtain rfl := Except.ok.inj hdashes
  simp only [List.forall_mem_cons, List.forall_mem_append]
  refine ⟨forall_mem_title hP htitle hname, fun c hc => hP c (hheader c hc),
    fun c hc => hP c (isPrintable_dashes _ c hc), fun row hrow => ?_,
    fun c hc => hP c (hlast c hc), by simp⟩
  obtain ⟨t, ht, hline⟩ := exists_mem_of_forall₂ hrows.flip hrow
  exact forall_mem_threadLine hP hline (hnames t ht)

end Tables

theorem sumTimes_eq_slotSums {n : ℕ} {rows : List (List ℤ)} (hne : rows ≠ [])
    (h : ∀ row ∈ rows, row.length = n) : sumTimes rows = slotSums n rows := by
  fun_induction sumTimes rows with
  | case1 => exact absurd rfl hne
  | case2 row => rw [slotSums_singleton (h row (by simp))]
  | case3 row rest hrest ih =>
    rw [slotSums_cons (h row (by simp)), ih hrest fun r hr => h r (by simp [hr])]

namespace CommandLine

section Run

variable {host : Host} {tree opened : FileTree} {s : Settings} {c : Collector}
  {args : List String} {input : String}

theorem TakesSnapshot.total_eq {pid : Option ℤ} {u : ProcessUsage}
    (h : TakesSnapshot host tree opened s c pid u) :
    u.total = slotSums c.minFrequencies.length (u.threads.map (·.times)) := by
  obtain ⟨process, htaken⟩ := h.exists_taken
  obtain ⟨pid, uid, husage⟩ := htaken.exists_usage
  obtain ⟨-, -, hne, -⟩ := Collector.threads_of_usage husage
  apply sumTimes_eq_slotSums (by simpa using hne)
  rw [List.forall_mem_map]
  exact h.length_times

theorem tables_agree (hload : Settings.load tree (Settings.filePath host.home) = .ok s)
    (has : HasCollector host tree opened s c) :
    (∀ args input, Request.ofArguments args = .ok .frequencies →
      (run host tree args input).exitCode = 0 →
      ∃ ls, IsPrinted (run host tree args input).output ls ∧
        Text.lines (run host tree args input).output = ls ∧
        IsFrequencyTable c.minFrequencies ls) ∧
    ∀ args input pid u, Request.ofArguments args = .ok (.snapshot pid .table) →
      answer host opened s c pid = .ok (some u) → '\n' ∉ u.name.toList →
      (∀ t ∈ u.threads, '\n' ∉ t.name.toList) →
      (run host tree args input).exitCode = 0 →
      (∀ t ∈ u.threads, t.times.length = c.minFrequencies.length) ∧
      ∃ ls, IsPrinted (run host tree args input).output ls ∧
        IsSnapshotTable c.minFrequencies u ls ∧
        (Text.IsUnbroken u.name.toList → (∀ t ∈ u.threads, Text.IsUnbroken t.name.toList) →
          Text.lines (run host tree args input).output = ls) := by
  constructor
  · intro args input hargs hcode
    have hreported := reported_frequencies hload has hargs hcode
    rw [frequencies_eq] at hreported
    obtain ⟨ls, hls, houtput⟩ := printed_of_reported hreported
    obtain ⟨htable, hplain⟩ := isFrequencyTable_of_lines hls
    have hshown : ls.map Text.withoutEscapes = ls := by
      conv_rhs => rw [← List.map_id ls]
      exact List.map_congr_left fun l hl => withoutEscapes_of_printable (hplain l hl)
    have hprinted := houtput fun l hl hmem => (hplain l hl _ hmem).ne_of_lt (by decide) rfl
    rw [hshown] at hprinted
    exact ⟨ls, hprinted,
      hprinted.lines_eq fun l hl c hc => (hplain l hl c hc).isLineBreak_eq_false, htable⟩
  · intro args input pid u hargs hanswer hname hnames hcode
    have htakes : TakesSnapshot host tree opened s c pid u :=
      ⟨hload, has.opens, has.create, hanswer⟩
    have hreported := reported_snapshot hload has hargs hanswer hcode
    rw [snapshotReport, table_eq] at hreported
    obtain ⟨ls, hls, houtput⟩ := printed_of_reported hreported
    have hfeed := forall_mem_tableLines (P := (· ≠ '\n'))
      (fun c hc => hc.ne_of_lt (by decide)) hls (fun c hc hfeed => hname (hfeed ▸ hc))
      (fun t ht c hc hfeed => hnames t ht (hfeed ▸ hc))
    have hprinted := houtput fun l hl hmem => hfeed l hl _ hmem rfl
    refine ⟨htakes.length_times, ls.map Text.withoutEscapes, hprinted,
      isSnapshotTable_of_lines hls htakes.total_eq, fun hunbroken hothers => ?_⟩
    apply hprinted.lines_eq
    exact unbroken_stripped (forall_mem_tableLines (fun _ hc => hc.isLineBreak_eq_false) hls
      hunbroken hothers)

end Run

section Sample

def cutName : String := "a 5ms\x1b[3"

def renamedTree (log : List UInt8) : FileTree :=
  (sampleTree 10 cutName log).set (sampleProcess.child "cmdline")
    (.file (Text.Utf8.encode "sh 7\x1b[".toList))

def renamedUsage : ProcessUsage :=
  { sampleUsage 10 cutName with name := "sh 7\x1b[" }

theorem takesSnapshot_renamed : TakesSnapshot sampleHost (renamedTree []) (renamedTree [])
    (sampleSettings 10 cutName) (sampleCollector 10 cutName) (some 5) renamedUsage := by
  have happend : (renamedTree []).appendBytes (Settings.logPath sampleHost.home) sampleLog =
      .ok (renamedTree sampleLog) := rfl
  have hlist : (renamedTree sampleLog).statsSource.listing sampleProcess = .ok ["5", "8"] :=
    listing_sample rfl rfl rfl
  exact takesSnapshot_of_scan cutName (by decide) (by decide) rfl rfl rfl rfl happend hlist
    rfl rfl rfl

theorem tables_agree_of_sample :
    IsFrequencyTable [100, 150]
        (Text.lines (run sampleHost (renamedTree []) ["frequencies"] "").output) ∧
      IsSnapshotTable [100, 150] renamedUsage
        (Text.lines (run sampleHost (renamedTree [])
          ["snapshot", "5", "--format", "table"] "").output) := by
  have h := takesSnapshot_renamed
  have hargs : Request.ofArguments ["frequencies"] = .ok .frequencies := by decide +kernel
  have hargs' : Request.ofArguments ["snapshot", "5", "--format", "table"] =
      .ok (.snapshot (some 5) .table) :=
    ofArguments_sample rfl
  have hsettings : loadSettings sampleHost { tree := renamedTree [] } =
      .ok (sampleSettings 10 cutName) := by
    rw [loadSettings, h.load]
  have hcode : (run sampleHost (renamedTree []) ["frequencies"] "").exitCode = 0 := by
    obtain ⟨o, hstart, hsilent, -⟩ :=
      startCollector_of_create h.opens h.create isClock_sampleHost (isTold_sample 10 _).slots
    rw [run_of_request hargs, runRequest, runFrequencies_of_started hsettings hstart]
    exact exitCode_of_report hsilent (by decide +kernel)
  have hcode' : (run sampleHost (renamedTree []) ["snapshot", "5", "--format", "table"]
      "").exitCode = 0 := by
    have htold : IsTold (sampleCollector 10 cutName) renamedUsage :=
      let told := isTold_sample 10 cutName
      ⟨told.slots, told.id, told.threads⟩
    obtain ⟨o, hreport, hsilent⟩ := runSnapshot_eq h isClock_sampleHost htold .table
    rw [run_of_request hargs', runRequest, hreport]
    exact exitCode_of_report hsilent (by decide +kernel)
  obtain ⟨hfrequencies, hsnapshot⟩ := tables_agree h.load ⟨h.opens, h.create⟩
  obtain ⟨ls, -, rfl, htable⟩ := hfrequencies _ "" hargs hcode
  obtain ⟨-, ls, -, htable', hlines⟩ :=
    hsnapshot _ "" _ _ hargs' h.usage (by decide) (by decide) hcode'
  refine ⟨htable, ?_⟩
  rw [hlines (by decide) (by decide)]
  exact htable'

end Sample

end CommandLine

end Residency
