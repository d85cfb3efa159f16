import Residency.Proofs.FileFrames
import Residency.Proofs.Toml.Documents
import Residency.Settings.Load
import Residency.Settings.Save

/-!
Settings are loaded as they were saved. The document that is written depends on the settings alone,
so it does not matter what stood at the path before, as long as a file can be written there.
-/
namespace Residency

def FileTree.IsWritable (t : FileTree) (p : Path) : Prop :=
  ∃ made place, t.makeDirectories p.parent = .ok made ∧ made.locate p = .ok place ∧
    made.entryAt place ≠ some .directory

namespace Settings

def integers (s : Settings) : List ℤ :=
  [s.buckets, s.tickMillis, s.logBytes, s.logBackups]

def written (s : Settings) : Setting → Toml
  | .procPath => .str s.procPath
  | .initialPath => .str s.initialPath
  | .buckets => .int s.buckets
  | .tickMillis => .int s.tickMillis
  | .processName => .str s.processName
  | .threadName => .str s.threadName
  | .logBytes => .int s.logBytes
  | .logBackups => .int s.logBackups

def entries (s : Settings) (h : Section) : Toml.Entries :=
  (Setting.all.filter (·.home = h)).map fun k => (k.key, s.written k)

def tables (s : Settings) : List (String × Toml.Entries) :=
  Section.all.map fun h => (h.name, s.entries h)

theorem isBare_key (k : Setting) : Toml.IsBare k.key := by
  cases k <;> exact ⟨by decide, List.all_eq_true.mp (by decide)⟩

theorem isBare_name (h : Section) : Toml.IsBare h.name := by
  cases h <;> exact ⟨by decide, List.all_eq_true.mp (by decide)⟩

variable {s : Settings}

theorem reads_written (hints : ∀ n ∈ s.integers, Number.isWritable n = true) (k : Setting) :
    Toml.Reads (s.value k) (s.written k) := by
  cases k with
  | procPath | initialPath | processName | threadName => exact .str _
  | buckets | tickMillis | logBytes | logBackups => exact .int (hints _ (by simp [integers]))

theorem readsSection (hints : ∀ n ∈ s.integers, Number.isWritable n = true) (h : Section) :
    Toml.ReadsSection (h.name, s.toDraft.entries h) (h.name, s.entries h) := by
  refine .mk (isBare_name h) ?_ ?_
  · rw [Draft.entries, entries, List.forall₂_map_left_iff, List.forall₂_map_right_iff,
      List.forall₂_same]
    exact fun k _ => .mk (isBare_key k) (reads_written hints k)
  · rw [entries, List.map_map]
    change ((Setting.all.filter (·.home = h)).map Setting.key).Nodup
    cases h <;> decide

theorem readsSections (hints : ∀ n ∈ s.integers, Number.isWritable n = true) :
    List.Forall₂ Toml.ReadsSection s.toDraft.sections s.tables := by
  rw [Draft.sections, tables, List.forall₂_map_left_iff, List.forall₂_map_right_iff,
    List.forall₂_same]
  exact fun h _ => readsSection hints h

theorem names_tables (s : Settings) : (s.tables.map (·.1)).Nodup := by
  rw [tables, List.map_map]
  change (Section.all.map Section.name).Nodup
  decide

theorem sectionEntries_tables (s : Settings) (h : Section) :
    sectionEntries (s.tables.map Toml.tableEntry) h = .ok (s.entries h) := by
  cases h <;> rfl

theorem find_entries (s : Settings) (k : Setting) :
    find (s.entries k.home) k.key = .ok (some (s.written k)) := by
  cases k <;> rfl

theorem readString_entries {k : Setting} {text : String} (h : s.written k = .str text)
    (default : String) : readString (s.entries k.home) k default = .ok text := by
  rw [readString, find_entries, h]
  rfl

theorem readNumber_entries {k : Setting} {n : ℤ} (h : s.written k = .int n)
    (hmin : k.minimum ≤ n) (default : ℤ) :
    readNumber (s.entries k.home) k default = .ok n := by
  rw [readNumber, find_entries, h]
  change (if n < k.minimum then _ else _) = _
  rw [if_neg (by omega)]

theorem ofDocument_tables (hs : s.InRange) :
    ofDocument (s.tables.map Toml.tableEntry) = .ok s := by
  obtain ⟨hbuckets, htick, hbytes, hbackups⟩ := hs
  have hproc := readString_entries (s := s) (k := .procPath) rfl
  have hinitial := readString_entries (s := s) (k := .initialPath) rfl
  have hprocess := readString_entries (s := s) (k := .processName) rfl
  have hthread := readString_entries (s := s) (k := .threadName) rfl
  have hbuckets := readNumber_entries (s := s) (k := .buckets) rfl hbuckets
  have htick := readNumber_entries (s := s) (k := .tickMillis) rfl htick
  have hbytes := readNumber_entries (s := s) (k := .logBytes) rfl hbytes
  have hbackups := readNumber_entries (s := s) (k := .logBackups) rfl hbackups
  simp only [Setting.home] at hproc hinitial hprocess hthread hbuckets htick hbytes hbackups
  simp only [ofDocument, sectionEntries_tables, ok_bind_eq, hproc, hinitial, hprocess, hthread,
    hbuckets, htick, hbytes, hbackups]
  rfl

theorem isLoose_toDraft (s : Settings) : s.toDraft.isLoose = false := by
  rfl

end Settings

theorem Settings.load_of_readBytes {s : Settings} (hs : s.InRange)
    (hints : ∀ n ∈ s.integers, Number.isWritable n = true) {t : FileTree} {p : Path}
    (h : t.readBytes p =
      .ok (Text.Utf8.encode (s.toDraft.sections.flatMap Toml.blockText))) :
    load t p = .ok s := by
  have hsections := readsSections hints
  have hread := FileTree.readText_of_readBytes h (Toml.carriageReturn_not_mem_blocks hsections)
  rw [load, FileTree.exists?_of_readBytes h]
  dsimp only
  rw [hread, ok_mapError, ok_bind, ofText, Toml.readDocument_blocks hsections (names_tables s)]
  dsimp only
  rw [ofDocument_tables hs, ok_mapError]

section Save

variable {t t' : FileTree} {p : Path} {d : Draft}

inductive Draft.Ends (d : Draft) (t : FileTree) (p : Path) :
    FileTree × Except SaveError Unit → Prop where
  | noDirectory {e : FileError} (h : t.makeDirectories p.parent = .error e) :
      Ends d t p (t.tryDirectories p.parent, .error (.file e))
  | noDocument {made : FileTree} {e : Toml.WriteError}
      (hmade : t.makeDirectories p.parent = .ok made) (h : d.document = .error e) :
      Ends d t p (made, .error (.value e))
  | noFile {made : FileTree} {text : List Char} {e : FileError}
      (hmade : t.makeDirectories p.parent = .ok made) (htext : d.document = .ok text)
      (h : made.writeBytes p (d.bytes text) = .error e) : Ends d t p (made, .error (.file e))
  | emptied {made t' : FileTree} {text : List Char} (hmade : t.makeDirectories p.parent = .ok made)
      (htext : d.document = .ok text) (hloose : d.isLoose = true)
      (h : made.writeBytes p [] = .ok t') : Ends d t p (t', .error (.encoding d.encodeError))
  | saved {made t' : FileTree} {text : List Char} (hmade : t.makeDirectories p.parent = .ok made)
      (htext : d.document = .ok text) (hloose : d.isLoose = false)
      (h : made.writeBytes p (Text.Utf8.encode text) = .ok t') : Ends d t p (t', .ok ())

theorem Draft.ends_save (d : Draft) (t : FileTree) (p : Path) : d.Ends t p (d.save t p) := by
  rw [Draft.save]
  split
  · next hmade => exact .noDirectory hmade
  · next made hmade =>
    split
    · next htext => exact .noDocument hmade htext
    · next text htext =>
      split
      · next hwritten => exact .noFile hmade htext hwritten
      · next t' hwritten =>
        cases hloose : d.isLoose with
        | true =>
          rw [bytes, hloose] at hwritten
          exact .emptied hmade htext hloose hwritten
        | false =>
          rw [bytes, hloose] at hwritten
          exact .saved hmade htext hloose hwritten

theorem Draft.save_eq_ok (h : d.save t p = (t', .ok ())) :
    d.isLoose = false ∧ ∃ made text, t.makeDirectories p.parent = .ok made ∧
      d.document = .ok text ∧ made.writeBytes p (Text.Utf8.encode text) = .ok t' := by
  have hends := d.ends_save t p
  rw [h] at hends
  cases hends with
  | saved hmade htext hloose hwritten => exact ⟨hloose, _, _, hmade, htext, hwritten⟩

theorem Draft.writesOnly_of_save (h : d.save t p = (t', .ok ())) :
    t.WritesOnly [p.destination] t' := by
  obtain ⟨-, made, text, hmade, -, hwritten⟩ := save_eq_ok h
  exact ((FileTree.writesOnly_makeDirectories hmade).mono (List.nil_subset _)).trans
    (FileTree.writesOnly_writeBytes hwritten)

theorem Draft.writesOnly_of_save_error (hd : d.isLoose = false) {e : SaveError}
    (h : d.save t p = (t', .error e)) : t.WritesOnly [] t' := by
  have hends := d.ends_save t p
  rw [h] at hends
  cases hends with
  | noDirectory => exact FileTree.writesOnly_tryDirectories t p.parent
  | noDocument hmade => exact FileTree.writesOnly_makeDirectories hmade
  | noFile hmade => exact FileTree.writesOnly_makeDirectories hmade
  | emptied _ _ hloose => exact absurd hloose (by simp [hd])

theorem Draft.exists_save (hp : t.IsWritable p) (hd : d.isLoose = false) {text : List Char}
    (h : d.document = .ok text) : ∃ t', d.save t p = (t', .ok ()) := by
  obtain ⟨made, place, hmade, hplace, hfile⟩ := hp
  rw [Draft.save, hmade]
  dsimp only
  rw [h]
  dsimp only
  rw [FileTree.writeBytes_of_locate hplace hfile, hd]
  exact ⟨_, rfl⟩

namespace Settings

variable {s : Settings} (hints : ∀ n ∈ s.integers, Number.isWritable n = true)
include hints

theorem exists_save (hp : t.IsWritable p) : ∃ t', s.toDraft.save t p = (t', .ok ()) :=
  Draft.exists_save hp (isLoose_toDraft s) (Toml.document_eq (readsSections hints))

theorem load_of_saved (hs : s.InRange) (h : s.toDraft.save t p = (t', .ok ())) :
    load t' p = .ok s := by
  obtain ⟨-, made, text, -, htext, hwritten⟩ := Draft.save_eq_ok h
  cases (Toml.document_eq (readsSections hints)).symm.trans htext
  exact load_of_readBytes hs hints (FileTree.readBytes_of_writeBytes hwritten)

end Settings

end Save

theorem Settings.load_of_save {s : Settings} (hs : s.InRange)
    (hints : ∀ n ∈ s.integers, Number.isWritable n = true) {t : FileTree} {p : Path}
    (hp : t.IsWritable p) :
    ∃ t', s.toDraft.save t p = (t', .ok ()) ∧ load t' p = .ok s := by
  obtain ⟨t', hsave⟩ := exists_save hints hp
  exact ⟨t', hsave, load_of_saved hints hs hsave⟩

def brokenTree : FileTree :=
  { entries := [({ parts := ["etc"] }, .directory),
      ({ parts := ["etc", "config.toml"] }, .file [0x5B, 0xFF, 0x0A])] }

def brokenPath : Path :=
  { parts := ["etc", "config.toml"] }

def oddSettings : Settings :=
  { procPath := "\"\\\r\n\x00\x7f😀", initialPath := "", buckets := 1, processName := "\\u0041'''",
    threadName := "\t#]\"\"\"", logBackups := 0 }

theorem Settings.load_of_save_over_broken :
    oddSettings.InRange ∧ (∀ n ∈ oddSettings.integers, Number.isWritable n = true) ∧
      brokenTree.IsWritable brokenPath ∧
      ∃ t', oddSettings.toDraft.save brokenTree brokenPath = (t', .ok ()) ∧
        load t' brokenPath = .ok oddSettings := by
  have hrange : oddSettings.InRange := by decide
  have hints : ∀ n ∈ oddSettings.integers, Number.isWritable n = true := by decide
  have hwritable : brokenTree.IsWritable brokenPath :=
    ⟨brokenTree, brokenPath, rfl, rfl, by decide⟩
  exact ⟨hrange, hints, hwritable, load_of_save hrange hints hwritable⟩

end Residency
