import Residency.Proofs.SettingsFile
import Residency.Proofs.Toml.Flaws

/-!
What saving settings does to the files. The text is there as a whole before the file is touched, so
a value with no place in a document, however deep it stands, costs no file its content.
-/
namespace Residency

structure FileTree.KeepsFiles (t : FileTree) (places : List Path) (t' : FileTree) : Prop where
  directories : ∀ place, t.entryAt place = some .directory → t'.entryAt place = some .directory
  files : ∀ place ∉ places, ∀ bytes,
    t'.entryAt place = some (.file bytes) ↔ t.entryAt place = some (.file bytes)

theorem FileTree.WritesOnly.keepsFiles {t t' : FileTree} {places : List Path}
    (h : t.WritesOnly places t') : t.KeepsFiles places t' where
  directories place := (h place).directory
  files place hplace _ := (h place).file_iff hplace

namespace Draft

theorem exists_document_iff (d : Draft) :
    (∃ text, d.document = .ok text) ↔ ∀ k : Setting, Toml.HasPlace (d.value k) := by
  rw [document, Toml.exists_document_iff]
  simp only [sections, entries, List.forall_mem_map, List.mem_filter, decide_eq_true_eq]
  constructor
  · intro h k
    exact h k.home (by cases k <;> decide) k ⟨by cases k <;> decide, rfl⟩
  · exact fun h _ _ k _ => h k

theorem save_ok_iff (d : Draft) (t : FileTree) (p : Path) : (d.save t p).2 = .ok () ↔
    t.IsWritable p ∧ (∀ k : Setting, Toml.HasPlace (d.value k)) ∧ d.isLoose = false := by
  rw [← exists_document_iff]
  constructor
  · intro h
    obtain ⟨hloose, made, text, hmade, htext, hwritten⟩ := save_eq_ok (Prod.ext rfl h)
    obtain ⟨place, hplace, hfile, -⟩ := FileTree.writeBytes_eq_ok hwritten
    exact ⟨⟨made, place, hmade, hplace, hfile⟩, ⟨text, htext⟩, hloose⟩
  · rintro ⟨hp, ⟨text, htext⟩, hloose⟩
    obtain ⟨t', h⟩ := exists_save hp hloose htext
    rw [h]

inductive Leaves (d : Draft) (t : FileTree) (p : Path) :
    FileTree × Except SaveError Unit → Prop where
  | failed {t' : FileTree} {e : SaveError} (he : ∀ flaw, e ≠ .encoding flaw)
      (files : t.KeepsFiles [] t') : Leaves d t p (t', .error e)
  | emptied {t' : FileTree} {flaw : Text.Utf8.EncodeError} (hloose : d.isLoose = true)
      (files : t.KeepsFiles [p.destination] t') (file : t'.readBytes p = .ok []) :
      Leaves d t p (t', .error (.encoding flaw))
  | saved {t' : FileTree} {text : List Char} (hloose : d.isLoose = false)
      (files : t.KeepsFiles [p.destination] t') (htext : d.document = .ok text)
      (file : t'.readBytes p = .ok (Text.Utf8.encode text)) : Leaves d t p (t', .ok ())

theorem leaves_save (d : Draft) (t : FileTree) (p : Path) : d.Leaves t p (d.save t p) := by
  have hends := d.ends_save t p
  generalize d.save t p = ending at hends
  have written {made t' : FileTree} {bytes : List UInt8}
      (hmade : t.makeDirectories p.parent = .ok made) (h : made.writeBytes p bytes = .ok t') :
      t.KeepsFiles [p.destination] t' :=
    (((FileTree.writesOnly_makeDirectories hmade).mono (List.nil_subset _)).trans
      (FileTree.writesOnly_writeBytes h)).keepsFiles
  cases hends with
  | noDirectory => exact .failed nofun (FileTree.writesOnly_tryDirectories t p.parent).keepsFiles
  | noDocument hmade => exact .failed nofun (FileTree.writesOnly_makeDirectories hmade).keepsFiles
  | noFile hmade => exact .failed nofun (FileTree.writesOnly_makeDirectories hmade).keepsFiles
  | emptied hmade htext hloose h =>
    exact .emptied hloose (written hmade h) (FileTree.readBytes_of_writeBytes h)
  | saved hmade htext hloose h =>
    exact .saved hloose (written hmade h) htext (FileTree.readBytes_of_writeBytes h)

/-- A save that fails costs no file its content, unless there is a surrogate in the values: then the
file is left empty. Values that nest deeper may fail in ways that are left out here. -/
theorem save_keeps_files (d : Draft) (t : FileTree) (p : Path) :
    d.Leaves t p (d.save t p) ∧ ((∀ k : Setting, (d.value k).depth ≤ 50) →
      ((d.save t p).2 = .ok () ↔
        t.IsWritable p ∧ (∀ k : Setting, Toml.HasPlace (d.value k)) ∧ d.isLoose = false)) :=
  ⟨leaves_save d t p, fun _ => save_ok_iff d t p⟩

-- The directory is made before the value is refused.
example : (({} : Settings).toDraft.set .logBackups (.arr [.null])).save {}
      { parts := ["etc", "config.toml"] } =
    ({ entries := [({ parts := ["etc"] }, .directory)] }, .error (.value .missingItem)) := by
  decide +kernel

def nestedNull : Draft :=
  ({} : Settings).toDraft.set .logBackups (.arr [.obj [("a", .arr [.int 1, .null])]])

def looseDraft : Draft :=
  ({} : Settings).toDraft.put .threadName (.loose (.str [.surrogate ⟨0⟩]))

theorem depth_nestedNull (k : Setting) : (nestedNull.value k).depth ≤ 50 := by
  cases k <;> decide

theorem save_keeps_files_of_nestedNull :
    nestedNull.Leaves brokenTree brokenPath (nestedNull.save brokenTree brokenPath) ∧
      ¬ (∀ k : Setting, Toml.HasPlace (nestedNull.value k)) ∧
      oddSettings.toDraft.Leaves brokenTree brokenPath
        (oddSettings.toDraft.save brokenTree brokenPath) := by
  obtain ⟨hleaves, hok⟩ := save_keeps_files nestedNull brokenTree brokenPath
  have hfailed : (nestedNull.save brokenTree brokenPath).2 ≠ .ok () := by decide +kernel
  have hwritable : brokenTree.IsWritable brokenPath := ⟨brokenTree, brokenPath, rfl, rfl, by decide⟩
  refine ⟨hleaves, fun hplace => hfailed ((hok depth_nestedNull).mpr ⟨hwritable, hplace, rfl⟩), ?_⟩
  exact (save_keeps_files oddSettings.toDraft brokenTree brokenPath).1

theorem save_empties_file :
    (∃ flaw, (looseDraft.save brokenTree brokenPath).2 = .error (.encoding flaw)) ∧
      brokenTree.readBytes brokenPath = .ok [0x5B, 0xFF, 0x0A] ∧
      (looseDraft.save brokenTree brokenPath).1.readBytes brokenPath = .ok [] := by
  refine ⟨⟨looseDraft.encodeError, ?_⟩, by decide, by decide +kernel⟩
  decide +kernel

end Draft

end Residency
