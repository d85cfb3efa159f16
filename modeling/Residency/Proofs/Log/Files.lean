import Residency.EventLog
import Residency.Proofs.Renames
import Residency.Proofs.ThreadReadings

namespace Residency

namespace FileTree

variable {t t' : FileTree} {p place : Path}

theorem isDirectory_iff : t.isDirectory p = true ↔
    ∃ place, t.locate p = .ok place ∧ t.entryAt place = some .directory := by
  unfold isDirectory
  cases t.locate p with
  | error e => simp
  | ok place => simp

theorem isDirectory_set {e : FileEntry} (h : t.entryAt place ≠ some .directory)
    (hp : t.isDirectory p = true) : (t.set place e).isDirectory p = true := by
  obtain ⟨found, hlocate, hentry⟩ := isDirectory_iff.mp hp
  refine isDirectory_iff.mpr ⟨found, locate_set h hlocate, ?_⟩
  have hne : found ≠ place := by
    rintro rfl
    exact h hentry
  rw [entryAt_set_of_ne t e hne, hentry]

theorem KeepsOutside.isDirectory {tops : List Path} (h : t.KeepsOutside tops t')
    (htops : ∀ top ∈ tops, t.entryAt top ≠ some .directory) (hp : t.isDirectory p = true) :
    t'.isDirectory p = true := by
  obtain ⟨found, hlocate, hentry⟩ := isDirectory_iff.mp hp
  refine isDirectory_iff.mpr ⟨found, h.locate htops hlocate, ?_⟩
  rw [h found fun top htop => ?_, hentry]
  rw [← Bool.not_eq_true]
  exact fun hunder => htops top htop (rooted_of_locate hlocate hentry top hunder)

theorem isDirectory_of_makeDirectory (h : t.makeDirectory p = .ok t') :
    t'.isDirectory p = true := by
  obtain ⟨place, hplace, h⟩ := bind_eq_ok.mp h
  split at h
  · cases h
  · next hnone =>
    cases h
    have hfile : t.entryAt place ≠ some .directory := by
      rw [hnone]
      exact nofun
    exact isDirectory_iff.mpr
      ⟨place, locate_set hfile hplace, entryAt_set_self t _ (isGround_eq_false hfile)⟩

theorem isDirectory_of_ensureDirectory (h : t.ensureDirectory p = .ok t') :
    t'.isDirectory p = true := by
  unfold ensureDirectory at h
  split at h
  · next hmade =>
    cases h
    exact isDirectory_of_makeDirectory hmade
  · split_ifs at h with hdirectory
    cases h
    exact hdirectory

theorem isDirectory_of_makeDirectories (hne : p.parts ≠ []) (h : t.makeDirectories p = .ok t') :
    t'.isDirectory p = true := by
  obtain ⟨name, above, hparts⟩ : ∃ name above, p.parts.reverse = name :: above :=
    List.exists_cons_of_ne_nil (by simpa using hne)
  have hp : ({ root := p.root, parts := (name :: above).reverse } : Path) = p := by
    rw [← hparts, List.reverse_reverse]
  rw [makeDirectories, hparts, makeDirectoriesFrom, hp] at h
  split at h
  · obtain ⟨upper, -, h⟩ := bind_eq_ok.mp h
    exact isDirectory_of_ensureDirectory h
  · exact isDirectory_of_ensureDirectory h

theorem makeDirectories_of_isDirectory (hne : p.parts ≠ []) (h : t.isDirectory p = true) :
    t.makeDirectories p = .ok t := by
  obtain ⟨name, above, hparts⟩ : ∃ name above, p.parts.reverse = name :: above :=
    List.exists_cons_of_ne_nil (by simpa using hne)
  have hp : ({ root := p.root, parts := (name :: above).reverse } : Path) = p := by
    rw [← hparts, List.reverse_reverse]
  have hensure : t.ensureDirectory p = .ok t := by
    obtain ⟨place, hplace, hentry⟩ := isDirectory_iff.mp h
    rw [ensureDirectory, makeDirectory, hplace, ok_bind, hentry]
    dsimp only
    rw [if_pos h]
  rw [makeDirectories, hparts, makeDirectoriesFrom, hp, hensure]

end FileTree

structure HasLog (t : FileTree) (home : Path) (bytes : List UInt8) : Prop where
  directory : t.isDirectory (Settings.stateDirectory home) = true
  file : t.readBytes (Settings.logPath home) = .ok bytes

theorem stateDirectory_ne_nil (home : Path) : (Settings.stateDirectory home).parts ≠ [] := by
  have hname : ∀ p : Path, p ++ "cpu-residency" = p.child "cpu-residency" :=
    fun p => p.append_name (by decide) (by decide) (by decide)
  rw [Settings.stateDirectory, hname]
  exact List.concat_ne_nil _ _

section Log

variable {t t' opened : FileTree} {home : Path} {bytes : List UInt8} {limit : Json}

def IsSize : Json → Prop
  | .int _ | .bool _ | .float _ => True
  | _ => False

theorem openLog_of_isSize (h : IsSize limit) : t.openLog home limit =
    match t.makeDirectories (Settings.stateDirectory home) with
    | .error e => (t.tryDirectories (Settings.stateDirectory home), .error (.file e))
    | .ok t => match t.appendBytes (Settings.logPath home) [] with
      | .error e => (t, .error (.file e))
      | .ok t => (t, .ok ()) := by
  cases limit with
  | int n => rfl
  | bool b => rfl
  | float x => rfl
  | _ => exact h.elim

theorem isSize_of_openLog (h : (t.openLog home limit).2 = .ok ()) : IsSize limit := by
  cases limit with
  | int n => trivial
  | bool b => trivial
  | float x => trivial
  | _ =>
    unfold FileTree.openLog at h
    cases hmade : t.makeDirectories (Settings.stateDirectory home) <;> rw [hmade] at h <;> cases h

theorem HasLog.openLog (h : HasLog t home bytes) (hlimit : IsSize limit) :
    ∃ t', t.openLog home limit = (t', .ok ()) ∧ HasLog t' home bytes ∧
      t.KeepsOutside [(Settings.logPath home).destination] t' := by
  have hholds := FileTree.holds_some.mpr h.file
  obtain ⟨t', happend, ht'⟩ := FileTree.appendBytes_of_holds hholds []
  have hkept := FileTree.keepsOutside_appendBytes happend
  rw [Option.getD_some, List.append_nil, FileTree.holds_some] at ht'
  refine ⟨t', ?_, ⟨?_, ht'⟩, hkept⟩
  · rw [openLog_of_isSize hlimit, FileTree.makeDirectories_of_isDirectory
      (stateDirectory_ne_nil home) h.directory]
    dsimp only
    rw [happend]
  · exact hkept.isDirectory (by simpa using hholds.not_directory) h.directory

theorem hasLog_of_openLog (h : t.openLog home limit = (opened, .ok ())) :
    ∃ bytes, HasLog opened home bytes ∧
      ∀ old, t.readBytes (Settings.logPath home) = .ok old → old = bytes := by
  rw [openLog_of_isSize (isSize_of_openLog (congrArg Prod.snd h))] at h
  cases hmade : t.makeDirectories (Settings.stateDirectory home) with
  | error e =>
    rw [hmade] at h
    cases h
  | ok made =>
    rw [hmade] at h
    dsimp only at h
    cases happend : made.appendBytes (Settings.logPath home) [] with
    | error e =>
      rw [happend] at h
      cases h
    | ok t' =>
      rw [happend] at h
      cases h
      have hdirectory := FileTree.isDirectory_of_makeDirectories (stateDirectory_ne_nil home) hmade
      obtain ⟨place, bytes, hplace, hfile, hsame, rfl⟩ := FileTree.appendBytes_eq_ok happend
      rw [List.append_nil]
      refine ⟨bytes, ⟨FileTree.isDirectory_set hfile hdirectory, ?_⟩, ?_⟩
      · exact FileTree.readBytes_eq_ok.mpr ⟨place, FileTree.locate_set hfile hplace,
          FileTree.entryAt_set_self _ _ (FileTree.isGround_eq_false hfile)⟩
      · intro old hold
        have hkept := (FileTree.writesOnly_makeDirectories hmade).readBytes (by simp) hold
        obtain ⟨found, hfound, hentry⟩ := FileTree.readBytes_eq_ok.mp hkept
        cases hplace.symm.trans hfound
        exact (hsame old hentry).symm

theorem writesOnly_openLog (h : IsSize limit) :
    t.WritesOnly [(Settings.logPath home).destination] (t.openLog home limit).1 := by
  rw [openLog_of_isSize h]
  split
  · exact (FileTree.writesOnly_tryDirectories t _).mono (List.nil_subset _)
  · next made hmade =>
    have hdirectories : t.WritesOnly [(Settings.logPath home).destination] made :=
      (FileTree.writesOnly_makeDirectories hmade).mono (List.nil_subset _)
    split
    · exact hdirectories
    · next happend => exact hdirectories.trans (FileTree.writesOnly_appendBytes happend)

theorem writesOnly_openLog_of_directory
    (hdirectory : t.entryAt (Settings.logPath home).destination = some .directory)
    (h : IsSize limit) :
    ∃ e, (t.openLog home limit).2 = .error e ∧ t.WritesOnly [] (t.openLog home limit).1 := by
  rw [openLog_of_isSize h]
  cases hmade : t.makeDirectories (Settings.stateDirectory home) with
  | error e => exact ⟨_, rfl, FileTree.writesOnly_tryDirectories t _⟩
  | ok made =>
    have hkept := FileTree.writesOnly_makeDirectories hmade
    dsimp only
    cases happend : made.appendBytes (Settings.logPath home) [] with
    | error e => exact ⟨_, rfl, hkept⟩
    | ok appended =>
      obtain ⟨place, -, hplace, hfile, -, -⟩ := FileTree.appendBytes_eq_ok happend
      rw [← FileTree.destination_of_locate hplace] at hfile
      exact absurd ((hkept _).directory hdirectory) hfile

end Log

end Residency
