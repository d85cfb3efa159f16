import Residency.Proofs.Files

/-!
What becomes of the files of a tree. A path leads to the same place in every tree in which it leads
anywhere, so the places that an operation writes at are known before the tree is.
-/
namespace Residency

namespace Path

/-- The place that a name leads to from another. From the working directory and above it the way up
is a place of its own. -/
def step (place : Path) (name : String) : Path :=
  if name ≠ ".." ∨ place.root = .workingDirectory ∧ FileTree.isGround place = true then
    place.child name
  else place.parent

def destination (p : Path) : Path :=
  p.parts.foldl step { root := if p.root = .workingDirectory then .workingDirectory else .slash }

theorem destination_child (p : Path) {name : String} (h : name ≠ "..") :
    (p.child name).destination = p.destination.child name := by
  have hstep : ∀ place : Path, place.step name = place.child name :=
    fun place => if_pos (.inl h)
  rw [destination, child, List.foldl_append, List.foldl_cons, List.foldl_nil, hstep]
  rfl

theorem child_inj {p q : Path} {a b : String} (h : p.child a = q.child b) : a = b := by
  have hparts : p.parts ++ [a] = q.parts ++ [b] := congrArg parts h
  exact List.singleton_inj.mp (List.append_inj_right' hparts rfl)

end Path

namespace FileTree

variable {t t' : FileTree} {p place found : Path} {places : List Path}

theorem eq_foldl_of_follow {start : Path} {names : List String}
    (h : t.follow start names = .ok found) : found = names.foldl Path.step start := by
  induction names generalizing start with
  | nil =>
    cases h
    rfl
  | cons name rest ih =>
    rw [follow] at h
    rw [List.foldl_cons, Path.step]
    split at h
    · cases h
    · cases h
    · split_ifs at h with hup hground hlong
      · rw [if_pos (.inr (by simpa using hground))]
        exact ih h
      · rw [if_neg (by simpa [hup] using hground)]
        exact ih h
      · rw [if_pos (.inl hup)]
        exact ih h

theorem destination_of_locate (h : t.locate p = .ok found) : p.destination = found := by
  unfold locate at h
  split at h
  · cases h
  · split at h
    · cases h
    · exact (eq_foldl_of_follow (mapError_eq_ok.mp h)).symm

inductive Becomes (places : List Path) (place : Path) :
    Option FileEntry → Option FileEntry → Prop where
  | same (e : Option FileEntry) : Becomes places place e e
  | made : Becomes places place none (some .directory)
  | written {e : Option FileEntry} (bytes : List UInt8) (hplace : place ∈ places)
      (hfile : e ≠ some .directory) : Becomes places place e (some (.file bytes))

def WritesOnly (t : FileTree) (places : List Path) (t' : FileTree) : Prop :=
  ∀ place, Becomes places place (t.entryAt place) (t'.entryAt place)

section Becomes

variable {e e' e'' : Option FileEntry} (h : Becomes places place e e')
include h

theorem Becomes.trans (h' : Becomes places place e' e'') : Becomes places place e e'' := by
  cases h' with
  | same => exact h
  | made =>
    cases h with
    | same => exact .made
  | written bytes hplace hfile =>
    cases h with
    | same => exact .written bytes hplace hfile
    | made => exact absurd rfl hfile
    | written _ _ hold => exact .written bytes hplace hold

theorem Becomes.mono {more : List Path} (hp : places ⊆ more) : Becomes more place e e' := by
  cases h with
  | same => exact .same _
  | made => exact .made
  | written bytes hplace hfile => exact .written bytes (hp hplace) hfile

theorem Becomes.file_iff (hp : place ∉ places) {bytes : List UInt8} :
    e' = some (.file bytes) ↔ e = some (.file bytes) := by
  cases h with
  | same => rfl
  | made => simp
  | written _ hplace => exact absurd hplace hp

theorem Becomes.unwritten (hp : place ∉ places) : Becomes [] place e e' := by
  cases h with
  | same => exact .same _
  | made => exact .made
  | written _ hplace => exact absurd hplace hp

theorem Becomes.directory (he : e = some .directory) : e' = some .directory := by
  cases h with
  | same => exact he
  | made => rfl
  | written _ _ hfile => exact absurd he hfile

end Becomes

theorem WritesOnly.refl (t : FileTree) (places : List Path) : t.WritesOnly places t :=
  fun _ => .same _

theorem WritesOnly.trans {t'' : FileTree} (h : t.WritesOnly places t')
    (h' : t'.WritesOnly places t'') : t.WritesOnly places t'' :=
  fun place => (h place).trans (h' place)

theorem WritesOnly.mono {more : List Path} (h : t.WritesOnly places t') (hp : places ⊆ more) :
    t.WritesOnly more t' :=
  fun place => (h place).mono hp

theorem WritesOnly.readBytes (h : t.WritesOnly places t') (hp : p.destination ∉ places)
    {bytes : List UInt8} (hread : t.readBytes p = .ok bytes) : t'.readBytes p = .ok bytes := by
  obtain ⟨place, hplace, hentry⟩ := readBytes_eq_ok.mp hread
  rw [destination_of_locate hplace] at hp
  exact readBytes_eq_ok.mpr ⟨place,
    locate_of_directories (fun other => (h other).directory) hplace,
    ((h place).file_iff hp).mpr hentry⟩

theorem writesOnly_set {e : FileEntry} (hfile : t.entryAt place ≠ some .directory)
    (h : Becomes places place (t.entryAt place) (some e)) :
    t.WritesOnly places (t.set place e) := by
  intro other
  by_cases hother : other = place
  · rw [hother, entryAt_set_self t e (isGround_eq_false hfile)]
    exact h
  · rw [entryAt_set_of_ne t e hother]
    exact .same _

theorem writesOnly_makeDirectory (h : t.makeDirectory p = .ok t') : t.WritesOnly [] t' := by
  obtain ⟨place, -, h⟩ := bind_eq_ok.mp h
  split at h
  · cases h
  · next hnone =>
    cases h
    refine writesOnly_set (by simp [hnone]) ?_
    rw [hnone]
    exact .made

theorem writesOnly_ensureDirectory (h : t.ensureDirectory p = .ok t') : t.WritesOnly [] t' := by
  unfold ensureDirectory at h
  split at h
  · next hmade =>
    cases h
    exact writesOnly_makeDirectory hmade
  · split_ifs at h
    cases h
    exact .refl t []

theorem writesOnly_makeDirectoriesFrom {root : PathRoot} {names : List String}
    (h : t.makeDirectoriesFrom root names = .ok t') : t.WritesOnly [] t' := by
  induction names generalizing t' with
  | nil =>
    cases h
    exact .refl t []
  | cons name above ih =>
    rw [makeDirectoriesFrom] at h
    split at h
    · obtain ⟨upper, hupper, h⟩ := bind_eq_ok.mp h
      exact (ih hupper).trans (writesOnly_ensureDirectory h)
    · exact writesOnly_ensureDirectory h

theorem writesOnly_makeDirectories (h : t.makeDirectories p = .ok t') : t.WritesOnly [] t' :=
  writesOnly_makeDirectoriesFrom h

theorem writesOnly_tryDirectories (t : FileTree) (p : Path) :
    t.WritesOnly [] (t.tryDirectories p) := by
  rw [tryDirectories]
  induction p.parts.reverse with
  | nil => exact .refl t []
  | cons name above ih =>
    rw [tryDirectoriesFrom]
    split
    · next hmade => exact writesOnly_makeDirectoriesFrom hmade
    · exact ih
    · exact .refl t []

theorem writesOnly_of_locate (hp : t.locate p = .ok place)
    (hfile : t.entryAt place ≠ some .directory) (bytes : List UInt8) :
    t.WritesOnly [p.destination] (t.set place (.file bytes)) := by
  refine writesOnly_set hfile (.written bytes ?_ hfile)
  rw [destination_of_locate hp]
  exact List.mem_singleton_self place

theorem writesOnly_writeBytes {bytes : List UInt8} (h : t.writeBytes p bytes = .ok t') :
    t.WritesOnly [p.destination] t' := by
  obtain ⟨place, hplace, hfile, rfl⟩ := writeBytes_eq_ok h
  exact writesOnly_of_locate hplace hfile bytes

theorem writesOnly_appendBytes {more : List UInt8} (h : t.appendBytes p more = .ok t') :
    t.WritesOnly [p.destination] t' := by
  obtain ⟨place, old, hplace, hfile, -, rfl⟩ := appendBytes_eq_ok h
  exact writesOnly_of_locate hplace hfile _

end FileTree

end Residency
