import Residency.Proofs.Outcomes
import Residency.Proofs.Utf8
import Residency.TextFile

/-!
A file that has just been written is read back. Writing changes nothing on the way to the file,
since every place on the way is a directory and the file is none.
-/
namespace Residency

namespace Path

variable {p q top : Path}

theorem isUnder_iff : p.isUnder top = true ↔ p.root = top.root ∧ top.parts <+: p.parts := by
  simp [isUnder]

@[simp] theorem isUnder_self (p : Path) : p.isUnder p = true :=
  isUnder_iff.mpr ⟨rfl, List.prefix_rfl⟩

theorem isUnder_trans (h : p.isUnder q = true) (h' : q.isUnder top = true) :
    p.isUnder top = true := by
  rw [isUnder_iff] at *
  exact ⟨h.1.trans h'.1, h'.2.trans h.2⟩

theorem isUnder_child_iff (p q : Path) (name : String) :
    (p.child name).isUnder q = true ↔ p.isUnder q = true ∨ q = p.child name := by
  simp only [isUnder_iff, child, List.prefix_concat_iff]
  constructor
  · rintro ⟨hroot, hparts | hparts⟩
    · exact .inr (by cases q; simp_all)
    · exact .inl ⟨hroot, hparts⟩
  · rintro (⟨hroot, hparts⟩ | rfl)
    · exact ⟨hroot, .inr hparts⟩
    · exact ⟨rfl, .inl rfl⟩

theorem isUnder_parent (p : Path) : p.isUnder p.parent = true :=
  isUnder_iff.mpr ⟨rfl, List.dropLast_prefix p.parts⟩

end Path

namespace FileTree

variable {t t' : FileTree} {p place found : Path} {bytes : List UInt8}

def Rooted (t : FileTree) (place : Path) : Prop :=
  ∀ top, place.isUnder top = true → t.entryAt top = some .directory

theorem rooted_of_isGround (h : isGround place = true) : t.Rooted place := by
  intro top htop
  have hground : isGround top = true := by
    rw [isGround, List.all_eq_true] at *
    exact fun name hname => h name ((Path.isUnder_iff.mp htop).2.subset hname)
  exact if_pos hground

theorem Rooted.parent (h : t.Rooted place) : t.Rooted place.parent :=
  fun _ htop => h _ (Path.isUnder_trans (Path.isUnder_parent place) htop)

theorem Rooted.child {name : String} (h : t.Rooted place)
    (hchild : t.entryAt (place.child name) = some .directory) : t.Rooted (place.child name) := by
  intro top htop
  obtain hunder | rfl := (Path.isUnder_child_iff place top name).mp htop
  · exact h top hunder
  · exact hchild

theorem follow_of_rooted (hkept : ∀ place, t.Rooted place → t'.entryAt place = some .directory)
    {start : Path} {names : List String}
    (hstart : t.entryAt start = some .directory → t.Rooted start)
    (h : t.follow start names = .ok found) : t'.follow start names = .ok found := by
  induction names generalizing start with
  | nil => exact h
  | cons name rest ih =>
    rw [follow] at h ⊢
    split at h
    · cases h
    · cases h
    · next hdirectory =>
      have hrooted := hstart hdirectory
      rw [hkept start hrooted]
      dsimp only
      split_ifs at h ⊢
      · exact ih (fun hchild => hrooted.child hchild) h
      · exact ih (fun _ => hrooted.parent) h
      · exact ih (fun hchild => hrooted.child hchild) h

theorem locate_of_rooted (hkept : ∀ place, t.Rooted place → t'.entryAt place = some .directory)
    (hp : t.locate p = .ok found) : t'.locate p = .ok found := by
  rw [locate] at hp ⊢
  split_ifs at hp ⊢ <;>
    exact mapError_eq_ok.mpr (follow_of_rooted hkept
      (fun _ => rooted_of_isGround rfl) (mapError_eq_ok.mp hp))

theorem locate_of_directories
    (h : ∀ place, t.entryAt place = some .directory → t'.entryAt place = some .directory)
    (hp : t.locate p = .ok found) : t'.locate p = .ok found :=
  locate_of_rooted (fun place hrooted => h place (hrooted place (Path.isUnder_self place))) hp

theorem locate_set {e : FileEntry} (h : t.entryAt place ≠ some .directory)
    (hp : t.locate p = .ok found) : (t.set place e).locate p = .ok found := by
  refine locate_of_directories (fun other hother => ?_) hp
  have hne : other ≠ place := by
    rintro rfl
    exact h hother
  rw [entryAt_set_of_ne t e hne, hother]

theorem readBytes_eq_ok {bytes : List UInt8} : t.readBytes p = .ok bytes ↔
    ∃ place, t.locate p = .ok place ∧ t.entryAt place = some (.file bytes) := by
  constructor
  · intro h
    obtain ⟨place, hplace, h⟩ := bind_eq_ok.mp h
    refine ⟨place, hplace, ?_⟩
    split at h
    · cases h
    · cases h
    · next hentry =>
      cases h
      exact hentry
  · rintro ⟨place, hplace, hentry⟩
    rw [readBytes, hplace, ok_bind, hentry]

theorem writeBytes_eq_ok (h : t.writeBytes p bytes = .ok t') :
    ∃ place, t.locate p = .ok place ∧ t.entryAt place ≠ some .directory ∧
      t' = t.set place (.file bytes) := by
  obtain ⟨place, hplace, h⟩ := bind_eq_ok.mp h
  refine ⟨place, hplace, ?_⟩
  split at h
  · cases h
  · next hnone =>
    cases h
    exact ⟨hnone, rfl⟩

theorem appendBytes_eq_ok {more : List UInt8} (h : t.appendBytes p more = .ok t') :
    ∃ place old, t.locate p = .ok place ∧ t.entryAt place ≠ some .directory ∧
      (∀ bytes, t.entryAt place = some (.file bytes) → old = bytes) ∧
      t' = t.set place (.file (old ++ more)) := by
  obtain ⟨place, hplace, h⟩ := bind_eq_ok.mp h
  cases hentry : t.entryAt place with
  | none =>
    rw [hentry] at h
    cases h
    exact ⟨place, [], hplace, by simp [hentry], by simp [hentry], rfl⟩
  | some entry =>
    cases entry with
    | directory =>
      rw [hentry] at h
      cases h
    | file old =>
      rw [hentry] at h
      cases h
      exact ⟨place, old, hplace, by simp [hentry], by simp [hentry], rfl⟩

theorem writeBytes_of_locate (hp : t.locate p = .ok place)
    (h : t.entryAt place ≠ some .directory) (bytes : List UInt8) :
    t.writeBytes p bytes = .ok (t.set place (.file bytes)) := by
  rw [writeBytes, hp, ok_bind]
  split
  · next hdirectory => exact absurd hdirectory h
  · rfl

theorem isGround_eq_false (h : t.entryAt place ≠ some .directory) : isGround place = false := by
  rw [Bool.eq_false_iff]
  intro hground
  exact h (if_pos hground)

theorem found_of_writeBytes (h : t.writeBytes p bytes = .ok t') :
    ∃ place, t'.locate p = .ok place ∧ t'.entryAt place = some (.file bytes) := by
  obtain ⟨place, hplace, hfile, rfl⟩ := writeBytes_eq_ok h
  exact ⟨place, locate_set hfile hplace, entryAt_set_self t _ (isGround_eq_false hfile)⟩

theorem exists?_of_readBytes {bytes : List UInt8} (h : t.readBytes p = .ok bytes) :
    t.exists? p = .ok true := by
  obtain ⟨place, hplace, h⟩ := bind_eq_ok.mp h
  rw [exists?, hplace]
  dsimp only
  cases hentry : t.entryAt place with
  | none =>
    rw [hentry] at h
    cases h
  | some e => rfl

theorem readBytes_of_readText {text : List Char} (h : t.readText p = .ok text) :
    ∃ bytes, t.readBytes p = .ok bytes := by
  rw [readText] at h
  cases hbytes : t.readBytes p with
  | error e =>
    rw [hbytes] at h
    cases h
  | ok bytes => exact ⟨bytes, rfl⟩

theorem readBytes_of_writeBytes (h : t.writeBytes p bytes = .ok t') :
    t'.readBytes p = .ok bytes := by
  obtain ⟨place, hplace, hentry⟩ := found_of_writeBytes h
  rw [readBytes, hplace, ok_bind, hentry]

end FileTree

theorem Text.universalNewlines_eq_self {s : List Char} (h : '\r' ∉ s) :
    universalNewlines s = s := by
  fun_induction universalNewlines s with
  | case1 => rfl
  | case2 s ih => simp at h
  | case3 c s _ ih =>
    rw [List.mem_cons, not_or] at h
    rw [if_neg (Ne.symm h.1), ih h.2]

theorem FileTree.readText_of_readBytes {t : FileTree} {p : Path} {text : List Char}
    (h : t.readBytes p = .ok (Text.Utf8.encode text)) (hreturn : '\r' ∉ text) :
    t.readText p = .ok text := by
  rw [readText, h]
  dsimp only
  rw [Text.Utf8.decode_encode, ok_mapError]
  exact congrArg Except.ok (Text.universalNewlines_eq_self hreturn)

end Residency
