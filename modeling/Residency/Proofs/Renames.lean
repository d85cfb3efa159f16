import Residency.Proofs.FileFrames

/-!
Removed and renamed files. What stands neither at the places of a rename nor below them stays, and
as every place on the way of a path is a directory, a path that leads to such a place still does.
-/
namespace Residency

namespace Path

variable {p q top source target : Path}

theorem isUnder_siblings {a b : String} (h : (p.child a).isUnder (p.child b) = true) : a = b := by
  rw [isUnder_iff] at h
  have hparts := h.2.eq_of_length (by simp [child])
  exact (child_inj (Path.ext rfl hparts : p.child b = p.child a)).symm

theorem rebase_of_isUnder (h : p.isUnder source = true) (target : Path) :
    (p.rebase source target).isUnder target = true := by
  rw [rebase, if_pos h]
  exact isUnder_iff.mpr ⟨rfl, List.prefix_append _ _⟩

theorem rebase_of_not_isUnder (h : p.isUnder source = false) : p.rebase source target = p := by
  rw [rebase, if_neg (by simp [h])]

theorem rebase_eq_target (hp : p ≠ target) : p.rebase source target = target ↔ p = source := by
  constructor
  · intro h
    rw [rebase] at h
    split_ifs at h with hunder
    · obtain ⟨hroot, hparts⟩ := isUnder_iff.mp hunder
      have hdrop : p.parts.drop source.parts.length = [] := by
        simpa using congrArg parts h
      have hlength := List.drop_eq_nil_iff.mp hdrop
      exact Path.ext hroot (hparts.eq_of_length_le hlength).symm
    · exact absurd h hp
  · rintro rfl
    simp [rebase]

end Path

theorem lookup_map_key {α β : Type} [DecidableEq α] {f : α → α} {a b : α} {l : List (α × β)}
    (h : ∀ entry ∈ l, f entry.1 = b ↔ entry.1 = a) :
    (l.map fun (p, e) => (f p, e)).lookup b = l.lookup a := by
  induction l with
  | nil => rfl
  | cons entry l ih =>
    have hhead : (b == f entry.1) = (a == entry.1) := by
      rw [Bool.eq_iff_iff, beq_iff_eq, beq_iff_eq, eq_comm, h entry (by simp), eq_comm]
    rw [List.map_cons, List.lookup_cons, List.lookup_cons, hhead,
      ih fun other ho => h other (by simp [ho])]

namespace FileTree

variable {t t' : FileTree} {p place found source target : Path} {e : FileEntry}
  {bytes : List UInt8}

section Entries

variable {other : Path}

theorem entryAt_of_not_isGround (h : isGround place = false) :
    t.entryAt place = t.entries.lookup place := by
  rw [entryAt, h]
  rfl

theorem entryAt_erase_self (h : isGround place = false) : (t.erase place).entryAt place = none := by
  rw [entryAt_of_not_isGround h, erase, List.lookup_eq_none_iff]
  rintro entry hentry
  have hne := (List.mem_filter.mp hentry).2
  rw [bne_iff_ne] at hne ⊢
  exact hne.symm

theorem entryAt_erase_of_ne (h : other ≠ place) :
    (t.erase place).entryAt other = t.entryAt other := by
  rw [entryAt, entryAt, erase]
  congr 1
  induction t.entries with
  | nil => rfl
  | cons entry l ih =>
    rw [List.filter_cons, List.lookup_cons]
    split_ifs with hkept
    · rw [List.lookup_cons, ih]
    · have hplace : entry.1 = place := by simpa using hkept
      rw [ih, hplace, beq_false_of_ne h]

theorem entryAt_move_of_apart (hsource : other.isUnder source = false)
    (htarget : other.isUnder target = false) :
    (t.move source target).entryAt other = t.entryAt other := by
  rw [entryAt, entryAt, move]
  congr 1
  refine lookup_map_key (f := (Path.rebase · source target)) fun entry _ => ?_
  cases h : entry.1.isUnder source with
  | true =>
    have hmoved := Path.rebase_of_isUnder h target
    constructor
    · rintro rfl
      exact absurd hmoved (by simp [htarget])
    · rintro rfl
      exact absurd h (by simp [hsource])
  | false => rw [Path.rebase_of_not_isUnder h]

theorem entryAt_move_target (hs : isGround source = false) (ht : t.entryAt target = none) :
    (t.move source target).entryAt target = t.entryAt source := by
  have hground : isGround target = false := by
    refine isGround_eq_false (t := t) ?_
    simp [ht]
  rw [entryAt_of_not_isGround hground, List.lookup_eq_none_iff] at ht
  rw [entryAt_of_not_isGround hground, entryAt_of_not_isGround hs, move]
  refine lookup_map_key (f := (Path.rebase · source target)) fun entry hentry =>
    Path.rebase_eq_target ?_
  have hne := ht entry hentry
  rw [bne_iff_ne] at hne
  exact hne.symm

theorem entryAt_move_source (hs : isGround source = false) (h : source.isUnder target = false) :
    (t.move source target).entryAt source = none := by
  rw [entryAt_of_not_isGround hs, move, List.lookup_eq_none_iff]
  intro entry hentry
  obtain ⟨old, -, rfl⟩ := List.mem_map.mp hentry
  rw [bne_iff_ne]
  change source ≠ old.1.rebase source target
  cases hold : old.1.isUnder source with
  | true =>
    intro heq
    have hmoved := Path.rebase_of_isUnder hold target
    rw [← heq, h] at hmoved
    cases hmoved
  | false =>
    rw [Path.rebase_of_not_isUnder hold]
    rintro rfl
    simp at hold

end Entries

/-- A place to which names lead stands in a directory, or is a directory itself. -/
theorem rooted_of_follow {start : Path} {names : List String}
    (hstart : t.entryAt start = some .directory → t.Rooted start)
    (h : t.follow start names = .ok found) :
    t.entryAt found = some .directory → t.Rooted found := by
  induction names generalizing start with
  | nil =>
    cases h
    exact hstart
  | cons name rest ih =>
    rw [follow] at h
    split at h
    · cases h
    · cases h
    · next hdirectory =>
      have hrooted := hstart hdirectory
      split_ifs at h with hup hground hlong
      · exact ih (fun hchild => hrooted.child hchild) h
      · exact ih (fun _ => hrooted.parent) h
      · exact ih (fun hchild => hrooted.child hchild) h

theorem rooted_of_locate (hp : t.locate p = .ok found)
    (h : t.entryAt found = some .directory) : t.Rooted found := by
  rw [locate] at hp
  split_ifs at hp <;>
    exact rooted_of_follow (fun _ => rooted_of_isGround rfl) (mapError_eq_ok.mp hp) h

def KeepsOutside (t : FileTree) (tops : List Path) (t' : FileTree) : Prop :=
  ∀ place, (∀ top ∈ tops, place.isUnder top = false) → t'.entryAt place = t.entryAt place

section KeepsOutside

variable {tops more : List Path}

theorem KeepsOutside.refl (t : FileTree) (tops : List Path) : t.KeepsOutside tops t :=
  fun _ _ => rfl

theorem KeepsOutside.trans {t'' : FileTree} (h : t.KeepsOutside tops t')
    (h' : t'.KeepsOutside tops t'') : t.KeepsOutside tops t'' :=
  fun place hplace => (h' place hplace).trans (h place hplace)

theorem KeepsOutside.mono (h : t.KeepsOutside tops t') (hsub : tops ⊆ more) :
    t.KeepsOutside more t' :=
  fun place hplace => h place fun top htop => hplace top (hsub htop)

theorem KeepsOutside.locate (h : t.KeepsOutside tops t')
    (htops : ∀ top ∈ tops, t.entryAt top ≠ some .directory) (hp : t.locate p = .ok found) :
    t'.locate p = .ok found := by
  refine locate_of_rooted (fun place hrooted => ?_) hp
  rw [h place fun top htop => ?_]
  · exact hrooted place (Path.isUnder_self place)
  · rw [← Bool.not_eq_true]
    exact fun hunder => htops top htop (hrooted top hunder)

theorem keepsOutside_erase (t : FileTree) (place : Path) :
    t.KeepsOutside [place] (t.erase place) := by
  intro other hother
  refine entryAt_erase_of_ne ?_
  rintro rfl
  simpa using hother _ (List.mem_singleton_self _)

theorem keepsOutside_appendBytes (h : t.appendBytes p bytes = .ok t') :
    t.KeepsOutside [p.destination] t' := by
  obtain ⟨place, old, hplace, -, -, rfl⟩ := appendBytes_eq_ok h
  rw [destination_of_locate hplace]
  intro other hother
  refine entryAt_set_of_ne t _ ?_
  rintro rfl
  simpa using hother _ (List.mem_singleton_self _)

theorem keepsOutside_move (t : FileTree) (source target : Path) :
    t.KeepsOutside [source, target] (t.move source target) :=
  fun _ hother => entryAt_move_of_apart (hother source (by simp)) (hother target (by simp))

theorem keepsOutside_unlink (h : t.unlink p = .ok t') : t.KeepsOutside [p.destination] t' := by
  obtain ⟨place, hplace, h⟩ := bind_eq_ok.mp h
  rw [destination_of_locate hplace]
  split at h
  · cases h
  · cases h
  · cases h
    exact keepsOutside_erase t place

theorem keepsOutside_rename (h : t.rename source target = .ok t') :
    t.KeepsOutside [source.destination, target.destination] t' := by
  obtain ⟨place, hplace, h⟩ := bind_eq_ok.mp h
  split at h
  · cases h
  · obtain ⟨free, hfree, h⟩ := bind_eq_ok.mp h
    split_ifs at h
    cases h
    rw [destination_of_locate hplace, destination_of_locate hfree]
    exact keepsOutside_move t place free

theorem keepsOutside_supplant (h : t.supplant source target = .ok t') :
    t.KeepsOutside [source.destination, target.destination] t' := by
  rw [supplant] at h
  split_ifs at h with hsource htarget
  · obtain ⟨freed, hfreed, h⟩ := bind_eq_ok.mp h
    exact ((keepsOutside_unlink hfreed).mono (by simp)).trans (keepsOutside_rename h)
  · exact keepsOutside_rename h
  · cases h
    exact .refl t _

end KeepsOutside

def ChangesOnly (t : FileTree) (tops : List Path) (t' : FileTree) : Prop :=
  ∀ place, (∀ top ∈ tops, place.isUnder top = false) →
    Becomes [] place (t.entryAt place) (t'.entryAt place)

section ChangesOnly

variable {places tops more : List Path}

theorem KeepsOutside.changesOnly (h : t.KeepsOutside tops t') : t.ChangesOnly tops t' := by
  intro place hplace
  rw [h place hplace]
  exact .same _

theorem WritesOnly.changesOnly (h : t.WritesOnly places t') (hsub : places ⊆ tops) :
    t.ChangesOnly tops t' := by
  intro place hplace
  refine (h place).unwritten fun hwritten => ?_
  have hself := hplace place (hsub hwritten)
  rw [Path.isUnder_self] at hself
  cases hself

theorem ChangesOnly.refl (t : FileTree) (tops : List Path) : t.ChangesOnly tops t :=
  fun _ _ => .same _

theorem ChangesOnly.trans {t'' : FileTree} (h : t.ChangesOnly tops t')
    (h' : t'.ChangesOnly tops t'') : t.ChangesOnly tops t'' :=
  fun place hplace => (h place hplace).trans (h' place hplace)

theorem ChangesOnly.mono (h : t.ChangesOnly tops t') (hsub : tops ⊆ more) :
    t.ChangesOnly more t' :=
  fun place hplace => h place fun top htop => hplace top (hsub htop)

end ChangesOnly

def Holds (t : FileTree) (p : Path) (content : Option (List UInt8)) : Prop :=
  ∃ place, t.locate p = .ok place ∧ t.entryAt place = content.map .file

section Holds

variable {content old : Option (List UInt8)} {tops : List Path}

theorem holds_some : t.Holds p (some bytes) ↔ t.readBytes p = .ok bytes :=
  readBytes_eq_ok.symm

theorem Holds.keepsOutside (hp : t.Holds p content) (h : t.KeepsOutside tops t')
    (htops : ∀ top ∈ tops, t.entryAt top ≠ some .directory)
    (hout : ∀ top ∈ tops, p.destination.isUnder top = false) : t'.Holds p content := by
  obtain ⟨place, hplace, hentry⟩ := hp
  rw [destination_of_locate hplace] at hout
  exact ⟨place, h.locate htops hplace, (h place hout).trans hentry⟩

theorem Holds.entryAt (hp : t.Holds p content) :
    t.entryAt p.destination = content.map .file := by
  obtain ⟨place, hplace, hentry⟩ := hp
  rw [destination_of_locate hplace, hentry]

theorem Holds.not_directory (hp : t.Holds p content) :
    t.entryAt p.destination ≠ some .directory := by
  rw [hp.entryAt]
  cases content <;> simp

theorem Holds.locate (hp : t.Holds p content) : t.locate p = .ok p.destination := by
  obtain ⟨place, hplace, -⟩ := hp
  rw [hplace, destination_of_locate hplace]

theorem Holds.has_eq (hp : t.Holds p content) : t.has p = content.isSome := by
  rw [has, hp.locate]
  dsimp only
  rw [hp.entryAt]
  cases content <;> rfl

theorem Holds.supplant_other (hp : t.Holds p content) (h : t.supplant source target = .ok t')
    {moved gone : Option (List UInt8)} (hsource : t.Holds source moved)
    (htarget : t.Holds target gone) (hps : p.destination.isUnder source.destination = false)
    (hpt : p.destination.isUnder target.destination = false) : t'.Holds p content := by
  refine hp.keepsOutside (keepsOutside_supplant h) ?_ (by simpa using ⟨hps, hpt⟩)
  simpa using ⟨hsource.not_directory, htarget.not_directory⟩

theorem appendBytes_of_holds (hp : t.Holds p content) (more : List UInt8) :
    ∃ t', t.appendBytes p more = .ok t' ∧ t'.Holds p (some (content.getD [] ++ more)) := by
  have hset := entryAt_set_self t (.file (content.getD [] ++ more))
    (isGround_eq_false hp.not_directory)
  refine ⟨t.set p.destination (.file (content.getD [] ++ more)), ?_,
    p.destination, locate_set hp.not_directory hp.locate, hset⟩
  rw [appendBytes, hp.locate, ok_bind, hp.entryAt]
  cases content <;> rfl

theorem unlink_of_holds (hp : t.Holds p (some bytes)) :
    t.unlink p = .ok (t.erase p.destination) ∧ (t.erase p.destination).Holds p none := by
  constructor
  · rw [unlink, hp.locate, ok_bind, hp.entryAt]
    rfl
  · refine ⟨p.destination, ?_, entryAt_erase_self (isGround_eq_false hp.not_directory)⟩
    exact (keepsOutside_erase t _).locate (by simpa using hp.not_directory) hp.locate

variable (hsource : t.Holds source content)
  (hst : source.destination.isUnder target.destination = false)
include hsource hst

theorem rename_of_holds (hfile : content = some bytes) (htarget : t.Holds target none) :
    ∃ t', t.rename source target = .ok t' ∧ t'.Holds source none ∧ t'.Holds target content := by
  subst hfile
  have htops : ∀ top ∈ [source.destination, target.destination],
      t.entryAt top ≠ some .directory := by
    simpa using ⟨hsource.not_directory, htarget.not_directory⟩
  have hmoved := keepsOutside_move t source.destination target.destination
  have hground := isGround_eq_false hsource.not_directory
  refine ⟨t.move source.destination target.destination, ?_, ?_, ?_⟩
  · rw [rename, hsource.locate, ok_bind, hsource.entryAt, htarget.locate]
    dsimp only [Option.map_some]
    rw [ok_bind, htarget.entryAt]
    rfl
  · exact ⟨_, hmoved.locate htops hsource.locate, entryAt_move_source hground hst⟩
  · refine ⟨_, hmoved.locate htops htarget.locate, ?_⟩
    rw [entryAt_move_target hground htarget.entryAt, hsource.entryAt]

theorem supplant_of_holds (htarget : t.Holds target old) :
    ∃ t', t.supplant source target = .ok t' ∧ t'.Holds source none ∧
      t'.Holds target (content <|> old) := by
  rw [supplant, hsource.has_eq, htarget.has_eq]
  cases content with
  | none => exact ⟨t, rfl, hsource, htarget⟩
  | some bytes =>
    cases old with
    | none => exact rename_of_holds hsource hst rfl htarget
    | some gone =>
      obtain ⟨hunlink, hfree⟩ := unlink_of_holds htarget
      have hleft := hsource.keepsOutside (keepsOutside_erase t target.destination)
        (by simpa using htarget.not_directory) (by simpa using hst)
      simp only [Option.isSome_some, if_true]
      rw [hunlink, ok_bind]
      exact rename_of_holds hleft hst rfl hfree

end Holds

end FileTree

end Residency
