import Mathlib.Data.List.ReduceOption
import Residency.Proofs.Json.Printable
import Residency.Proofs.Log.Files
import Residency.Proofs.Log.Places

/-!
The numbered files before the log. When a line would fill the log, each file takes the number after
its own, the one that had the greatest number goes, and the line begins a new log.
-/
namespace Residency

/-- The bytes of the log, and those of the numbered files from the greatest number down. -/
structure LogFiles where
  log : List UInt8
  older : List (Option (List UInt8))

namespace LogFiles

/-- The numbered files once the log is one of them. A number without a file is passed over by the
file with the greatest number. -/
def pushed (log : List UInt8) : List (Option (List UInt8)) → List (Option (List UInt8))
  | [] => []
  | [_] => [some log]
  | oldest :: next :: rest => (next <|> oldest) :: (rest ++ [some log])

def add (limits : LogLimits) (f : LogFiles) (line : List UInt8) : LogFiles :=
  if limits.isFull (f.log.length + line.length) ∧ f.older ≠ [] then
    { log := line, older := pushed f.log f.older }
  else { f with log := f.log ++ line }

def kept (f : LogFiles) : List (List UInt8) :=
  f.older.reduceOption ++ [f.log]

def shifted : Option (List UInt8) → List (Option (List UInt8)) → List (Option (List UInt8))
  | content, [] => [content]
  | content, next :: rest => (next <|> content) :: shifted none rest

theorem shifted_none (older : List (Option (List UInt8))) :
    shifted none older = older ++ [none] := by
  induction older with
  | nil => rfl
  | cons next rest ih =>
    rw [shifted, ih]
    cases next <;> rfl

theorem exists_shifted (content : Option (List UInt8)) (older : List (Option (List UInt8)))
    (log : List UInt8) : ∃ init last, shifted content older = init ++ [last] ∧
      pushed log (content :: older) = init ++ [some log] := by
  cases older with
  | nil => exact ⟨[], content, rfl, rfl⟩
  | cons next rest =>
    exact ⟨(next <|> content) :: rest, none, by rw [shifted, shifted_none]; rfl, rfl⟩

theorem length_pushed (log : List UInt8) (older : List (Option (List UInt8))) :
    (pushed log older).length = older.length := by
  match older with
  | [] => rfl
  | [_] => rfl
  | _ :: _ :: _ => simp [pushed]

theorem length_older_add (limits : LogLimits) (f : LogFiles) (line : List UInt8) :
    (f.add limits line).older.length = f.older.length := by
  rw [add]
  split_ifs
  · exact length_pushed _ _
  · rfl

theorem length_older_foldl_add (limits : LogLimits) (f : LogFiles) (lines : List (List UInt8)) :
    (lines.foldl (add limits) f).older.length = f.older.length := by
  induction lines generalizing f with
  | nil => rfl
  | cons line lines ih => rw [List.foldl_cons, ih, length_older_add]

theorem pushed_suffix (log : List UInt8) {older : List (Option (List UInt8))} (h : older ≠ []) :
    (pushed log older).reduceOption <:+ older.reduceOption ++ [log] := by
  match older, h with
  | [oldest], _ =>
    exact List.suffix_append _ _
  | none :: none :: rest, _ => simp [pushed, List.reduceOption_append]
  | some _ :: none :: rest, _ => simp [pushed, List.reduceOption_append]
  | none :: some _ :: rest, _ => simp [pushed, List.reduceOption_append]
  | some _ :: some _ :: rest, _ =>
    simp [pushed, List.reduceOption_append]

theorem add_of_full {limits : LogLimits} {f : LogFiles} {line : List UInt8}
    (hfull : limits.isFull (f.log.length + line.length) = true) (hne : f.older ≠ []) :
    f.add limits line = { log := line, older := pushed f.log f.older } :=
  if_pos ⟨hfull, hne⟩

theorem add_of_one_byte {limits : LogLimits} {f : LogFiles} {line : List UInt8}
    (hlimit : limits.maxBytes = .int 1) (hne : f.older ≠ []) (hline : line ≠ []) :
    f.add limits line = { log := line, older := pushed f.log f.older } := by
  refine add_of_full ?_ hne
  have hsize : (1 : ℤ) ≤ (f.log.length + line.length : ℕ) := by
    rw [← List.length_pos_iff] at hline
    omega
  rw [LogLimits.isFull, hlimit]
  change (decide (0 < (1 : ℤ)) && decide ((1 : ℤ) ≤ (f.log.length + line.length : ℕ))) = true
  simpa using hsize

theorem foldl_add_of_not_full {limits : LogLimits} (f : LogFiles) (lines : List (List UInt8))
    (h : f.older = [] ∨
      ∀ size ≤ f.log.length + lines.flatten.length, limits.isFull size = false) :
    lines.foldl (add limits) f = { f with log := f.log ++ lines.flatten } := by
  induction lines generalizing f with
  | nil => simp
  | cons line lines ih =>
    have hadd : f.add limits line = { f with log := f.log ++ line } := by
      refine if_neg (not_and_or.mpr ?_)
      obtain h | h := h
      · exact .inr (not_not.mpr h)
      · refine .inl ?_
        rw [h _ (by simp)]
        exact Bool.false_ne_true
    rw [List.foldl_cons, hadd, ih]
    · simp
    · refine h.imp id fun h size hsize => h size ?_
      simp only [List.length_append, List.flatten_cons] at hsize ⊢
      omega

theorem kept_foldl_add (limits : LogLimits) (f : LogFiles) (lines : List (List UInt8)) :
    ∃ (first : List (List UInt8)) (rest : List (List (List UInt8))),
      first ++ rest.flatten = lines ∧ (∀ group ∈ rest, group ≠ []) ∧
        (lines.foldl (add limits) f).kept <:+
          f.older.reduceOption ++ (f.log ++ first.flatten) :: rest.map List.flatten := by
  induction lines generalizing f with
  | nil => exact ⟨[], [], rfl, by simp, by simp [kept]⟩
  | cons line lines ih =>
    obtain ⟨first, rest, hlines, hrest, hkept⟩ := ih (f.add limits line)
    rw [List.foldl_cons]
    -- A line that fills the log begins a new file, and with it a new group of lines.
    by_cases hrolls : limits.isFull (f.log.length + line.length) ∧ f.older ≠ []
    · have hadd : f.add limits line = { log := line, older := pushed f.log f.older } :=
        if_pos hrolls
      rw [hadd] at hkept ⊢
      obtain ⟨lost, hlost⟩ := pushed_suffix f.log hrolls.2
      refine ⟨[], (line :: first) :: rest, by simp [hlines], by simpa using hrest, ?_⟩
      refine hkept.trans ⟨lost, ?_⟩
      rw [← List.append_assoc, hlost]
      simp
    · have hadd : f.add limits line = { f with log := f.log ++ line } := if_neg hrolls
      rw [hadd] at hkept ⊢
      refine ⟨line :: first, rest, by simp [hlines], hrest, ?_⟩
      simpa using hkept

/-- How some lines make the files of a log grow: each goes to the end of the log, which becomes a
numbered file first when the line fills it. -/
structure Grows (limits : LogLimits) (f : LogFiles) (lines : List (List UInt8)) (f' : LogFiles) :
    Prop where
  added : f' = lines.foldl (add limits) f
  /-- The lines stand in their order in the log and in the files begun after it, and files are lost
  only as a whole and oldest first. -/
  kept : ∃ (first : List (List UInt8)) (rest : List (List (List UInt8))),
    first ++ rest.flatten = lines ∧ (∀ group ∈ rest, group ≠ []) ∧ f'.kept <:+
      f.older.reduceOption ++ (f.log ++ first.flatten) :: rest.map List.flatten
  /-- Nothing is lost where no file is kept or the log never fills. -/
  whole : (f.older = [] ∨
    ∀ size ≤ f.log.length + lines.flatten.length, limits.isFull size = false) →
      f' = { f with log := f.log ++ lines.flatten }

theorem grows_foldl (limits : LogLimits) (f : LogFiles) (lines : List (List UInt8)) :
    f.Grows limits lines (lines.foldl (add limits) f) where
  added := rfl
  kept := kept_foldl_add limits f lines
  whole := foldl_add_of_not_full f lines

end LogFiles

def HoldsOlder (t : FileTree) (home : Path) : List (Option (List UInt8)) → Prop
  | [] => True
  | content :: rest =>
      t.Holds (Settings.backupPath home (rest.length + 1)) content ∧ HoldsOlder t home rest

structure HasLogFiles (t : FileTree) (home : Path) (f : LogFiles) : Prop extends
    HasLog t home f.log where
  older : HoldsOlder t home f.older

namespace FileTree

open Settings LogFiles

variable {t t' : FileTree} {home : Path} {older : List (Option (List UInt8))}
  {content : Option (List UInt8)} {n : ℕ}

theorem keepsOutside_shiftBackups (t : FileTree) (home : Path) (n : ℕ) :
    t.KeepsOutside (backupPlaces home (n + 1)) (shiftBackups home n t).1 := by
  induction n generalizing t with
  | zero => exact .refl t _
  | succ n ih =>
    rw [shiftBackups]
    cases hmoved : t.supplant (backupPath home (n + 1)) (backupPath home (n + 2)) with
    | error e => exact .refl t _
    | ok moved =>
      have hsub : [backupPlace home (n + 1), backupPlace home (n + 2)] ⊆
          backupPlaces home (n + 2) := by
        intro place hplace
        obtain rfl | rfl : place = backupPlace home (n + 1) ∨ place = backupPlace home (n + 2) := by
          simpa using hplace
        · exact mem_backupPlaces.mpr ⟨n + 1, by omega, by omega, rfl⟩
        · exact mem_backupPlaces.mpr ⟨n + 2, by omega, le_rfl, rfl⟩
      exact ((keepsOutside_supplant hmoved).mono hsub).trans
        ((ih moved).mono (backupPlaces_subset (by omega)))

theorem keepsOutside_rollOver (t : FileTree) (home : Path) (n : ℕ) :
    t.KeepsOutside (logPlaces home (n + 1)) (t.rollOver home (n + 1)).1 := by
  have hshift := (keepsOutside_shiftBackups t home n).mono (List.subset_cons_self (logPlace home) _)
  rw [rollOver, Nat.add_sub_cancel]
  rcases hshifted : shiftBackups home n t with ⟨shifted, e | _⟩
  · rw [hshifted] at hshift
    exact hshift
  · rw [hshifted] at hshift
    dsimp only
    cases hmoved : shifted.supplant (logPath home) (backupPath home 1) with
    | error e => exact hshift
    | ok moved =>
      refine hshift.trans ((keepsOutside_supplant hmoved).mono ?_)
      refine List.cons_subset_cons _ ?_
      rintro place (_ | ⟨_, ⟨⟩⟩)
      exact mem_backupPlaces.mpr ⟨1, le_rfl, by omega, rfl⟩

theorem holdsOlder_imp (h : HoldsOlder t home older)
    (hkept : ∀ k ≤ older.length, 1 ≤ k → ∀ content,
      t.Holds (backupPath home k) content → t'.Holds (backupPath home k) content) :
    HoldsOlder t' home older := by
  induction older with
  | nil => trivial
  | cons content rest ih =>
    refine ⟨hkept _ le_rfl (Nat.le_add_left 1 _) content h.1, ih h.2 fun k hk => hkept k ?_⟩
    exact hk.trans (Nat.le_succ _)

theorem holdsOlder_not_directory (h : HoldsOlder t home older) :
    ∀ top ∈ backupPlaces home older.length, t.entryAt top ≠ some .directory := by
  induction older with
  | nil => simp [backupPlaces]
  | cons content rest ih =>
    intro top htop
    obtain ⟨k, h1, hk, rfl⟩ := mem_backupPlaces.mp htop
    obtain hlast | hk : k = rest.length + 1 ∨ k ≤ rest.length := by
      simp only [List.length_cons] at hk
      omega
    · rw [hlast]
      exact h.1.not_directory
    · exact ih h.2 _ (mem_backupPlaces.mpr ⟨k, h1, hk, rfl⟩)

theorem shiftBackups_of_holds (h : HoldsOlder t home (content :: older)) :
    ∃ t', shiftBackups home older.length t = (t', .ok ()) ∧
      HoldsOlder t' home (shifted content older) := by
  induction older generalizing t content with
  | nil => exact ⟨t, rfl, h⟩
  | cons next rest ih =>
    -- Once the file before the last one has moved, its number is free for the files that follow.
    obtain ⟨hlast, hnext, hrest⟩ := h
    obtain ⟨moved, hmoved, hfree, hfilled⟩ := supplant_of_holds hnext
      (backup_not_isUnder_backup (by simp)) hlast
    have hfreed : HoldsOlder moved home (none :: rest) := by
      refine ⟨hfree, holdsOlder_imp hrest fun k hk h1 content hholds => ?_⟩
      exact hholds.supplant_other hmoved hnext hlast (backup_not_isUnder_backup (by omega))
        (backup_not_isUnder_backup (by simp only [List.length_cons]; omega))
    obtain ⟨t', hshift, ht'⟩ := ih hfreed
    refine ⟨t', ?_, ?_, ht'⟩
    · rw [List.length_cons, shiftBackups]
      rw [List.length_cons] at hmoved
      rw [hmoved]
      exact hshift
    · have hlength : (shifted none rest).length = rest.length + 1 := by simp [shifted_none]
      have hshifted := keepsOutside_shiftBackups moved home rest.length
      rw [hshift] at hshifted
      rw [hlength]
      refine hfilled.keepsOutside hshifted (holdsOlder_not_directory hfreed) fun top htop => ?_
      obtain ⟨k, -, hk, rfl⟩ := mem_backupPlaces.mp htop
      exact backup_not_isUnder_backup (by simp; omega)

theorem newest_of_holdsOlder {init : List (Option (List UInt8))}
    (h : HoldsOlder t home (init ++ [content])) : t.Holds (backupPath home 1) content := by
  induction init with
  | nil => exact h.1
  | cons _ _ ih => exact ih h.2

theorem holdsOlder_newest {init : List (Option (List UInt8))} {last : Option (List UInt8)}
    (h : HoldsOlder t home (init ++ [last])) (hlast : t'.Holds (backupPath home 1) content)
    (hkept : ∀ k ≠ 1, ∀ content,
      t.Holds (backupPath home k) content → t'.Holds (backupPath home k) content) :
    HoldsOlder t' home (init ++ [content]) := by
  induction init with
  | nil => exact ⟨hlast, trivial⟩
  | cons first init ih =>
    have hfirst := hkept _ (by simp) _ h.1
    exact ⟨by simpa using hfirst, ih h.2⟩

theorem rollOver_of_hasLogFiles {f : LogFiles} (h : HasLogFiles t home f) (hne : f.older ≠ []) :
    ∃ t', t.rollOver home f.older.length = (t', .ok ()) ∧
      t'.isDirectory (stateDirectory home) = true ∧ t'.Holds (logPath home) none ∧
      HoldsOlder t' home (pushed f.log f.older) := by
  obtain ⟨⟨hdirectory, hlog⟩, holder⟩ := h
  obtain ⟨content, rest, hf⟩ := List.exists_cons_of_ne_nil hne
  rw [hf] at holder ⊢
  obtain ⟨init, last, hshifted, hpushed⟩ := exists_shifted content rest f.log
  obtain ⟨shifted, hshift, hnumbered⟩ := shiftBackups_of_holds holder
  have htops := holdsOlder_not_directory holder
  have hkept := keepsOutside_shiftBackups t home rest.length
  rw [hshift] at hkept
  have hleft := (holds_some.mpr hlog).keepsOutside hkept htops fun top htop => by
    obtain ⟨k, -, -, rfl⟩ := mem_backupPlaces.mp htop
    exact log_not_isUnder_backup
  rw [hshifted] at hnumbered
  have hnewest := newest_of_holdsOlder hnumbered
  obtain ⟨t', hmoved, hfree, hfilled⟩ := supplant_of_holds hleft log_not_isUnder_backup hnewest
  have htops' : ∀ top ∈ [logPlace home, backupPlace home 1],
      shifted.entryAt top ≠ some .directory := by
    simpa using ⟨hleft.not_directory, hnewest.not_directory⟩
  have hkept' : shifted.KeepsOutside [logPlace home, backupPlace home 1] t' :=
    keepsOutside_supplant hmoved
  refine ⟨t', ?_, hkept'.isDirectory htops' (hkept.isDirectory htops hdirectory), hfree, ?_⟩
  · rw [rollOver, List.length_cons, Nat.add_sub_cancel, hshift]
    dsimp only
    rw [hmoved]
    rfl
  · rw [hpushed]
    refine holdsOlder_newest hnumbered hfilled fun k hk content hholds => ?_
    exact hholds.supplant_other hmoved hleft hnewest backup_not_isUnder_log
      (backup_not_isUnder_backup hk)

end FileTree

theorem HasLogFiles.openLog {t : FileTree} {home : Path} {f : LogFiles} {limit : Json}
    (h : HasLogFiles t home f) (hlimit : IsSize limit) :
    ∃ t', t.openLog home limit = (t', .ok ()) ∧ HasLogFiles t' home f := by
  obtain ⟨t', hopen, ht', hkept⟩ := h.toHasLog.openLog hlimit
  have hlog := FileTree.holds_some.mpr h.file
  refine ⟨t', hopen, ht', FileTree.holdsOlder_imp h.older fun k _ _ content hholds => ?_⟩
  refine hholds.keepsOutside hkept (by simpa using hlog.not_directory) ?_
  simpa using Settings.backup_not_isUnder_log

namespace LogState

open FileTree LogFiles

variable {l : LogState} {home : Path} {limits : LogLimits} {f : LogFiles}

theorem append_of_holds {content : Option (List UInt8)} {older : List (Option (List UInt8))}
    (hdirectory : l.tree.isDirectory (Settings.stateDirectory home) = true)
    (hlog : l.tree.Holds (Settings.logPath home) content) (holder : HoldsOlder l.tree home older)
    (r : LogRecord) (line : List Char) :
    ∃ t', l.append home r line = { tree := t', records := l.records ++ [r] } ∧
      HasLogFiles t' home
        { log := content.getD [] ++ Text.Utf8.encode line, older := older } := by
  obtain ⟨t', happend, ht'⟩ := appendBytes_of_holds hlog (Text.Utf8.encode line)
  have hkept : l.tree.KeepsOutside [Settings.logPlace home] t' := keepsOutside_appendBytes happend
  have htops : ∀ top ∈ [Settings.logPlace home], l.tree.entryAt top ≠ some .directory := by
    simpa using hlog.not_directory
  refine ⟨t', by rw [append, happend], ⟨hkept.isDirectory htops hdirectory, holds_some.mp ht'⟩, ?_⟩
  refine holdsOlder_imp holder fun k _ _ content hholds => hholds.keepsOutside hkept htops ?_
  simpa using Settings.backup_not_isUnder_log

theorem add_of_hasLogFiles (h : HasLogFiles l.tree home f)
    (hcount : limits.count? = some f.older.length) (r : LogRecord) {line : List Char}
    (hline : (Text.Utf8.encode line).length = line.length) :
    HasLogFiles (l.add home limits r line).tree home (f.add limits (Text.Utf8.encode line)) ∧
      (l.add home limits r line).records <:+ l.records ++ [r] := by
  have hlog := holds_some.mpr h.file
  obtain ⟨t', happend, ht'⟩ := append_of_holds h.directory hlog h.older r line
  have hsize : ((l.tree.readBytes (Settings.logPath home)).toOption.getD []).length =
      f.log.length := by
    rw [h.file]
    rfl
  rw [LogState.add, LogFiles.add, hsize, hline]
  by_cases hfull : limits.isFull (f.log.length + line.length) = true
  · rw [if_pos hfull, hcount]
    by_cases hne : f.older = []
    · rw [if_neg (by simp [hne]), hne]
      dsimp only [List.length_nil]
      rw [happend]
      rw [hne] at ht'
      exact ⟨ht', List.suffix_rfl⟩
    · rw [if_pos ⟨hfull, hne⟩]
      obtain ⟨rolled, hroll, hdirectory, hfree, hnumbered⟩ := rollOver_of_hasLogFiles h hne
      obtain ⟨n, hn⟩ := Nat.exists_eq_succ_of_ne_zero (mt List.length_eq_zero_iff.mp hne)
      rw [hn] at hroll ⊢
      dsimp only
      rw [hroll]
      dsimp only
      obtain ⟨t', happend, ht'⟩ := append_of_holds (l := { tree := rolled }) hdirectory hfree
        hnumbered r line
      rw [happend]
      exact ⟨ht', List.suffix_append _ _⟩
  · rw [if_neg hfull, if_neg (by simp [hfull]), happend]
    exact ⟨ht', List.suffix_rfl⟩

theorem addAll_of_hasLogFiles {entries : List (LogRecord × List Char)}
    (h : HasLogFiles l.tree home f) (hcount : limits.count? = some f.older.length)
    (hlines : ∀ entry ∈ entries, (Text.Utf8.encode entry.2).length = entry.2.length) :
    HasLogFiles (entries.foldl (fun l entry => l.add home limits entry.1 entry.2) l).tree home
        ((entries.map fun entry => Text.Utf8.encode entry.2).foldl (LogFiles.add limits) f) ∧
      (entries.foldl (fun l entry => l.add home limits entry.1 entry.2) l).records <:+
        l.records ++ entries.map (·.1) := by
  induction entries generalizing l f with
  | nil => exact ⟨h, by simp⟩
  | cons entry entries ih =>
    obtain ⟨hadded, pre, hpre⟩ := add_of_hasLogFiles h hcount entry.1 (hlines entry (by simp))
    obtain ⟨hall, hrecords⟩ := ih hadded (by rw [length_older_add, hcount])
      fun other ho => hlines other (by simp [ho])
    refine ⟨hall, hrecords.trans ⟨pre, ?_⟩⟩
    rw [← List.append_assoc, hpre]
    simp

theorem add_of_not_full {old : List UInt8}
    (hold : l.tree.readBytes (Settings.logPath home) = .ok old) (r : LogRecord) (line : List Char)
    (hroom : limits.isFull (old.length + line.length) = false) :
    l.add home limits r line = l.append home r line := by
  have hsize : ((l.tree.readBytes (Settings.logPath home)).toOption.getD []).length =
      old.length := by
    rw [hold]
    rfl
  rw [LogState.add, hsize, hroom]
  rfl

section Frames

variable (l home limits)

theorem keepsOutside_append (r : LogRecord) (line : List Char) :
    l.tree.KeepsOutside [Settings.logPlace home] (l.append home r line).tree := by
  rw [append]
  cases happend : l.tree.appendBytes (Settings.logPath home) (Text.Utf8.encode line) with
  | error e => exact .refl _ _
  | ok t => exact keepsOutside_appendBytes happend

theorem keepsOutside_add (r : LogRecord) (line : List Char) :
    l.tree.KeepsOutside (Settings.logPlaces home (limits.count?.getD 0))
      (l.add home limits r line).tree := by
  have hlog : [Settings.logPlace home] ⊆ Settings.logPlaces home (limits.count?.getD 0) := by
    simp [Settings.logPlaces]
  rw [LogState.add]
  split_ifs
  · split
    · exact .refl _ _
    · exact (keepsOutside_append l home r line).mono hlog
    · next n hcount =>
      rw [hcount]
      have hrolled := keepsOutside_rollOver l.tree home n
      rcases hroll : l.tree.rollOver home (n + 1) with ⟨t, e | _⟩
      · rw [hroll] at hrolled
        exact hrolled
      · rw [hroll] at hrolled
        rw [hcount] at hlog
        exact hrolled.trans ((keepsOutside_append { tree := t } home r line).mono hlog)
  · exact (keepsOutside_append l home r line).mono hlog

theorem writesOnly_add (hcount : limits.count?.getD 0 = 0) (r : LogRecord) (line : List Char) :
    l.tree.WritesOnly [Settings.logPlace home] (l.add home limits r line).tree := by
  have happend : l.tree.WritesOnly [Settings.logPlace home] (l.append home r line).tree := by
    rw [append]
    cases happend : l.tree.appendBytes (Settings.logPath home) (Text.Utf8.encode line) with
    | error e => exact .refl _ _
    | ok t => exact writesOnly_appendBytes happend
  rw [LogState.add]
  split_ifs
  · split
    · exact .refl _ _
    · exact happend
    · next n hnumber =>
      rw [hnumber] at hcount
      cases hcount
  · exact happend

theorem writesOnly_addAll (host : Host) (hcount : limits.count?.getD 0 = 0)
    (records : List LogRecord) :
    l.tree.WritesOnly [Settings.logPlace host.home] (l.addAll host limits records).tree := by
  rw [addAll]
  induction loggedLines host records generalizing l with
  | nil => exact .refl _ _
  | cons entry entries ih => exact (writesOnly_add l _ _ hcount _ _).trans (ih _)

theorem keepsOutside_addAll (host : Host) (records : List LogRecord) :
    l.tree.KeepsOutside (Settings.logPlaces host.home (limits.count?.getD 0))
      (l.addAll host limits records).tree := by
  rw [addAll]
  induction loggedLines host records generalizing l with
  | nil => exact .refl _ _
  | cons entry entries ih => exact (keepsOutside_add l _ _ _ _).trans (ih _)

end Frames

end LogState

end Residency
