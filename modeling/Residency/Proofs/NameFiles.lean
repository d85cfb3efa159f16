import Residency.Proofs.Usage
import Residency.Proofs.Utf8Cuts

/-!
The names that files of processes and threads hold. A file is cut where its bytes are separators,
and each piece is read as text by itself: what is ill-formed in one piece changes no other.
-/
namespace Residency

section Runs

variable {run bytes : List UInt8} {runs : List (List UInt8)}

/-- Pieces as they stand in a file: a NUL between two of them, and any more NULs anywhere else
around them. -/
inductive Separated : List (List UInt8) → List UInt8 → Prop
  | blank : Separated [] []
  | nul {runs : List (List UInt8)} {bytes : List UInt8} :
      Separated runs bytes → Separated runs (0 :: bytes)
  | last (run : List UInt8) : Separated [run] run
  | run (run : List UInt8) {runs : List (List UInt8)} {bytes : List UInt8} :
      Separated runs bytes → Separated (run :: runs) (run ++ 0 :: bytes)

def IsRun (run : List UInt8) : Prop :=
  run ≠ [] ∧ 0 ∉ run

instance (run : List UInt8) : Decidable (IsRun run) :=
  inferInstanceAs (Decidable (_ ∧ _))

def AreRuns (bytes : List UInt8) (runs : List (List UInt8)) : Prop :=
  Separated runs bytes ∧ ∀ run ∈ runs, IsRun run

theorem IsRun.splitOnP (h : IsRun run) : run.splitOnP (· == 0) = [run] := by
  apply List.splitOnP_eq_singleton
  intro b hb
  rw [beq_eq_false_iff_ne]
  rintro rfl
  exact h.2 hb

def runsOf (bytes : List UInt8) : List (List UInt8) :=
  (bytes.splitOnP (· == 0)).filter (!·.isEmpty)

theorem runsOf_append (run bytes : List UInt8) :
    runsOf (run ++ 0 :: bytes) = runsOf run ++ runsOf bytes := by
  rw [runsOf, List.splitOnP_append_cons run bytes (by rfl), List.filter_append]
  rfl

theorem IsRun.runsOf_eq (h : IsRun run) : runsOf run = [run] := by
  rw [runsOf, h.splitOnP]
  simp [h.1]

theorem runsOf_nul_cons (bytes : List UInt8) : runsOf (0 :: bytes) = runsOf bytes :=
  runsOf_append [] bytes

theorem AreRuns.runsOf_eq (h : AreRuns bytes runs) : runsOf bytes = runs := by
  obtain ⟨hseparated, hruns⟩ := h
  induction hseparated with
  | blank => rfl
  | nul _ ih => rw [runsOf_nul_cons, ih hruns]
  | last run => exact (hruns run (by simp)).runsOf_eq
  | run run _ ih =>
    rw [List.forall_mem_cons] at hruns
    rw [runsOf_append, hruns.1.runsOf_eq, ih hruns.2]
    rfl

theorem exists_run (bytes : List UInt8) (h : bytes ≠ []) :
    (∃ rest, bytes = 0 :: rest) ∨ IsRun bytes ∨
      ∃ run rest, bytes = run ++ 0 :: rest ∧ IsRun run := by
  induction bytes with
  | nil => exact absurd rfl h
  | cons b bytes ih =>
    by_cases hb : b = 0
    · exact .inl ⟨bytes, by rw [hb]⟩
    right
    have hcons {run : List UInt8} (hrun : 0 ∉ run) : IsRun (b :: run) :=
      ⟨by simp, by simp [hrun, Ne.symm hb]⟩
    by_cases hnil : bytes = []
    · exact .inl (hcons (by simp [hnil]))
    rcases ih hnil with ⟨rest, rfl⟩ | hrun | ⟨run, rest, rfl, hrun⟩
    · exact .inr ⟨[b], rest, rfl, hcons (by simp)⟩
    · exact .inl (hcons hrun.2)
    · exact .inr ⟨b :: run, rest, rfl, hcons hrun.2⟩

theorem exists_areRuns (bytes : List UInt8) : ∃ runs, AreRuns bytes runs := by
  induction hn : bytes.length using Nat.strong_induction_on generalizing bytes with
  | _ n ih =>
    by_cases hnil : bytes = []
    · exact ⟨[], hnil ▸ .blank, by simp⟩
    rcases exists_run bytes hnil with ⟨rest, rfl⟩ | hrun | ⟨run, rest, rfl, hrun⟩
    · obtain ⟨runs, hseparated, hruns⟩ := ih rest.length (by simp [← hn]) rest rfl
      exact ⟨runs, .nul hseparated, hruns⟩
    · exact ⟨[bytes], .last bytes, by simpa using hrun⟩
    · obtain ⟨runs, hseparated, hruns⟩ := ih rest.length (by simp +arith [← hn]) rest rfl
      exact ⟨run :: runs, .run run hseparated, List.forall_mem_cons.mpr ⟨hrun, hruns⟩⟩

theorem areRuns_iff : AreRuns bytes runs ↔ runsOf bytes = runs := by
  constructor
  · exact AreRuns.runsOf_eq
  · rintro rfl
    obtain ⟨runs, h⟩ := exists_areRuns bytes
    exact h.runsOf_eq ▸ h

theorem Separated.nul_of_nil (h : Separated [] bytes) : ∀ b ∈ bytes, b = 0 := by
  generalize hruns : [] = runs at h
  induction h with
  | blank => simp
  | nul _ ih => exact List.forall_mem_cons.mpr ⟨rfl, ih hruns⟩
  | last => cases hruns
  | run => cases hruns

theorem areRuns_nil_iff : AreRuns bytes [] ↔ ∀ b ∈ bytes, b = 0 := by
  constructor
  · exact fun h => h.1.nul_of_nil
  · intro h
    refine ⟨?_, by simp⟩
    induction bytes with
    | nil => exact .blank
    | cons b bytes ih =>
      obtain ⟨rfl, hbytes⟩ := List.forall_mem_cons.mp h
      exact .nul (ih hbytes)

end Runs

section Lines

variable {line bytes : List UInt8}

def isLineEndByte (b : UInt8) : Bool :=
  b == 10 || b == 13

def IsFirstLine (bytes line : List UInt8) : Prop :=
  ∃ rest, bytes = line ++ rest ∧ (∀ b ∈ line, isLineEndByte b = false) ∧
    ∀ b ∈ rest.head?, isLineEndByte b = true

theorem isFirstLine_iff : IsFirstLine bytes line ↔ bytes.takeWhile (!isLineEndByte ·) = line := by
  constructor
  · rintro ⟨rest, rfl, hline, hend⟩
    have htake : ∀ b ∈ line, (!isLineEndByte b) = true := by
      intro b hb
      rw [hline b hb]
      rfl
    cases rest with
    | nil => rw [List.append_nil, List.takeWhile_eq_self_iff.mpr htake]
    | cons b rest =>
      apply takeWhile_append_cons htake
      rw [hend b rfl]
      rfl
  · rintro rfl
    refine ⟨bytes.dropWhile (!isLineEndByte ·), List.takeWhile_append_dropWhile.symm, ?_, ?_⟩
    · intro b hb
      simpa using List.mem_takeWhile_imp hb
    · intro b hb
      have := List.head?_dropWhile_not (!isLineEndByte ·) bytes
      rw [Option.mem_def.mp hb] at this
      simpa using this

def isLineEnd (c : Char) : Bool :=
  c == '\n' || c == '\r'

theorem takeWhile_universalNewlines (s : List Char) :
    (Text.universalNewlines s).takeWhile (· ≠ '\n') = s.takeWhile (!isLineEnd ·) := by
  fun_induction Text.universalNewlines s with
  | case1 => rfl
  | case2 s _ => rfl
  | case3 c s _ ih =>
    by_cases hreturn : c = '\r'
    · rw [hreturn, if_pos rfl]
      rfl
    · by_cases hfeed : c = '\n'
      · rw [hfeed]
        rfl
      · rw [if_neg hreturn, List.takeWhile_cons_of_pos (by simpa using hfeed),
          List.takeWhile_cons_of_pos (by simp [isLineEnd, hreturn, hfeed]), ih]

end Lines

section Texts

variable {bytes line : List UInt8} {runs : List (List UInt8)}

theorem areAscii_nul : Text.Utf8.AreAscii (· == 0) (· == '\x00') := by
  constructor
  · simp
  · intro c
    simp

theorem areAscii_lineEnd : Text.Utf8.AreAscii isLineEndByte isLineEnd := by
  constructor
  · intro b hb
    rcases (by simpa [isLineEndByte] using hb : b = 10 ∨ b = 13) with rfl | rfl <;> decide
  · intro c
    simp [isLineEnd, isLineEndByte, or_and_right, exists_or]

def decoded (bytes : List UInt8) : String :=
  String.ofList (Text.Utf8.decodeLossy bytes)

theorem decoded_eq_empty_iff : decoded bytes = "" ↔ bytes = [] := by
  rw [decoded, String.ofList_eq_empty_iff, Text.Utf8.decodeLossy_eq_nil_iff]

def textPieces (bytes : List UInt8) : List (List Char) :=
  ((Text.Utf8.decodeLossy bytes).splitOnP (· == '\x00')).filter (!·.isEmpty)

theorem textPieces_eq (bytes : List UInt8) :
    textPieces bytes = (runsOf bytes).map Text.Utf8.decodeLossy := by
  have hempty : (fun piece : List Char => !piece.isEmpty) ∘ Text.Utf8.decodeLossy =
      fun run => !run.isEmpty := by
    funext run
    rw [Function.comp_apply, Bool.eq_iff_iff]
    simp [Text.Utf8.decodeLossy_eq_nil_iff]
  rw [textPieces, areAscii_nul.splitOnP_decodeLossy, List.filter_map, hempty]
  rfl

theorem tokensOf_eq (bytes : List UInt8) :
    FileTree.tokensOf bytes = (runsOf bytes).map decoded := rfl

theorem firstLineOf_eq (h : IsFirstLine bytes line) :
    FileTree.firstLineOf bytes = if line = [] then none else some (decoded line) := by
  rw [isFirstLine_iff] at h
  have htext : (Text.universalNewlines (Text.Utf8.decodeLossy bytes)).takeWhile (· ≠ '\n') =
      Text.Utf8.decodeLossy line := by
    rw [takeWhile_universalNewlines, areAscii_lineEnd.takeWhile_decodeLossy, h]
  unfold FileTree.firstLineOf
  rw [htext]
  simp only [List.isEmpty_iff, Text.Utf8.decodeLossy_eq_nil_iff]
  rfl

def IsToken (name : String) : Prop :=
  name ≠ "" ∧ '\x00' ∉ name.toList

theorem IsRun.isToken {run : List UInt8} (h : IsRun run) : IsToken (decoded run) := by
  refine ⟨fun hempty => h.1 (decoded_eq_empty_iff.mp hempty), fun hmem => ?_⟩
  rw [decoded, String.toList_ofList] at hmem
  have hfree : ∀ b ∈ run, (b == 0) = false := by
    intro b hb
    rw [beq_eq_false_iff_ne]
    rintro rfl
    exact h.2 hb
  exact absurd (areAscii_nul.decodeLossy_free hfree _ hmem) (by decide)

theorem IsToken.isRun {name : String} (h : IsToken name) :
    IsRun (Text.Utf8.encode name.toList) := by
  have hread := Text.Utf8.decodeLossy_encode name.toList
  constructor
  · intro hnil
    rw [hnil] at hread
    exact h.1 (String.toList_eq_nil_iff.mp hread.symm)
  · intro hmem
    obtain ⟨xs, ys, hsplit⟩ := List.append_of_mem hmem
    rw [hsplit, areAscii_nul.decodeLossy_append (by rfl)] at hread
    exact h.2 (by simp [← hread])

theorem decoded_encode (name : String) : decoded (Text.Utf8.encode name.toList) = name := by
  rw [decoded, Text.Utf8.decodeLossy_encode, String.ofList_toList]

end Texts

namespace FileTree

variable {α : Type} {t : FileTree} {p : Path}

def IsUnreadable (t : FileTree) (p : Path) : Prop :=
  p.hasNul = false ∧ ∀ bytes, t.readBytes p ≠ .ok bytes

def reading (t : FileTree) (p : Path) (f : List UInt8 → Option α) :
    Except FileError (Option α) :=
  match t.readBytes p with
  | .ok bytes => .ok (f bytes)
  | .error .embeddedNul => .error .embeddedNul
  | .error _ => .ok none

theorem firstLine_eq_reading (t : FileTree) (p : Path) :
    t.firstLine p = t.reading p firstLineOf := by
  unfold firstLine reading
  cases t.readBytes p with
  | ok bytes => rfl
  | error e => cases e <;> rfl

theorem tokens_eq_reading (t : FileTree) (p : Path) :
    t.tokens p =
      t.reading p fun bytes => if tokensOf bytes = [] then none else some (tokensOf bytes) := by
  unfold tokens reading
  cases t.readBytes p with
  | ok bytes => simp only [List.isEmpty_iff]
  | error e => cases e <;> rfl

theorem readBytes_of_hasNul (h : p.hasNul = true) : t.readBytes p = .error .embeddedNul := by
  rw [readBytes, locate, if_pos h]
  rfl

theorem readBytes_ne_embeddedNul (h : p.hasNul = false) :
    t.readBytes p ≠ .error .embeddedNul := by
  intro hread
  unfold readBytes at hread
  cases hl : t.locate p with
  | error e =>
    rw [hl] at hread
    cases hread
    exact t.locate_ne_embeddedNul h hl
  | ok place =>
    rw [hl] at hread
    dsimp only [Except.bind] at hread
    split at hread <;> cases hread

theorem reading_of_ok {f : List UInt8 → Option α} {bytes : List UInt8}
    (h : t.readBytes p = .ok bytes) : t.reading p f = .ok (f bytes) := by
  rw [reading, h]

theorem reading_eq_ok_iff {f : List UInt8 → Option α} {found : Option α} :
    t.reading p f = .ok found ↔
      t.IsUnreadable p ∧ found = none ∨ ∃ bytes, t.readBytes p = .ok bytes ∧ f bytes = found := by
  cases hread : t.readBytes p with
  | ok bytes =>
    rw [reading_of_ok hread]
    simp [IsUnreadable, hread]
  | error e =>
    unfold reading
    rw [hread]
    cases hnul : p.hasNul with
    | true =>
      rw [readBytes_of_hasNul hnul] at hread
      cases hread
      simp [IsUnreadable, hnul]
    | false =>
      cases e with
      | embeddedNul => exact absurd hread (readBytes_ne_embeddedNul hnul)
      | refused cause place => simp [IsUnreadable, hnul, hread, eq_comm]

section Names

variable {bytes line : List UInt8} {runs : List (List UInt8)}

theorem tokens_of_runs (h : t.readBytes p = .ok bytes) (hruns : AreRuns bytes runs) :
    t.tokens p = .ok (if runs = [] then none else some (runs.map decoded)) := by
  rw [tokens_eq_reading, reading_of_ok h, tokensOf_eq, hruns.runsOf_eq]
  simp only [List.map_eq_nil_iff]

theorem tokens_eq_none_iff : t.tokens p = .ok none ↔
    t.IsUnreadable p ∨ ∃ bytes, t.readBytes p = .ok bytes ∧ ∀ b ∈ bytes, b = 0 := by
  rw [tokens_eq_reading, reading_eq_ok_iff]
  simp only [and_true, tokensOf_eq, List.map_eq_nil_iff, ite_eq_left_iff, reduceCtorEq, imp_false,
    not_not, ← areRuns_iff, areRuns_nil_iff]

theorem isToken_of_tokens {names : List String} (h : t.tokens p = .ok (some names)) :
    names ≠ [] ∧ ∀ name ∈ names, IsToken name := by
  have hread := h
  rw [tokens_eq_reading, reading_eq_ok_iff] at hread
  obtain ⟨-, hnone⟩ | ⟨bytes, hbytes, -⟩ := hread
  · cases hnone
  obtain ⟨runs, hruns⟩ := exists_areRuns bytes
  rw [tokens_of_runs hbytes hruns] at h
  split_ifs at h with hnil
  · cases h
  · cases h
    refine ⟨by simpa using hnil, ?_⟩
    rw [List.forall_mem_map]
    exact fun run hrun => (hruns.2 run hrun).isToken

theorem firstLine_of_line (h : t.readBytes p = .ok bytes) (hline : IsFirstLine bytes line) :
    t.firstLine p = .ok (if line = [] then none else some (decoded line)) := by
  rw [firstLine_eq_reading, reading_of_ok h, firstLineOf_eq hline]

theorem firstLine_eq_none_iff : t.firstLine p = .ok none ↔
    t.IsUnreadable p ∨ ∃ bytes, t.readBytes p = .ok bytes ∧ IsFirstLine bytes [] := by
  rw [firstLine_eq_reading, reading_eq_ok_iff]
  have hnone (bytes : List UInt8) : firstLineOf bytes = none ↔ IsFirstLine bytes [] := by
    rw [firstLineOf_eq (isFirstLine_iff.mpr rfl), isFirstLine_iff]
    simp
  simp only [and_true, hnone]

theorem unbroken_of_firstLine {name : String} (h : t.firstLine p = .ok (some name)) :
    name ≠ "" ∧ '\n' ∉ name.toList ∧ '\r' ∉ name.toList := by
  have hread := h
  rw [firstLine_eq_reading, reading_eq_ok_iff] at hread
  obtain ⟨-, hnone⟩ | ⟨bytes, hbytes, -⟩ := hread
  · cases hnone
  have hline : IsFirstLine bytes _ := isFirstLine_iff.mpr rfl
  rw [firstLine_of_line hbytes hline] at h
  split_ifs at h with hnil
  · cases h
  · cases h
    obtain ⟨-, -, hfree, -⟩ := hline
    have hchars := areAscii_lineEnd.decodeLossy_free hfree
    refine ⟨fun hempty => hnil (decoded_eq_empty_iff.mp hempty), ?_⟩
    rw [decoded, String.toList_ofList]
    constructor <;> exact fun hmem => absurd (hchars _ hmem) (by decide)

theorem tokens_of_encoded {names : List String} (hne : names ≠ [])
    (hnames : ∀ name ∈ names, IsToken name)
    (hbytes : Separated (names.map fun name => Text.Utf8.encode name.toList) bytes)
    (h : t.readBytes p = .ok bytes) : t.tokens p = .ok (some names) := by
  have hruns : AreRuns bytes (names.map fun name => Text.Utf8.encode name.toList) := by
    refine ⟨hbytes, ?_⟩
    rw [List.forall_mem_map]
    exact fun name hname => (hnames name hname).isRun
  rw [tokens_of_runs h hruns, if_neg (by simpa using hne), List.map_map]
  simp only [Function.comp_def, decoded_encode, List.map_id']

end Names

theorem names_cut_before_decoding (t : FileTree) (p : Path) :
    (t.tokens p = .ok none ↔
      t.IsUnreadable p ∨ ∃ bytes, t.readBytes p = .ok bytes ∧ ∀ b ∈ bytes, b = 0) ∧
    (t.firstLine p = .ok none ↔
      t.IsUnreadable p ∨ ∃ bytes, t.readBytes p = .ok bytes ∧ IsFirstLine bytes []) ∧
    (∀ bytes, t.readBytes p = .ok bytes →
      (∃! runs, AreRuns bytes runs) ∧ (∃! line, IsFirstLine bytes line) ∧
      (∀ runs, AreRuns bytes runs →
        t.tokens p = .ok (if runs = [] then none else some (runs.map decoded)) ∧
          textPieces bytes = runs.map Text.Utf8.decodeLossy) ∧
      ∀ line, IsFirstLine bytes line →
        t.firstLine p = .ok (if line = [] then none else some (decoded line))) ∧
    (∀ names, t.tokens p = .ok (some names) → names ≠ [] ∧ ∀ name ∈ names, IsToken name) ∧
    (∀ name, t.firstLine p = .ok (some name) →
      name ≠ "" ∧ '\n' ∉ name.toList ∧ '\r' ∉ name.toList) ∧
    ∀ names bytes, names ≠ [] → (∀ name ∈ names, IsToken name) →
      Separated (names.map fun name => Text.Utf8.encode name.toList) bytes →
      t.readBytes p = .ok bytes → t.tokens p = .ok (some names) := by
  refine ⟨tokens_eq_none_iff, firstLine_eq_none_iff, fun bytes h => ⟨?_, ?_, ?_, ?_⟩,
    fun _ => isToken_of_tokens, fun _ => unbroken_of_firstLine,
    fun _ _ hne hnames hbytes => tokens_of_encoded hne hnames hbytes⟩
  · exact ⟨runsOf bytes, areRuns_iff.mpr rfl, fun _ hruns => hruns.runsOf_eq.symm⟩
  · exact ⟨_, isFirstLine_iff.mpr rfl, fun _ hline => (isFirstLine_iff.mp hline).symm⟩
  · intro runs hruns
    refine ⟨tokens_of_runs h hruns, ?_⟩
    rw [textPieces_eq, hruns.runsOf_eq]
  · exact fun line hline => firstLine_of_line h hline

def truncatedTree : FileTree :=
  { entries := [({ parts := ["comm"] }, .file [0x61, 0xE2, 0x82, 0, 0, 0xC3, 0xA9, 13, 0x80])] }

theorem names_cut_of_truncated :
    truncatedTree.tokens { parts := ["comm"] } = .ok (some ["a\uFFFD", "é\r\uFFFD"]) ∧
      truncatedTree.firstLine { parts := ["comm"] } = .ok (some "a\uFFFD\x00\x00é") := by
  obtain ⟨-, -, hread, -⟩ := names_cut_before_decoding truncatedTree { parts := ["comm"] }
  obtain ⟨-, -, htokens, hline⟩ :=
    hread [0x61, 0xE2, 0x82, 0, 0, 0xC3, 0xA9, 13, 0x80] (by decide +kernel)
  constructor
  · have hruns : AreRuns [0x61, 0xE2, 0x82, 0, 0, 0xC3, 0xA9, 13, 0x80]
        [[0x61, 0xE2, 0x82], [0xC3, 0xA9, 13, 0x80]] := by
      refine ⟨.run [0x61, 0xE2, 0x82] (.nul (.last [0xC3, 0xA9, 13, 0x80])), ?_⟩
      decide
    rw [(htokens _ hruns).1]
    decide +kernel
  · have hfirst : IsFirstLine [0x61, 0xE2, 0x82, 0, 0, 0xC3, 0xA9, 13, 0x80]
        [0x61, 0xE2, 0x82, 0, 0, 0xC3, 0xA9] :=
      ⟨[13, 0x80], by decide, by decide, by rintro _ ⟨⟩; rfl⟩
    rw [hline _ hfirst]
    decide +kernel

end FileTree

end Residency
