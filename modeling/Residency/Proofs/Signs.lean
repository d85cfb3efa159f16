import Residency.Proofs.Conservation
import Residency.Proofs.TimeInState
import Residency.TableReader

namespace Residency

namespace Number

variable {c : Char} {d n : ℕ} {s : List Char} {ds : List ℕ} {k : ℤ}

def HasNonzeroDigit (s : List Char) : Prop :=
  ∃ c ∈ s, ∃ d, digit? c = some d ∧ d ≠ 0

def ReadsPositive (s : List Char) : Prop :=
  s.head? ≠ some '-' ∧ HasNonzeroDigit s

def ReadsNegative (s : List Char) : Prop :=
  s.head? = some '-' ∧ HasNonzeroDigit s

theorem hasNonzeroDigit_cons_of_digit (h : digit? c = some d) :
    HasNonzeroDigit (c :: s) ↔ d ≠ 0 ∨ HasNonzeroDigit s := by
  simp [HasNonzeroDigit, h]

theorem hasNonzeroDigit_cons_of_none (h : digit? c = none) :
    HasNonzeroDigit (c :: s) ↔ HasNonzeroDigit s := by
  simp [HasNonzeroDigit, h]

theorem valueOf_cons_pos_iff : 0 < valueOf (d :: ds) ↔ d ≠ 0 ∨ 0 < valueOf ds := by
  have hplace : 0 < 10 ^ ds.length := Nat.pow_pos (by decide)
  rw [valueOf_cons, Nat.add_pos_iff_pos_or_pos, Nat.mul_pos_iff_of_pos_left hplace,
    Nat.pos_iff_ne_zero]

theorem Digits.valueOf_pos_iff (h : Digits s ds) : 0 < valueOf ds ↔ HasNonzeroDigit s := by
  induction h with
  | last hc =>
    rw [valueOf_cons_pos_iff, hasNonzeroDigit_cons_of_digit hc]
    simp [valueOf, HasNonzeroDigit]
  | digit hc _ ih => rw [valueOf_cons_pos_iff, hasNonzeroDigit_cons_of_digit hc, ih]
  | underscore hc _ ih =>
    rw [valueOf_cons_pos_iff, hasNonzeroDigit_cons_of_digit hc,
      hasNonzeroDigit_cons_of_none digit?_underscore, ih]

theorem Digits.head?_ne_minus (h : Digits s ds) : s.head? ≠ some '-' := by
  obtain ⟨c, t, d, rfl, hc⟩ := h.exists_cons
  intro hminus
  exact ne_of_digit? hc (by decide : digit? '-' = none) (Option.some.inj hminus)

theorem IsNumeral.pos_iff (h : IsNumeral s k) : 0 < k ↔ ReadsPositive s := by
  rw [ReadsPositive]
  cases h with
  | unsigned hs _ =>
    rw [Int.natCast_pos, hs.valueOf_pos_iff, and_iff_right hs.head?_ne_minus]
  | plus hs _ =>
    rw [Int.natCast_pos, hs.valueOf_pos_iff, hasNonzeroDigit_cons_of_none (by decide),
      and_iff_right (by simp)]
  | minus _ _ => exact iff_of_false (by omega) fun h => h.1 rfl

theorem IsNumeral.neg_iff (h : IsNumeral s k) : k < 0 ↔ ReadsNegative s := by
  rw [ReadsNegative]
  cases h with
  | unsigned hs _ => exact iff_of_false (by omega) fun h => hs.head?_ne_minus h.1
  | plus _ _ => exact iff_of_false (by omega) fun h => absurd h.1 (by simp)
  | minus hs _ =>
    rw [neg_lt_zero, Int.natCast_pos, hs.valueOf_pos_iff, hasNonzeroDigit_cons_of_none (by decide),
      List.head?_cons, and_iff_right rfl]

end Number

namespace TimeInState

variable {l : List Char} {ls : List (List Char)} {r : Residence} {rs : List Residence}

theorem IsResidence.exists_words (h : IsResidence l r) : ∃ f d, Text.words l = [f, d] ∧
    Number.IsNumeral f r.frequency ∧ Number.IsNumeral d r.time := by
  cases h with
  | @mk b₁ f b₂ t b₃ _ _ h₁ h₂ hne h₃ hf ht =>
    exact ⟨f, t, Text.words_eq_pair_iff.mpr ⟨b₁, b₂, b₃, rfl, isWord_of_isNumeral hf,
      isWord_of_isNumeral ht, h₁, h₂, hne, h₃⟩, hf, ht⟩

def AllLines (Q : List Char → List Char → Prop) (ls : List (List Char)) : Prop :=
  ∀ l ∈ ls, ¬ IsPassedOver l → ∀ f d, Text.words l = [f, d] → Q f d

theorem Tells.forall_iff {P : Residence → Prop} {Q : List Char → List Char → Prop}
    (hPQ : ∀ r f d, Number.IsNumeral f r.frequency → Number.IsNumeral d r.time → (P r ↔ Q f d))
    (h : Tells ls rs) : (∀ r ∈ rs, P r) ↔ AllLines Q ls := by
  unfold AllLines
  induction h with
  | nil => simp
  | passedOver hl _ ih =>
    rw [ih, List.forall_mem_cons]
    exact (and_iff_right fun hnot => absurd hl hnot).symm
  | residence hl hr _ ih =>
    obtain ⟨f, d, hwords, hf, hd⟩ := hr.exists_words
    rw [List.forall_mem_cons, List.forall_mem_cons, ih, hPQ _ f d hf hd, hwords]
    refine and_congr_left' ⟨?_, fun h => h hl f d rfl⟩
    rintro hQ - f' d' heq
    cases heq
    exact hQ

end TimeInState

namespace TableReader

section Reader

variable {source : StatsSource} {r : TableReader} {p q : Path} {unit : ℤ} {ms : List Json}

theorem create?_eq_some {tick : Json} : create? source p tick = some r ↔
    r.tick = tick ∧ ∃ rs, rs ≠ [] ∧ source.residences p = some rs ∧
      r.frequencies = rs.map (·.frequency) := by
  rw [← Collector.ofSource?_eq_some, create?, Option.map_eq_some_iff]
  constructor
  · rintro ⟨fs, hfs, rfl⟩
    exact ⟨rfl, hfs⟩
  · rintro ⟨rfl, hfs⟩
    exact ⟨_, hfs, rfl⟩

theorem read_eq_some (htick : r.tick = .int unit)
    (h : (r.read source q).2 = .ok (some ms)) : ∃ rs, source.residences q = some rs ∧
      rs.map (·.frequency) = r.frequencies ∧ ms = rs.map fun x => .int (x.time * unit) := by
  rw [read, FrequencyTable.ticks] at h
  cases hread : source.residences q with
  | none =>
    rw [hread] at h
    cases h
  | some rs =>
    rw [hread] at h
    dsimp only at h
    by_cases hf : rs.map (·.frequency) = r.frequencies
    · rw [if_pos hf] at h
      dsimp only at h
      rw [htick, millis_int, List.map_map] at h
      cases h
      exact ⟨rs, rfl, hf, rfl⟩
    · rw [if_neg hf] at h
      cases h

open TimeInState (AllLines) in
theorem signs_iff {t : FileTree} (hunit : 0 < unit)
    (hr : create? t.statsSource p (.int unit) = some r) :
    (∃ text, t.readText p = .ok text ∧ ((∀ f ∈ r.frequencies, 0 < f) ↔
      AllLines (fun f _ => Number.ReadsPositive f) (Text.lines text))) ∧
    ∀ (later : FileTree) (q : Path) (ms : List Json),
      (r.read later.statsSource q).2 = .ok (some ms) →
      ∃ (text : List Char) (times : List ℤ), later.readText q = .ok text ∧
        ms = times.map .int ∧ ((∀ n ∈ times, 0 ≤ n) ↔
          AllLines (fun _ d => ¬ Number.ReadsNegative d) (Text.lines text)) := by
  obtain ⟨htick, rs, -, hrs, hfrequencies⟩ := create?_eq_some.mp hr
  constructor
  · obtain ⟨text, htext, hparse⟩ := FileTree.residences_eq_some.mp hrs
    refine ⟨text, htext, ?_⟩
    rw [hfrequencies, List.forall_mem_map]
    exact (TimeInState.readLines_eq_ok_iff.mp hparse).forall_iff fun _ _ _ hf _ => hf.pos_iff
  · intro later q ms hms
    obtain ⟨rs, hrs, -, hmillis⟩ := read_eq_some htick hms
    obtain ⟨text, htext, hparse⟩ := FileTree.residences_eq_some.mp hrs
    refine ⟨text, rs.map fun x => x.time * unit, htext, by rw [hmillis, List.map_map]; rfl, ?_⟩
    rw [List.forall_mem_map]
    refine (TimeInState.readLines_eq_ok_iff.mp hparse).forall_iff fun x _ _ _ hd => ?_
    rw [← hd.neg_iff, not_lt]
    exact ⟨fun h => nonneg_of_mul_nonneg_left h hunit, fun h => mul_nonneg h hunit.le⟩

end Reader

section Sample

def signedTable : Path := { root := .slash, parts := ["table"] }

def signedThread : Path := { root := .slash, parts := ["thread"] }

def signedTree (table thread : String) : FileTree :=
  { entries := [
      (signedTable, .file (Text.Utf8.encode table.toList)),
      (signedThread, .file (Text.Utf8.encode thread.toList))] }

theorem signs_iff_of_negative_time :
    create? (signedTree "100 1\n" "100 -5\n").statsSource signedTable (.int 10) =
        some { frequencies := [100], tick := .int 10 } ∧
      TimeInState.AllLines (fun f _ => Number.ReadsPositive f) (Text.lines "100 1\n".toList) ∧
      ¬ TimeInState.AllLines (fun _ d => ¬ Number.ReadsNegative d)
        (Text.lines "100 -5\n".toList) := by
  let tree := signedTree "100 1\n" "100 -5\n"
  let reader : TableReader := { frequencies := [100], tick := .int 10 }
  have hr : create? tree.statsSource signedTable (.int 10) = some reader := by rfl
  have hread : (reader.read tree.statsSource signedThread).2 = .ok (some [Json.int (-50)]) := by rfl
  have htable : tree.readText signedTable = .ok "100 1\n".toList := by rfl
  have hthread : tree.readText signedThread = .ok "100 -5\n".toList := by rfl
  obtain ⟨⟨text, htext, hpositive⟩, htimes⟩ := signs_iff (by decide) hr
  obtain ⟨text', times, htext', hms, hnonneg⟩ := htimes _ _ _ hread
  cases htable.symm.trans htext
  cases hthread.symm.trans htext'
  obtain rfl : times = [-50] :=
    List.map_injective_iff.mpr (fun _ _ => Json.int.inj) hms.symm
  exact ⟨hr, hpositive.mp (by decide), hnonneg.not.mp (by decide)⟩

theorem signs_not_kept : ¬ ∀ (t : FileTree) (p : Path) (unit : ℤ) (r : TableReader), 0 < unit →
    create? t.statsSource p (.int unit) = some r →
    (∀ f ∈ r.frequencies, 0 < f) ∧
    ∀ (q : Path) (times : List ℤ), (r.read t.statsSource q).2 = .ok (some (times.map .int)) →
      ∀ n ∈ times, 0 ≤ n := by
  intro h
  have hr : create? (signedTree "-100 1\n" "100 -5\n").statsSource signedTable (.int 10) =
      some { frequencies := [-100], tick := .int 10 } := by rfl
  exact absurd ((h _ _ 10 _ (by decide) hr).1 (-100) (by decide)) (by decide)

end Sample

end TableReader

end Residency
