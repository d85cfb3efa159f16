import Mathlib.Data.List.Infix
import Mathlib.Data.List.TakeWhile
import Residency.Proofs.Lists
import Residency.Text.EscapeSequence

/-!
What is left of a text without its escape sequences. Sequences are removed from the left to the
right. What follows a text cannot complete a sequence in it unless it has the sequence's last
character, with nothing before it that is no part of a sequence.
-/
namespace Residency.Text

def IsSequence (q : List Char) : Prop :=
  ∃ parameters intermediates last, q = escape :: '[' :: (parameters ++ intermediates ++ [last]) ∧
    (∀ c ∈ parameters, isParameter c = true) ∧ (∀ c ∈ intermediates, isIntermediate c = true) ∧
    isFinal last = true

inductive Removed (P : List Char → Prop) : List Char → List Char → Prop
  | nil : Removed P [] []
  | part {q s r : List Char} : P q → Removed P s r → Removed P (q ++ s) r
  | char {c : Char} {s r : List Char} : (∀ q, P q → ¬ q <+: c :: s) → Removed P s r →
      Removed P (c :: s) (c :: r)

section Classes

variable {c : Char}

theorem isParameter_iff : isParameter c = true ↔ 48 ≤ c.toNat ∧ c.toNat ≤ 63 := by
  simp only [isParameter, Bool.and_eq_true, decide_eq_true_eq]
  exact Iff.rfl

theorem isIntermediate_iff : isIntermediate c = true ↔ 32 ≤ c.toNat ∧ c.toNat ≤ 47 := by
  simp only [isIntermediate, Bool.and_eq_true, decide_eq_true_eq]
  exact Iff.rfl

theorem isFinal_iff : isFinal c = true ↔ 64 ≤ c.toNat ∧ c.toNat ≤ 126 := by
  simp only [isFinal, Bool.and_eq_true, decide_eq_true_eq]
  exact Iff.rfl

theorem isParameter_eq_false_of_isIntermediate (h : isIntermediate c = true) :
    isParameter c = false := by
  rw [isIntermediate_iff] at h
  rw [Bool.eq_false_iff, Ne, isParameter_iff]
  omega

theorem isParameter_eq_false_of_isFinal (h : isFinal c = true) : isParameter c = false := by
  rw [isFinal_iff] at h
  rw [Bool.eq_false_iff, Ne, isParameter_iff]
  omega

theorem isIntermediate_eq_false_of_isFinal (h : isFinal c = true) : isIntermediate c = false := by
  rw [isFinal_iff] at h
  rw [Bool.eq_false_iff, Ne, isIntermediate_iff]
  omega

end Classes

section Length

theorem sequenceLength?_bracket (s : List Char) :
    sequenceLength? (escape :: '[' :: s) =
      if ((s.dropWhile isParameter).dropWhile isIntermediate).head?.any isFinal then
        some ((s.takeWhile isParameter).length +
          ((s.dropWhile isParameter).takeWhile isIntermediate).length + 3)
      else none := by
  simp only [sequenceLength?, drop_length_takeWhile, true_and]

theorem sequenceLength?_of_ne_escape {c : Char} (h : c ≠ escape) (s : List Char) :
    sequenceLength? (c :: s) = none := by
  cases s with
  | nil => rfl
  | cons d s =>
    by_cases hd : d = '['
    · subst hd
      simp [sequenceLength?, h]
    · simp [sequenceLength?, hd]

theorem sequenceLength?_of_ne_bracket {s : List Char} (h : s.head? ≠ some '[') (c : Char) :
    sequenceLength? (c :: s) = none := by
  cases s with
  | nil => rfl
  | cons d s =>
    have hd : d ≠ '[' := by simpa using h
    simp [sequenceLength?, hd]

theorem sequenceLength?_append {q : List Char} (hq : IsSequence q) (s : List Char) :
    sequenceLength? (q ++ s) = some q.length := by
  obtain ⟨ps, is, last, rfl, hps, his, hlast⟩ := hq
  have hlast' : isIntermediate last = false := isIntermediate_eq_false_of_isFinal hlast
  obtain ⟨a, r, hr, ha⟩ : ∃ a r, is ++ last :: s = a :: r ∧ isParameter a = false := by
    cases is with
    | nil => exact ⟨last, s, rfl, isParameter_eq_false_of_isFinal hlast⟩
    | cons i is =>
      exact ⟨i, is ++ last :: s, rfl, isParameter_eq_false_of_isIntermediate (his i (by simp))⟩
  have hshape : escape :: '[' :: (ps ++ is ++ [last]) ++ s = escape :: '[' :: (ps ++ a :: r) := by
    simp [← hr]
  rw [hshape, sequenceLength?_bracket, dropWhile_append_cons hps ha, takeWhile_append_cons hps ha,
    ← hr, dropWhile_append_cons his hlast', takeWhile_append_cons his hlast', List.head?_cons,
    Option.any_some, if_pos hlast]
  simp [Nat.add_assoc]

theorem exists_bracket {s : List Char} {n : ℕ} (h : sequenceLength? s = some n) :
    ∃ r, s = escape :: '[' :: r := by
  cases s with
  | nil => cases h
  | cons c r =>
    have hc : c = escape := by
      by_contra hne
      rw [sequenceLength?_of_ne_escape hne] at h
      cases h
    have hr : r.head? = some '[' := by
      by_contra hne
      rw [sequenceLength?_of_ne_bracket hne] at h
      cases h
    obtain ⟨t, rfl⟩ := List.head?_eq_some_iff.mp hr
    exact ⟨t, by rw [hc]⟩

theorem exists_of_sequenceLength? {s : List Char} {n : ℕ} (h : sequenceLength? s = some n) :
    ∃ q t, s = q ++ t ∧ IsSequence q ∧ q.length = n := by
  obtain ⟨r, rfl⟩ := exists_bracket h
  rw [sequenceLength?_bracket] at h
  split_ifs at h with hfinal
  cases h
  obtain ⟨last, hhead, hlast⟩ := (Option.any_eq_true _ _).mp hfinal
  obtain ⟨t, ht⟩ := List.head?_eq_some_iff.mp hhead
  have hrest : r = r.takeWhile isParameter ++
      ((r.dropWhile isParameter).takeWhile isIntermediate ++ last :: t) := by
    rw [← ht, List.takeWhile_append_dropWhile, List.takeWhile_append_dropWhile]
  refine ⟨escape :: '[' :: (r.takeWhile isParameter ++
    (r.dropWhile isParameter).takeWhile isIntermediate ++ [last]), t, ?_, ?_, ?_⟩
  · conv_lhs => rw [hrest]
    simp
  · exact ⟨_, _, last, rfl, fun c => List.mem_takeWhile_imp, fun c => List.mem_takeWhile_imp, hlast⟩
  · simp [Nat.add_assoc]

theorem sequenceLength?_eq_none_iff {s : List Char} :
    sequenceLength? s = none ↔ ∀ q, IsSequence q → ¬ q <+: s := by
  constructor
  · rintro h q hq ⟨t, rfl⟩
    rw [sequenceLength?_append hq] at h
    cases h
  · intro h
    by_contra hne
    obtain ⟨n, hn⟩ := Option.ne_none_iff_exists'.mp hne
    obtain ⟨q, t, rfl, hq, -⟩ := exists_of_sequenceLength? hn
    exact h q hq (List.prefix_append q t)

end Length

section Removal

theorem withoutEscapesFrom_eq (n : ℕ) (s : List Char) :
    withoutEscapesFrom n s = withoutEscapes (s.drop n) := by
  induction s generalizing n with
  | nil => cases n <;> rfl
  | cons c s ih =>
    cases n with
    | zero => rfl
    | succ n => rw [withoutEscapesFrom, ih, List.drop_succ_cons]

theorem withoutEscapes_cons {c : Char} {s : List Char} (h : sequenceLength? (c :: s) = none) :
    withoutEscapes (c :: s) = c :: withoutEscapes s := by
  rw [withoutEscapes, withoutEscapesFrom, h]
  rfl

theorem withoutEscapes_append_of_isSequence {q : List Char} (hq : IsSequence q) (s : List Char) :
    withoutEscapes (q ++ s) = withoutEscapes s := by
  have hlength := sequenceLength?_append hq s
  obtain ⟨c, r, rfl⟩ : ∃ c r, q = c :: r := by
    obtain ⟨ps, is, last, rfl, -⟩ := hq
    exact ⟨_, _, rfl⟩
  rw [List.cons_append] at hlength ⊢
  rw [withoutEscapes, withoutEscapesFrom, hlength]
  dsimp only
  rw [withoutEscapesFrom_eq, List.length_cons, Nat.add_sub_cancel, List.drop_left]

theorem removed_withoutEscapes (s : List Char) : Removed IsSequence s (withoutEscapes s) := by
  induction hn : s.length using Nat.strong_induction_on generalizing s with
  | _ n ih =>
    cases hs : sequenceLength? s with
    | some k =>
      obtain ⟨q, t, rfl, hq, -⟩ := exists_of_sequenceLength? hs
      rw [withoutEscapes_append_of_isSequence hq]
      refine .part hq (ih t.length ?_ t rfl)
      obtain ⟨ps, is, last, rfl, -⟩ := hq
      rw [← hn]
      simp only [List.cons_append, List.length_cons, List.length_append]
      omega
    | none =>
      cases s with
      | nil => exact .nil
      | cons c s =>
        rw [withoutEscapes_cons hs]
        refine .char (sequenceLength?_eq_none_iff.mp hs) (ih s.length ?_ s rfl)
        rw [← hn]
        simp

theorem Removed.eq_withoutEscapes {s r : List Char} (h : Removed IsSequence s r) :
    withoutEscapes s = r := by
  induction h with
  | nil => rfl
  | part hq _ ih => rw [withoutEscapes_append_of_isSequence hq, ih]
  | char hnone _ ih => rw [withoutEscapes_cons (sequenceLength?_eq_none_iff.mpr hnone), ih]

theorem Removed.sublist {P : List Char → Prop} {s r : List Char} (h : Removed P s r) :
    r.Sublist s := by
  induction h with
  | nil => exact List.nil_sublist _
  | part _ _ ih => exact ih.trans (List.sublist_append_right _ _)
  | char _ _ ih => exact ih.cons_cons _

theorem Removed.subset {P : List Char → Prop} {s r : List Char} (h : Removed P s r) : r ⊆ s :=
  h.sublist.subset

theorem IsSequence.length_pos {q : List Char} (h : IsSequence q) : 0 < q.length := by
  obtain ⟨ps, is, last, rfl, -⟩ := h
  exact Nat.succ_pos _

theorem Removed.length_lt {s r q : List Char} (h : Removed IsSequence s r) (hq : IsSequence q)
    (hinside : q <:+: s) : r.length < s.length := by
  induction h with
  | nil => exact absurd (List.infix_nil.mp hinside) (List.ne_nil_of_length_pos hq.length_pos)
  | part hp hrest _ =>
    have hpos := hp.length_pos
    have hle := hrest.sublist.length_le
    rw [List.length_append]
    omega
  | char hnone _ ih =>
    rcases List.infix_cons_iff.mp hinside with hprefix | hrest
    · exact absurd hprefix (hnone _ hq)
    · exact Nat.succ_lt_succ (ih hrest)

theorem withoutEscapes_eq_self_iff {s : List Char} :
    withoutEscapes s = s ↔ ∀ q, IsSequence q → ¬ q <:+: s := by
  have h := removed_withoutEscapes s
  constructor
  · intro heq q hq hinside
    have hlt := h.length_lt hq hinside
    rw [heq] at hlt
    exact lt_irrefl _ hlt
  · intro hnone
    generalize withoutEscapes s = r at h
    induction h with
    | nil => rfl
    | part hq _ _ => exact absurd (List.prefix_append _ _).isInfix (hnone _ hq)
    | char _ _ ih =>
      rw [ih fun q hq hinside => hnone q hq (List.infix_cons hinside)]

theorem Removed.exists_of_cons {P : List Char → Prop} {c : Char} {s r : List Char}
    (h : Removed P (c :: s) r) (hnone : ∀ q, P q → ¬ q <+: c :: s) :
    ∃ t, r = c :: t ∧ Removed P s t := by
  generalize hs : c :: s = s' at h
  cases h with
  | nil => cases hs
  | part hq _ => exact absurd (hs ▸ List.prefix_append _ _) (hnone _ hq)
  | char _ hrest =>
    cases hs
    exact ⟨_, rfl, hrest⟩

theorem withoutEscapes_append_of_not_mem {s : List Char} (h : escape ∉ s) (t : List Char) :
    withoutEscapes (s ++ t) = s ++ withoutEscapes t := by
  induction s with
  | nil => rfl
  | cons c s ih =>
    obtain ⟨hc, hs⟩ := List.ne_and_not_mem_of_not_mem_cons h
    rw [List.cons_append, withoutEscapes_cons (sequenceLength?_of_ne_escape hc.symm _), ih hs]
    rfl

end Removal

section Following

def isInner (c : Char) : Bool :=
  isParameter c || isIntermediate c

def Inert (t : List Char) : Prop :=
  ∀ c ∈ (t.dropWhile isInner).head?, isFinal c = false

def Completes (t : List Char) : Prop :=
  ∃ parameters intermediates last r, t = parameters ++ (intermediates ++ last :: r) ∧
    (∀ c ∈ parameters, isParameter c = true) ∧ (∀ c ∈ intermediates, isIntermediate c = true) ∧
    isFinal last = true

theorem isInner_eq_false_of_isFinal {c : Char} (h : isFinal c = true) : isInner c = false := by
  rw [isInner, isParameter_eq_false_of_isFinal h, isIntermediate_eq_false_of_isFinal h]
  rfl

theorem inert_of_line {l : List Char} (h : ∀ c ∈ l, isInner c = true) (r : List Char) :
    Inert (l ++ '\n' :: r) := by
  rw [Inert, dropWhile_append_cons h (by decide)]
  simp only [List.head?_cons, Option.mem_some_iff, forall_eq']
  decide

theorem Inert.not_completes {t : List Char} (h : Inert t) : ¬ Completes t := by
  rintro ⟨ps, is, last, r, rfl, hps, his, hlast⟩
  have hinner : ∀ c ∈ ps ++ is, isInner c = true := by
    intro c hc
    rw [isInner, Bool.or_eq_true]
    exact (List.mem_append.mp hc).imp (hps c) (his c)
  rw [← List.append_assoc, Inert,
    dropWhile_append_cons hinner (isInner_eq_false_of_isFinal hlast)] at h
  rw [h last rfl] at hlast
  cases hlast

/-- Intermediate characters end the parameters, so no sequence goes on at a parameter after them. -/
theorem not_completes_of_intermediates {l r : List Char} {c d : Char}
    (hl : ∀ e ∈ c :: l, isIntermediate e = true) (hd : isIntermediate d = false)
    (hfinal : isFinal d = false) : ¬ Completes (c :: l ++ d :: r) := by
  rintro ⟨ps, is, last, r', heq, hps, his, hlast⟩
  cases ps with
  | cons p ps =>
    obtain ⟨rfl, -⟩ := List.cons.inj heq
    have hp := hps c (by simp)
    rw [isParameter_eq_false_of_isIntermediate (hl c (by simp))] at hp
    cases hp
  | nil =>
    have hdrop := congrArg (List.dropWhile isIntermediate) heq
    rw [List.nil_append, dropWhile_append_cons hl hd,
      dropWhile_append_cons his (isIntermediate_eq_false_of_isFinal hlast)] at hdrop
    rw [(List.cons.inj hdrop).1, hlast] at hfinal
    cases hfinal

/-- The bracket counts as a last character here, since it is one of a sequence's own. -/
theorem completes_of_isSequence {c : Char} {s t : List Char} (hq : IsSequence (c :: (s ++ t)))
    (ht : t ≠ []) (u : List Char) : Completes (t ++ u) := by
  obtain ⟨ps, is, last, h, hps, his, hlast⟩ := hq
  rw [List.cons.injEq] at h
  obtain ⟨-, h⟩ := h
  cases s with
  | nil =>
    rw [List.nil_append] at h
    exact ⟨[], [], '[', _, by rw [h]; rfl, by simp, by simp, by decide⟩
  | cons d s =>
    rw [List.cons_append, List.cons.injEq, List.append_assoc] at h
    rcases List.append_eq_append_iff.mp h.2 with ⟨a, rfl, htail⟩ | ⟨a, rfl, hrest⟩
    · refine ⟨a, is, last, u, by simp [htail], fun e he => hps e (by simp [he]), his, hlast⟩
    · rcases List.append_eq_append_iff.mp hrest with ⟨b, rfl, hend⟩ | ⟨b, rfl, htail⟩
      · rcases List.append_eq_singleton_iff.mp hend.symm with ⟨rfl, rfl⟩ | ⟨-, rfl⟩
        · exact ⟨[], [], last, u, rfl, by simp, by simp, hlast⟩
        · exact absurd rfl ht
      · exact ⟨[], b, last, u, by simp [htail], by simp, fun e he => his e (by simp [he]), hlast⟩

theorem withoutEscapes_append_of_not_completes {t : List Char} (ht : ¬ Completes t)
    (s : List Char) : withoutEscapes (s ++ t) = withoutEscapes s ++ withoutEscapes t := by
  have h := removed_withoutEscapes s
  generalize withoutEscapes s = r at h
  induction h with
  | nil => rfl
  | part hq _ ih => rw [List.append_assoc, withoutEscapes_append_of_isSequence hq, ih]
  | @char c s r hnone _ ih =>
    have hnone' : sequenceLength? (c :: (s ++ t)) = none := by
      refine sequenceLength?_eq_none_iff.mpr fun q hq hprefix => ?_
      rcases List.prefix_or_prefix_of_prefix hprefix (List.prefix_append (c :: s) t) with
        hinside | ⟨u, rfl⟩
      · exact hnone q hq hinside
      · have hu : u ≠ [] := by
          rintro rfl
          exact hnone _ hq (by rw [List.append_nil])
        obtain ⟨v, rfl⟩ := (List.prefix_append_right_inj (c :: s)).mp hprefix
        exact ht (completes_of_isSequence hq hu v)
    rw [List.cons_append, withoutEscapes_cons hnone', ih]
    rfl

theorem withoutEscapes_append {t : List Char} (ht : Inert t) (s : List Char) :
    withoutEscapes (s ++ t) = withoutEscapes s ++ withoutEscapes t :=
  withoutEscapes_append_of_not_completes ht.not_completes s

end Following

end Residency.Text
