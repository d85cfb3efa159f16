import Mathlib.Data.List.Basic
import Residency.Csv
import Residency.Proofs.Outcomes

/-!
Rows with commas, read back. A reader goes from line to line with the fields of the row so far and
the characters of the field it is in. A row ends with its line, unless the line ends between quotes.
-/
namespace Residency.Csv

inductive Place where
  | rowStart
  | fieldStart
  | inField
  | inQuotes
  | afterQuote
  | lineEnd
  deriving DecidableEq, Repr

structure Reader where
  place : Place := .rowStart
  fields : List (List Char) := []
  field : List Char := []
  deriving DecidableEq, Repr

inductive ReadError where
  | fieldTooLong
  | afterLineEnd
  deriving DecidableEq, Repr

def isLineEnd (c : Char) : Bool :=
  c == '\n' || c == '\r'

namespace Reader

def closeField (r : Reader) (place : Place) : Reader :=
  { place := place, fields := r.fields ++ [r.field], field := [] }

def add (limit : ℕ) (r : Reader) (place : Place) (c : Char) : Except ReadError Reader :=
  if r.field.length < limit then .ok { r with place := place, field := r.field ++ [c] }
  else .error .fieldTooLong

def beginField (limit : ℕ) (r : Reader) (c : Char) : Except ReadError Reader :=
  if isLineEnd c then .ok (r.closeField .lineEnd)
  else if c = '"' then .ok { r with place := .inQuotes }
  else if c = ',' then .ok (r.closeField .fieldStart)
  else r.add limit .inField c

/-- The reader after one more character. A quote between quotes ends them unless another follows,
and characters after the closing quote belong to the field as well. -/
def step (limit : ℕ) (r : Reader) (c : Char) : Except ReadError Reader :=
  match r.place with
  | .rowStart => if isLineEnd c then .ok { r with place := .lineEnd } else r.beginField limit c
  | .fieldStart => r.beginField limit c
  | .inField =>
      if isLineEnd c then .ok (r.closeField .lineEnd)
      else if c = ',' then .ok (r.closeField .fieldStart)
      else r.add limit .inField c
  | .inQuotes => if c = '"' then .ok { r with place := .afterQuote } else r.add limit .inQuotes c
  | .afterQuote =>
      if c = '"' then r.add limit .inQuotes c
      else if c = ',' then .ok (r.closeField .fieldStart)
      else if isLineEnd c then .ok (r.closeField .lineEnd)
      else r.add limit .inField c
  | .lineEnd => if isLineEnd c then .ok r else .error .afterLineEnd

def endLine (r : Reader) : Reader :=
  match r.place with
  | .rowStart | .lineEnd => { r with place := .rowStart }
  | .fieldStart | .inField | .afterQuote => r.closeField .rowStart
  | .inQuotes => r

end Reader

def marked : List Char → List (Option Char)
  | [] => []
  | c :: s => if c = '\n' ∨ s = [] then some c :: none :: marked s else some c :: marked s

/-- Reads the rest of a text. A row whose quotes are still open at the end counts. -/
def readFrom (limit : ℕ) : Reader → List (Option Char) → Except ReadError (List (List (List Char)))
  | r, [] => .ok (if r.place = .inQuotes ∨ r.field ≠ [] then [r.fields ++ [r.field]] else [])
  | r, some c :: s => (r.step limit c).bind fun r => readFrom limit r s
  | r, none :: s =>
      if r.endLine.place = .rowStart then (readFrom limit {} s).map (r.endLine.fields :: ·)
      else readFrom limit r.endLine s

def read (limit : ℕ) (s : List Char) : Except ReadError (List (List (List Char))) :=
  readFrom limit {} (marked s)

def fieldLimit : ℕ := 131072

example : read 4 "a,\"b\"\"\n\"c\n\n,\"".toList =
    .ok [["a".toList, "b\"\nc".toList], [], [[], []]] := by
  decide +kernel

example : read 3 "abcd\n".toList = .error .fieldTooLong := by decide +kernel

def IsPlain (c : Char) : Prop :=
  c ≠ ',' ∧ c ≠ '"' ∧ c ≠ '\n' ∧ c ≠ '\r'

def doubled (s : List Char) : List Char :=
  s.flatMap fun c => if c = '"' then ['"', '"'] else [c]

instance (c : Char) : Decidable (IsPlain c) :=
  inferInstanceAs (Decidable (_ ∧ _))

inductive IsTextOf : List Char → List Char → Prop
  | plain {s : List Char} : (∀ c ∈ s, IsPlain c) → IsTextOf s s
  | quoted (s : List Char) : IsTextOf s ('"' :: doubled s ++ ['"'])

def mark (c : Char) : List (Option Char) :=
  if c = '\n' then [some c, none] else [some c]

theorem mark_of_ne {c : Char} (h : c ≠ '\n') : mark c = [some c] :=
  if_neg h

theorem marked_append (s : List Char) {t : List Char} (ht : t ≠ []) :
    marked (s ++ t) = s.flatMap mark ++ marked t := by
  induction s with
  | nil => rfl
  | cons c s ih =>
    have hne : s ++ t ≠ [] := List.append_ne_nil_of_right_ne_nil s ht
    rw [List.cons_append, marked, ih]
    by_cases hc : c = '\n' <;> simp [mark, hc, hne]

theorem marked_line (s t : List Char) :
    marked (s ++ '\n' :: t) = s.flatMap mark ++ some '\n' :: none :: marked t := by
  rw [marked_append s (List.cons_ne_nil _ t), marked, if_pos (.inl rfl)]

section Steps

variable {limit : ℕ} {fields : List (List Char)} {field : List Char} {c : Char}

theorem isLineEnd_eq_false (h : IsPlain c) : isLineEnd c = false := by
  simp [isLineEnd, h.2.2.1, h.2.2.2]

theorem step_plain {place : Place} (hplace : place = .fieldStart ∨ place = .inField)
    (h : IsPlain c) : Reader.step limit ⟨place, fields, field⟩ c =
      Reader.add limit ⟨place, fields, field⟩ .inField c := by
  rcases hplace with rfl | rfl
  · rw [Reader.step, Reader.beginField, isLineEnd_eq_false h]
    dsimp only
    rw [if_neg Bool.false_ne_true, if_neg h.2.1, if_neg h.1]
  · rw [Reader.step, isLineEnd_eq_false h]
    dsimp only
    rw [if_neg Bool.false_ne_true, if_neg h.1]

theorem add_eq {place place' : Place} (h : field.length < limit) :
    Reader.add limit ⟨place, fields, field⟩ place' c = .ok ⟨place', fields, field ++ [c]⟩ :=
  if_pos h

theorem readFrom_plain {s : List Char} (hs : ∀ c ∈ s, IsPlain c)
    (h : field.length + s.length ≤ limit) (m : List (Option Char)) :
    readFrom limit ⟨.inField, fields, field⟩ (s.flatMap mark ++ m) =
      readFrom limit ⟨.inField, fields, field ++ s⟩ m := by
  induction s generalizing field with
  | nil => simp
  | cons c s ih =>
    rw [List.forall_mem_cons] at hs
    rw [List.length_cons] at h
    rw [List.flatMap_cons, mark_of_ne hs.1.2.2.1, List.cons_append, List.nil_append,
      List.cons_append, readFrom, step_plain (.inr rfl) hs.1, add_eq (by omega), ok_bind,
      ih hs.2 (by simp; omega), List.append_assoc, List.singleton_append]

theorem readFrom_doubledChar (h : field.length < limit) (m : List (Option Char)) :
    readFrom limit ⟨.inQuotes, fields, field⟩
        ((if c = '"' then ['"', '"'] else [c]).flatMap mark ++ m) =
      readFrom limit ⟨.inQuotes, fields, field ++ [c]⟩ m := by
  have hadd : ∀ place, Reader.add limit ⟨place, fields, field⟩ .inQuotes c =
      .ok ⟨.inQuotes, fields, field ++ [c]⟩ := fun _ => add_eq h
  by_cases hquote : c = '"'
  · subst hquote
    have hopen : Reader.step limit ⟨.inQuotes, fields, field⟩ '"' =
        .ok ⟨.afterQuote, fields, field⟩ := rfl
    have hagain : Reader.step limit ⟨.afterQuote, fields, field⟩ '"' =
        .ok ⟨.inQuotes, fields, field ++ ['"']⟩ := hadd .afterQuote
    rw [if_pos rfl]
    change readFrom limit _ (some '"' :: some '"' :: m) = _
    rw [readFrom, hopen, ok_bind, readFrom, hagain, ok_bind]
  · have hstep : Reader.step limit ⟨.inQuotes, fields, field⟩ c =
        .ok ⟨.inQuotes, fields, field ++ [c]⟩ := by
      rw [Reader.step]
      dsimp only
      rw [if_neg hquote, hadd]
    rw [if_neg hquote, List.flatMap_singleton]
    by_cases hfeed : c = '\n'
    · subst hfeed
      change readFrom limit _ (some '\n' :: none :: m) = _
      rw [readFrom, hstep, ok_bind, readFrom, if_neg nofun]
      rfl
    · rw [mark_of_ne hfeed, List.cons_append, List.nil_append, readFrom, hstep, ok_bind]

theorem readFrom_doubled {s : List Char} (h : field.length + s.length ≤ limit)
    (m : List (Option Char)) :
    readFrom limit ⟨.inQuotes, fields, field⟩ ((doubled s).flatMap mark ++ m) =
      readFrom limit ⟨.inQuotes, fields, field ++ s⟩ m := by
  induction s generalizing field with
  | nil => simp [doubled]
  | cons c s ih =>
    rw [List.length_cons] at h
    rw [doubled, List.flatMap_cons, List.flatMap_append, List.append_assoc,
      readFrom_doubledChar (by omega)]
    change readFrom limit _ ((doubled s).flatMap mark ++ m) = _
    rw [ih (by simp; omega), List.append_assoc, List.singleton_append]

end Steps

section Rows

variable {limit : ℕ} {fields : List (List Char)} {field text : List Char}

def Place.endsField : Place → Bool
  | .fieldStart | .inField | .afterQuote => true
  | _ => false

theorem step_comma {place : Place} (h : place.endsField = true) :
    Reader.step limit ⟨place, fields, field⟩ ',' = .ok ⟨.fieldStart, fields ++ [field], []⟩ := by
  cases place with
  | fieldStart => rfl
  | inField => rfl
  | afterQuote => rfl
  | _ => cases h

theorem step_lineFeed {place : Place} (h : place.endsField = true) :
    Reader.step limit ⟨place, fields, field⟩ '\n' = .ok ⟨.lineEnd, fields ++ [field], []⟩ := by
  cases place with
  | fieldStart => rfl
  | inField => rfl
  | afterQuote => rfl
  | _ => cases h

theorem exists_readFrom_text (fields : List (List Char)) (h : IsTextOf field text)
    (hlen : field.length ≤ limit) :
    ∃ place : Place, place.endsField = true ∧ ∀ m, readFrom limit ⟨.fieldStart, fields, []⟩
      (text.flatMap mark ++ m) = readFrom limit ⟨place, fields, field⟩ m := by
  cases h with
  | plain hs =>
    cases field with
    | nil => exact ⟨.fieldStart, rfl, fun m => rfl⟩
    | cons c s =>
      rw [List.forall_mem_cons] at hs
      rw [List.length_cons] at hlen
      refine ⟨.inField, rfl, fun m => ?_⟩
      rw [List.flatMap_cons, mark_of_ne hs.1.2.2.1, List.cons_append, List.nil_append,
        List.cons_append, readFrom, step_plain (.inl rfl) hs.1,
        add_eq (by simpa using Nat.zero_lt_of_lt hlen), ok_bind,
        readFrom_plain hs.2 (by simp; omega)]
      rfl
  | quoted =>
    refine ⟨.afterQuote, rfl, fun m => ?_⟩
    have hopen : Reader.step limit ⟨.fieldStart, fields, []⟩ '"' = .ok ⟨.inQuotes, fields, []⟩ :=
      rfl
    have hclose : Reader.step limit ⟨.inQuotes, fields, field⟩ '"' =
        .ok ⟨.afterQuote, fields, field⟩ := rfl
    have hshape : ('"' :: doubled field ++ ['"']).flatMap mark ++ m =
        some '"' :: ((doubled field).flatMap mark ++ some '"' :: m) := by
      simp [mark_of_ne]
    rw [hshape, readFrom, hopen, ok_bind, readFrom_doubled (by simpa using hlen), List.nil_append,
      readFrom, hclose, ok_bind]

inductive IsRowOf (limit : ℕ) : List (List Char) → List Char → Prop
  | mk {field text : List Char} {fields texts : List (List Char)} : IsTextOf field text →
      List.Forall₂ IsTextOf fields texts → fields ≠ [] → (∀ f ∈ field :: fields, f.length ≤ limit) →
      IsRowOf limit (field :: fields) (text ++ texts.flatMap (',' :: ·) ++ ['\n'])

theorem readFrom_texts {values texts : List (List Char)} (h : IsTextOf field text)
    (hs : List.Forall₂ IsTextOf values texts) (hlen : ∀ f ∈ field :: values, f.length ≤ limit)
    (fields : List (List Char)) (m : List (Option Char)) :
    readFrom limit ⟨.fieldStart, fields, []⟩
        ((text ++ texts.flatMap (',' :: ·)).flatMap mark ++ some '\n' :: none :: m) =
      (readFrom limit {} m).map ((fields ++ field :: values) :: ·) := by
  induction hs generalizing field text fields with
  | nil =>
    obtain ⟨place, hplace, hread⟩ := exists_readFrom_text fields h (hlen field (by simp))
    rw [List.flatMap_nil, List.append_nil, hread, readFrom, step_lineFeed hplace, ok_bind, readFrom]
    rfl
  | @cons value next values texts hnext _ ih =>
    obtain ⟨place, hplace, hread⟩ := exists_readFrom_text fields h (hlen field (by simp))
    rw [List.forall_mem_cons] at hlen
    have hshape : (text ++ (next :: texts).flatMap (',' :: ·)).flatMap mark ++
          some '\n' :: none :: m = text.flatMap mark ++ some ',' ::
        ((next ++ texts.flatMap (',' :: ·)).flatMap mark ++ some '\n' :: none :: m) := by
      simp [mark_of_ne]
    rw [hshape, hread, readFrom, step_comma hplace, ok_bind, ih hnext hlen.2]
    simp

theorem readFrom_rowStart {c : Char} (h : isLineEnd c = false) (m : List (Option Char)) :
    readFrom limit {} (some c :: m) = readFrom limit ⟨.fieldStart, [], []⟩ (some c :: m) := by
  have hstep : Reader.step limit {} c = Reader.step limit ⟨.fieldStart, [], []⟩ c := by
    simp [Reader.step, Reader.beginField, h, Reader.add, Reader.closeField]
  rw [readFrom, readFrom, hstep]

theorem readFrom_first (h : IsTextOf field text) (m : List (Option Char)) :
    readFrom limit {} (text.flatMap mark ++ some ',' :: m) =
      readFrom limit ⟨.fieldStart, [], []⟩ (text.flatMap mark ++ some ',' :: m) := by
  cases h with
  | plain hs =>
    cases field with
    | nil => exact readFrom_rowStart rfl m
    | cons c s =>
      have hc := hs c (by simp)
      rw [List.flatMap_cons, mark_of_ne hc.2.2.1]
      exact readFrom_rowStart (isLineEnd_eq_false hc) _
  | quoted => exact readFrom_rowStart rfl _

theorem readFrom_row {row : List (List Char)} {text : List Char} (h : IsRowOf limit row text)
    (r : List Char) :
    readFrom limit {} (marked (text ++ r)) = (readFrom limit {} (marked r)).map (row :: ·) := by
  cases h with
  | @mk field text values texts htext htexts hne hlen =>
    have hread := readFrom_texts htext htexts hlen [] (marked r)
    obtain ⟨next, ts, rfl⟩ : ∃ next ts, texts = next :: ts := by
      cases htexts with
      | nil => exact absurd rfl hne
      | cons _ _ => exact ⟨_, _, rfl⟩
    have hshape : (text ++ (next :: ts).flatMap (',' :: ·)).flatMap mark ++
          some '\n' :: none :: marked r = text.flatMap mark ++ some ',' ::
        ((next ++ ts.flatMap (',' :: ·)).flatMap mark ++ some '\n' :: none :: marked r) := by
      simp [mark_of_ne]
    rw [List.append_assoc, List.singleton_append, marked_line, hshape, readFrom_first htext,
      ← hshape, hread, List.nil_append]

theorem read_rows {rows : List (List (List Char))} {texts : List (List Char)}
    (h : List.Forall₂ (IsRowOf limit) rows texts) : read limit texts.flatten = .ok rows := by
  rw [read]
  induction h with
  | nil => rfl
  | cons hrow _ ih =>
    rw [List.flatten_cons, readFrom_row hrow, ih]
    rfl

theorem readFrom_long {place : Place} (hplace : place = .fieldStart ∨ place = .inField)
    {s : List Char} (hs : ∀ c ∈ s, IsPlain c) (hfield : field.length ≤ limit)
    (h : limit < field.length + s.length) (m : List (Option Char)) :
    readFrom limit ⟨place, fields, field⟩ (s.flatMap mark ++ m) = .error .fieldTooLong := by
  induction s generalizing place field with
  | nil => exact absurd h (by simpa using hfield)
  | cons c s ih =>
    rw [List.forall_mem_cons] at hs
    rw [List.length_cons] at h
    rw [List.flatMap_cons, mark_of_ne hs.1.2.2.1, List.cons_append, List.nil_append,
      List.cons_append, readFrom, step_plain hplace hs.1]
    by_cases hlen : field.length < limit
    · rw [add_eq hlen, ok_bind, ih (.inr rfl) hs.2 (by simp; omega) (by simp; omega)]
    · rw [Reader.add, if_neg hlen]
      rfl

/-- A quote in a full field is the closing one until the next character is read. -/
theorem readFrom_fullChar {c : Char} (h : ¬ field.length < limit) (m : List (Option Char)) :
    readFrom limit ⟨.inQuotes, fields, field⟩
        ((if c = '"' then ['"', '"'] else [c]).flatMap mark ++ m) = .error .fieldTooLong := by
  have hadd : ∀ place, Reader.add limit ⟨place, fields, field⟩ .inQuotes c =
      .error .fieldTooLong := fun _ => if_neg h
  by_cases hquote : c = '"'
  · subst hquote
    have hopen : Reader.step limit ⟨.inQuotes, fields, field⟩ '"' =
        .ok ⟨.afterQuote, fields, field⟩ := rfl
    have hagain : Reader.step limit ⟨.afterQuote, fields, field⟩ '"' = .error .fieldTooLong :=
      hadd .afterQuote
    rw [if_pos rfl]
    change readFrom limit _ (some '"' :: some '"' :: m) = _
    rw [readFrom, hopen, ok_bind, readFrom, hagain]
    rfl
  · have hstep : Reader.step limit ⟨.inQuotes, fields, field⟩ c = .error .fieldTooLong := by
      rw [Reader.step]
      dsimp only
      rw [if_neg hquote, hadd]
    obtain ⟨m', hm'⟩ : ∃ m', mark c ++ m = some c :: m' := by
      rw [mark]
      split_ifs <;> exact ⟨_, rfl⟩
    rw [if_neg hquote, List.flatMap_singleton, hm', readFrom, hstep]
    rfl

theorem readFrom_longDoubled {s : List Char} (hfield : field.length ≤ limit)
    (h : limit < field.length + s.length) (m : List (Option Char)) :
    readFrom limit ⟨.inQuotes, fields, field⟩ ((doubled s).flatMap mark ++ m) =
      .error .fieldTooLong := by
  induction s generalizing field with
  | nil => exact absurd h (by simpa using hfield)
  | cons c s ih =>
    rw [List.length_cons] at h
    rw [doubled, List.flatMap_cons, List.flatMap_append, List.append_assoc]
    by_cases hlen : field.length < limit
    · rw [readFrom_doubledChar hlen]
      change readFrom limit _ ((doubled s).flatMap mark ++ m) = _
      exact ih (by simp; omega) (by simp; omega)
    · exact readFrom_fullChar hlen _

theorem readFrom_longText (h : IsTextOf field text) (hlong : limit < field.length)
    (fields : List (List Char)) (m : List (Option Char)) :
    readFrom limit ⟨.fieldStart, fields, []⟩ (text.flatMap mark ++ m) = .error .fieldTooLong := by
  cases h with
  | plain hs => exact readFrom_long (.inl rfl) hs (by simp) (by simpa using hlong) m
  | quoted =>
    have hopen : Reader.step limit ⟨.fieldStart, fields, []⟩ '"' = .ok ⟨.inQuotes, fields, []⟩ :=
      rfl
    have hshape : ('"' :: doubled field ++ ['"']).flatMap mark ++ m =
        some '"' :: ((doubled field).flatMap mark ++ some '"' :: m) := by
      simp [mark_of_ne]
    rw [hshape, readFrom, hopen, ok_bind,
      readFrom_longDoubled (by simp) (by simpa using hlong)]

theorem readFrom_longSecond {second s t : List Char} (hfirst : IsTextOf field text)
    (hlen : field.length ≤ limit) (hsecond : IsTextOf second s) (h : limit < second.length)
    (ht : t ≠ []) :
    readFrom limit {} (marked (text ++ ',' :: (s ++ t))) = .error .fieldTooLong := by
  obtain ⟨place, hplace, hread⟩ := exists_readFrom_text [] hfirst hlen
  have hne : s ++ t ≠ [] := List.append_ne_nil_of_right_ne_nil s ht
  rw [marked_append text (List.cons_ne_nil _ _), marked, if_neg (by simp [hne]),
    marked_append s ht, readFrom_first hfirst, hread, readFrom, step_comma hplace, ok_bind,
    readFrom_longText hsecond h]

end Rows

end Residency.Csv
