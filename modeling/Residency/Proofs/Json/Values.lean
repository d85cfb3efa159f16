import Residency.Proofs.Json.Strings
import Residency.Proofs.Numerals

namespace Residency.Json

inductive FloatFree : Json → Prop where
  | null : FloatFree .null
  | bool (b : Bool) : FloatFree (.bool b)
  | int (n : ℤ) : FloatFree (.int n)
  | str (s : String) : FloatFree (.str s)
  | arr {items : List Json} (h : ∀ v ∈ items, FloatFree v) : FloatFree (.arr items)
  | obj {members : List (String × Json)} (h : ∀ m ∈ members, FloatFree m.2) :
      FloatFree (.obj members)

/-- Values that nest at most so deep, hold no name twice in one object and have only integers that
are short enough to be written. -/
inductive Within : ℕ → Json → Prop where
  | null {depth : ℕ} : Within depth .null
  | bool {depth : ℕ} (b : Bool) : Within depth (.bool b)
  | int {depth : ℕ} {n : ℤ} (h : Number.isWritable n = true) : Within depth (.int n)
  | float {depth : ℕ} (x : Number.Binary64) : Within depth (.float x)
  | str {depth : ℕ} (s : String) : Within depth (.str s)
  | arr {depth : ℕ} {items : List Json} (h : ∀ v ∈ items, Within depth v) :
      Within (depth + 1) (.arr items)
  | obj {depth : ℕ} {members : List (String × Json)} (names : (members.map (·.1)).Nodup)
      (h : ∀ m ∈ members, Within depth m.2) : Within (depth + 1) (.obj members)

attribute [simp] FloatFree.null FloatFree.bool FloatFree.int FloatFree.str Within.null Within.bool
  Within.float Within.str

@[simp]
theorem floatFree_arr {items : List Json} : FloatFree (.arr items) ↔ ∀ v ∈ items, FloatFree v :=
  ⟨fun | .arr h => h, .arr⟩

@[simp]
theorem floatFree_obj {members : List (String × Json)} :
    FloatFree (.obj members) ↔ ∀ m ∈ members, FloatFree m.2 :=
  ⟨fun | .obj h => h, .obj⟩

@[simp]
theorem within_int {depth : ℕ} {n : ℤ} : Within depth (.int n) ↔ Number.isWritable n = true :=
  ⟨fun | .int h => h, .int⟩

@[simp]
theorem within_arr {depth : ℕ} {items : List Json} :
    Within (depth + 1) (.arr items) ↔ ∀ v ∈ items, Within depth v :=
  ⟨fun | .arr h => h, .arr⟩

@[simp]
theorem within_obj {depth : ℕ} {members : List (String × Json)} :
    Within (depth + 1) (.obj members) ↔
      (members.map (·.1)).Nodup ∧ ∀ m ∈ members, Within depth m.2 :=
  ⟨fun | .obj names h => ⟨names, h⟩, fun h => .obj h.1 h.2⟩

def Follows (r : List Char) : Prop :=
  ∀ c ∈ r.head?, c = ',' ∨ c = ']' ∨ c = '\x7d'

theorem follows_nil : Follows [] := by
  simp [Follows]

theorem follows_cons {c : Char} (h : c = ',' ∨ c = ']' ∨ c = '\x7d') (r : List Char) :
    Follows (c :: r) := by
  simpa [Follows] using h

def EndsNumber (r : List Char) : Prop :=
  ∀ c ∈ r.head?, isAsciiDigit c = false ∧ c ≠ '.' ∧ c ≠ 'e' ∧ c ≠ 'E'

theorem Follows.endsNumber {r : List Char} (h : Follows r) : EndsNumber r := by
  intro c hc
  rcases h c hc with rfl | rfl | rfl <;> decide

section Numbers

theorem takeWhile_endsNumber {r : List Char} (h : EndsNumber r) :
    r.takeWhile isAsciiDigit = [] := by
  cases r with
  | nil => rfl
  | cons c r => rw [List.takeWhile_cons_of_neg (by simp [(h c rfl).1])]

theorem takeInteger_toDigits (n : ℕ) {r : List Char} (h : EndsNumber r) :
    takeInteger (Nat.toDigits 10 n ++ r) = Nat.toDigits 10 n := by
  rcases Nat.eq_zero_or_pos n with rfl | hn
  · rfl
  · have htake : (Nat.toDigits 10 n ++ r).takeWhile isAsciiDigit = Nat.toDigits 10 n := by
      have hdigit : ∀ c ∈ Nat.toDigits 10 n, isAsciiDigit c = true := Number.isDigit_of_mem_toDigits
      rw [List.takeWhile_append_of_pos hdigit, takeWhile_endsNumber h, List.append_nil]
    obtain ⟨d, ds, hds, -⟩ := Number.exists_toDigits n
    have hd : d ≠ '0' := by
      rintro rfl
      exact Number.head_toDigits_ne_zero (by omega) ds hds
    rw [hds] at htake ⊢
    rw [List.cons_append, takeInteger]
    · exact htake
    · intro t ht
      exact hd (List.cons.inj ht).1

theorem takeFraction_endsNumber {r : List Char} (h : EndsNumber r) : takeFraction r = [] := by
  unfold takeFraction
  split
  · exact absurd rfl (h '.' rfl).2.1
  · rfl

theorem takeExponent_endsNumber {r : List Char} (h : EndsNumber r) : takeExponent r = none := by
  cases r with
  | nil => rfl
  | cons c r =>
    obtain ⟨-, -, hc⟩ := h c rfl
    rw [← not_or] at hc
    rw [takeExponent.eq_def]
    dsimp only
    rw [if_neg hc]

theorem readNumber_decimal {n : ℤ} (h : Number.isWritable n = true) {r : List Char}
    (hr : EndsNumber r) : readNumber (Number.decimal n ++ r) = .ok (.int n, r) := by
  have hread := Number.readInteger_decimal h
  have hbody : ∀ m : ℕ, (Nat.toDigits 10 m).isEmpty = false := by simp
  cases n with
  | ofNat m =>
    have hsign : ∀ t, Nat.toDigits 10 m ++ r ≠ '-' :: t := by
      intro t ht
      obtain ⟨d, ds, hds, hd⟩ := Number.exists_toDigits m
      rw [hds] at ht
      rw [(List.cons.inj ht).1] at hd
      exact absurd hd (by decide)
    change readNumber (Nat.toDigits 10 m ++ r) = _
    change Number.readInteger (Nat.toDigits 10 m) = _ at hread
    unfold readNumber
    split
    · next heq =>
      split at heq
      · next hminus => exact absurd hminus (hsign _)
      · cases heq
        simp [takeInteger_toDigits m hr, hbody, takeFraction_endsNumber hr,
          takeExponent_endsNumber hr, hread]
  | negSucc m =>
    change readNumber ('-' :: (Nat.toDigits 10 (m + 1) ++ r)) = _
    change Number.readInteger ('-' :: Nat.toDigits 10 (m + 1)) = _ at hread
    simp [readNumber, takeInteger_toDigits (m + 1) hr, hbody, takeFraction_endsNumber hr,
      takeExponent_endsNumber hr, hread]

end Numbers

structure Opens (c : Char) : Prop where
  ne_space : isSpace c = false
  ne_bracket : c ≠ ']'
  ne_mark : c ≠ '\uFEFF'

theorem opens_of_isDigit {c : Char} (h : c.isDigit = true) : Opens c := by
  obtain ⟨h1, h2⟩ := Number.toNat_of_isDigit h
  refine ⟨?_, ?_, ?_⟩
  · simp only [isSpace, Bool.or_eq_false_iff, decide_eq_false_iff_not]
    refine ⟨⟨⟨?_, ?_⟩, ?_⟩, ?_⟩ <;> rintro rfl <;> exact absurd h (by decide)
  · rintro rfl
    exact absurd h (by decide)
  · rintro rfl
    exact absurd h (by decide)

theorem exists_compact {v : Json} (h : FloatFree v) : ∃ c t, compact v = c :: t ∧ Opens c := by
  cases h with
  | null => exact ⟨'n', _, rfl, by decide, by decide, by decide⟩
  | bool b => cases b <;> exact ⟨_, _, rfl, by decide, by decide, by decide⟩
  | int n =>
    obtain ⟨c, t, hc, rfl | hd⟩ := Number.exists_decimal n
    · exact ⟨'-', t, hc, by decide, by decide, by decide⟩
    · exact ⟨c, t, hc, opens_of_isDigit hd⟩
  | str s => exact ⟨'"', _, rfl, by decide, by decide, by decide⟩
  | arr h => exact ⟨'[', _, rfl, by decide, by decide, by decide⟩
  | obj h => exact ⟨'\x7b', _, rfl, by decide, by decide, by decide⟩

theorem skipSpace_of_opens {c : Char} (h : Opens c) (s : List Char) :
    skipSpace (c :: s) = c :: s :=
  dropWhile_eq_self (by simpa using h.ne_space)

theorem literal?_decimal (n : ℤ) (r : List Char) : literal? (Number.decimal n ++ r) = none := by
  cases n with
  | ofNat m =>
    obtain ⟨d, ds, hds, hd⟩ := Number.exists_toDigits m
    change literal? (Nat.toDigits 10 m ++ r) = none
    rw [hds]
    simp [literal?, literals, Number.ne_of_isDigit (d := 'n') hd (by decide),
      Number.ne_of_isDigit (d := 't') hd (by decide),
      Number.ne_of_isDigit (d := 'f') hd (by decide),
      Number.ne_of_isDigit (d := 'N') hd (by decide),
      Number.ne_of_isDigit (d := 'I') hd (by decide),
      Number.ne_of_isDigit (d := '-') hd (by decide)]
  | negSucc m =>
    obtain ⟨d, ds, hds, hd⟩ := Number.exists_toDigits (m + 1)
    change literal? ('-' :: (Nat.toDigits 10 (m + 1) ++ r)) = none
    rw [hds]
    simp [literal?, literals, Number.ne_of_isDigit (d := 'I') hd (by decide)]

section Values

variable {depth : ℕ}

def ReadsBack (depth : ℕ) (v : Json) : Prop :=
  ∀ fuel r, (compact v).length ≤ fuel → Follows r →
    readValue depth fuel (compact v ++ r) = .ok (v, r)

theorem readValue_decimal {n : ℤ} (h : Number.isWritable n = true) (fuel : ℕ) {r : List Char}
    (hr : EndsNumber r) :
    readValue depth (fuel + 1) (Number.decimal n ++ r) = .ok (.int n, r) := by
  have hnumber := readNumber_decimal h hr
  have hliteral := literal?_decimal n r
  obtain ⟨c, t, hc, hhead⟩ := Number.exists_decimal n
  have hne : c ≠ '"' ∧ c ≠ '[' ∧ c ≠ '\x7b' := by
    rcases hhead with rfl | hd
    · decide
    · refine ⟨?_, ?_, ?_⟩ <;> rintro rfl <;> exact absurd hd (by decide)
  rw [hc, List.cons_append] at hnumber hliteral ⊢
  rw [readValue, hliteral]
  · exact hnumber
  · exact fun _ h => hne.1 (List.cons.inj h).1
  · exact fun _ h => hne.2.1 (List.cons.inj h).1
  · exact fun _ h => hne.2.2 (List.cons.inj h).1

theorem skipSpace_compact {v : Json} (h : FloatFree v) (s : List Char) :
    skipSpace (' ' :: (compact v ++ s)) = compact v ++ s := by
  obtain ⟨c, t, hc, hopen⟩ := exists_compact h
  rw [hc]
  exact skipSpace_of_opens hopen _

section Steps

variable {fuel : ℕ} {s r t : List Char} {v : Json}

theorem readItems_of_last (hv : readValue depth fuel s = .ok (v, r))
    (hr : skipSpace r = ']' :: t) : readItems depth (fuel + 1) s = .ok ([v], t) := by
  rw [readItems, hv, ok_bind]
  dsimp only
  rw [hr]
  rfl

theorem readItems_of_more (hv : readValue depth fuel s = .ok (v, r))
    (hr : skipSpace r = ',' :: t) : readItems depth (fuel + 1) s =
      (readItems depth fuel (skipSpace t)).map fun (vs, r) => (v :: vs, r) := by
  rw [readItems, hv, ok_bind]
  dsimp only
  rw [hr]
  rfl

theorem readValue_of_items (h : ∀ r, skipSpace s ≠ ']' :: r) :
    readValue (depth + 1) (fuel + 1) ('[' :: s) =
      (readItems depth fuel (skipSpace s)).map fun (us, r) => (.arr us, r) := by
  rw [readValue, if_neg (Nat.succ_ne_zero depth)]
  split
  · next heq => exact absurd heq (h _)
  · rfl

theorem readValue_of_members (h : ∀ r, skipSpace s ≠ '\x7d' :: r) :
    readValue (depth + 1) (fuel + 1) ('\x7b' :: s) =
      (readMembers depth fuel [] (skipSpace s)).map fun (us, r) => (.obj us, r) := by
  rw [readValue, if_neg (Nat.succ_ne_zero depth)]
  split
  · next heq => exact absurd heq (h _)
  · rfl

variable {k : String} {acc : List (String × Json)}

theorem readMembers_of_last (hv : readValue depth fuel (skipSpace s) = .ok (v, r))
    (hr : skipSpace r = '\x7d' :: t) :
    readMembers depth (fuel + 1) acc (stringText k ++ ':' :: s) = .ok (setMember k v acc, t) := by
  change (readQuoted (stringText k ++ _)).bind _ = _
  rw [readQuoted_stringText, ok_bind]
  change (readValue depth fuel (skipSpace s)).bind _ = _
  rw [hv, ok_bind]
  dsimp only
  rw [hr]
  rfl

theorem readMembers_of_more (hv : readValue depth fuel (skipSpace s) = .ok (v, r))
    (hr : skipSpace r = ',' :: t) : readMembers depth (fuel + 1) acc (stringText k ++ ':' :: s) =
      readMembers depth fuel (setMember k v acc) (skipSpace t) := by
  change (readQuoted (stringText k ++ _)).bind _ = _
  rw [readQuoted_stringText, ok_bind]
  change (readValue depth fuel (skipSpace s)).bind _ = _
  rw [hv, ok_bind]
  dsimp only
  rw [hr]
  rfl

end Steps

theorem readItems_last {v : Json} (hv : ReadsBack depth v) {fuel : ℕ}
    (hfuel : (compact v).length ≤ fuel) (r : List Char) :
    readItems depth (fuel + 1) (compact v ++ ']' :: r) = .ok ([v], r) :=
  readItems_of_last (hv fuel (']' :: r) hfuel (follows_cons (by decide) r)) rfl

theorem readItems_more {v w : Json} (hv : ReadsBack depth v) (hw : FloatFree w) {fuel : ℕ}
    (hfuel : (compact v).length ≤ fuel) (s : List Char) :
    readItems depth (fuel + 1) (compact v ++ ',' :: ' ' :: (compact w ++ s)) =
      (readItems depth fuel (compact w ++ s)).map fun (vs, r) => (v :: vs, r) := by
  rw [readItems_of_more (hv fuel _ hfuel (follows_cons (by decide) _)) rfl, skipSpace_compact hw]

theorem readItems_compact {v : Json} {vs : List Json} (hf : ∀ w ∈ v :: vs, FloatFree w)
    (hv : ∀ w ∈ v :: vs, ReadsBack depth w) {fuel : ℕ}
    (hfuel : (compactItems (v :: vs)).length < fuel) (r : List Char) :
    readItems depth fuel (compactItems (v :: vs) ++ ']' :: r) = .ok (v :: vs, r) := by
  induction vs generalizing v fuel with
  | nil =>
    obtain ⟨fuel, rfl⟩ := Nat.exists_eq_add_one.mpr (Nat.zero_lt_of_lt hfuel)
    have htext : compactItems [v] = compact v := List.append_nil _
    rw [htext] at hfuel ⊢
    exact readItems_last (hv v (by simp)) (by omega) r
  | cons w ws ih =>
    obtain ⟨fuel, rfl⟩ := Nat.exists_eq_add_one.mpr (Nat.zero_lt_of_lt hfuel)
    have htext : compactItems (v :: w :: ws) = compact v ++ ',' :: ' ' :: compactItems (w :: ws) :=
      rfl
    have hmore : compactItems (w :: ws) = compact w ++ compactMoreItems ws := rfl
    rw [htext, List.length_append, List.length_cons, List.length_cons] at hfuel
    have hrest : readItems depth fuel (compactItems (w :: ws) ++ ']' :: r) = .ok (w :: ws, r) :=
      ih (fun u hu => hf u (List.mem_cons_of_mem v hu))
        (fun u hu => hv u (List.mem_cons_of_mem v hu)) (by omega)
    rw [htext, List.append_assoc, List.cons_append, List.cons_append, hmore, List.append_assoc,
      readItems_more (hv v (by simp)) (hf w (by simp)) (by omega), ← List.append_assoc, ← hmore,
      hrest]
    rfl

def memberText (m : String × Json) : List Char :=
  stringText m.1 ++ ':' :: ' ' :: compact m.2

theorem skipSpace_memberText (m : String × Json) (s : List Char) :
    skipSpace (' ' :: (memberText m ++ s)) = memberText m ++ s := by
  have hquote : Opens '"' := ⟨by decide, by decide, by decide⟩
  exact skipSpace_of_opens hquote _

theorem setMember_of_not_mem {k : String} (v : Json) {ms : List (String × Json)}
    (h : k ∉ ms.map (·.1)) : setMember k v ms = ms ++ [(k, v)] := by
  induction ms with
  | nil => rfl
  | cons m ms ih =>
    rw [List.map_cons, List.mem_cons, not_or] at h
    rw [setMember, if_neg (Ne.symm h.1), ih h.2, List.cons_append]

section Members

variable {m : String × Json} (hf : FloatFree m.2) (hv : ReadsBack depth m.2)
  {fuel : ℕ} (hfuel : (memberText m).length ≤ fuel)
  {acc : List (String × Json)} (hnew : m.1 ∉ acc.map (·.1))
include hf hv hfuel hnew

theorem readMembers_last (r : List Char) :
    readMembers depth (fuel + 1) acc (memberText m ++ '\x7d' :: r) = .ok (acc ++ [m], r) := by
  have hlen : (compact m.2).length ≤ fuel := by
    simp only [memberText, List.length_append, List.length_cons] at hfuel
    omega
  have hread : readValue depth fuel (skipSpace (' ' :: (compact m.2 ++ '\x7d' :: r))) =
      .ok (m.2, '\x7d' :: r) := by
    rw [skipSpace_compact hf, hv fuel _ hlen (follows_cons (by decide) r)]
  rw [memberText, List.append_assoc, List.cons_append, List.cons_append,
    readMembers_of_last hread rfl, setMember_of_not_mem m.2 hnew]

theorem readMembers_more (n : String × Json) (s : List Char) :
    readMembers depth (fuel + 1) acc (memberText m ++ ',' :: ' ' :: (memberText n ++ s)) =
      readMembers depth fuel (acc ++ [m]) (memberText n ++ s) := by
  have hlen : (compact m.2).length ≤ fuel := by
    simp only [memberText, List.length_append, List.length_cons] at hfuel
    omega
  have hread : readValue depth fuel (skipSpace (' ' :: (compact m.2 ++ ',' :: ' ' ::
      (memberText n ++ s)))) = .ok (m.2, ',' :: ' ' :: (memberText n ++ s)) := by
    rw [skipSpace_compact hf, hv fuel _ hlen (follows_cons (by decide) _)]
  rw [memberText, List.append_assoc, List.cons_append, List.cons_append,
    readMembers_of_more hread rfl, skipSpace_memberText, setMember_of_not_mem m.2 hnew]

end Members

theorem readMembers_compact {m : String × Json} {ms : List (String × Json)}
    (hf : ∀ w ∈ m :: ms, FloatFree w.2) (hv : ∀ w ∈ m :: ms, ReadsBack depth w.2)
    {acc : List (String × Json)} (names : ((acc ++ m :: ms).map (·.1)).Nodup) {fuel : ℕ}
    (hfuel : (compactMembers (m :: ms)).length < fuel) (r : List Char) :
    readMembers depth fuel acc (compactMembers (m :: ms) ++ '\x7d' :: r) =
      .ok (acc ++ m :: ms, r) := by
  induction ms generalizing m acc fuel with
  | nil =>
    obtain ⟨fuel, rfl⟩ := Nat.exists_eq_add_one.mpr (Nat.zero_lt_of_lt hfuel)
    have htext : compactMembers [m] = memberText m := List.append_nil _
    rw [htext] at hfuel ⊢
    exact readMembers_last (hf m (by simp)) (hv m (by simp)) (by omega) (fst_not_mem names) r
  | cons n ms ih =>
    obtain ⟨fuel, rfl⟩ := Nat.exists_eq_add_one.mpr (Nat.zero_lt_of_lt hfuel)
    have htext : compactMembers (m :: n :: ms) =
        memberText m ++ ',' :: ' ' :: compactMembers (n :: ms) := rfl
    have hmore : compactMembers (n :: ms) = memberText n ++ compactMoreMembers ms := rfl
    rw [htext, List.length_append, List.length_cons, List.length_cons] at hfuel
    have hrest : readMembers depth fuel (acc ++ [m]) (compactMembers (n :: ms) ++ '\x7d' :: r) =
        .ok (acc ++ [m] ++ n :: ms, r) :=
      ih (fun w hw => hf w (List.mem_cons_of_mem m hw))
        (fun w hw => hv w (List.mem_cons_of_mem m hw)) (by rwa [List.append_assoc]) (by omega)
    rw [htext, List.append_assoc, List.cons_append, List.cons_append, hmore, List.append_assoc,
      readMembers_more (hf m (by simp)) (hv m (by simp)) (by omega) (fst_not_mem names),
      ← List.append_assoc, ← hmore, hrest, List.append_assoc]
    rfl

theorem compact_arr_append (items : List Json) (r : List Char) :
    compact (.arr items) ++ r = '[' :: (compactItems items ++ ']' :: r) := by
  simp [compact]

theorem length_compact_arr (items : List Json) :
    (compact (.arr items)).length = (compactItems items).length + 2 := by
  simp [compact]

theorem compact_obj_append (members : List (String × Json)) (r : List Char) :
    compact (.obj members) ++ r = '\x7b' :: (compactMembers members ++ '\x7d' :: r) := by
  simp [compact]

theorem length_compact_obj (members : List (String × Json)) :
    (compact (.obj members)).length = (compactMembers members).length + 2 := by
  simp [compact]

theorem readValue_items {v : Json} (hv : FloatFree v) (vs : List Json) (fuel : ℕ)
    (s : List Char) :
    readValue (depth + 1) (fuel + 1) ('[' :: (compactItems (v :: vs) ++ s)) =
      (readItems depth fuel (compactItems (v :: vs) ++ s)).map fun (us, r) => (.arr us, r) := by
  have hmore : compactItems (v :: vs) = compact v ++ compactMoreItems vs := rfl
  obtain ⟨c, t, hc, hopen⟩ := exists_compact hv
  rw [hmore, hc, List.cons_append, List.cons_append, readValue_of_items, skipSpace_of_opens hopen]
  intro r heq
  rw [skipSpace_of_opens hopen] at heq
  exact hopen.ne_bracket (List.cons.inj heq).1

theorem readValue_members (m : String × Json) (ms : List (String × Json)) (fuel : ℕ)
    (s : List Char) :
    readValue (depth + 1) (fuel + 1) ('\x7b' :: (compactMembers (m :: ms) ++ s)) =
      (readMembers depth fuel [] (compactMembers (m :: ms) ++ s)).map fun (us, r) =>
        (.obj us, r) := by
  rw [readValue, if_neg (Nat.succ_ne_zero depth)]
  rfl

theorem readValue_arr {items : List Json} (hf : ∀ v ∈ items, FloatFree v)
    (hv : ∀ v ∈ items, ReadsBack depth v) : ReadsBack (depth + 1) (.arr items) := by
  intro fuel r hfuel hr
  rw [length_compact_arr] at hfuel
  obtain ⟨fuel, rfl⟩ := Nat.exists_eq_add_one.mpr (by omega : 0 < fuel)
  rw [compact_arr_append]
  cases items with
  | nil => rfl
  | cons v vs =>
    have hread : readItems depth fuel (compactItems (v :: vs) ++ ']' :: r) = .ok (v :: vs, r) :=
      readItems_compact hf hv (by omega) r
    rw [readValue_items (hf v (by simp)), hread]
    rfl

theorem readValue_obj {members : List (String × Json)} (names : (members.map (·.1)).Nodup)
    (hf : ∀ m ∈ members, FloatFree m.2) (hv : ∀ m ∈ members, ReadsBack depth m.2) :
    ReadsBack (depth + 1) (.obj members) := by
  intro fuel r hfuel hr
  rw [length_compact_obj] at hfuel
  obtain ⟨fuel, rfl⟩ := Nat.exists_eq_add_one.mpr (by omega : 0 < fuel)
  rw [compact_obj_append]
  cases members with
  | nil => rfl
  | cons m ms =>
    have hread : readMembers depth fuel [] (compactMembers (m :: ms) ++ '\x7d' :: r) =
        .ok (m :: ms, r) := readMembers_compact hf hv names (by omega) r
    rw [readValue_members, hread]
    rfl

theorem readValue_compact {v : Json} (hv : Within depth v) (hf : FloatFree v) :
    ReadsBack depth v := by
  induction hv with
  | null =>
    intro fuel r hfuel hr
    obtain ⟨fuel, rfl⟩ := Nat.exists_eq_add_one.mpr (Nat.zero_lt_of_lt hfuel)
    rfl
  | bool b =>
    intro fuel r hfuel hr
    cases b <;> obtain ⟨fuel, rfl⟩ := Nat.exists_eq_add_one.mpr (Nat.zero_lt_of_lt hfuel) <;> rfl
  | int h =>
    intro fuel r hfuel hr
    obtain ⟨c, t, hc, -⟩ := Number.exists_decimal _
    rw [compact, hc] at hfuel
    obtain ⟨fuel, rfl⟩ := Nat.exists_eq_add_one.mpr (Nat.zero_lt_of_lt hfuel)
    exact readValue_decimal h fuel hr.endsNumber
  | float x => cases hf
  | str s =>
    intro fuel r hfuel hr
    obtain ⟨fuel, rfl⟩ := Nat.exists_eq_add_one.mpr (Nat.zero_lt_of_lt hfuel)
    change (readQuoted (stringText s ++ r)).map _ = _
    rw [readQuoted_stringText]
    rfl
  | arr h ih =>
    rw [floatFree_arr] at hf
    exact readValue_arr hf fun v hv => ih v hv (hf v hv)
  | obj names h ih =>
    rw [floatFree_obj] at hf
    exact readValue_obj names hf fun m hm => ih m hm (hf m hm)

theorem read_render {v : Json} (hv : Within maxDepth v) (hf : FloatFree v) :
    read v.render = .ok v := by
  have hvalue := readValue_compact hv hf (2 * (compact v).length + 2) [] (by omega) follows_nil
  obtain ⟨c, t, hc, hopen⟩ := exists_compact hf
  rw [read, render, String.toList_ofList]
  rw [List.append_nil, hc] at hvalue
  rw [hc, readText, skipSpace_of_opens hopen, hvalue, ok_bind]
  · rfl
  · exact fun _ h => hopen.ne_mark (List.cons.inj h).1

end Values

end Residency.Json
