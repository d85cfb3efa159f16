import Residency.Proofs.Toml.Assembly
import Residency.Proofs.Toml.Flaws
import Residency.Proofs.Toml.Values
import Residency.Toml.Document

namespace Residency.Toml

structure IsBare (k : String) : Prop where
  ne_nil : k.toList ≠ []
  all : ∀ c ∈ k.toList, isBareChar c = true

inductive ReadsEntry : String × Json → String × Toml → Prop where
  | mk {k : String} {v : Json} {w : Toml} (bare : IsBare k) (value : Reads v w) :
      ReadsEntry (k, v) (k, w)

inductive ReadsSection : String × List (String × Json) → String × Entries → Prop where
  | mk {name : String} {es : List (String × Json)} {fs : Entries} (bare : IsBare name)
      (entries : List.Forall₂ ReadsEntry es fs) (names : (fs.map (·.1)).Nodup) :
      ReadsSection (name, es) (name, fs)

def lineText (e : String × Json) : List Char :=
  e.1.toList ++ ' ' :: '=' :: ' ' :: (inlineText true e.2 ++ ['\n'])

def blockText (s : String × List (String × Json)) : List Char :=
  '[' :: (s.1.toList ++ ']' :: '\n' :: (s.2.flatMap lineText ++ ['\n']))

theorem lineText_ne_nil (e : String × Json) : lineText e ≠ [] := by
  simp [lineText]

theorem blockText_ne_nil (s : String × List (String × Json)) : blockText s ≠ [] :=
  List.cons_ne_nil _ _

def tableEntry (t : String × Entries) : String × Toml :=
  (t.1, .table .header t.2)

def lineOf (f : String × Toml) : Key × Toml :=
  ([f.1], f.2)

def blockOf (t : String × Entries) : Block :=
  ⟨[t.1], false, t.2.map lineOf⟩

variable {es : List (String × Json)} {fs : Entries} {ss : List (String × List (String × Json))}
  {ts : List (String × Entries)}

section Writing

theorem keyText_of_isBare {k : String} (h : IsBare k) : keyText k = k.toList := by
  have hempty : k.toList.isEmpty = false := by simpa using h.ne_nil
  have hall : k.toList.all isBareChar = true := List.all_eq_true.mpr h.all
  rw [keyText, hempty, hall]
  rfl

theorem part_eq {e : String × Json} {f : String × Toml} (h : ReadsEntry e f) (path : List Char) :
    part path e.1 e.2 = ⟨.line, lineText e⟩ := by
  obtain ⟨bare, value⟩ := h
  have hkey := keyText_of_isBare bare
  cases value with
  | str s => simp [part, lineText, assignment, hkey]
  | int hn => simp [part, lineText, assignment, hkey]

theorem assembled_lines {parts : List Part} (h : ∀ p ∈ parts, p.isLine = true) :
    assembled parts = parts.flatMap (·.text) := by
  have hlines : parts.filter Part.isLine = parts := List.filter_eq_self.mpr h
  have hrest : parts.filter (!·.isLine) = [] := by
    rw [List.filter_eq_nil_iff]
    intro p hp
    simp [h p hp]
  simp [assembled, hlines, hrest]

theorem tableText_lines (path : List Char) {parts : List Part}
    (h : ∀ p ∈ parts, p.isLine = true) :
    tableText path parts = '[' :: path ++ ']' :: '\n' :: parts.flatMap (·.text) := by
  have hheader : (!parts.isEmpty && parts.all (!·.isLine)) = false := by
    cases parts with
    | nil => rfl
    | cons p ps => simp [h p (by simp)]
  rw [tableText, hheader, assembled_lines h]
  rfl

theorem map_part_eq (h : List.Forall₂ ReadsEntry es fs) (path : List Char) :
    (es.map fun (k, v) => part path k v) = es.map fun e => ⟨.line, lineText e⟩ := by
  induction h with
  | nil => rfl
  | cons he _ ih => rw [List.map_cons, List.map_cons, ih, ← part_eq he path]

theorem sectionText_eq {s : String × List (String × Json)} {t : String × Entries}
    (h : ReadsSection s t) : sectionText s.1 s.2 ++ ['\n'] = blockText s := by
  obtain ⟨bare, entries, -⟩ := h
  rw [sectionText, map_part_eq entries, keyText_of_isBare bare, tableText_lines]
  · simp [blockText, List.flatMap_map]
  · intro p hp
    obtain ⟨e, -, rfl⟩ := List.mem_map.mp hp
    rfl

theorem Reads.hasPlace {v : Json} {w : Toml} (h : Reads v w) : HasPlace v := by
  cases h with
  | str s => exact .str s
  | int hn => exact .int hn

theorem entriesFlaw?_eq (h : List.Forall₂ ReadsEntry es fs) : entriesFlaw? es = none := by
  rw [entriesFlaw?_eq_none]
  intro e he
  obtain ⟨_, -, -, value⟩ := exists_mem_of_forall₂ h he
  exact value.hasPlace

theorem flatMap_sectionText_eq (h : List.Forall₂ ReadsSection ss ts) :
    (ss.flatMap fun (name, entries) => sectionText name entries ++ ['\n']) =
      ss.flatMap blockText := by
  induction h with
  | nil => rfl
  | cons hs _ ih => rw [List.flatMap_cons, List.flatMap_cons, ← sectionText_eq hs, ih]

theorem document_eq (h : List.Forall₂ ReadsSection ss ts) :
    document ss = .ok (ss.flatMap blockText) := by
  have hflaw : ss.findSome? (fun (_, entries) => entriesFlaw? entries) = none := by
    rw [List.findSome?_eq_none_iff]
    intro s hs
    obtain ⟨_, -, -, entries, -⟩ := exists_mem_of_forall₂ h hs
    exact entriesFlaw?_eq entries
  rw [document, hflaw]
  exact congrArg Except.ok (flatMap_sectionText_eq h)

end Writing

section Names

theorem isBareChar_spec {c : Char} (h : isBareChar c = true) :
    isBlank c = false ∧ isSpace c = false ∧ c ∉ ['"', '\'', '#', '[', '.'] := by
  have hnot : ∀ d, isBareChar d = false → c ≠ d := by
    rintro d hd rfl
    rw [h] at hd
    cases hd
  refine ⟨?_, ?_, ?_⟩
  · simp [isBlank, hnot ' ' (by decide), hnot '\t' (by decide)]
  · simp [isSpace, hnot ' ' (by decide), hnot '\t' (by decide), hnot '\n' (by decide),
      hnot '\r' (by decide)]
  · simp [hnot '"' (by decide), hnot '\'' (by decide), hnot '#' (by decide),
      hnot '[' (by decide), hnot '.' (by decide)]

theorem IsBare.exists_cons {k : String} (h : IsBare k) :
    ∃ c cs, k.toList = c :: cs ∧ isBareChar c = true := by
  obtain ⟨c, cs, hc⟩ := List.exists_cons_of_ne_nil h.ne_nil
  exact ⟨c, cs, hc, h.all c (by simp [hc])⟩

theorem readName_of_isBare {k : String} (h : IsBare k) {d : Char} (hd : isBareChar d = false)
    (r : List Char) : readName (k.toList ++ d :: r) = some (k, (d :: r).dropWhile isBlank) := by
  obtain ⟨c, cs, hc, hbare⟩ := h.exists_cons
  obtain ⟨hblank, -, hquote⟩ := isBareChar_spec hbare
  have hdrop : (k.toList ++ d :: r).dropWhile isBlank = k.toList ++ d :: r :=
    dropWhile_eq_self (by simpa [hc] using hblank)
  have htake : (k.toList ++ d :: r).takeWhile isBareChar = k.toList :=
    takeWhile_append_cons h.all hd r
  have hempty : k.toList.isEmpty = false := by simpa using h.ne_nil
  rw [readName, hdrop]
  dsimp only
  split
  · next heq =>
    rw [hc] at heq
    exact absurd (List.cons.inj heq).1 (by rintro rfl; simp at hquote)
  · next heq =>
    rw [hc] at heq
    exact absurd (List.cons.inj heq).1 (by rintro rfl; simp at hquote)
  · rw [htake, hempty, List.drop_left, String.ofList_toList]
    rfl

theorem readKey_of_isBare {k : String} (h : IsBare k) {d : Char} (hd : isBareChar d = false)
    {r s : List Char} (hs : (d :: r).dropWhile isBlank = s) (hdot : s.head? ≠ some '.') :
    readKey (k.toList ++ d :: r) = some ([k], s) := by
  obtain ⟨most, hmost⟩ := Nat.exists_eq_add_one.mpr (by decide : 0 < maxNames)
  rw [readKey, hmost, readNames, readName_of_isBare h hd, hs, Option.bind_some]
  dsimp only
  split
  · exact absurd rfl hdot
  · rfl

end Names

section Lines

theorem skipSpace_inlineText {v : Json} {w : Toml} (h : Reads v w) (r : List Char) :
    (' ' :: (inlineText true v ++ r)).dropWhile isBlank = inlineText true v ++ r := by
  have hhead : ∃ c cs, inlineText true v = c :: cs ∧ isBlank c = false := by
    cases h with
    | str s => exact ⟨'"', _, rfl, by decide⟩
    | @int n hn =>
      obtain ⟨c, cs, hc, rfl | hd⟩ := Number.exists_decimal n
      · exact ⟨'-', cs, hc, by decide⟩
      · have hblank := Ne.symm (Number.ne_of_isDigit hd (d := ' ') (by decide))
        have htab := Ne.symm (Number.ne_of_isDigit hd (d := '\t') (by decide))
        exact ⟨c, cs, hc, by simp [isBlank, hblank, htab]⟩
  obtain ⟨c, cs, hc, hblank⟩ := hhead
  rw [List.dropWhile_cons_of_pos (by decide)]
  exact dropWhile_eq_self (by simpa [hc] using hblank)

variable {k : String} {v : Toml} {s r : List Char}

theorem readLine_of_readValue (bare : IsBare k) (hblank : s.dropWhile isBlank = s)
    (hvalue : readValue maxDepth s = some (v, '\n' :: r)) :
    readLine (k.toList ++ ' ' :: '=' :: ' ' :: s) = some (([k], v), r) := by
  have hkey := readKey_of_isBare bare (d := ' ') (by decide) (r := '=' :: ' ' :: s)
    (s := '=' :: ' ' :: s) rfl (by simp)
  rw [readLine, hkey, Option.bind_some]
  change ((some ((' ' :: s).dropWhile isBlank)).bind _) = _
  rw [List.dropWhile_cons_of_pos (by decide), hblank, Option.bind_some, hvalue, Option.bind_some]
  rfl

theorem readLine_lineText {e : String × Json} {f : String × Toml} (h : ReadsEntry e f)
    (r : List Char) : readLine (lineText e ++ r) = some (lineOf f, r) := by
  obtain @⟨k, v, w, bare, value⟩ := h
  have htext : lineText (k, v) ++ r =
      k.toList ++ ' ' :: '=' :: ' ' :: (inlineText true v ++ '\n' :: r) := by
    simp [lineText]
  have hblank := skipSpace_inlineText value ('\n' :: r)
  rw [List.dropWhile_cons_of_pos (by decide)] at hblank
  rw [htext]
  exact readLine_of_readValue bare hblank (readValue_inlineText value maxDepth r)

def Ends (s : List Char) : Prop :=
  ∀ c ∈ s.head?, c = '['

theorem skipFiller_of_head {c : Char} (hspace : isSpace c = false) (hhash : c ≠ '#') (fuel : ℕ)
    (s : List Char) : skipFiller fuel (c :: s) = some (c :: s) := by
  have hdrop : (c :: s).dropWhile isSpace = c :: s := dropWhile_eq_self (by simpa using hspace)
  cases fuel with
  | zero => rfl
  | succ fuel =>
    rw [skipFiller, hdrop]
    split
    · next heq => exact absurd (List.cons.inj heq).1 hhash
    · rfl

theorem skipFiller_of_ends {s : List Char} (h : Ends s) (fuel : ℕ) :
    skipFiller fuel s = some s := by
  cases s with
  | nil => cases fuel <;> rfl
  | cons c s =>
    obtain rfl := h c rfl
    exact skipFiller_of_head (by decide) (by decide) fuel s

theorem skipFiller_lineFeed {s : List Char} (h : Ends s) (fuel : ℕ) :
    skipFiller (fuel + 1) ('\n' :: s) = some s := by
  have hskip := skipFiller_of_ends h (fuel + 1)
  rw [skipFiller] at hskip ⊢
  rwa [List.dropWhile_cons_of_pos (by decide)]

theorem readLines_of_ends {s r : List Char} (h : Ends r) (hs : skipFiller s.length s = some r)
    (fuel : ℕ) : readLines (fuel + 1) s = some ([], r) := by
  have hstop : (r.isEmpty || decide (r.head? = some '[')) = true := by
    cases r with
    | nil => rfl
    | cons c r =>
      obtain rfl := h c rfl
      rfl
  rw [readLines, hs, Option.bind_some, hstop]
  rfl

theorem readLines_of_readLine (bare : IsBare k) {key : Key}
    (hline : readLine (k.toList ++ s) = some ((key, v), r)) (fuel : ℕ) :
    readLines (fuel + 1) (k.toList ++ s) =
      (readLines fuel r).map fun (lines, r) => ((key, v) :: lines, r) := by
  obtain ⟨c, cs, hc, hbare⟩ := bare.exists_cons
  obtain ⟨-, hspace, hnot⟩ := isBareChar_spec hbare
  have hhash : c ≠ '#' := by
    rintro rfl
    simp at hnot
  have hopen : c ≠ '[' := by
    rintro rfl
    simp at hnot
  rw [hc, List.cons_append] at hline ⊢
  have hgo : ((c :: (cs ++ s)).isEmpty || decide ((c :: (cs ++ s)).head? = some '[')) = false := by
    simp [hopen]
  rw [readLines, skipFiller_of_head hspace hhash, Option.bind_some, hgo, hline]
  rfl

theorem readLines_lineText {e : String × Json} {f : String × Toml} (h : ReadsEntry e f)
    (fuel : ℕ) (r : List Char) :
    readLines (fuel + 1) (lineText e ++ r) =
      (readLines fuel r).map fun (lines, r) => (lineOf f :: lines, r) := by
  have hline := readLine_lineText h r
  obtain ⟨bare, -⟩ := h
  rw [lineText, List.append_assoc] at hline ⊢
  exact readLines_of_readLine bare hline fuel

theorem readLines_lines (h : List.Forall₂ ReadsEntry es fs) {r : List Char} (hr : Ends r)
    {fuel : ℕ} (hfuel : es.length < fuel) :
    readLines fuel (es.flatMap lineText ++ '\n' :: r) = some (fs.map lineOf, r) := by
  induction h generalizing fuel with
  | nil =>
    obtain ⟨fuel, rfl⟩ := Nat.exists_eq_add_one.mpr hfuel
    exact readLines_of_ends hr (skipFiller_lineFeed hr _) fuel
  | cons he _ ih =>
    rw [List.length_cons] at hfuel
    obtain ⟨fuel, rfl⟩ := Nat.exists_eq_add_one.mpr (Nat.zero_lt_of_lt hfuel)
    rw [List.flatMap_cons, List.append_assoc, readLines_lineText he, ih (by omega)]
    rfl

end Lines

section Blocks

theorem readHeader_of_isBare {name : String} (h : IsBare name) (r : List Char) :
    readHeader ('[' :: (name.toList ++ ']' :: '\n' :: r)) = some (([name], false), r) := by
  have hkey := readKey_of_isBare h (d := ']') (by decide) (r := '\n' :: r)
    (s := ']' :: '\n' :: r) rfl (by simp)
  have hopen : (name.toList ++ ']' :: '\n' :: r).head? ≠ some '[' := by
    obtain ⟨c, cs, hc, hbare⟩ := h.exists_cons
    rw [hc, List.cons_append, List.head?_cons]
    rintro heq
    cases heq
    exact absurd hbare (by decide)
  simp only [readHeader, List.tail_cons, hopen, decide_false, if_false]
  rw [hkey, Option.bind_some]
  rfl

theorem ends_flatMap_blockText (ss : List (String × List (String × Json))) :
    Ends (ss.flatMap blockText) := by
  cases ss with
  | nil => simp [Ends]
  | cons s ss => simp [Ends, blockText]

theorem readBlocks_blocks (h : List.Forall₂ ReadsSection ss ts) {fuel : ℕ}
    (hfuel : ss.length < fuel) :
    readBlocks fuel (ss.flatMap blockText) = some (ts.map blockOf) := by
  induction h generalizing fuel with
  | nil =>
    obtain ⟨fuel, rfl⟩ := Nat.exists_eq_add_one.mpr hfuel
    rfl
  | @cons s t ss ts hs _ ih =>
    rw [List.length_cons] at hfuel
    obtain ⟨fuel, rfl⟩ := Nat.exists_eq_add_one.mpr (Nat.zero_lt_of_lt hfuel)
    obtain @⟨name, es, fs, bare, entries, -⟩ := hs
    have htext : ((name, es) :: ss).flatMap blockText =
        '[' :: (name.toList ++ ']' :: '\n' ::
          (es.flatMap lineText ++ '\n' :: ss.flatMap blockText)) := by
      simp [blockText]
    have hlen : es.length < (es.flatMap lineText ++ '\n' :: ss.flatMap blockText).length + 1 := by
      have := length_le_flatMap lineText_ne_nil es
      rw [List.length_append]
      omega
    rw [htext, readBlocks]
    simp only [List.isEmpty_cons, Bool.false_eq_true, if_false]
    rw [readHeader_of_isBare bare, Option.bind_some]
    dsimp only
    rw [readLines_lines entries (ends_flatMap_blockText ss) hlen, Option.bind_some]
    dsimp only
    rw [ih (by omega)]
    rfl

end Blocks

section Assembly

variable {before : Entries}

theorem addLines_cons {f : String × Toml} (hnew : f.1 ∉ before.map (·.1))
    (lines : List (Key × Toml)) :
    addLines before (lineOf f :: lines) = addLines (before ++ [f]) lines := by
  have hadd : addLine before [f.1] f.2 = some (before ++ [f]) := addEntry_of_not_mem hnew true f.2
  have hjoin : isJoinable f.1 (before ++ [f]) = true := isJoinable_append_of_not_mem hnew f.2
  have hstep : addLines before (lineOf f :: lines) =
      ((addLine before [f.1] f.2).filter fun es => isJoinable f.1 es).bind
        fun es => addLines es lines := rfl
  rw [hstep, hadd, Option.filter_some, if_pos hjoin, Option.bind_some]

theorem addLines_lines (fs : Entries) (names : ((before ++ fs).map (·.1)).Nodup) :
    addLines before (fs.map lineOf) = some (before ++ fs) := by
  induction fs generalizing before with
  | nil => simp [addLines]
  | cons f fs ih =>
    rw [List.map_cons, addLines_cons (fst_not_mem names), ih (by rwa [List.append_assoc]),
      List.append_assoc]
    rfl

theorem isBelow_blockOf (t u : String × Entries) : Block.isBelow [t.1] (blockOf u) = false := by
  by_cases h : u.1 = t.1
  · simp [Block.isBelow, blockOf, h]
  · have hne : (t.1 == u.1) = false := by simpa using Ne.symm h
    rw [Block.isBelow, blockOf, List.isPrefixOf_cons_cons, hne, Bool.false_and, Bool.and_false]

theorem takeWhile_isBelow (t : String × Entries) (ts : List (String × Entries)) :
    (ts.map blockOf).takeWhile (Block.isBelow [t.1]) = [] := by
  cases ts with
  | nil => rfl
  | cons u ts => rw [List.map_cons, List.takeWhile_cons, isBelow_blockOf]; rfl

theorem dropWhile_isBelow (t : String × Entries) (ts : List (String × Entries)) :
    (ts.map blockOf).dropWhile (Block.isBelow [t.1]) = ts.map blockOf := by
  cases ts with
  | nil => rfl
  | cons u ts => rw [List.map_cons, List.dropWhile_cons, isBelow_blockOf]; rfl

theorem addBlocks_cons {t : String × Entries} (own : (t.2.map (·.1)).Nodup)
    (hnew : t.1 ∉ before.map (·.1)) (ts : List (String × Entries)) :
    addBlocks 0 before (blockOf t :: ts.map blockOf) =
      addBlocks 0 (before ++ [tableEntry t]) (ts.map blockOf) := by
  have hlines : addLines [] (t.2.map lineOf) = some ([] ++ t.2) := addLines_lines t.2 own
  have hentry : (blockOf t).entry 0 t.2 = some (tableEntry t) := rfl
  have hadd : addEntry assemblyFuel true before (tableEntry t) = some (before ++ [tableEntry t]) :=
    addEntry_of_not_mem hnew true (.table .header t.2)
  rw [addBlocks]
  change (addLines [] (t.2.map lineOf)).bind _ = _
  rw [hlines, Option.bind_some]
  change (addBlocks 1 t.2 ((ts.map blockOf).takeWhile (Block.isBelow [t.1]))).bind _ = _
  rw [takeWhile_isBelow, addBlocks, Option.bind_some, isConsistent_of_nodup own]
  simp only [Bool.not_true, Bool.false_eq_true, if_false]
  rw [hentry, Option.bind_some]
  change ((addEntry assemblyFuel true before (tableEntry t)).filter fun _ => true).bind _ = _
  rw [hadd, Option.filter_some, if_pos rfl, Option.bind_some]
  change addBlocks 0 (before ++ [tableEntry t])
    ((ts.map blockOf).dropWhile (Block.isBelow [t.1])) = _
  rw [dropWhile_isBelow]

theorem addBlocks_blocks (own : ∀ t ∈ ts, (t.2.map (·.1)).Nodup)
    (names : ((before ++ ts.map tableEntry).map (·.1)).Nodup) :
    addBlocks 0 before (ts.map blockOf) = some (before ++ ts.map tableEntry) := by
  induction ts generalizing before with
  | nil => rw [List.map_nil, List.map_nil, List.append_nil, addBlocks]
  | cons t ts ih =>
    rw [List.map_cons] at names
    rw [List.map_cons, addBlocks_cons (own t (by simp)) (fst_not_mem names),
      ih (fun u hu => own u (by simp [hu])) (by rwa [List.append_assoc]), List.append_assoc]
    rfl

end Assembly

theorem nodup_of_readsSection (h : List.Forall₂ ReadsSection ss ts) :
    ∀ t ∈ ts, (t.2.map (·.1)).Nodup := by
  induction h with
  | nil => simp
  | cons hs _ ih =>
    obtain ⟨-, -, own⟩ := hs
    exact List.forall_mem_cons.mpr ⟨own, ih⟩

theorem readDocument_of_ends {s : List Char} (h : Ends s) {blocks : List Block}
    (hblocks : readBlocks (s.length + 1) s = some blocks) :
    readDocument s = addBlocks 0 [] blocks := by
  rw [readDocument, readLines_of_ends h (skipFiller_of_ends h _), Option.bind_some]
  change (readBlocks _ _).bind _ = _
  rw [hblocks]
  rfl

theorem readDocument_blocks (h : List.Forall₂ ReadsSection ss ts)
    (names : (ts.map (·.1)).Nodup) :
    readDocument (ss.flatMap blockText) = some (ts.map tableEntry) := by
  have hblocks := readBlocks_blocks h (Nat.lt_succ_of_le (length_le_flatMap blockText_ne_nil ss))
  have htables : addBlocks 0 [] (ts.map blockOf) = some ([] ++ ts.map tableEntry) :=
    addBlocks_blocks (nodup_of_readsSection h) (by rwa [List.nil_append, List.map_map])
  exact (readDocument_of_ends (ends_flatMap_blockText ss) hblocks).trans htables

theorem readDocument_section {name k : String} {s : List Char} {v : Toml} (hname : IsBare name)
    (hk : IsBare k) (hblank : s.dropWhile isBlank = s)
    (hvalue : readValue maxDepth s = some (v, ['\n'])) :
    readDocument ('[' :: (name.toList ++ ']' :: '\n' :: (k.toList ++ ' ' :: '=' :: ' ' :: s))) =
      some [tableEntry (name, [(k, v)])] := by
  have hline := readLine_of_readValue hk hblank hvalue
  have hlines : readLines ((k.toList ++ ' ' :: '=' :: ' ' :: s).length + 1)
      (k.toList ++ ' ' :: '=' :: ' ' :: s) = some ([([k], v)], []) := by
    obtain ⟨m, hm⟩ : ∃ m, (k.toList ++ ' ' :: '=' :: ' ' :: s).length = m + 1 :=
      Nat.exists_eq_add_one.mpr (by simp)
    rw [readLines_of_readLine hk hline, hm, readLines_of_ends (by simp [Ends]) rfl]
    rfl
  have hadd : addBlocks 0 [] ([(name, [(k, v)])].map blockOf) =
      some ([] ++ [(name, [(k, v)])].map tableEntry) := addBlocks_blocks (by simp) (by simp)
  refine (readDocument_of_ends (by simp [Ends]) ?_).trans hadd
  rw [readBlocks]
  simp only [List.isEmpty_cons, Bool.false_eq_true, if_false]
  rw [readHeader_of_isBare hname, Option.bind_some]
  dsimp only
  rw [hlines]
  rfl

theorem readDocument_lineText {e : String × Json} {f : String × Toml} (h : ReadsEntry e f) :
    readDocument (lineText e) = some [f] := by
  have hlines := readLines_lineText h (lineText e).length []
  obtain ⟨m, hm⟩ : ∃ m, (lineText e).length = m + 1 :=
    Nat.exists_eq_add_one.mpr (List.length_pos_iff.mpr (lineText_ne_nil e))
  have hend : readLines (m + 1) [] = some ([], []) := readLines_of_ends (by simp [Ends]) rfl m
  rw [List.append_nil, hm, hend, ← hm] at hlines
  have hadd : addLine [] [f.1] f.2 = some ([] ++ [f]) :=
    have hnew : f.1 ∉ ([] : Entries).map (·.1) := List.not_mem_nil
    addEntry_of_not_mem hnew true f.2
  rw [readDocument, hlines, Option.map_some, Option.bind_some]
  change ((addLine [] [f.1] f.2).bind some).bind _ = _
  rw [hadd, Option.bind_some, Option.bind_some]
  change (readBlocks 1 []).bind (addBlocks 0 [f]) = _
  rw [readBlocks]
  exact addBlocks.eq_1 0 [f]

section LineEnds

theorem carriageReturn_not_mem_escapeChar (c : Char) : '\r' ∉ escapeChar c := by
  have hhex : ∀ n < 0x80, '\r' ∉ '\\' :: 'u' :: Text.hex 4 n := by decide
  rw [escapeChar]
  split_ifs with hquote hbackslash hbackspace htab hfeed hform hreturn hcontrol
  · decide
  · decide
  · decide
  · decide
  · decide
  · decide
  · decide
  · exact hhex c.toNat (by omega)
  · simpa using Ne.symm hreturn

theorem carriageReturn_not_mem_inlineText {v : Json} {w : Toml} (h : Reads v w) :
    '\r' ∉ inlineText true v := by
  cases h with
  | str s =>
    change '\r' ∉ '"' :: s.toList.flatMap escapeChar ++ ['"']
    simp [carriageReturn_not_mem_escapeChar]
  | @int n _ =>
    intro hmem
    have hends := endsRun_of_decimal '\r' (n := n) hmem
    exact absurd hends (by decide)

theorem carriageReturn_not_mem_name {k : String} (h : IsBare k) : '\r' ∉ k.toList :=
  fun hmem => absurd (h.all '\r' hmem) (by decide)

theorem carriageReturn_not_mem_lines (h : List.Forall₂ ReadsEntry es fs) :
    '\r' ∉ es.flatMap lineText := by
  induction h with
  | nil => simp
  | cons he _ ih =>
    obtain ⟨bare, value⟩ := he
    simp [lineText, carriageReturn_not_mem_name bare, carriageReturn_not_mem_inlineText value, ih]

theorem carriageReturn_not_mem_blocks (h : List.Forall₂ ReadsSection ss ts) :
    '\r' ∉ ss.flatMap blockText := by
  induction h with
  | nil => simp
  | cons hs _ ih =>
    obtain ⟨bare, entries, -⟩ := hs
    simp [blockText, carriageReturn_not_mem_name bare, carriageReturn_not_mem_lines entries, ih]

end LineEnds

end Residency.Toml
