import Mathlib.Data.List.TakeWhile
import Residency.Console.Markup
import Residency.Proofs.Lists
import Residency.Proofs.Outcomes

namespace Residency.Console

def Style.IsReadable (style : List Char) : Prop :=
  ∃ found, Style.read style = .ok found

def Style.isSettled (s : List Char) : Bool :=
  (Style.normalize s).toOption.any fun style => (Style.read style).toOption.isSome

theorem Style.exists_normalize {s : List Char} (h : Style.isSettled s = true) :
    ∃ style, Style.normalize s = .ok style ∧ Style.IsReadable style := by
  unfold Style.isSettled at h
  cases hstyle : Style.normalize s with
  | error e =>
    rw [hstyle] at h
    cases h
  | ok style =>
    rw [hstyle] at h
    obtain ⟨found, hfound⟩ := Option.isSome_iff_exists.mp h
    exact ⟨style, rfl, found, toOption_eq_some.mp hfound⟩

namespace Markup

inductive Part where
  | text (s : List Char)
  | tag (body : List Char)
  | literal (body : List Char)

def Part.chars : Part → List Char
  | .text s => s
  | .tag body => '[' :: body ++ [']']
  | .literal body => '\\' :: '[' :: body ++ [']']

def textOf (parts : List Part) : List Char :=
  parts.flatMap Part.chars

def IsPlain (s : List Char) : Prop :=
  ∀ c ∈ s, c ≠ '[' ∧ c ≠ '\\'

instance (s : List Char) : Decidable (IsPlain s) :=
  inferInstanceAs (Decidable (∀ c ∈ s, c ≠ '[' ∧ c ≠ '\\'))

inductive IsBody : List Char → Prop where
  | mk {c : Char} {more : List Char} (begins : beginsTag c = true) (opening : '[' ∉ more)
      (closing : ']' ∉ more) : IsBody (c :: more)

theorem IsBody.not_mem {body : List Char} (h : IsBody body) : '[' ∉ body ∧ ']' ∉ body := by
  obtain ⟨begins, opening, closing⟩ := h
  constructor
  · refine List.not_mem_cons_of_ne_of_not_mem ?_ opening
    rintro rfl
    cases begins
  · refine List.not_mem_cons_of_ne_of_not_mem ?_ closing
    rintro rfl
    cases begins

theorem isBody_slash : IsBody ['/'] :=
  .mk rfl List.not_mem_nil List.not_mem_nil

structure IsStyle (body : List Char) : Prop where
  shape : IsBody body
  slash : ∀ closed, body ≠ '/' :: closed
  equals : '=' ∉ body
  settled : Style.isSettled body = true

inductive Balanced : ℕ → List Part → Prop where
  | nil (n : ℕ) : Balanced n []
  | text {n : ℕ} {s : List Char} {rest : List Part} (plain : IsPlain s) (h : Balanced n rest) :
      Balanced n (.text s :: rest)
  | literal {n : ℕ} {body : List Char} {rest : List Part} (shape : IsBody body)
      (h : Balanced n rest) : Balanced n (.literal body :: rest)
  | opening {n : ℕ} {body : List Char} {rest : List Part} (style : IsStyle body)
      (h : Balanced (n + 1) rest) : Balanced n (.tag body :: rest)
  | closing {n : ℕ} {rest : List Part} (h : Balanced n rest) :
      Balanced (n + 1) (.tag ['/'] :: rest)

inductive Leads : ℕ → List Part → ℕ → Prop where
  | nil (n : ℕ) : Leads n [] n
  | text {n k : ℕ} {s : List Char} {rest : List Part} (plain : IsPlain s) (h : Leads n rest k) :
      Leads n (.text s :: rest) k
  | literal {n k : ℕ} {body : List Char} {rest : List Part} (shape : IsBody body)
      (h : Leads n rest k) : Leads n (.literal body :: rest) k
  | opening {n k : ℕ} {body : List Char} {rest : List Part} (style : IsStyle body)
      (h : Leads (n + 1) rest k) : Leads n (.tag body :: rest) k
  | closing {n k : ℕ} {rest : List Part} (h : Leads n rest k) :
      Leads (n + 1) (.tag ['/'] :: rest) k

theorem Balanced.leads {n : ℕ} {parts : List Part} (h : Balanced n parts) :
    ∃ k, Leads n parts k := by
  induction h with
  | nil n => exact ⟨n, .nil n⟩
  | text plain _ ih =>
    obtain ⟨k, hk⟩ := ih
    exact ⟨k, .text plain hk⟩
  | literal shape _ ih =>
    obtain ⟨k, hk⟩ := ih
    exact ⟨k, .literal shape hk⟩
  | opening style _ ih =>
    obtain ⟨k, hk⟩ := ih
    exact ⟨k, .opening style hk⟩
  | closing _ ih =>
    obtain ⟨k, hk⟩ := ih
    exact ⟨k, .closing hk⟩

def committed (run : List Char) : List Part → List Char × List Char
  | [] => ([], run)
  | .text s :: rest => committed (s.reverse ++ run) rest
  | .tag _ :: rest =>
      (plainText run.reverse ++ (committed [] rest).1, (committed [] rest).2)
  | .literal body :: rest =>
      (plainText run.reverse ++ plainText ('[' :: body ++ [']']) ++ (committed [] rest).1,
        (committed [] rest).2)

section Pieces

variable (position : ℕ) (run : List Char)

theorem tagBody?_eq_some {body : List Char} (h : IsBody body) (s : List Char) :
    tagBody? ('[' :: (body ++ ']' :: s)) = some body := by
  obtain ⟨begins, opening, closing⟩ := h
  rename_i c more
  have hmore : (more ++ ']' :: s).takeWhile (· ≠ ']') = more := by
    refine takeWhile_append_cons ?_ (by simp) s
    intro d hd
    rw [decide_eq_true_eq]
    rintro rfl
    exact closing hd
  rw [List.cons_append, tagBody?, hmore, begins, if_pos]
  simp [opening]

theorem pieces_skip (p s : List Char) :
    pieces position run p.length (p ++ s) = pieces (position + p.length) run 0 s := by
  induction p generalizing position with
  | nil => rfl
  | cons c p ih =>
    rw [List.length_cons, List.cons_append, pieces, ih]
    congr 1
    omega

theorem exists_of_tagBody? {s body : List Char} (h : tagBody? s = some body) :
    IsBody body ∧ ∃ t, s = '[' :: (body ++ ']' :: t) := by
  unfold tagBody? at h
  split at h
  · next c s =>
    dsimp only at h
    split_ifs at h with hcond
    cases h
    rw [Bool.and_eq_true, Bool.and_eq_true, Bool.not_eq_true', decide_eq_true_eq] at hcond
    obtain ⟨⟨begins, opening⟩, hlength⟩ := hcond
    have hrest : s.dropWhile (· ≠ ']') ≠ [] := by
      intro hnil
      have happend := List.takeWhile_append_dropWhile (p := (· ≠ ']')) (l := s)
      rw [hnil, List.append_nil] at happend
      rw [happend] at hlength
      exact lt_irrefl _ hlength
    have hfirst := List.head_dropWhile_not _ hrest
    obtain ⟨d, t, hdrop⟩ := List.exists_cons_of_ne_nil hrest
    simp only [hdrop, List.head_cons] at hfirst
    obtain rfl : d = ']' := by simpa using hfirst
    refine ⟨.mk begins ?_ ?_, t, ?_⟩
    · simpa using opening
    · intro hmem
      simpa using List.mem_takeWhile_imp hmem
    · rw [List.cons_append, ← hdrop, List.takeWhile_append_dropWhile]
  · cases h

theorem pieces_unmarked {c : Char} {s : List Char}
    (h : tagBody? ((c :: s).dropWhile (· = '\\')) = none) :
    pieces position run 0 (c :: s) = pieces (position + 1) (c :: run) 0 s := by
  rw [← drop_length_takeWhile] at h
  simp only [pieces, h]

theorem pieces_cons {c : Char} (hbracket : c ≠ '[') (hslash : c ≠ '\\') (s : List Char) :
    pieces position run 0 (c :: s) = pieces (position + 1) (c :: run) 0 s := by
  apply pieces_unmarked
  rw [List.dropWhile_cons_of_neg (by simpa using hslash), tagBody?.eq_def]
  split
  · next heq => exact absurd (List.cons.inj heq).1 hbracket
  · rfl

theorem pieces_plain {p : List Char} (h : IsPlain p) (s : List Char) :
    pieces position run 0 (p ++ s) = pieces (position + p.length) (p.reverse ++ run) 0 s := by
  induction p generalizing position run with
  | nil => rfl
  | cons c p ih =>
    obtain ⟨hbracket, hslash⟩ := h c (by simp)
    rw [List.cons_append, pieces_cons position run hbracket hslash,
      ih _ _ fun d hd => h d (by simp [hd]), List.length_cons, List.reverse_cons,
      List.append_assoc, Nat.add_assoc, Nat.add_comm 1]
    rfl

def mark (slashes position : ℕ) (body : List Char) : Piece :=
  if slashes % 2 = 1 then .text ('[' :: body ++ [']']) else .tag position body

theorem takeWhile_slashes (slashes : ℕ) (s : List Char) :
    (List.replicate slashes '\\' ++ '[' :: s).takeWhile (· = '\\') =
      List.replicate slashes '\\' := by
  refine takeWhile_append_cons ?_ (by decide) s
  intro c hc
  rw [List.eq_of_mem_replicate hc]
  decide

theorem pieces_mark {body : List Char} (h : IsBody body) (slashes : ℕ) (s : List Char) :
    ∃ next, pieces position run 0 (List.replicate slashes '\\' ++ '[' :: (body ++ ']' :: s)) =
      flush run (flush (List.replicate (slashes / 2) '\\')
        (mark slashes (position + slashes) body :: pieces next [] 0 s)) := by
  obtain ⟨c, tag, htag⟩ := List.exists_cons_of_ne_nil (l := List.replicate slashes '\\' ++
    '[' :: (body ++ [']'])) (by simp)
  have hlength : tag.length = slashes + body.length + 1 := by
    have := congrArg List.length htag
    simp only [List.length_append, List.length_replicate, List.length_cons, List.length_nil] at this
    omega
  have htext : List.replicate slashes '\\' ++ '[' :: (body ++ ']' :: s) = c :: (tag ++ s) := by
    simpa using congrArg (· ++ s) htag
  have htake := takeWhile_slashes slashes (body ++ ']' :: s)
  have hdrop : (List.replicate slashes '\\' ++ '[' :: (body ++ ']' :: s)).drop slashes =
      '[' :: (body ++ ']' :: s) :=
    List.drop_left' List.length_replicate
  rw [htext] at htake hdrop
  have hskip := pieces_skip (position + 1) [] tag s
  rw [hlength] at hskip
  refine ⟨position + 1 + (slashes + body.length + 1), ?_⟩
  rw [htext]
  simp only [pieces, htake, List.length_replicate, hdrop, tagBody?_eq_some h, hskip]
  rfl

theorem pieces_tag {body : List Char} (h : IsBody body) (s : List Char) :
    ∃ next, pieces position run 0 ('[' :: (body ++ ']' :: s)) =
      flush run (.tag position body :: pieces next [] 0 s) :=
  pieces_mark position run h 0 s

theorem pieces_literal {body : List Char} (h : IsBody body) (s : List Char) :
    ∃ next, pieces position run 0 ('\\' :: '[' :: (body ++ ']' :: s)) =
      flush run (.text ('[' :: body ++ [']']) :: pieces next [] 0 s) :=
  pieces_mark position run h 1 s

end Pieces

structure Sound (n : ℕ) (r : Rendering) : Prop where
  length : n ≤ r.opened.length
  opened : ∀ t ∈ r.opened, t.parameters = none ∧ Style.IsReadable t.name
  spans : ∀ s ∈ r.spans, Style.IsReadable s.style

section Rendering

variable {n : ℕ} {r : Rendering}

theorem foldlM_flush (run : List Char) (rest : List Piece) (r : Rendering) :
    (flush run rest).foldlM Rendering.add r =
      rest.foldlM Rendering.add { r with text := r.text ++ plainText run.reverse } := by
  unfold flush
  split_ifs with hrun
  · rw [List.isEmpty_iff.mp hrun]
    change _ = List.foldlM _ { r with text := r.text ++ [] } rest
    rw [List.append_nil]
  · rfl

theorem Sound.addText (h : Sound n r) (text : List Char) : Sound n { r with text := text } :=
  ⟨h.length, h.opened, h.spans⟩

theorem match_slash {α : Type} (body : List Char) (f : List Char → α) (x : α) :
    (∀ closed, body ≠ '/' :: closed) →
      (match body with
        | '/' :: closed => f closed
        | _ => x) = x := by
  intro h
  split
  · next closed => exact absurd rfl (h closed)
  · rfl

theorem Sound.opening (h : Sound n r) {body : List Char} (hstyle : IsStyle body) (position : ℕ) :
    ∃ r', r.addTag position body = .ok r' ∧ Sound (n + 1) r' := by
  obtain ⟨style, hnormal, hreadable⟩ := Style.exists_normalize hstyle.settled
  have hname : body.takeWhile (· ≠ '=') = body := by
    rw [List.takeWhile_eq_self_iff]
    intro c hc
    rw [decide_eq_true_eq]
    rintro rfl
    exact hstyle.equals hc
  refine ⟨{ r with opened := ⟨r.text.length, style, none⟩ :: r.opened }, ?_, ?_⟩
  · unfold Rendering.addTag
    rw [hname]
    refine (match_slash body _ _ hstyle.slash).trans ?_
    rw [hnormal, ok_mapError]
    change Except.ok _ = _
    rw [if_pos rfl]
  · refine ⟨Nat.succ_le_succ h.length, ?_, h.spans⟩
    rw [List.forall_mem_cons]
    exact ⟨⟨rfl, hreadable⟩, h.opened⟩

theorem Sound.closing (h : Sound (n + 1) r) (position : ℕ) :
    ∃ r', r.addTag position ['/'] = .ok r' ∧ Sound n r' := by
  obtain ⟨t, opened, hopened⟩ := List.exists_cons_of_length_pos (Nat.zero_lt_of_lt h.length)
  obtain ⟨hparameters, hreadable⟩ := h.opened t (by simp [hopened])
  have hflaw : t.flaw? = none := by rw [OpenTag.flaw?, hparameters]
  have hstyle : t.style = t.name := by rw [OpenTag.style, hparameters, List.append_nil]
  have hadd : r.addTag position ['/'] = r.close t opened := by
    cases r
    cases hopened
    rfl
  have hlength := h.length
  rw [hopened, List.length_cons] at hlength
  refine ⟨_, by rw [hadd, Rendering.close, hflaw], Nat.le_of_succ_le_succ hlength, ?_, ?_⟩
  · exact fun other ho => h.opened other (by simp [hopened, ho])
  · dsimp only
    split_ifs
    · exact h.spans
    · rw [List.forall_mem_append]
      refine ⟨h.spans, ?_⟩
      rw [List.forall_mem_singleton, hstyle]
      exact hreadable

theorem text_of_close {t : OpenTag} {opened : List OpenTag} {r' : Rendering}
    (h : r.close t opened = .ok r') : r'.text = r.text := by
  unfold Rendering.close at h
  split at h
  · cases h
  · cases h
    rfl

theorem text_of_addTag {position : ℕ} {body : List Char} {r' : Rendering}
    (h : r.addTag position body = .ok r') : r'.text = r.text := by
  unfold Rendering.addTag at h
  dsimp only at h
  split at h
  · split_ifs at h
    · split at h
      · cases h
      · exact text_of_close h
    · obtain ⟨style, -, h⟩ := bind_eq_ok.mp h
      split at h
      · exact text_of_close h
      · cases h
  · obtain ⟨style, -, rfl⟩ := map_eq_ok.mp h
    rfl

theorem foldlM_tag {body : List Char} (h : IsBody body) {position : ℕ} {run : List Char}
    (hadd : ∃ r', { r with text := r.text ++ plainText run.reverse }.addTag position body =
      .ok r' ∧ Sound n r') (s : List Char) :
    ∃ next r', (pieces position run 0 ('[' :: (body ++ ']' :: s))).foldlM Rendering.add r =
      (pieces next [] 0 s).foldlM Rendering.add r' ∧ Sound n r' ∧
      r'.text = r.text ++ plainText run.reverse := by
  obtain ⟨r', hadd, hr'⟩ := hadd
  obtain ⟨next, hpieces⟩ := pieces_tag position run h s
  refine ⟨next, r', ?_, hr', text_of_addTag hadd⟩
  rw [hpieces, foldlM_flush, List.foldlM_cons, Rendering.add, hadd]
  rfl

theorem foldlM_leads {parts : List Part} {k : ℕ} (h : Leads n parts k) (hr : Sound n r)
    (position : ℕ) (run s : List Char) :
    ∃ next r', (pieces position run 0 (textOf parts ++ s)).foldlM Rendering.add r =
      (pieces next (committed run parts).2 0 s).foldlM Rendering.add r' ∧ Sound k r' ∧
      r'.text = r.text ++ (committed run parts).1 := by
  induction h generalizing r position run with
  | nil n => exact ⟨position, r, rfl, hr, (List.append_nil _).symm⟩
  | text plain _ ih =>
    rw [textOf, List.flatMap_cons, Part.chars, List.append_assoc,
      pieces_plain position run plain]
    exact ih hr _ _
  | @literal n k body rest shape _ ih =>
    have htext : textOf (.literal body :: rest) ++ s =
        '\\' :: '[' :: (body ++ ']' :: (textOf rest ++ s)) := by
      simp [textOf, Part.chars]
    obtain ⟨next, hpieces⟩ := pieces_literal position run shape (textOf rest ++ s)
    obtain ⟨next, r', hrest, hr', htext'⟩ := ih ((hr.addText _).addText _) next []
    refine ⟨next, r', ?_, hr', ?_⟩
    · rw [htext, hpieces, foldlM_flush]
      exact hrest
    · rw [htext', committed, List.append_assoc, List.append_assoc, List.append_assoc]
  | @opening n k body rest style _ ih =>
    have htext : textOf (.tag body :: rest) ++ s =
        '[' :: (body ++ ']' :: (textOf rest ++ s)) := by
      simp [textOf, Part.chars]
    obtain ⟨next, opened, htag, hopened, hshown⟩ := foldlM_tag style.shape
      ((hr.addText _).opening style position) (textOf rest ++ s)
    obtain ⟨next, r', hrest, hr', htext'⟩ := ih hopened next []
    refine ⟨next, r', ?_, hr', ?_⟩
    · rw [htext, htag, hrest, committed]
    · rw [htext', hshown, committed, List.append_assoc]
  | @closing n k rest _ ih =>
    have htext : textOf (.tag ['/'] :: rest) ++ s =
        '[' :: (['/'] ++ ']' :: (textOf rest ++ s)) := by
      simp [textOf, Part.chars]
    obtain ⟨next, closed, htag, hclosed, hshown⟩ := foldlM_tag isBody_slash
      ((hr.addText _).closing position) (textOf rest ++ s)
    obtain ⟨next, r', hrest, hr', htext'⟩ := ih hclosed next []
    refine ⟨next, r', ?_, hr', ?_⟩
    · rw [htext, htag, hrest, committed]
    · rw [htext', hshown, committed, List.append_assoc]

theorem foldlM_balanced {parts : List Part} (h : Balanced n parts) (hr : Sound n r)
    (position : ℕ) (run : List Char) :
    ∃ k r', (pieces position run 0 (textOf parts)).foldlM Rendering.add r = .ok r' ∧
      Sound k r' := by
  obtain ⟨k, hk⟩ := h.leads
  obtain ⟨next, r', hfold, hr', -⟩ := foldlM_leads hk hr position run []
  rw [List.append_nil, pieces, foldlM_flush] at hfold
  exact ⟨k, _, hfold, hr'.addText _⟩

theorem mem_insertSpan {s t : Span} {spans : List Span} (h : t ∈ insertSpan s spans) :
    t = s ∨ t ∈ spans := by
  induction spans with
  | nil => exact .inl (List.mem_singleton.mp h)
  | cons other spans ih =>
    rw [insertSpan] at h
    split_ifs at h
    · exact List.mem_cons.mp h
    · rcases List.mem_cons.mp h with rfl | h
      · exact .inr (by simp)
      · exact (ih h).imp_right (List.mem_cons_of_mem other)

theorem mem_foldr_insertSpan {t : Span} {spans : List Span}
    (h : t ∈ spans.foldr insertSpan []) : t ∈ spans := by
  induction spans with
  | nil => exact h
  | cons s spans ih =>
    rcases mem_insertSpan h with rfl | h
    · simp
    · exact List.mem_cons_of_mem s (ih h)

theorem Sound.readable (h : Sound n r) (isCut : Bool) :
    ∀ s ∈ r.allSpans isCut, Style.IsReadable s.style := by
  intro s hs
  have hmem : s ∈ r.spans ++ r.opened.map fun t => ⟨t.start, r.text.length, t.style⟩ := by
    rw [← List.mem_reverse]
    unfold Rendering.allSpans at hs
    dsimp only at hs
    split_ifs at hs
    · exact mem_foldr_insertSpan (List.mem_of_mem_filter hs)
    · exact mem_foldr_insertSpan hs
  rcases List.mem_append.mp hmem with hs | hs
  · exact h.spans s hs
  · obtain ⟨t, ht, rfl⟩ := List.mem_map.mp hs
    obtain ⟨hparameters, hreadable⟩ := h.opened t ht
    have hstyle : t.style = t.name := by rw [OpenTag.style, hparameters, List.append_nil]
    exact hstyle ▸ hreadable

theorem forM_readable {spans : List Span} (h : ∀ s ∈ spans, Style.IsReadable s.style) :
    (spans.forM fun s => (Style.read s.style).map fun _ => ()) = .ok () := by
  induction spans with
  | nil => rfl
  | cons s spans ih =>
    obtain ⟨found, hfound⟩ := h s (by simp)
    change (((Style.read s.style).map fun _ => ()).bind fun _ => spans.forM _) = _
    rw [hfound]
    exact ih fun t ht => h t (List.mem_cons_of_mem s ht)

theorem exists_shown {parts : List Part} (h : Balanced 0 parts) :
    ∃ text, ∀ columns, shown columns (textOf parts) = .ok (Layout.laid columns text) := by
  obtain ⟨k, r, hr, hsound⟩ := foldlM_balanced h (r := {}) ⟨Nat.zero_le _, by simp, by simp⟩ 0 []
  refine ⟨Text.expandTabs r.text, fun columns => ?_⟩
  rw [shown, hr, ok_bind]
  dsimp only
  rw [forM_readable (hsound.readable _)]
  rfl

end Rendering

end Markup

end Residency.Console
