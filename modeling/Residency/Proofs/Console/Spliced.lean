import Mathlib.Data.List.Infix
import Mathlib.Data.List.Count
import Residency.Proofs.Console.Layout
import Residency.Proofs.Console.Markup
import Residency.Proofs.Console.Pictographs
import Residency.Proofs.TabStops

namespace Residency.Console.Markup

open Text.Pictograph

def closer : List Char :=
  ['[', '/', ']']

def NoTag (s : List Char) : Prop :=
  ∀ body, IsBody body → ¬ '[' :: (body ++ [']']) <:+: s

/-- How much of a text can be lost as markup. A backslash before a tag can be shown as a bracket. -/
def weight (s : List Char) : ℕ :=
  s.count '[' + 2 * s.count '\\'

section Weight

variable {s t : List Char}

theorem weight_append (s t : List Char) : weight (s ++ t) = weight s + weight t := by
  simp only [weight, List.count_append]
  omega

theorem weight_cons (c : Char) (s : List Char) : weight (c :: s) = weight [c] + weight s :=
  weight_append [c] s

theorem weight_reverse (s : List Char) : weight s.reverse = weight s := by
  simp only [weight, List.count_reverse]

theorem weight_tag (body s : List Char) :
    weight ('[' :: (body ++ ']' :: s)) = 1 + weight body + weight s := by
  rw [weight_cons, weight_append, weight_cons ']', ← Nat.add_assoc]
  exact congrArg _ (Nat.zero_add _)

theorem weight_slashes (m : ℕ) : weight (List.replicate m '\\') = 2 * m := by
  rw [weight, List.count_replicate_self, List.count_replicate, if_neg (by decide), Nat.zero_add]

theorem weight_le_of_untamed (h : (untamed s).Sublist (untamed t)) : weight s ≤ weight t := by
  have hbracket := h.count_le '['
  have hslash := h.count_le '\\'
  rw [count_untamed (by decide), count_untamed (by decide)] at hbracket hslash
  unfold weight
  omega

theorem unescaped_eq_or_weight_lt (s : List Char) :
    unescaped s = s ∨ weight (unescaped s) < weight s := by
  fun_induction unescaped s with
  | case1 => exact .inl rfl
  | case2 s ih =>
    right
    have hle : weight (unescaped s) ≤ weight s := ih.elim (fun h => by rw [h]) le_of_lt
    have hslash : weight ['\\'] = 2 := rfl
    rw [weight_cons '\\', weight_cons '[' s, weight_cons '[' (unescaped s)]
    omega
  | case3 c s _ ih =>
    rw [weight_cons c s, weight_cons c (unescaped s)]
    rcases ih with ih | ih
    · exact .inl (by rw [ih])
    · right
      omega

theorem untamed_plainText (s : List Char) :
    (untamed (plainText s)).Sublist (untamed (unescaped s)) := by
  have hdropped : (plainText s).Sublist (replaced (unescaped s)) := List.filter_sublist
  exact (hdropped.filter _).trans (untamed_replaced (unescaped s))

theorem weight_plainText_le (s : List Char) : weight (plainText s) ≤ weight s := by
  have hle := weight_le_of_untamed (untamed_plainText s)
  rcases unescaped_eq_or_weight_lt s with h | h
  · rwa [h] at hle
  · omega

end Weight

theorem closed_cases {s body t : List Char} {m : ℕ} (shape : IsBody body)
    (h : s ++ closer = List.replicate m '\\' ++ '[' :: (body ++ ']' :: t)) :
    (s = List.replicate m '\\' ∧ body = ['/'] ∧ t = []) ∨
      ∃ t', t = t' ++ closer ∧ s = List.replicate m '\\' ++ '[' :: (body ++ ']' :: t') := by
  obtain ⟨hbracket, hend⟩ := shape.not_mem
  have hslashes : '[' ∉ List.replicate m '\\' := by
    intro hmem
    exact absurd (List.eq_of_mem_replicate hmem) (by decide)
  by_cases hs : '[' ∈ s
  · right
    obtain ⟨before, after, rfl, hbefore⟩ := List.eq_append_cons_of_mem hs
    rw [List.append_assoc] at h
    obtain ⟨rfl, hrest⟩ := append_cons_inj hbefore hslashes h
    by_cases hafter : ']' ∈ after
    · obtain ⟨inside, t', rfl, hinside⟩ := List.eq_append_cons_of_mem hafter
      change (inside ++ ']' :: t') ++ closer = _ at hrest
      rw [List.append_assoc] at hrest
      obtain ⟨rfl, rfl⟩ := append_cons_inj hinside hend hrest
      exact ⟨_, rfl, rfl⟩
    · have hcut : after ++ closer = (after ++ ['[', '/']) ++ ']' :: [] := by simp [closer]
      obtain ⟨hbody, -⟩ := append_cons_inj (by simp [hafter]) hend (hcut.symm.trans hrest)
      rw [← hbody] at hbracket
      simp at hbracket
  · left
    obtain ⟨rfl, hrest⟩ := append_cons_inj hs hslashes h
    obtain ⟨hbody, hnil⟩ := append_cons_inj (l := ['/']) (by decide) hend hrest
    exact ⟨rfl, hbody.symm, hnil.symm⟩

inductive Reads : List Char → List Char → List Piece → Prop where
  | stop (run : List Char) (m position : ℕ) :
      Reads run (List.replicate m '\\')
        (flush run (flush (List.replicate (m / 2) '\\') [mark m position ['/']]))
  | char {run s : List Char} {c : Char} {ps : List Piece}
      (front : tagBody? ((c :: s ++ closer).dropWhile (· = '\\')) = none)
      (h : Reads (c :: run) s ps) : Reads run (c :: s) ps
  | tag (run : List Char) (m position : ℕ) {body t : List Char} {ps : List Piece}
      (shape : IsBody body) (h : Reads [] t ps) :
      Reads run (List.replicate m '\\' ++ '[' :: (body ++ ']' :: t))
        (flush run (flush (List.replicate (m / 2) '\\') (mark m position body :: ps)))

theorem exists_takeWhile_slashes (s : List Char) :
    ∃ m, s.takeWhile (· = '\\') = List.replicate m '\\' := by
  refine ⟨_, List.eq_replicate_iff.mpr ⟨rfl, fun c hc => ?_⟩⟩
  simpa using List.mem_takeWhile_imp hc

theorem not_prefix_of_tagBody? {s t : List Char}
    (h : tagBody? ((s ++ t).dropWhile (· = '\\')) = none) (body : List Char)
    (shape : IsBody body) : ¬ '[' :: (body ++ [']']) <+: s := by
  rintro ⟨rest, rfl⟩
  have htext : '[' :: (body ++ [']']) ++ rest ++ t = '[' :: (body ++ ']' :: (rest ++ t)) := by simp
  rw [htext, List.dropWhile_cons_of_neg (by decide), tagBody?_eq_some shape] at h
  cases h

theorem reads_pieces (s : List Char) (position : ℕ) (run : List Char) :
    Reads run s (pieces position run 0 (s ++ closer)) := by
  induction hn : s.length using Nat.strong_induction_on generalizing s position run with
  | h n ih =>
  cases htag : tagBody? ((s ++ closer).dropWhile (· = '\\')) with
  | none =>
    cases s with
    | nil => cases htag
    | cons c s =>
      have hstep := pieces_unmarked position run (s := s ++ closer) htag
      refine hstep ▸ .char htag (ih _ ?_ s _ _ rfl)
      rw [← hn]
      exact Nat.lt_succ_self _
  | some body =>
    obtain ⟨shape, t, ht⟩ := exists_of_tagBody? htag
    obtain ⟨m, hm⟩ := exists_takeWhile_slashes (s ++ closer)
    have hcut := List.takeWhile_append_dropWhile (p := (· = '\\')) (l := s ++ closer)
    rw [hm, ht] at hcut
    obtain ⟨next, hpieces⟩ := pieces_mark position run shape m t
    rw [← hcut, hpieces]
    rcases closed_cases shape hcut.symm with ⟨rfl, rfl, rfl⟩ | ⟨t, rfl, rfl⟩
    · exact .stop run m (position + m)
    · refine .tag run m (position + m) shape (ih _ ?_ t next [] rfl)
      rw [← hn]
      simp
      omega

def Piece.shown : Piece → List Char
  | .text s => plainText s
  | .tag .. => []

def shownBy (ps : List Piece) : List Char :=
  ps.flatMap Piece.shown

theorem shownBy_flush (run : List Char) (ps : List Piece) :
    shownBy (flush run ps) = plainText run.reverse ++ shownBy ps := by
  unfold flush
  split_ifs with hrun
  · rw [List.isEmpty_iff.mp hrun]
    rfl
  · rfl

theorem text_of_foldlM {ps : List Piece} {r r' : Rendering}
    (h : ps.foldlM Rendering.add r = .ok r') : r'.text = r.text ++ shownBy ps := by
  induction ps generalizing r with
  | nil =>
    cases h
    exact (List.append_nil _).symm
  | cons p ps ih =>
    rw [List.foldlM_cons] at h
    obtain ⟨next, hnext, hrest⟩ := bind_eq_ok.mp h
    have hcons : shownBy (p :: ps) = p.shown ++ shownBy ps := List.flatMap_cons
    rw [ih hrest, hcons, ← List.append_assoc]
    congr 1
    cases p with
    | text s =>
      cases hnext
      rfl
    | tag position body => rw [text_of_addTag hnext, Piece.shown, List.append_nil]

/-- Of so many backslashes and a tag, what is shown weighs no more than the backslashes would if
each was half as heavy, and the characters of the tag. -/
theorem weight_mark_le (m position : ℕ) (body : List Char) :
    weight (plainText (List.replicate (m / 2) '\\').reverse ++ (mark m position body).shown) ≤
      m + weight body := by
  have hslashes := weight_plainText_le (List.replicate (m / 2) '\\')
  rw [weight_append, List.reverse_replicate]
  rw [weight_slashes] at hslashes
  unfold mark
  split_ifs with hodd
  · have htag := weight_plainText_le ('[' :: body ++ [']'])
    have hbrackets : weight ('[' :: body ++ [']']) = 1 + weight body := weight_tag body []
    rw [Piece.shown]
    omega
  · have hnil : weight (Piece.tag position body).shown = 0 := rfl
    omega

theorem shownBy_mark (run body : List Char) (m position : ℕ) (ps : List Piece) :
    shownBy (flush run (flush (List.replicate (m / 2) '\\') (mark m position body :: ps))) =
      plainText run.reverse ++ (plainText (List.replicate (m / 2) '\\').reverse ++
        (mark m position body).shown) ++ shownBy ps := by
  have hcons : shownBy (mark m position body :: ps) =
      (mark m position body).shown ++ shownBy ps := List.flatMap_cons
  rw [shownBy_flush, shownBy_flush, hcons]
  simp only [List.append_assoc]

section Reads

variable {run s : List Char} {ps : List Piece}

theorem weight_shownBy_lt {t : List Char} (m position : ℕ) (body : List Char)
    (h : weight (shownBy ps) ≤ weight t) :
    weight (shownBy (flush run
        (flush (List.replicate (m / 2) '\\') (mark m position body :: ps)))) <
      weight run + weight (List.replicate m '\\' ++ '[' :: (body ++ ']' :: t)) := by
  have hrun := weight_plainText_le run.reverse
  have hmark := weight_mark_le m position body
  rw [weight_reverse] at hrun
  rw [shownBy_mark, weight_append, weight_append, weight_append (List.replicate m '\\'),
    weight_slashes, weight_tag]
  omega

theorem Reads.weight_le (h : Reads run s ps) : weight (shownBy ps) ≤ weight run + weight s := by
  induction h with
  | stop run m position =>
    have hrun := weight_plainText_le run.reverse
    have hmark := weight_mark_le m position ['/']
    have hslash : weight ['/'] = 0 := rfl
    have hnil : weight (shownBy []) = 0 := rfl
    rw [weight_reverse] at hrun
    rw [shownBy_mark, weight_append, weight_append, weight_slashes]
    omega
  | @char run s c ps _ _ ih =>
    rw [weight_cons] at ih ⊢
    omega
  | @tag run m position body t ps _ _ ih =>
    exact le_of_lt (weight_shownBy_lt m position body (ih.trans (Nat.zero_add _).le))

theorem noTag_cons {c : Char} (hs : NoTag s)
    (front : ∀ body, IsBody body → ¬ '[' :: (body ++ [']']) <+: c :: s) : NoTag (c :: s) := by
  intro body shape hin
  rcases List.infix_cons_iff.mp hin with hin | hin
  · exact front body shape hin
  · exact hs body shape hin

theorem noTag_slashes (m : ℕ) : NoTag (List.replicate m '\\') := by
  intro body _ hin
  have hmem : '[' ∈ List.replicate m '\\' := hin.subset (by simp)
  exact absurd (List.eq_of_mem_replicate hmem) (by decide)

theorem Reads.noTag_or_weight_lt (h : Reads run s ps) :
    NoTag s ∨ weight (shownBy ps) < weight run + weight s := by
  induction h with
  | stop run m position => exact .inl (noTag_slashes m)
  | @char run s c ps front _ ih =>
    rcases ih with ih | ih
    · exact .inl (noTag_cons ih (not_prefix_of_tagBody? front))
    · right
      rw [weight_cons] at ih ⊢
      omega
  | @tag run m position body t ps _ h _ =>
    exact .inr (weight_shownBy_lt m position body (h.weight_le.trans (Nat.zero_add _).le))

theorem Reads.of_noTag (h : Reads run s ps) (hs : NoTag s) :
    ∃ u m position, s = u ++ List.replicate m '\\' ∧ u.getLast? ≠ some '\\' ∧
      ps = flush (u.reverse ++ run) (flush (List.replicate (m / 2) '\\')
        [mark m position ['/']]) := by
  induction h with
  | stop run m position => exact ⟨[], m, position, rfl, nofun, rfl⟩
  | @char run s c ps front _ ih =>
    obtain ⟨u, m, position, rfl, hlast, rfl⟩ := ih fun body shape hin =>
      hs body shape (hin.trans (List.suffix_cons c _).isInfix)
    refine ⟨c :: u, m, position, rfl, ?_, ?_⟩
    · cases u with
      | nil =>
        intro hc
        obtain rfl : c = '\\' := by simpa using hc
        have hdrop := dropWhile_append_cons (p := (· = '\\')) (l := List.replicate (m + 1) '\\')
          (a := '[') (fun d hd => by rw [List.eq_of_mem_replicate hd]; rfl) (by decide) ['/', ']']
        have hnone : tagBody? closer = none := (congrArg tagBody? hdrop).symm.trans front
        cases hnone
      | cons d u => exact hlast
    · simp
  | @tag run m position body t ps shape _ _ =>
    refine absurd ?_ (hs body shape)
    exact ⟨List.replicate m '\\', t, by simp⟩

end Reads

theorem unescaped_eq_self_iff (s : List Char) : unescaped s = s ↔ ¬ ['\\', '['] <:+: s := by
  fun_induction unescaped s with
  | case1 => simp
  | case2 s ih =>
    constructor
    · intro h
      exact absurd (List.cons.inj h).1 (by decide)
    · intro h
      exact absurd (List.prefix_append ['\\', '['] s).isInfix h
  | case3 c s hescape ih =>
    have hfront : ¬ ['\\', '['] <+: c :: s := by
      rintro ⟨t, ht⟩
      obtain ⟨hc, hs⟩ := List.cons.inj ht
      exact hescape t hc.symm hs.symm
    rw [List.cons.injEq, List.infix_cons_iff, not_or, ih]
    exact ⟨fun h => ⟨hfront, h.2⟩, fun h => ⟨rfl, h.2⟩⟩

structure IsShown (s : List Char) : Prop where
  tags : NoTag s
  escapes : ¬ ['\\', '['] <:+: s
  ending : s.getLast? ≠ some '\\'
  controls : ∀ c ∈ s, isDropped c = false ∧ c ≠ '\t'
  pictographs : replaced s = s

theorem isShown_of_isPlain {s : List Char} (plain : IsPlain s)
    (controls : ∀ c ∈ s, isDropped c = false ∧ c ≠ '\t') (pictographs : replaced s = s) :
    IsShown s where
  tags body _ hin := (plain '[' (hin.subset (by simp))).1 rfl
  escapes hin := (plain '\\' (hin.subset (by simp))).2 rfl
  ending hlast := (plain '\\' (List.mem_of_getLast? hlast)).2 rfl
  controls := controls
  pictographs := pictographs

section Spliced

theorem ne_of_isDropped {c : Char} (h : isDropped c = true) : c ≠ ' ' ∧ c ≠ '\n' := by
  constructor <;> rintro rfl <;> cases h

theorem count_le_of_laid {words s t : List Char} {columns : Option ℕ} (hwords : '\t' ∉ words)
    (h : words ++ s = Layout.laid columns (Text.expandTabs (words ++ t))) {c : Char}
    (hblank : c ≠ ' ') (hline : c ≠ '\n') :
    s.count c ≤ (t.filter (· ≠ '\t')).count c := by
  have hlaid := Layout.count_laid_le hblank hline columns (Text.expandTabs (words ++ t))
  have hkept : words.filter (· ≠ '\t') = words :=
    List.filter_eq_self.mpr fun d hd => decide_eq_true (by rintro rfl; exact hwords hd)
  rwa [← h, Text.count_expandTabs hblank hline, List.filter_append, hkept, List.count_append,
    List.count_append, Nat.add_le_add_iff_left] at hlaid

variable {s : List Char} {ps : List Piece}

theorem IsShown.plainText_eq (h : IsShown s) : plainText s = s := by
  rw [plainText, (unescaped_eq_self_iff s).mpr h.escapes, h.pictographs, List.filter_eq_self]
  intro c hc
  rw [(h.controls c hc).1]
  rfl

theorem Reads.shownBy_eq (h : Reads [] s ps) (tags : NoTag s) (ending : s.getLast? ≠ some '\\') :
    shownBy ps = plainText s := by
  obtain ⟨u, m, position, rfl, -, rfl⟩ := h.of_noTag tags
  cases m with
  | zero =>
    rw [shownBy_mark, List.append_nil, List.reverse_reverse]
    change plainText u ++ [] ++ [] = plainText (u ++ [])
    simp only [List.append_nil]
  | succ m => exact absurd (by simp [List.replicate_succ']) ending

theorem Reads.eq_of_weight (h : Reads [] s ps) (hweight : weight s ≤ weight (shownBy ps)) :
    NoTag s ∧ s.getLast? ≠ some '\\' ∧ unescaped s = s := by
  have tags : NoTag s := by
    rcases h.noTag_or_weight_lt with hs | hlt
    · exact hs
    · have hnil : weight [] = 0 := rfl
      omega
  have ending : s.getLast? ≠ some '\\' := by
    obtain ⟨u, m, position, rfl, hlast, rfl⟩ := h.of_noTag tags
    cases m with
    | zero => simpa using hlast
    | succ m =>
      have hrun := weight_plainText_le (u.reverse ++ []).reverse
      have hmark := weight_mark_le (m + 1) position ['/']
      have hslash : weight ['/'] = 0 := rfl
      have hnil : weight (shownBy []) = 0 := rfl
      rw [weight_append u, weight_slashes, shownBy_mark, weight_append, weight_append] at hweight
      rw [List.append_nil, List.reverse_reverse] at hweight hrun
      omega
  refine ⟨tags, ending, ?_⟩
  rw [h.shownBy_eq tags ending] at hweight
  have hle := weight_le_of_untamed (untamed_plainText s)
  rcases unescaped_eq_or_weight_lt s with hs | hlt
  · exact hs
  · omega

theorem Reads.isShown_of_count (h : Reads [] s ps)
    (hcount : ∀ c, c ≠ ' ' → c ≠ '\n' → s.count c ≤ ((shownBy ps).filter (· ≠ '\t')).count c) :
    IsShown s := by
  have hless (c : Char) (hblank : c ≠ ' ') (hline : c ≠ '\n') : s.count c ≤ (shownBy ps).count c :=
    (hcount c hblank hline).trans (List.filter_sublist.count_le c)
  have hweight : weight s ≤ weight (shownBy ps) := by
    have hbracket := hless '[' (by decide) (by decide)
    have hslash := hless '\\' (by decide) (by decide)
    unfold weight
    omega
  obtain ⟨tags, ending, hescapes⟩ := h.eq_of_weight hweight
  have hplain : shownBy ps = (replaced s).filter (!isDropped ·) := by
    rw [h.shownBy_eq tags ending, plainText, hescapes]
  have htab : '\t' ∉ s := by
    have hnone : ((shownBy ps).filter (· ≠ '\t')).count '\t' = 0 := by
      simp [List.count_eq_zero]
    have hle := hcount '\t' (by decide) (by decide)
    rw [hnone, Nat.le_zero] at hle
    exact List.count_eq_zero.mp hle
  have hkept : ∀ c ∈ s, isDropped c = false := by
    intro c hc
    rw [← Bool.not_eq_true]
    intro hdropped
    have hnone : (shownBy ps).count c = 0 := by
      rw [hplain, List.count_eq_zero, List.mem_filter]
      simp [hdropped]
    have hle := hless c (ne_of_isDropped hdropped).1 (ne_of_isDropped hdropped).2
    rw [hnone, Nat.le_zero, List.count_eq_zero] at hle
    exact hle hc
  have hcolons : s.count ':' ≤ (replaced s).count ':' := by
    have hle := hless ':' (by decide) (by decide)
    rw [hplain] at hle
    exact hle.trans (List.filter_sublist.count_le ':')
  exact
    { tags := tags
      escapes := (unescaped_eq_self_iff s).mp hescapes
      ending := ending
      controls := fun c hc => ⟨hkept c hc, fun h => htab (h ▸ hc)⟩
      pictographs := replaced_eq_of_count hcolons }

variable {lead : List Part} {words : List Char} {n : ℕ} (h : Leads 0 lead (n + 1))
  (hlead : committed [] lead = (words, []))

include h hlead

theorem shown_spliced (s : List Char) :
    ∃ ps, Reads [] s ps ∧
      (∀ columns text, shown columns (textOf lead ++ (s ++ closer)) = .ok text →
        text = Layout.laid columns (Text.expandTabs (words ++ shownBy ps))) ∧
      (NoTag s → ∀ columns, ∃ text, shown columns (textOf lead ++ (s ++ closer)) = .ok text) := by
  obtain ⟨next, r, hfold, hr, htext⟩ :=
    foldlM_leads h (r := {}) ⟨Nat.zero_le _, by simp, by simp⟩ 0 [] (s ++ closer)
  rw [hlead] at hfold htext
  have hreads := reads_pieces s next []
  refine ⟨pieces next [] 0 (s ++ closer), hreads, ?_, ?_⟩
  · intro columns text hshown
    rw [shown, hfold] at hshown
    obtain ⟨r', hr', hshown⟩ := bind_eq_ok.mp hshown
    obtain ⟨-, -, rfl⟩ := map_eq_ok.mp hshown
    rw [text_of_foldlM hr', htext]
    rfl
  · intro tags columns
    obtain ⟨u, m, position, -, -, hpieces⟩ := hreads.of_noTag tags
    have hclosed : ∃ k r', (pieces next [] 0 (s ++ closer)).foldlM Rendering.add r =
        .ok r' ∧ Sound k r' := by
      rw [hpieces, foldlM_flush, foldlM_flush]
      unfold mark
      split_ifs
      · exact ⟨n + 1, _, rfl, ((hr.addText _).addText _).addText _⟩
      · obtain ⟨r', hadd, hr'⟩ := ((hr.addText _).addText _).closing position
        exact ⟨n, r', by rw [List.foldlM_cons, Rendering.add, hadd]; rfl, hr'⟩
    obtain ⟨k, r', hr', hsound⟩ := hclosed
    refine ⟨Layout.laid columns (Text.expandTabs r'.text), ?_⟩
    rw [shown, hfold, hr', ok_bind]
    dsimp only
    rw [forM_readable (hsound.readable _)]
    rfl

theorem shown_spliced_iff (hwords : '\t' ∉ words) (s : List Char) (columns : Option ℕ) :
    shown columns (textOf lead ++ (s ++ closer)) = .ok (words ++ s) ↔
      IsShown s ∧ Layout.laid columns (words ++ s) = words ++ s := by
  obtain ⟨ps, hreads, htext, hok⟩ := shown_spliced h hlead s
  constructor
  · intro hshown
    have hsame := htext columns _ hshown
    have hs : IsShown s :=
      hreads.isShown_of_count fun c hblank hline => count_le_of_laid hwords hsame hblank hline
    refine ⟨hs, ?_⟩
    rw [hreads.shownBy_eq hs.tags hs.ending, hs.plainText_eq, Text.expandTabs_eq_self] at hsame
    · exact hsame.symm
    · rw [List.mem_append, not_or]
      exact ⟨hwords, fun hmem => (hs.controls _ hmem).2 rfl⟩
  · rintro ⟨hs, hlaid⟩
    obtain ⟨text, hshown⟩ := hok hs.tags columns
    have htab : '\t' ∉ words ++ s := by
      rw [List.mem_append, not_or]
      exact ⟨hwords, fun hmem => (hs.controls _ hmem).2 rfl⟩
    rw [hshown, htext _ _ hshown, hreads.shownBy_eq hs.tags hs.ending, hs.plainText_eq,
      Text.expandTabs_eq_self htab, hlaid]

end Spliced

end Residency.Console.Markup
