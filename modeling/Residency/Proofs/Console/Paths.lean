import Residency.Proofs.Console.Notices
import Residency.Proofs.Console.Spliced

/-!
The notices that tell a path. It stands between two tags of the notice as it is given, so a part of
it that is markup is read as such.
-/
namespace Residency

open Console Console.Markup Text.Pictograph

namespace Notice

def digits : List Char :=
  "0123456789".toList

inductive IsTime : List Char → Prop where
  | mk {a b c d e f : Char} (digits : ∀ x ∈ [a, b, c, d, e, f], x ∈ digits) :
      IsTime [a, b, ':', c, d, ':', e, f]

theorem isDigit_of_mem_digits : ∀ c ∈ digits, c.isDigit = true := by
  decide +kernel

theorem IsTime.forall_mem {s : List Char} (h : IsTime s) : ∀ x ∈ s, x ∈ digits ∨ x = ':' := by
  obtain ⟨hdigits⟩ := h
  intro x hx
  by_cases hcolon : x = ':'
  · exact .inr hcolon
  · refine .inl (hdigits x ?_)
    simpa [hcolon] using hx

theorem IsTime.isClock {clock : String} (h : IsTime clock.toList) : IsClock clock :=
  fun x hx => (h.forall_mem x hx).imp_left (isDigit_of_mem_digits x)

theorem named?_digits :
    ∀ c ∈ digits, ∀ d ∈ digits, named? (Text.lowered [c, d]) = none := by
  decide +kernel

theorem of_mem_digits :
    ∀ c ∈ digits, c ≠ ':' ∧ c ≠ '-' ∧ Text.isBlank c = false ∧ isDropped c = false ∧ c ≠ '\t' := by
  decide +kernel

theorem code?_digit {c : Char} (h : c ∈ digits) (s : List Char) :
    code? (c :: s) = (code? s).map fun found => (c :: found.1, found.2) := by
  obtain ⟨hcolon, hdash, hblank, -⟩ := of_mem_digits c h
  have hfind : (Variant.all.find? fun v => (v.suffix ++ [':']).isPrefixOf (c :: s)) = none := by
    rw [List.find?_eq_none]
    intro v _ hprefix
    obtain ⟨t, ht⟩ := List.isPrefixOf_iff_prefix.mp hprefix
    cases v with
    | coloured => exact hdash (List.cons.inj ht).1.symm
    | plain => exact hdash (List.cons.inj ht).1.symm
    | standard => exact hcolon (List.cons.inj ht).1.symm
  rw [code?, hfind, hblank]
  rfl

theorem replacedFrom_digit {c : Char} (h : c ∈ digits) (s : List Char) :
    replacedFrom 0 (c :: s) = c :: replacedFrom 0 s := by
  rw [replacedFrom, if_neg (of_mem_digits c h).1]

/-- Two digits between colons are no name of a pictograph. -/
theorem IsTime.replaced_eq {s : List Char} (h : IsTime s) : replaced s = s := by
  obtain ⟨hdigits⟩ := h
  rename_i a b c d e f
  simp only [List.forall_mem_cons] at hdigits
  obtain ⟨ha, hb, hc, hd, he, hf, -⟩ := hdigits
  have hcode : code? [c, d, ':', e, f] = some ([c, d], .standard) := by
    rw [code?_digit hc, code?_digit hd]
    rfl
  rw [replaced, replacedFrom_digit ha, replacedFrom_digit hb, replacedFrom, if_pos rfl, hcode]
  simp only [named?_digits c hc d hd]
  change a :: b :: ':' :: c :: d :: ':' :: replacedFrom 0 [e, f] = _
  rw [replacedFrom_digit he, replacedFrom_digit hf, replacedFrom]

theorem IsTime.isShown {clock : String} (h : IsTime clock.toList) : IsShown clock.toList := by
  refine isShown_of_isPlain (isPlain_clock h.isClock) ?_ h.replaced_eq
  intro c hc
  rcases h.forall_mem c hc with hdigit | rfl
  · exact (of_mem_digits c hdigit).2.2.2
  · decide

theorem isStyle_boldRed : IsStyle "bold red".toList :=
  ⟨.mk rfl (by decide) (by decide), nofun, by decide, by decide +kernel⟩

def lead (clock : String) (rest : List Part) : List Part :=
  .tag "dim".toList :: .text clock.toList :: .tag ['/'] :: rest

def failedRest : List Part :=
  [.text [' '], .tag "bold red".toList, .literal "err".toList, .tag ['/'], .text "  ".toList,
    .tag "bold red".toList, .text ['✗'], .tag ['/'],
    .text " Can't read frequency table from ".toList, .tag "cyan".toList]

def savedRest : List Part :=
  [.text [' '], .tag "bright_blue".toList, .literal "info".toList, .tag ['/'],
    .text " 💾 Config written to ".toList, .tag "cyan".toList]

theorem leads_failedRest : Leads 0 failedRest 1 :=
  .text (by decide) <| .opening isStyle_boldRed <| .literal (.mk rfl (by decide) (by decide)) <|
    .closing <| .text (by decide) <| .opening isStyle_boldRed <| .text (by decide) <| .closing <|
    .text (by decide) <| .opening isStyle_cyan <| .nil 1

theorem leads_savedRest : Leads 0 savedRest 1 :=
  .text (by decide) <| .opening isStyle_blue <| .literal (.mk rfl (by decide) (by decide)) <|
    .closing <| .text (by decide) <| .opening isStyle_cyan <| .nil 1

def failedWords : List Char :=
  " [err]  ✗ Can't read frequency table from ".toList

def savedWords : List Char :=
  " [info] 💾 Config written to ".toList

theorem committed_failedRest : committed [] failedRest = (failedWords, []) := by
  decide +kernel

theorem committed_savedRest : committed [] savedRest = (savedWords, []) := by
  decide +kernel

section Lines

variable {clock : String}

theorem markup_collectorFailed (path : String) :
    (collectorFailed (.str path)).markup clock = .ok (String.ofList
      (textOf (lead clock failedRest) ++ (path.toList ++ closer))) := by
  change Except.ok ("[dim]" ++ clock ++ "[/] " ++ "[bold red]\\[err][/] " ++
    (" " ++ "[bold red]✗[/]") ++ " " ++
    ("Can't read frequency table from [cyan]" ++ path ++ "[/]")) = _
  rw [Except.ok.injEq, ← String.toList_inj]
  simp [textOf, lead, failedRest, closer, Part.chars]

theorem markup_settingsSaved (path : String) :
    (settingsSaved (.str path)).markup clock = .ok (String.ofList
      (textOf (lead clock savedRest) ++ (path.toList ++ closer))) := by
  change Except.ok ("[dim]" ++ clock ++ "[/] " ++ "[bright_blue]\\[info][/]" ++
    (" " ++ "💾") ++ " " ++ ("Config written to [cyan]" ++ path ++ "[/]")) = _
  rw [Except.ok.injEq, ← String.toList_inj]
  simp [textOf, lead, savedRest, closer, Part.chars]

inductive TellsPath (path : String) : Notice → List Char → Prop where
  | collectorFailed : TellsPath path (.collectorFailed (.str path)) failedWords
  | settingsSaved : TellsPath path (.settingsSaved (.str path)) savedWords

variable {path : String} {n : Notice} {words : List Char}

theorem TellsPath.exists_rest (h : TellsPath path n words) :
    ∃ rest, Leads 0 rest 1 ∧ committed [] rest = (words, []) ∧ '\t' ∉ words ∧
      ∀ clock, n.markup clock = .ok (String.ofList
        (textOf (lead clock rest) ++ (path.toList ++ closer))) := by
  cases h with
  | collectorFailed =>
    exact ⟨failedRest, leads_failedRest, committed_failedRest, by decide +kernel,
      fun _ => markup_collectorFailed path⟩
  | settingsSaved =>
    exact ⟨savedRest, leads_savedRest, committed_savedRest, by decide +kernel,
      fun _ => markup_settingsSaved path⟩

theorem leads_lead {rest : List Part} (hclock : IsTime clock.toList) (h : Leads 0 rest 1) :
    Leads 0 (lead clock rest) 1 :=
  .opening isStyle_dim <| .text (isPlain_clock hclock.isClock) <| .closing h

theorem committed_lead {rest : List Part} (hclock : IsTime clock.toList)
    (h : committed [] rest = (words, [])) :
    committed [] (lead clock rest) = (clock.toList ++ words, []) := by
  change (plainText [] ++ (plainText (clock.toList.reverse ++ []).reverse ++
    (committed [] rest).1), (committed [] rest).2) = _
  rw [h, List.append_nil, List.reverse_reverse, hclock.isShown.plainText_eq]
  rfl

theorem path_verbatim_iff (columns : Option ℕ) (hclock : IsTime clock.toList)
    (h : TellsPath path n words) :
    (n.line columns clock = .ok (clock.toList ++ words ++ path.toList ++ ['\n']) ↔
      IsShown path.toList ∧ Layout.laid columns (clock.toList ++ words ++ path.toList) =
        clock.toList ++ words ++ path.toList) ∧
      (NoTag path.toList → ∃ line, n.line columns clock = .ok line) := by
  obtain ⟨rest, hleads, hrest, htab, hmarkup⟩ := h.exists_rest
  have hlead := leads_lead hclock hleads
  have hwords := committed_lead hclock hrest
  have hline : n.line columns clock = ((shown columns (textOf (lead clock rest) ++
      (path.toList ++ closer))).mapError NoticeError.markup).map (· ++ ['\n']) := by
    rw [line, hmarkup, ok_bind, String.toList_ofList]
  constructor
  · have htab' : '\t' ∉ clock.toList ++ words := by
      rw [List.mem_append, not_or]
      exact ⟨fun hmem => (hclock.isShown.controls _ hmem).2 rfl, htab⟩
    rw [← shown_spliced_iff hlead hwords htab', hline, map_eq_ok]
    constructor
    · rintro ⟨text, htext, hsame⟩
      rw [← List.append_cancel_right hsame]
      exact mapError_eq_ok.mp htext
    · intro hshown
      exact ⟨_, mapError_eq_ok.mpr hshown, rfl⟩
  · intro tags
    obtain ⟨ps, -, -, hok⟩ := shown_spliced hlead hwords path.toList
    obtain ⟨text, htext⟩ := hok tags columns
    exact ⟨text ++ ['\n'], by rw [hline, htext]; rfl⟩

theorem path_verbatim_of_ordinary :
    IsTime "12:34:56".toList ∧
      TellsPath "config.toml" (.settingsSaved (.str "config.toml")) savedWords ∧
      (settingsSaved (.str "config.toml")).line (some 80) "12:34:56" =
        .ok ("12:34:56".toList ++ savedWords ++ "config.toml".toList ++ ['\n']) := by
  have hclock : IsTime "12:34:56".toList := .mk (by decide)
  refine ⟨hclock, .settingsSaved,
    (path_verbatim_iff (some 80) hclock .settingsSaved).1.mpr ⟨?_, ?_⟩⟩
  · exact isShown_of_isPlain (by decide) (by decide) (by decide +kernel)
  · exact Layout.laid_of_narrow (by decide) (by decide) (by decide +kernel) (by decide +kernel)

theorem path_not_verbatim :
    (∃ line, (settingsSaved (.str "a[b].toml")).line (some 80) "00:00:00" = .ok line ∧
      ¬ "a[b].toml".toList <:+: line) ∧
    (∀ line, (collectorFailed (.str "a[/]b")).line (some 80) "00:00:00" ≠ .ok line) ∧
    (settingsSaved (.str "/home/somebody/.config/cpu-residency/config.toml")).line
      (some 80) "00:00:00" = .ok ("00:00:00 [info] 💾 Config written to \n".toList ++
        "/home/somebody/.config/cpu-residency/config.toml\n".toList) := by
  refine ⟨?_, ?_, ?_⟩
  · refine ⟨"00:00:00 [info] 💾 Config written to a.toml\n".toList, ?_, by decide +kernel⟩
    rw [← toOption_eq_some]
    decide +kernel
  · intro line hline
    rw [← toOption_eq_some] at hline
    have hnone : ((collectorFailed (.str "a[/]b")).line (some 80) "00:00:00").toOption = none := by
      decide +kernel
    rw [hnone] at hline
    cases hline
  · rw [← toOption_eq_some]
    decide +kernel

end Lines

end Notice

end Residency
