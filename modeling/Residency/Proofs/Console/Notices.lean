import Residency.Console.Notice
import Residency.Proofs.Console.Markup
import Residency.Proofs.Numerals

namespace Residency

open Console Console.Markup

namespace Notice

def IsClock (clock : String) : Prop :=
  ∀ c ∈ clock.toList, c.isDigit = true ∨ c = ':'

instance (clock : String) : Decidable (IsClock clock) :=
  inferInstanceAs (Decidable (∀ c ∈ _, _))

theorem isStyle_dim : IsStyle "dim".toList :=
  ⟨.mk rfl (by decide) (by decide), nofun, by decide, by decide +kernel⟩

theorem isStyle_cyan : IsStyle "cyan".toList :=
  ⟨.mk rfl (by decide) (by decide), nofun, by decide, by decide +kernel⟩

theorem isStyle_blue : IsStyle "bright_blue".toList :=
  ⟨.mk rfl (by decide) (by decide), nofun, by decide, by decide +kernel⟩

theorem isStyle_boldGreen : IsStyle "bold green".toList :=
  ⟨.mk rfl (by decide) (by decide), nofun, by decide, by decide +kernel⟩

theorem isStyle_yellow : IsStyle "yellow".toList :=
  ⟨.mk rfl (by decide) (by decide), nofun, by decide, by decide +kernel⟩

theorem told_int {n : ℤ} (h : Number.isWritable n = true) :
    told (.int n) = .ok (String.ofList (Number.decimal n)) :=
  if_pos h

theorem ne_of_isDigit {c : Char} (h : c.isDigit = true) : c ≠ '[' ∧ c ≠ '\\' := by
  constructor <;> rintro rfl <;> exact absurd h (by decide)

theorem isPlain_decimal (n : ℤ) : IsPlain (Number.decimal n) := by
  intro c hc
  rcases Number.of_mem_decimal c hc with rfl | hdigit
  · decide
  · exact ne_of_isDigit hdigit

theorem isPlain_clock {clock : String} (h : IsClock clock) : IsPlain clock.toList := by
  intro c hc
  rcases h c hc with hd | rfl
  · exact ne_of_isDigit hd
  · decide

section Lines

variable {clock : String} (hclock : IsClock clock)

def readyParts (clock : String) (frequencies buckets : ℤ) : List Part :=
  [.tag "dim".toList, .text clock.toList, .tag ['/'], .text [' '], .tag "bright_blue".toList,
    .literal "info".toList, .tag ['/'], .text [' '], .tag "bold green".toList, .text ['✓'],
    .tag ['/'], .text " Collector ready: ".toList, .tag "cyan".toList,
    .text (Number.decimal frequencies), .tag ['/'], .text " frequencies in ".toList,
    .tag "cyan".toList, .text (Number.decimal buckets), .tag ['/'], .text " buckets".toList]

theorem markup_collectorReady {frequencies buckets : ℤ}
    (hf : Number.isWritable frequencies = true) (hb : Number.isWritable buckets = true) :
    (collectorReady (.int frequencies) (.int buckets)).markup clock =
      .ok (String.ofList (textOf (readyParts clock frequencies buckets))) := by
  have htext : (collectorReady (.int frequencies) (.int buckets)).text =
      .ok ("Collector ready: [cyan]" ++ String.ofList (Number.decimal frequencies) ++
        "[/] frequencies in [cyan]" ++ String.ofList (Number.decimal buckets) ++
        "[/] buckets") := by
    rw [text, told_int hf, told_int hb]
    rfl
  rw [markup, htext]
  change Except.ok ("[dim]" ++ clock ++ "[/] " ++ "[bright_blue]\\[info][/]" ++
    (" " ++ "[bold green]✓[/]") ++ " " ++ _) = _
  rw [Except.ok.injEq, ← String.toList_inj]
  simp [textOf, readyParts, Part.chars]

def takenParts (clock : String) (pid threads : ℤ) : List Part :=
  [.tag "dim".toList, .text clock.toList, .tag ['/'], .text [' '], .tag "bright_blue".toList,
    .literal "info".toList, .tag ['/'], .text " 📸 ".toList, .tag "dim".toList,
    .text "PID ".toList, .text (Number.decimal pid), .text ": ".toList,
    .text (Number.decimal threads), .text " thread".toList,
    .text (if threads = 1 then [] else ['s']), .tag ['/']]

theorem markup_snapshotTaken {pid threads : ℤ} (hp : Number.isWritable pid = true)
    (ht : Number.isWritable threads = true) :
    (snapshotTaken (.int pid) (.int threads)).markup clock =
      .ok (String.ofList (textOf (takenParts clock pid threads))) := by
  have htext : (snapshotTaken (.int pid) (.int threads)).text =
      .ok ("[dim]PID " ++ String.ofList (Number.decimal pid) ++ ": " ++
        String.ofList (Number.decimal threads) ++ " thread" ++
        (if threads = 1 then "" else "s") ++ "[/]") := by
    rw [text, told_int hp, told_int ht]
    change Except.ok ("[dim]PID " ++ _ ++ ": " ++ _ ++ " thread" ++
      (if (threads == 1) = true then "" else "s") ++ "[/]") = _
    simp only [beq_iff_eq]
  rw [markup, htext]
  change Except.ok ("[dim]" ++ clock ++ "[/] " ++ "[bright_blue]\\[info][/]" ++
    (" " ++ "📸") ++ " " ++ _) = _
  rw [Except.ok.injEq, ← String.toList_inj]
  by_cases hone : threads = 1 <;> simp [textOf, takenParts, Part.chars, hone]

def unavailableParts (clock : String) (pid : ℤ) : List Part :=
  [.tag "dim".toList, .text clock.toList, .tag ['/'], .text [' '], .tag "yellow".toList,
    .literal "warn".toList, .tag ['/'], .text " No usage available for PID ".toList,
    .text (Number.decimal pid), .text [' '], .tag "dim".toList,
    .text "(exited or unreadable)".toList, .tag ['/']]

theorem markup_snapshotUnavailable {pid : ℤ} (hp : Number.isWritable pid = true) :
    (snapshotUnavailable (.int pid)).markup clock =
      .ok (String.ofList (textOf (unavailableParts clock pid))) := by
  have htext : (snapshotUnavailable (.int pid)).text =
      .ok ("No usage available for PID " ++ String.ofList (Number.decimal pid) ++
        " [dim](exited or unreadable)[/]") := by
    rw [text, told_int hp]
    rfl
  rw [markup, htext]
  change Except.ok ("[dim]" ++ clock ++ "[/] " ++ "[yellow]\\[warn][/]" ++ "" ++ " " ++ _) = _
  rw [Except.ok.injEq, ← String.toList_inj]
  simp [textOf, unavailableParts, Part.chars]

theorem exists_line {n : Notice} {parts : List Part}
    (h : n.markup clock = .ok (String.ofList (textOf parts))) (hb : Balanced 0 parts)
    (columns : Option ℕ) : ∃ line, n.line columns clock = .ok line := by
  obtain ⟨text, htext⟩ := exists_shown hb
  refine ⟨Layout.laid columns text ++ ['\n'], ?_⟩
  rw [line, h, ok_bind, String.toList_ofList, htext]
  rfl

include hclock

theorem balanced_readyParts (frequencies buckets : ℤ) :
    Balanced 0 (readyParts clock frequencies buckets) :=
  .opening isStyle_dim <| .text (isPlain_clock hclock) <| .closing <| .text (by decide) <|
    .opening isStyle_blue <| .literal (.mk rfl (by decide) (by decide)) <| .closing <|
    .text (by decide) <| .opening isStyle_boldGreen <| .text (by decide) <| .closing <|
    .text (by decide) <| .opening isStyle_cyan <| .text (isPlain_decimal frequencies) <|
    .closing <| .text (by decide) <| .opening isStyle_cyan <| .text (isPlain_decimal buckets) <|
    .closing <| .text (by decide) <| .nil 0

theorem balanced_takenParts (pid threads : ℤ) : Balanced 0 (takenParts clock pid threads) := by
  refine .opening isStyle_dim <| .text (isPlain_clock hclock) <| .closing <| .text (by decide) <|
    .opening isStyle_blue <| .literal (.mk rfl (by decide) (by decide)) <| .closing <|
    .text (by decide) <| .opening isStyle_dim <| .text (by decide) <|
    .text (isPlain_decimal pid) <| .text (by decide) <| .text (isPlain_decimal threads) <|
    .text (by decide) <| .text ?_ <| .closing <| .nil 0
  split_ifs <;> decide

theorem balanced_unavailableParts (pid : ℤ) : Balanced 0 (unavailableParts clock pid) :=
  .opening isStyle_dim <| .text (isPlain_clock hclock) <| .closing <| .text (by decide) <|
    .opening isStyle_yellow <| .literal (.mk rfl (by decide) (by decide)) <| .closing <|
    .text (by decide) <| .text (isPlain_decimal pid) <| .text (by decide) <|
    .opening isStyle_dim <| .text (by decide) <| .closing <| .nil 0

end Lines

end Notice

end Residency
