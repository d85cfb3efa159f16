import Residency.Console.Markup
import Residency.Json.Printer
import Residency.Json.Shown

/-!
Notices for the user. Each is one markup text with the time of day, its level, perhaps an icon, and
a message; the message is markup too. The text goes to the standard error stream and is broken at
the width of the console there; colours are not shown.
-/
namespace Residency

inductive Icon where
  | ok
  | fail
  | snapshot
  | save
  deriving DecidableEq, Repr

def Icon.markup : Icon → String
  | .ok => "[bold green]✓[/]"
  | .fail => "[bold red]✗[/]"
  | .snapshot => "📸"
  | .save => "💾"

inductive Notice where
  | message (level text icon : Json)
  | collectorReady (frequencies buckets : Json)
  | collectorFailed (path : Json)
  | snapshotTaken (pid threads : Json)
  | snapshotUnavailable (pid : Json)
  | settingsSaved (path : Json)

inductive NoticeError where
  | markup (e : Console.MarkupError)
  | integerTooLong
  | notLevel (v : Json)

def NoticeError.message : NoticeError → String
  | .markup e => e.message
  | .integerTooLong => Number.notWritableMessage
  | .notLevel v => "unhashable type: '" ++ v.typeName ++ "'"

namespace Notice

def told (v : Json) : Except NoticeError String :=
  if v.isWritable then .ok v.displayed else .error .integerTooLong

def levelMarkup : Json → Except NoticeError String
  | .str "info" => .ok "[bright_blue]\\[info][/]"
  | .str "warn" => .ok "[yellow]\\[warn][/]"
  | .str "error" => .ok "[bold red]\\[err][/] "
  | .arr items => .error (.notLevel (.arr items))
  | .obj members => .error (.notLevel (.obj members))
  | level => (told level).map fun s => "[" ++ s ++ "]"

def level : Notice → Json
  | .message level .. => level
  | .collectorReady .. => .str "info"
  | .collectorFailed .. => .str "error"
  | .snapshotTaken .. => .str "info"
  | .snapshotUnavailable .. => .str "warn"
  | .settingsSaved .. => .str "info"

def icon : Notice → Json
  | .message _ _ icon => icon
  | .collectorReady .. => .str Icon.ok.markup
  | .collectorFailed .. => .str Icon.fail.markup
  | .snapshotTaken .. => .str Icon.snapshot.markup
  | .snapshotUnavailable .. => .null
  | .settingsSaved .. => .str Icon.save.markup

def text : Notice → Except NoticeError String
  | .message _ text _ => told text
  | .collectorReady frequencies buckets => do
      let frequencies ← told frequencies
      let buckets ← told buckets
      return "Collector ready: [cyan]" ++ frequencies ++ "[/] frequencies in [cyan]" ++ buckets ++
        "[/] buckets"
  | .collectorFailed path =>
      (told path).map fun path => "Can't read frequency table from [cyan]" ++ path ++ "[/]"
  | .snapshotTaken pid threads => do
      let suffix := if threads.equals (.int 1) then "" else "s"
      let pid ← told pid
      let threads ← told threads
      return "[dim]PID " ++ pid ++ ": " ++ threads ++ " thread" ++ suffix ++ "[/]"
  | .snapshotUnavailable pid =>
      (told pid).map fun pid =>
        "No usage available for PID " ++ pid ++ " [dim](exited or unreadable)[/]"
  | .settingsSaved path => (told path).map fun path => "Config written to [cyan]" ++ path ++ "[/]"

def markup (clock : String) (n : Notice) : Except NoticeError String := do
  let level ← levelMarkup n.level
  let icon ← if n.icon.countsAsTrue then (told n.icon).map (" " ++ ·) else .ok ""
  let text ← n.text
  return "[dim]" ++ clock ++ "[/] " ++ level ++ icon ++ " " ++ text

def line (columns : Option Nat) (clock : String) (n : Notice) : Except NoticeError (List Char) :=
  (n.markup clock).bind fun markup =>
    ((Console.Markup.shown columns markup.toList).mapError .markup).map (· ++ ['\n'])

example : ((collectorReady (.int 6) (.int 4)).line none "00:00:00").toOption.map String.ofList =
    some "00:00:00 [info] ✓ Collector ready: 6 frequencies in 4 buckets\n" := by decide +kernel

end Notice

end Residency
