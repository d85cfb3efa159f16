import Residency.Number.DecimalText
import Residency.Number.Integer

/-!
Short labels for table cells: a frequency in megahertz or gigahertz, a duration in milliseconds,
seconds, or minutes and seconds. Gigahertz and seconds are shown from the floating point quotient,
so a value beyond its range has no label.
-/
namespace Residency

inductive LabelError where
  | quotientTooLarge
  | integerTooLong
  deriving DecidableEq, Repr

def LabelError.message : LabelError → String
  | .quotientTooLarge => "integer division result too large for a float"
  | .integerTooLong => Number.notWritableMessage

namespace Label

def withUnit (n : Int) (unit : String) : Except LabelError String :=
  match Number.decimal? n with
  | some s => .ok (s ++ unit)
  | none => .error .integerTooLong

def frequency (khz : Int) : Except LabelError String :=
  if khz < 1000000 then withUnit (khz.fdiv 1000) "MHz"
  else match Number.Binary64.ofRatio false khz.natAbs 1000000 with
    | .infinite _ => .error .quotientTooLarge
    | ghz => .ok (String.ofList (ghz.fixedText 2) ++ "GHz")

def minutesAndSeconds (seconds : Nat) : String :=
  let secs := toString (seconds % 60)
  toString (seconds / 60) ++ "m" ++ (if seconds % 60 < 10 then "0" ++ secs else secs) ++ "s"

def duration (millis : Int) : Except LabelError String :=
  if millis < 1000 then withUnit millis "ms"
  else match Number.Binary64.ofRatio false millis.natAbs 1000 with
    | .infinite _ => .error .quotientTooLarge
    | seconds =>
        if seconds.isBelow 60 then .ok (String.ofList (seconds.fixedText 1) ++ "s")
        else .ok (minutesAndSeconds seconds.floorAbs)

example : (frequency 1805000).toOption = some "1.80GHz" := by decide +kernel

example : (duration 307999).toOption = some "5m07s" := by decide +kernel

end Label

end Residency
