import Residency.Number.Integer
import Residency.Text.Lines

/-!
The text of a `time_in_state` file: on each line a frequency in kilohertz and the time spent at it,
in clock ticks. Blank lines and the headers of clusters, which begin with `cpu`, are passed over.
-/
namespace Residency

structure Residence where
  frequency : Int
  time : Int
  deriving DecidableEq, Repr

inductive TimeInStateError where
  | malformedLine (line : String)
  | numeral (e : Number.IntegerError)
  deriving DecidableEq, Repr

def TimeInStateError.message : TimeInStateError → String
  | .malformedLine line => "Malformed time_in_state line: " ++ Text.quote line
  | .numeral e => e.message

namespace TimeInState

def isSkipped (line : List Char) : Bool :=
  line.isEmpty || ['c', 'p', 'u'].isPrefixOf line

def readLine (line : List Char) : Except TimeInStateError Residence :=
  match Text.words line with
  | [f, t] =>
      ((Number.readInteger f).mapError .numeral).bind fun frequency =>
        ((Number.readInteger t).mapError .numeral).map fun time => ⟨frequency, time⟩
  | _ => .error (.malformedLine (String.ofList line))

def readLines : List (List Char) → Except TimeInStateError (List Residence)
  | [] => .ok []
  | l :: ls =>
      let line := Text.trim l
      if isSkipped line then readLines ls
      else (readLine line).bind fun r => (readLines ls).map (r :: ·)

def parse (s : List Char) : Except TimeInStateError (List Residence) :=
  readLines (Text.lines s)

example : (parse "cpu0\n 100 5 \r\n\n200\t+7".toList).toOption = some [⟨100, 5⟩, ⟨200, 7⟩] := by
  decide +kernel

end TimeInState

end Residency
