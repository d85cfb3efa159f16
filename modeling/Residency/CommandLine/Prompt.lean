import Residency.Text.Blank
import Residency.Text.Case
import Residency.Text.Lines

/-!
The question whether to go on. It is asked until an answer is understood or the input ends; the
answers are shown after it, as they are typed.
-/
namespace Residency.CommandLine

def question : List Char :=
  "Reset config to defaults? [y/N]: ".toList

def invalidAnswer : List Char :=
  "Error: invalid input\n".toList

/-- What an answer means; no answer is a refusal. -/
def answer? (line : List Char) : Option Bool :=
  let word := Text.trim (Text.lowered line)
  if word = "y".toList ∨ word = "yes".toList then some true
  else if word = "n".toList ∨ word = "no".toList ∨ word = [] then some false
  else none

def confirm : List (List Char) → List Char × Bool
  | [] => (question, false)
  | line :: rest =>
      let asked := question ++ line ++ ['\n']
      match answer? line with
      | some b => (asked, b)
      | none =>
          let (more, b) := confirm rest
          (asked ++ invalidAnswer ++ more, b)

def inputLines (input : String) : List (List Char) :=
  let parts := (Text.universalNewlines input.toList).splitOnP (· == '\n')
  if parts.getLast? = some [] then parts.dropLast else parts

example : (confirm (inputLines "maybe\n Y ")).2 = true := by decide +kernel

end Residency.CommandLine
