import Residency.Console.Notice
import Residency.Fault
import Residency.Report
import Residency.Text.EscapeSequence

/-!
What a run leaves behind: the files, the exit code, all that it has printed, and those of its
records that are in the file of the log. The steps of a run are functions on outcomes, and one that
ends the run gives its outcome as the error.
-/
namespace Residency.CommandLine

structure Outcome where
  tree : FileTree
  exitCode : Nat := 0
  output : List Char := []
  errors : List Char := []
  console : List Char := []
  records : List LogRecord := []
  failure : Option Fault := none

namespace Outcome

def fail {α : Type} (o : Outcome) (f : Fault) : Except Outcome α :=
  .error { o with exitCode := 1, failure := some f }

def exit {α : Type} (o : Outcome) (code : Nat) : Except Outcome α :=
  .error { o with exitCode := code }

/-- Prints a text. Escape sequences are left out, since nothing printed goes to a terminal. -/
def print (o : Outcome) (s : List Char) : Outcome :=
  { o with output := o.output ++ Text.withoutEscapes s }

def printError (o : Outcome) (s : String) : Outcome :=
  { o with errors := o.errors ++ Text.withoutEscapes s.toList }

def report (o : Outcome) (r : Report) : Except Outcome Outcome :=
  let o := r.pieces.foldl print o
  match r.failure with
  | none => .ok o
  | some e => o.fail (.label e)

def notice (host : Host) (n : Notice) (o : Outcome) : Except Outcome Outcome :=
  match n.line host.columns host.clock with
  | .ok line => .ok { o with console := o.console ++ line }
  | .error e => o.fail (.notice e)

def log (host : Host) (limits : LogLimits) (events : List Event) (o : Outcome) : Outcome :=
  let l := ({ tree := o.tree, records := o.records } : LogState).addAll host limits
    (events.map Event.toRecord)
  { o with tree := l.tree, records := l.records }

def ofRun : Except Outcome Outcome → Outcome
  | .ok o => o
  | .error o => o

end Outcome

end Residency.CommandLine
