import Residency.CommandLine.Arguments

/-!
What the user asks for. Among the options the ones that show a page count before all others, then
the other options, and then the arguments.
-/
namespace Residency.CommandLine

inductive Request where
  | help (c : Command)
  | nothing (c : Command)
  | version
  | frequencies
  | snapshot (pid : Option Int) (format : Format)
  | show
  | reset (confirmed : Bool) (extra : List String)
  deriving DecidableEq, Repr

def Request.needsCollector : Request → Bool
  | .frequencies | .snapshot .. => true
  | _ => false

structure Misuse where
  command : Command
  error : UsageError
  deriving DecidableEq, Repr

def Parsed.page? (p : Parsed) (c : Command) : Option Request :=
  p.options.findSome? fun
    | (.help, _) => some (.help c)
    | (.version, _) => some .version
    | _ => none

/-- The format asked for: the last one counts, and without any it is a table. -/
def Parsed.format (p : Parsed) : Except UsageError Format :=
  match p.options.reverse.lookup .format with
  | none => .ok .table
  | some name => match Format.names.lookup name with
    | some f => .ok f
    | none => .error (.noSuchFormat name)

def readSnapshot (p : Parsed) : Except UsageError Request :=
  p.format.bind fun format => match p.others with
    | [] => .ok (.snapshot none format)
    | arg :: extra => match Number.readInteger arg.toList with
      | .error _ => .error (.notInteger arg)
      | .ok pid =>
          if extra.isEmpty then .ok (.snapshot (some pid) format)
          else .error (.extraArguments extra)

def withoutArguments (p : Parsed) (r : Request) : Except UsageError Request :=
  if p.others.isEmpty then .ok r else .error (.extraArguments p.others)

def readLeaf (c : Command) (args : List String) : Except Misuse Request :=
  ((readArguments c args).bind fun p => match p.page? c with
    | some page => .ok page
    | none => match c with
      | .snapshot => readSnapshot p
      | .frequencies => withoutArguments p .frequencies
      | .show => withoutArguments p .show
      | .reset => .ok (.reset ((p.options.lookup .yes).isSome) p.others)
      | .program | .config => .error .missingCommand).mapError (⟨c, ·⟩)

/-- The request of a command that holds others: its first argument names one of them. An argument
after `--` that looks like an option is read as one after all. -/
def readGroup (c : Command) (readChild : Command → List String → Except Misuse Request)
    (args : List String) : Except Misuse Request :=
  if args.isEmpty then .ok (.nothing c)
  else match readArguments c args with
    | .error e => .error ⟨c, e⟩
    | .ok p => match p.page? c, p.others with
      | some page, _ => .ok page
      | none, [] => .error ⟨c, .missingCommand⟩
      | none, name :: rest => match c.children.lookup name with
        | some child => readChild child rest
        | none =>
            let unknown := UsageError.noSuchCommand name (similarNames name (c.children.map (·.1)))
            if isOption name then
              match readArguments c (name :: rest) with
              | .error e => .error ⟨c, e⟩
              | .ok p => match p.page? c with
                | some page => .ok page
                | none => .error ⟨c, unknown⟩
            else .error ⟨c, unknown⟩

def Request.ofArguments : List String → Except Misuse Request :=
  readGroup .program fun
    | .config => readGroup .config readLeaf
    | c => readLeaf c

end Residency.CommandLine
