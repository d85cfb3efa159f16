import Residency.CommandLine.Command
import Residency.Number.Integer
import Residency.Text.Similarity

/-!
The arguments of a command. Options may stand among the other arguments up to `--`; a command that
holds others reads options only up to the first argument that is none, which names one of them.
-/
namespace Residency.CommandLine

inductive Switch where
  | help
  | version
  | format
  | yes
  deriving DecidableEq, Repr

def Switch.takesValue : Switch → Bool
  | .format => true
  | _ => false

def Command.longOptions : Command → List (String × Switch)
  | .program => [("--version", .version), ("--help", .help)]
  | .snapshot => [("--format", .format), ("--help", .help)]
  | .reset => [("--yes", .yes), ("--help", .help)]
  | .frequencies | .config | .show => [("--help", .help)]

def Command.shortOptions : Command → List (Char × Switch)
  | .snapshot => [('f', .format)]
  | _ => []

inductive Format where
  | table
  | json
  | csv
  deriving DecidableEq, Repr

def Format.names : List (String × Format) :=
  [("table", .table), ("json", .json), ("csv", .csv)]

inductive UsageError where
  | noSuchOption (name : String) (similar : List String)
  | needsValue (name : String)
  | takesNoValue (name : String)
  | noSuchFormat (value : String)
  | notInteger (value : String)
  | extraArguments (values : List String)
  | missingCommand
  | noSuchCommand (name : String) (similar : List String)
  deriving DecidableEq, Repr

def proposal : List String → String
  | [] => ""
  | [name] => " Did you mean " ++ Text.quote name ++ "?"
  | names => " (Did you mean one of: " ++ ", ".intercalate (names.map Text.quote) ++ "?)"

def UsageError.message : UsageError → String
  | .noSuchOption name similar => "No such option " ++ Text.quote name ++ "." ++ proposal similar
  | .needsValue name => "Option " ++ Text.quote name ++ " requires an argument."
  | .takesNoValue name => "Option " ++ Text.quote name ++ " does not take a value."
  | .noSuchFormat value =>
      "Invalid value for '--format' / '-f': " ++ Text.quote value ++
        " is not one of 'table', 'json', 'csv'."
  | .notInteger value =>
      "Invalid value for '[PID]': " ++ Text.quote value ++ " is not a valid integer."
  | .extraArguments [value] => "Got unexpected extra argument (" ++ value ++ ")"
  | .extraArguments values =>
      "Got unexpected extra arguments (" ++ " ".intercalate values ++ ")"
  | .missingCommand => "Missing command."
  | .noSuchCommand name similar => "No such command " ++ Text.quote name ++ "." ++ proposal similar

def UsageError.showsUsage : UsageError → Bool
  | .needsValue _ | .takesNoValue _ => false
  | _ => true

def similarNames (name : String) (names : List String) : List String :=
  (names.filter fun n => Text.isClose n.toList name.toList).mergeSort fun a b => !(b < a)

structure Parsed where
  options : List (Switch × String) := []
  others : List String := []
  deriving DecidableEq, Repr

inductive ShortReading where
  | flags (switches : List Switch)
  | value (switches : List Switch) (s : Switch) (value : List Char)
  | needsNext (switches : List Switch) (s : Switch) (name : Char)
  | unknown (name : Char)
  deriving DecidableEq, Repr

def readShort (c : Command) (before : List Switch) : List Char → ShortReading
  | [] => .flags before
  | ch :: rest => match c.shortOptions.lookup ch with
    | none => .unknown ch
    | some s =>
        if !s.takesValue then readShort c (before ++ [s]) rest
        else if rest.isEmpty then .needsNext before s ch
        else .value before s rest

def splitValue (arg : String) : String × Option String :=
  let name := arg.toList.takeWhile (· ≠ '=')
  match arg.toList.drop name.length with
  | _ :: value => (String.ofList name, some (String.ofList value))
  | [] => (String.ofList name, none)

def isOption (arg : String) : Bool :=
  match arg.toList with
  | '-' :: _ :: _ => true
  | _ => false

inductive OptionReading where
  | complete (options : List (Switch × String))
  | needsNext (options : List (Switch × String)) (s : Switch) (name : String)
  deriving DecidableEq, Repr

/-- Reads an argument that looks like an option. One that is no long option is read as a dash and
short options unless it begins with two dashes. -/
def readOption (c : Command) (arg : String) : Except UsageError OptionReading :=
  let (name, value) := splitValue arg
  match c.longOptions.lookup name, value with
  | some s, some v =>
      if s.takesValue then .ok (.complete [(s, v)]) else .error (.takesNoValue name)
  | some s, none => .ok (if s.takesValue then .needsNext [] s name else .complete [(s, "")])
  | none, _ =>
      if ['-', '-'].isPrefixOf arg.toList then
        .error (.noSuchOption name (similarNames name (c.longOptions.map (·.1))))
      else match readShort c [] arg.toList.tail with
        | .unknown ch => .error (.noSuchOption (String.ofList ['-', ch]) [])
        | .flags switches => .ok (.complete (switches.map (·, "")))
        | .value switches s v => .ok (.complete (switches.map (·, "") ++ [(s, String.ofList v)]))
        | .needsNext switches s ch =>
            .ok (.needsNext (switches.map (·, "")) s (String.ofList ['-', ch]))

def readArguments (c : Command) : List String → Except UsageError Parsed
  | [] => .ok {}
  | arg :: rest =>
      if arg = "--" then .ok { others := rest }
      else if isOption arg then
        (readOption c arg).bind fun
          | .complete options => (readArguments c rest).map fun p =>
              { p with options := options ++ p.options }
          | .needsNext options s name => match rest with
            | [] => .error (.needsValue name)
            | value :: rest => (readArguments c rest).map fun p =>
                { p with options := options ++ (s, value) :: p.options }
      else if c.children.isEmpty then
        (readArguments c rest).map fun p => { p with others := arg :: p.others }
      else .ok { others := arg :: rest }

end Residency.CommandLine
