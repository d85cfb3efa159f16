namespace Residency.CommandLine

inductive Command where
  | program
  | frequencies
  | snapshot
  | config
  | show
  | reset
  deriving DecidableEq, Repr

namespace Command

def words : Command → String
  | .program => "cpu-residency"
  | .frequencies => "cpu-residency frequencies"
  | .snapshot => "cpu-residency snapshot"
  | .config => "cpu-residency config"
  | .show => "cpu-residency config show"
  | .reset => "cpu-residency config reset"

def children : Command → List (String × Command)
  | .program => [("config", .config), ("frequencies", .frequencies), ("snapshot", .snapshot)]
  | .config => [("reset", .reset), ("show", .show)]
  | _ => []

def arguments : Command → String
  | .program | .config => "[OPTIONS] COMMAND [ARGS]..."
  | .snapshot => "[OPTIONS] [PID]"
  | .frequencies | .show | .reset => "[OPTIONS]"

def usageLine (c : Command) : String :=
  "Usage: " ++ c.words ++ " " ++ c.arguments ++ "\n"

def description : Command → List String
  | .program => [
      "  Per-thread CPU frequency residency snapshots.",
      "",
      "Options:",
      "  --version  Show the version and exit.",
      "  --help     Show this message and exit.",
      "",
      "Commands:",
      "  config       Manage configuration.",
      "  frequencies  Show the lowest frequency of each bucket.",
      "  snapshot     Show bucketed residency of every thread of PID (default:..."]
  | .frequencies => [
      "  Show the lowest frequency of each bucket.",
      "",
      "Options:",
      "  --help  Show this message and exit."]
  | .snapshot => [
      "  Show bucketed residency of every thread of PID (default: this process).",
      "",
      "Options:",
      "  -f, --format [table|json|csv]",
      "  --help                         Show this message and exit."]
  | .config => [
      "  Manage configuration.",
      "",
      "Options:",
      "  --help  Show this message and exit.",
      "",
      "Commands:",
      "  reset  Reset configuration to defaults.",
      "  show   Display current configuration."]
  | .show => [
      "  Display current configuration.",
      "",
      "Options:",
      "  --help  Show this message and exit."]
  | .reset => [
      "  Reset configuration to defaults.",
      "",
      "Options:",
      "  --yes   Confirm the action without prompting.",
      "  --help  Show this message and exit."]

def helpPage (c : Command) : String :=
  c.usageLine ++ "\n" ++ String.join (c.description.map (· ++ "\n"))

def hint (c : Command) : String :=
  "Try '" ++ c.words ++ " --help' for help.\n"

end Command

def versionLine : String :=
  "cpu-residency, version 0.1.0\n"

end Residency.CommandLine
