import Residency.Path

namespace Residency

inductive Section where
  | collector
  | names
  | logging
  deriving DecidableEq, Repr

def Section.all : List Section :=
  [.collector, .names, .logging]

def Section.name : Section → String
  | .collector => "collector"
  | .names => "names"
  | .logging => "logging"

inductive Setting where
  | procPath
  | initialPath
  | buckets
  | tickMillis
  | processName
  | threadName
  | logBytes
  | logBackups
  deriving DecidableEq, Repr

namespace Setting

def all : List Setting :=
  [.procPath, .initialPath, .buckets, .tickMillis, .processName, .threadName, .logBytes,
    .logBackups]

def home : Setting → Section
  | .procPath | .initialPath | .buckets | .tickMillis => .collector
  | .processName | .threadName => .names
  | .logBytes | .logBackups => .logging

def key : Setting → String
  | .procPath => "proc_path"
  | .initialPath => "initial_time_in_state_path"
  | .buckets => "num_buckets"
  | .tickMillis => "time_unit_millis"
  | .processName => "default_process_name"
  | .threadName => "default_thread_name"
  | .logBytes => "log_max_bytes"
  | .logBackups => "log_backup_count"

def minimum : Setting → Int
  | .logBackups => 0
  | _ => 1

def find? (name key : String) : Option Setting :=
  all.find? fun s => s.home.name == name && s.key == key

theorem mem_all (s : Setting) : s ∈ all := by
  cases s <;> decide

end Setting

structure Settings where
  procPath : String := "/proc"
  initialPath : String := "/proc/self/time_in_state"
  buckets : Int := 8
  tickMillis : Int := 10
  processName : String := "unknown_process"
  threadName : String := "unknown_thread"
  logBytes : Int := 5242880
  logBackups : Int := 3
  deriving DecidableEq, Repr

namespace Settings

def InRange (s : Settings) : Prop :=
  Setting.buckets.minimum ≤ s.buckets ∧ Setting.tickMillis.minimum ≤ s.tickMillis ∧
    Setting.logBytes.minimum ≤ s.logBytes ∧ Setting.logBackups.minimum ≤ s.logBackups

instance (s : Settings) : Decidable s.InRange := by
  unfold InRange
  infer_instance

theorem inRange_default : ({} : Settings).InRange := by
  decide

def directory (home : Path) : Path := home ++ ".config" ++ "cpu-residency"

def filePath (home : Path) : Path := directory home ++ "config.toml"

def stateDirectory (home : Path) : Path := home ++ ".local" ++ "state" ++ "cpu-residency"

def logName : String := "cpu-residency.log"

def logPath (home : Path) : Path := stateDirectory home ++ logName

/-- The file of a number before the log: the one with the least number is the newest. -/
def backupPath (home : Path) (n : Nat) : Path :=
  stateDirectory home ++ (logName ++ "." ++ String.ofList (Nat.toDigits 10 n))

end Settings

end Residency
