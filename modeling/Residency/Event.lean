import Residency.Json
import Residency.Path

namespace Residency

inductive Level where
  | debug
  | info
  | warning
  | error
  | critical
  deriving DecidableEq, Repr

def Level.name : Level → String
  | .debug => "debug"
  | .info => "info"
  | .warning => "warning"
  | .error => "error"
  | .critical => "critical"

inductive Event where
  | tableChanged (path : Path) (expected actual : Nat)
  | threadIdRejected (entry : String) (threads : Path)
  | threadsRead (pid : Json) (count : Nat)
  | collectorFailed (path : Path) (error : String)
  | collectorReady (frequencies : Nat) (buckets : Json)
  deriving DecidableEq

namespace Event

def level : Event → Level
  | .tableChanged .. => .warning
  | .threadIdRejected .. => .warning
  | .threadsRead .. => .debug
  | .collectorFailed .. => .error
  | .collectorReady .. => .info

def name : Event → String
  | .tableChanged .. => "time_in_state_table_changed"
  | .threadIdRejected .. => "thread_id_parse_failed"
  | .threadsRead .. => "thread_usages_read"
  | .collectorFailed .. => "collector_init_failed"
  | .collectorReady .. => "collector_initialized"

def fields : Event → List (String × Json)
  | .tableChanged path expected actual =>
      [("path", .str path.toString), ("expected", .int expected), ("actual", .int actual)]
  | .threadIdRejected entry threads => [("entry", .str entry), ("path", .str threads.toString)]
  | .threadsRead pid count => [("pid", pid), ("threads", .int count)]
  | .collectorFailed path error => [("path", .str path.toString), ("error", .str error)]
  | .collectorReady frequencies buckets =>
      [("frequencies", .int frequencies), ("buckets", buckets)]

end Event

end Residency
