import Residency.BucketMapping
import Residency.Snapshot
import Residency.ThreadScan

/-!
The collector. It keeps the frequency table of its initial file and reads the usage of every thread
of a process, bucket by bucket. Processes and threads may go away at any moment: a thread that
cannot be read is left out, and a process without a readable thread has no usage.
-/
namespace Residency

structure CollectorOptions where
  procPath : Path := .ofString "/proc"
  initial : Path := .ofString "/proc/self/time_in_state"
  buckets : Int := 8
  tickMillis : Int := 10
  defaultProcessName : String := "unknown_process"
  defaultThreadName : String := "unknown_thread"

structure Collector where
  procPath : Path
  frequencies : FrequencyTable
  tickMillis : Int
  mapping : BucketMapping
  minFrequencies : List Int
  defaultProcessName : String
  defaultThreadName : String

inductive CollectorError where
  | noTable (initial : Path)
  | mapping (e : MappingError)
  | scan (e : ScanError)
  | negativePid (pid : Int)
  | pidTooLong
  deriving DecidableEq, Repr

def CollectorError.message : CollectorError → String
  | .noTable initial => noTableMessage initial
  | .mapping e => e.message
  | .scan e => e.message
  | .negativePid pid => match Number.decimal? pid with
    | some s => "pid must be a positive integer (got " ++ s ++ ")"
    | none => Number.notWritableMessage
  | .pidTooLong => Number.notWritableMessage

inductive Owner where
  | known (uid : Int)
  | gone
  | denied
  deriving DecidableEq, Repr

namespace Collector

def create (source : StatsSource) (options : CollectorOptions) : Except CollectorError Collector :=
  match FrequencyTable.ofSource? source options.initial with
  | none => .error (.noTable options.initial)
  | some frequencies =>
      ((BucketMapping.create frequencies options.buckets).bind fun mapping =>
        mapping.minFrequencies.map fun minFrequencies =>
          { procPath := options.procPath
            frequencies := frequencies
            tickMillis := options.tickMillis
            mapping := mapping
            minFrequencies := minFrequencies
            defaultProcessName := options.defaultProcessName
            defaultThreadName := options.defaultThreadName : Collector }).mapError .mapping

def bucketTimes (c : Collector) (ticks : List Int) : Except CollectorError (List Int) :=
  (c.mapping.bucketValues (ticks.map (· * c.tickMillis))).mapError .mapping

def threadUsage (c : Collector) (r : ThreadReading) : Except CollectorError ThreadUsage :=
  (c.bucketTimes r.ticks).map fun times =>
    { id := r.id, name := r.name.getD c.defaultThreadName, times := times }

def usage (c : Collector) (source : StatsSource) (process : Path) (pid uid : Int) :
    List Event × Except CollectorError (Option ProcessUsage) :=
  match scanProcess c.frequencies source .scan c.threadUsage process with
  | (events, .error e) => (events, .error e)
  | (events, .ok none) => (events, .ok none)
  | (events, .ok (some r)) =>
      (events ++ [.threadsRead (.int pid) r.threads.length],
        .ok (some { id := pid, name := r.name.getD c.defaultProcessName, uid := uid,
                    threads := r.threads }))

def pidUsage (c : Collector) (source : StatsSource) (owner : Int → Owner) (pid : Int)
    (uid : Option Int) : List Event × Except CollectorError (Option ProcessUsage) :=
  let ofUid (uid : Int) :=
    match Number.decimal? pid with
    | none => ([], .error .pidTooLong)
    | some name => c.usage source (c.procPath ++ name) pid uid
  match uid with
  | some uid => ofUid uid
  | none =>
      if pid < 0 then ([], .error (.negativePid pid))
      else match owner pid with
        | .known uid => ofUid uid
        | .gone | .denied => ([], .ok none)

def currentUsage (c : Collector) (source : StatsSource) (pid uid : Int) :
    List Event × Except CollectorError (Option ProcessUsage) :=
  c.usage source (c.procPath ++ "self") pid uid

end Collector

end Residency
