import Residency.Collector
import Residency.DraftMapping
import Residency.Json.Shown
import Residency.TableReader

/-!
Collectors with parameters that nobody has checked. Whatever a parameter is, the collector goes as
far as it can with it: default names may be values of any type, and the length of a tick only fails
when times are calculated with it.
-/
namespace Residency

structure DraftCollector where
  procPath : Path
  frequencies : FrequencyTable
  tick : Json
  mapping : DraftMapping
  minFrequencies : List Int
  defaultProcessName : Json
  defaultThreadName : Json

inductive DraftCollectorError where
  | draft (e : DraftError)
  | mapping (e : DraftMappingError)
  | arithmetic (e : ArithmeticError)
  | collector (e : CollectorError)

def DraftCollectorError.message : DraftCollectorError → String
  | .draft e => e.message
  | .mapping e => e.message
  | .arithmetic e => e.message
  | .collector e => e.message

/-- Whether a failure to make a collector is told in an event. Only values of a wrong type are told
otherwise. -/
def DraftCollectorError.isReported : DraftCollectorError → Bool
  | .collector _ | .mapping (.mapping _) | .mapping (.nonPositiveCount _) => true
  | _ => false

namespace Draft

/-- Makes the collector of a draft. The paths are looked at first, and the number of buckets when
there is a frequency table. -/
def collector (d : Draft) (source : StatsSource) : Except DraftCollectorError DraftCollector :=
  ((d.path .procPath).mapError .draft).bind fun procPath =>
    ((d.path .initialPath).mapError .draft).bind fun initial =>
      match FrequencyTable.ofSource? source initial with
      | none => .error (.collector (.noTable initial))
      | some frequencies =>
          ((DraftMapping.create frequencies (d.value .buckets)).mapError .mapping).bind
            fun mapping =>
              ((mapping.layout.minFrequencies.mapError CollectorError.mapping).mapError
                DraftCollectorError.collector).map fun minFrequencies =>
                { procPath := procPath
                  frequencies := frequencies
                  tick := d.value .tickMillis
                  mapping := mapping
                  minFrequencies := minFrequencies
                  defaultProcessName := d.value .processName
                  defaultThreadName := d.value .threadName }

def start (d : Draft) (source : StatsSource) :
    Except DraftCollectorError (Event × Option DraftCollector) :=
  match d.collector source, d.path .initialPath with
  | .ok c, _ => .ok (.collectorReady c.frequencies.length c.mapping.count, some c)
  | .error e, .ok initial =>
      if e.isReported then .ok (.collectorFailed initial e.message, none) else .error e
  | .error e, .error _ => .error e

end Draft

namespace DraftCollector

def threadRecord (c : DraftCollector) (r : ThreadReading) :
    Except DraftCollectorError ThreadRecord :=
  ((TableReader.millis c.tick r.ticks).mapError .arithmetic).bind fun times =>
    ((c.mapping.bucketValues times).mapError .mapping).map fun sums =>
      { id := .int r.id
        name := (r.name.map Json.str).getD c.defaultThreadName
        times := sums }

def usage (c : DraftCollector) (source : StatsSource) (process : Path) (pid uid : Json) :
    List Event × Except DraftCollectorError (Option ProcessRecord) :=
  match scanProcess c.frequencies source (fun e => .collector (.scan e)) c.threadRecord process with
  | (events, .error e) => (events, .error e)
  | (events, .ok none) => (events, .ok none)
  | (events, .ok (some r)) =>
      (events ++ [.threadsRead pid r.threads.length],
        .ok (some { id := pid
                    name := (r.name.map Json.str).getD c.defaultProcessName
                    uid := uid
                    threads := r.threads }))

def pidUsage (c : DraftCollector) (source : StatsSource) (owner : Int → Owner) (pid : Json)
    (uid : Option Json) : List Event × Except DraftCollectorError (Option ProcessRecord) :=
  let ofUid (uid : Json) :=
    if pid.isWritable then c.usage source (c.procPath ++ pid.displayed) pid uid
    else ([], .error (.collector .pidTooLong))
  match uid, pid.whole?, pid with
  | some uid, _, _ => ofUid uid
  | none, some n, _ =>
      if n < 0 then ([], .error (.collector (.negativePid n)))
      else match owner n with
        | .known uid => ofUid (.int uid)
        | .gone | .denied => ([], .ok none)
  | none, none, .null | none, none, .float _ => ([], .ok none)
  | none, none, v => ([], .error (.draft (.notComparable "<" v)))

def currentUsage (c : DraftCollector) (source : StatsSource) (pid uid : Int) :
    List Event × Except DraftCollectorError (Option ProcessRecord) :=
  c.usage source (c.procPath ++ "self") (.int pid) (.int uid)

end DraftCollector

end Residency
