import Residency.Collector
import Residency.Settings

namespace Residency

namespace Settings

def options (s : Settings) : CollectorOptions :=
  { procPath := .ofString s.procPath
    initial := .ofString s.initialPath
    buckets := s.buckets
    tickMillis := s.tickMillis
    defaultProcessName := s.processName
    defaultThreadName := s.threadName }

end Settings

namespace Collector

def start (source : StatsSource) (options : CollectorOptions) : Event × Option Collector :=
  match create source options with
  | .ok c => (.collectorReady c.mapping.frequencies.length (.int c.mapping.count), some c)
  | .error e => (.collectorFailed options.initial e.message, none)

end Collector

end Residency
