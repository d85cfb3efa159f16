import Residency.Event
import Residency.FrequencyTable
import Residency.StatsSource

namespace Residency

def noTableMessage (p : Path) : String :=
  "No frequencies readable from " ++ p.toString

namespace FrequencyTable

def ofSource? (source : StatsSource) (initial : Path) : Option FrequencyTable :=
  match source.residences initial with
  | none | some [] => none
  | some rs => some (rs.map (·.frequency))

def ticks (fs : FrequencyTable) (source : StatsSource) (p : Path) :
    List Event × Option (List Int) :=
  match source.residences p with
  | none => ([], none)
  | some rs =>
      if rs.map (·.frequency) = fs then ([], some (rs.map (·.time)))
      else ([.tableChanged p fs.length rs.length], none)

theorem length_of_ticks {fs : FrequencyTable} {source : StatsSource} {p : Path}
    {events : List Event} {ticks : List Int}
    (h : fs.ticks source p = (events, some ticks)) : ticks.length = fs.length := by
  unfold FrequencyTable.ticks at h
  split at h
  · simp at h
  · split at h
    · next rs _ hf =>
        simp only [Prod.mk.injEq, Option.some.injEq] at h
        simp [← h.2, ← hf]
    · simp at h

end FrequencyTable

end Residency
