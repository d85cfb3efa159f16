import Residency.Json.Arithmetic
import Residency.TableFile

/-!
Readers of times. A reader keeps a frequency table and the length of a clock tick in milliseconds,
which is a whole number as a rule but is not checked.
-/
namespace Residency

structure TableReader where
  frequencies : FrequencyTable
  tick : Json

def defaultTickMillis : Int := 10

namespace TableReader

def create? (source : StatsSource) (initial : Path) (tick : Json) : Option TableReader :=
  (FrequencyTable.ofSource? source initial).map fun fs => { frequencies := fs, tick := tick }

def millis (tick : Json) : List Int → Except ArithmeticError (List Json)
  | [] => .ok []
  | n :: ns => (Json.times n tick).bind fun v => (millis tick ns).map (v :: ·)

def read (r : TableReader) (source : StatsSource) (p : Path) :
    List Event × Except ArithmeticError (Option (List Json)) :=
  match r.frequencies.ticks source p with
  | (events, none) => (events, .ok none)
  | (events, some ticks) => (events, (millis r.tick ticks).map some)

theorem millis_int (tick : Int) (ticks : List Int) :
    millis (.int tick) ticks = .ok (ticks.map fun n => .int (n * tick)) := by
  induction ticks with
  | nil => rfl
  | cons n ns ih =>
      have step : Json.times n (.int tick) = .ok (.int (n * tick)) := rfl
      simp only [millis, step, ih, List.map_cons]
      rfl

end TableReader

end Residency
