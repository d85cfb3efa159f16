import Residency.Record

namespace Residency

structure ThreadUsage where
  id : Int
  name : String
  times : List Int
  deriving DecidableEq, Repr

structure ProcessUsage where
  id : Int
  name : String
  uid : Int
  threads : List ThreadUsage
  deriving DecidableEq, Repr

def ThreadUsage.toRecord (t : ThreadUsage) : ThreadRecord :=
  { id := .int t.id, name := .str t.name, times := t.times.map .int }

def sumTimes : List (List Int) → List Int
  | [] => []
  | [times] => times
  | times :: rest => List.zipWith (· + ·) times (sumTimes rest)

namespace ProcessUsage

def toRecord (p : ProcessUsage) : ProcessRecord :=
  { id := .int p.id, name := .str p.name, uid := .int p.uid,
    threads := p.threads.map ThreadUsage.toRecord }

def toJson (p : ProcessUsage) : Json :=
  p.toRecord.toJson

def total (p : ProcessUsage) : List Int :=
  sumTimes (p.threads.map (·.times))

end ProcessUsage

end Residency
