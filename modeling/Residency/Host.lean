import Residency.Collector

namespace Residency

/-- The calling process with its owner, the user's directory, and the owners of other processes as
far as they can be looked up. A run takes no time: all notices have one clock and all lines of the
log one stamp. `depth` is how deep a record of the log may nest, which the interpreter's recursion
limit decides, and `columns` is the width of the console. -/
structure Host where
  pid : Int
  uid : Int
  clock : String
  home : Path
  owner : Int → Owner
  stamp : String := "1970-01-01T" ++ clock ++ ".000000"
  depth : Nat := 970
  columns : Option Nat := none

end Residency
