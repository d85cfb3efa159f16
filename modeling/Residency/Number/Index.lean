import Residency.Number.Integer

/-!
Numbers as positions and lengths. An index fits a signed word of 64 bits, and a list or a text that
would be longer than the memory allows cannot be made.
-/
namespace Residency.Number

def maxIndex : Nat := Nat.pow 2 63 - 1

def isIndexSized (i : Int) : Bool :=
  -(maxIndex : Int) - 1 ≤ i && i ≤ maxIndex

def notIndexSizedMessage : String :=
  "cannot fit 'int' into an index-sized integer"

/-- The length of a list or a text for which there is no memory. -/
def memoryLimit : Nat := Nat.pow 2 34

end Residency.Number
