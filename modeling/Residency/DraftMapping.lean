import Residency.BucketMapping
import Residency.Json.Arithmetic
import Residency.Number.DecimalText
import Residency.Settings.Draft

/-!
Bucket mappings for a number of buckets that nobody has checked. A truth value counts as one or
zero. A floating point number serves where it asks for more buckets than a cluster has slots, since
each cluster then has as many buckets as slots; one that asks for a single bucket gives a mapping
too, but no list of sums can be made for it.
-/
namespace Residency

structure DraftMapping where
  layout : BucketMapping
  littleBuckets : Json
  bigBuckets : Json
  littleSize : Json
  bigSize : Json
  count : Json

inductive DraftMappingError where
  | count (e : DraftError)
  | fractionalCount
  | nonPositiveCount (shown : String)
  | fractionalLength
  | mapping (e : MappingError)
  | arithmetic (e : ArithmeticError)

def DraftMappingError.message : DraftMappingError → String
  | .count e => e.message
  | .fractionalCount => "'float' object cannot be interpreted as an integer"
  | .nonPositiveCount shown => "num_buckets must be > 0, got " ++ shown
  | .fractionalLength => "can't multiply sequence by non-int of type 'float'"
  | .mapping e => e.message
  | .arithmetic e => e.message

namespace DraftMapping

def ofLayout (m : BucketMapping) : DraftMapping :=
  { layout := m
    littleBuckets := .int m.littleBuckets
    bigBuckets := .int m.bigBuckets
    littleSize := .int m.littleSize
    bigSize := .int m.bigSize
    count := .int m.count }

def floating (n : Nat) : Json :=
  .float (Number.Binary64.ofInt n)

def single (frequencies : FrequencyTable) (x : Number.Binary64) : Option DraftMapping :=
  let s := frequencies.split
  let n := frequencies.length
  let m := ofLayout (BucketMapping.layout frequencies 1)
  let isOne := x == .ofInt 1
  if s = n then
    if isOne then
      some { m with littleBuckets := .float x, littleSize := floating n, count := .float x }
    else none
  else if isOne then
    some { m with littleBuckets := floating 0, bigBuckets := .float x,
                  bigSize := floating (n - s), count := .float x }
  else if n - s = 1 ∧ x.isAbove 1 ∧ x.isBelow 2 then
    some { m with littleBuckets := floating 0, count := floating 1 }
  else none

/-- The whole number of buckets that a positive floating point number comes to, when it asks for
more buckets than there are slots in each cluster. -/
def ample? (frequencies : FrequencyTable) (x : Number.Binary64) : Option Nat :=
  let s := frequencies.split
  let n := frequencies.length
  let half := x.floorAbs / 2
  if s = n then if x.isAbove n then some n else none
  else if s < half ∧ x.isAbove (half + (n - s)) then some x.floorAbs
  else none

def ofFloating (frequencies : FrequencyTable) (x : Number.Binary64) :
    Except DraftMappingError DraftMapping :=
  if x ≠ .nan ∧ !x.isAbove 0 then .error (.nonPositiveCount (String.ofList x.text))
  else match single frequencies x, ample? frequencies x with
    | some m, _ => .ok m
    | none, some n => .ok (ofLayout (BucketMapping.layout frequencies n))
    | none, none => .error .fractionalCount

/-- The mapping of a table for a number of buckets. A truth value is shown where it stands for the
number of buckets of the only cluster. -/
def create (frequencies : FrequencyTable) : Json → Except DraftMappingError DraftMapping
  | .int n => ((BucketMapping.create frequencies n).mapError .mapping).map ofLayout
  | .bool false => .error (.nonPositiveCount "False")
  | .bool true =>
      let m := ofLayout (BucketMapping.layout frequencies 1)
      .ok (if frequencies.split = frequencies.length then { m with littleBuckets := .bool true }
        else m)
  | .float x => ofFloating frequencies x
  | v => .error (.count (.notComparable "<=" v))

def addFrom (m : BucketMapping) :
    Nat → List Json → List Json → Except DraftMappingError (List Json)
  | _, [], sums => .ok sums
  | slot, v :: vs, sums =>
      ((m.bucketOf slot).mapError .mapping).bind fun b =>
        match BucketMapping.index? sums.length b with
        | none => .error (.mapping .bucketIndex)
        | some k => ((Json.plusTo (sums.getD k (.int 0)) v).mapError .arithmetic).bind fun w =>
            addFrom m (slot + 1) vs (sums.set k w)

def bucketValues (m : DraftMapping) (values : List Json) :
    Except DraftMappingError (List Json) :=
  match m.count with
  | .float _ => .error .fractionalLength
  | _ =>
      if m.layout.count = 1 then ((Json.sum values).mapError .arithmetic).map ([·])
      else addFrom m.layout 0 values (List.replicate m.layout.count.toNat (.int 0))

end DraftMapping

end Residency
