import Residency.FrequencyTable
import Residency.Number.Index

/-!
Bucket mappings. The slots of a frequency table are grouped into buckets of equally many slots,
the little cores' slots apart from the big cores'; the slots left over at the end of a cluster go
to its last bucket.
-/
namespace Residency

/-- How the slots of a table are grouped. A mapping made by `BucketMapping.create` fits its table;
one whose fields are chosen freely may not, and then its operations report what is wrong. -/
structure BucketMapping where
  frequencies : FrequencyTable
  bigStart : Int
  littleBuckets : Int
  bigBuckets : Int
  littleSize : Int
  bigSize : Int
  deriving DecidableEq, Repr

inductive MappingError where
  | nonPositiveCount (requested : Int)
  | wrongLength (expected actual : Nat)
  | divisionByZero
  | frequencyIndex
  | bucketIndex
  | indexTooLarge
  | countTooLarge
  | outOfMemory
  deriving DecidableEq, Repr

def MappingError.message : MappingError → String
  | .nonPositiveCount n =>
      match Number.decimal? n with
      | some s => "num_buckets must be > 0, got " ++ s
      | none => Number.notWritableMessage
  | .wrongLength expected actual =>
      "Expected " ++ toString expected ++ " values, got " ++ toString actual
  | .divisionByZero => "integer division or modulo by zero"
  | .frequencyIndex => "tuple index out of range"
  | .bucketIndex => "list index out of range"
  | .indexTooLarge | .countTooLarge => Number.notIndexSizedMessage
  | .outOfMemory => ""

namespace BucketMapping

def bucketSize (slots buckets : Nat) : Nat :=
  if buckets = 0 then 0 else slots / buckets

/-- The number of buckets of the little and of the big cluster for `n` slots split at `s`: all
buckets go to the only cluster, or half of them, rounded down, to the little one; a cluster gets
no more buckets than it has slots. -/
def clusterBuckets (s n requested : Nat) : Nat × Nat :=
  if s < n then (min (requested / 2) s, min (requested - requested / 2) (n - s))
  else (min requested s, 0)

def layout (frequencies : FrequencyTable) (requested : Nat) : BucketMapping :=
  let s := frequencies.split
  let n := frequencies.length
  let (little, big) := clusterBuckets s n requested
  { frequencies := frequencies
    bigStart := s
    littleBuckets := little
    bigBuckets := big
    littleSize := bucketSize s little
    bigSize := bucketSize (n - s) big }

def create (frequencies : FrequencyTable) (requested : Int) : Except MappingError BucketMapping :=
  if requested ≤ 0 then .error (.nonPositiveCount requested)
  else .ok (layout frequencies requested.toNat)

def count (m : BucketMapping) : Int :=
  m.littleBuckets + m.bigBuckets

def index? (length : Nat) (i : Int) : Option Nat :=
  if 0 ≤ i then if i < length then some i.toNat else none
  else if 0 ≤ i + length then some (i + length).toNat
  else none

def countError? (m : BucketMapping) : Option MappingError :=
  if 0 ≤ m.count ∧ m.count ≤ m.frequencies.length then none
  else if !Number.isIndexSized m.count then some .countTooLarge
  else if m.count > Number.memoryLimit then some .outOfMemory
  else none

def frequencyAt (m : BucketMapping) (i : Int) : Except MappingError Int :=
  match (index? m.frequencies.length i).bind (m.frequencies[·]?) with
  | some f => .ok f
  | none => .error (if Number.isIndexSized i then .frequencyIndex else .indexTooLarge)

def firstFrequencies (m : BucketMapping) (size : Int) :
    (slot : Int) → (buckets : Nat) → Except MappingError (List Int)
  | _, 0 => .ok []
  | slot, buckets + 1 =>
      (m.frequencyAt slot).bind fun f =>
        (m.firstFrequencies size (slot + size) buckets).map (f :: ·)

/-- The lowest frequency of each bucket; a single bucket has the first of the table. -/
def minFrequencies (m : BucketMapping) : Except MappingError (List Int) :=
  if m.count = 1 then (m.frequencyAt 0).map ([·])
  else
    (m.firstFrequencies m.littleSize 0 m.littleBuckets.toNat).bind fun little =>
      (m.firstFrequencies m.bigSize m.bigStart m.bigBuckets.toNat).map (little ++ ·)

def bucketOf (m : BucketMapping) (slot : Nat) : Except MappingError Int :=
  if (slot : Int) < m.bigStart then
    if m.littleSize = 0 then .error .divisionByZero
    else .ok (min ((slot : Int).fdiv m.littleSize) (m.littleBuckets - 1))
  else if m.bigSize = 0 then .error .divisionByZero
  else .ok (min (m.littleBuckets + ((slot : Int) - m.bigStart).fdiv m.bigSize) (m.count - 1))

def addFrom (m : BucketMapping) : Nat → List Int → List Int → Except MappingError (List Int)
  | _, [], sums => .ok sums
  | slot, v :: vs, sums =>
      (m.bucketOf slot).bind fun b =>
        match index? sums.length b with
        | some k => m.addFrom (slot + 1) vs (sums.modify k (· + v))
        | none => .error (if Number.isIndexSized b then .bucketIndex else .indexTooLarge)

def bucketValues (m : BucketMapping) (values : List Int) : Except MappingError (List Int) :=
  if values.length ≠ m.frequencies.length then
    .error (.wrongLength m.frequencies.length values.length)
  else match m.countError? with
    | some e => .error e
    | none =>
        if m.count = 1 then .ok [values.foldl (· + ·) 0]
        else m.addFrom 0 values (List.replicate m.count.toNat 0)

example : ((layout [100, 200, 300, 250, 350, 450] 4).bucketValues [1, 2, 3, 4, 5, 6]).toOption =
    some [1, 5, 4, 11] := by decide +kernel

end BucketMapping

end Residency
