import Residency.Json
import Residency.Number.Integer

/-!
Frequency tables. A table lists the frequencies of the little cores in ascending order and then
those of the big cores, so the big cores begin at the first descent.
-/
namespace Residency

abbrev FrequencyTable := List Int

namespace FrequencyTable

def split : FrequencyTable → Nat
  | [] => 0
  | [_] => 1
  | f :: g :: l => if f > g then 1 else split (g :: l) + 1

theorem split_le_length (l : FrequencyTable) : split l ≤ l.length := by
  fun_induction split l with
  | case1 => simp
  | case2 => simp
  | case3 => simp
  | case4 f g l h ih => simpa using ih

end FrequencyTable

inductive EntryError where
  | numeral (e : Number.IntegerError)
  | infinite
  | notANumber
  | wrongType (v : Json)

def EntryError.message : EntryError → String
  | .numeral e => e.message
  | .infinite => "cannot convert float infinity to integer"
  | .notANumber => "cannot convert float NaN to integer"
  | .wrongType v =>
      "int() argument must be a string, a bytes-like object or a real number, not '" ++
        v.typeName ++ "'"

/-- The integer that an entry of a table stands for: a number without its fraction, a truth value
as one or zero, or a numeral. -/
def Json.toFrequency : Json → Except EntryError Int
  | .int n => .ok n
  | .bool b => .ok (if b then 1 else 0)
  | .str s => (Number.readInteger s.toList).mapError .numeral
  | .float (.infinite _) => .error .infinite
  | .float .nan => .error .notANumber
  | .float x => match x.truncate? with
    | some n => .ok n
    | none => .error .notANumber
  | v => .error (.wrongType v)

def FrequencyTable.ofJson : List Json → Except EntryError FrequencyTable
  | [] => .ok []
  | v :: vs => v.toFrequency.bind fun f => (ofJson vs).map (f :: ·)

end Residency
