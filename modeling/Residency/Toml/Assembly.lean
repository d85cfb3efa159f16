import Residency.Toml

/-!
Tables in several parts. A document may give a table in parts, under its own header, under the
headers of tables below it and by dotted keys. Parts that follow each other directly become one;
others stay apart, and all that is asked of them is that they agree.
-/
namespace Residency.Toml

def maxNames : Nat := 100

def isPart : Toml → Bool
  | .table origin _ => origin != .inline
  | _ => false

def partEntries : Toml → Entries
  | .table .inline _ => []
  | .table _ es => es
  | _ => []

def valuesOf (name : String) (es : Entries) : List Toml :=
  (es.filter (·.1 = name)).map (·.2)

def modifyLast {α : Type} (f : α → Option α) : List α → Option (List α)
  | [] => none
  | [a] => (f a).map ([·])
  | a :: l => (modifyLast f l).map (a :: ·)

def setLast (name : String) (v : Toml) : Entries → Entries
  | [] => []
  | (k, w) :: es =>
      if k = name ∧ es.all (·.1 ≠ name) then (k, v) :: es else (k, w) :: setLast name v es

def repeated (es : Entries) : List (List Toml) :=
  ((es.map (·.1)).eraseDups.map (valuesOf · es)).filter (1 < ·.length)

/-- The entries of parts of a table as those of one table, or the name for which that fails: only
after a part of a table may its name stand again. -/
def join (parts : List Toml) : Except String Entries :=
  (parts.flatMap partEntries).foldlM (fun es (k, v) =>
    match (valuesOf k es).getLast? with
    | none => .ok (es ++ [(k, v)])
    | some w => if isPart w then .ok (es ++ [(k, v)]) else .error k) []

def find (name : String) (es : Entries) : Except String (Option Toml) :=
  match valuesOf name es with
  | [] => .ok none
  | [v] => .ok (some v)
  | parts => (join parts).map fun es => some (.table .joined es)

def isJoinable (name : String) (es : Entries) : Bool :=
  (find name es).toOption.isSome

/-- What becomes of a new part of a table: it is refused, it stands apart, it stands apart and has
to agree with the others, or it is merged with the last one unless another table has been there in
the meantime. -/
inductive Meeting where
  | refused
  | apart
  | checked
  | merged
  deriving DecidableEq, Repr

/-- How a new part of a table meets the last one. A table has one header at a time, and none after
dotted keys. -/
def meeting : TableOrigin → TableOrigin → Meeting
  | .header, .implied | .header, .dotted | .implied, .header => .apart
  | .implied, .implied => .merged
  | .implied, .dotted | .dotted, .implied | .dotted, .dotted => .checked
  | _, _ => .refused

def isLastPart (name : String) (es : Entries) : Bool :=
  match (es.filter (isPart ·.2)).getLast? with
  | some (k, _) => k = name
  | none => false

mutual

/-- Adds an entry to a table. Parts that stand apart are checked for agreement if the flag asks for
it. The fuel bounds the depth of the tables. -/
def addEntry : Nat → (check : Bool) → Entries → String × Toml → Option Entries
  | 0, _, _, _ => none
  | fuel + 1, check, es, (name, v) =>
      let apart := es ++ [(name, v)]
      let checked := if check && !agree fuel (valuesOf name apart) then none else some apart
      match (valuesOf name es).getLast?, v with
      | none, _ => some apart
      | some (.tables items), .tables more => some (setLast name (.tables (items ++ more)) es)
      | some (.tables items), .table .implied more =>
          (modifyLast (fun item => addMembers fuel item more) items).map fun items =>
            setLast name (.tables items) es
      | some (.table before own), .table origin more => match meeting before origin with
        | .refused => none
        | .apart => some apart
        | .checked => checked
        | .merged =>
            if isLastPart name es then
              (addMembers fuel own more).map fun own => setLast name (.table before own) es
            else checked
      | _, _ => none

def addMembers : Nat → Entries → Entries → Option Entries
  | 0, _, _ => none
  | fuel + 1, own, more =>
      more.foldlM (fun es e => (addEntry fuel true es e).filter (isJoinable e.1)) own

def agree : Nat → List Toml → Bool
  | 0, _ => false
  | fuel + 1, parts =>
      match (parts.flatMap partEntries).foldlM (addEntry fuel false) [] with
      | some es => (repeated es).all (agree fuel)
      | none => false

end

def assemblyFuel : Nat := 8 * maxNames

def nest (origin : TableOrigin) (v : Toml) : List String → Option (String × Toml)
  | [] => none
  | [name] => some (name, v)
  | name :: names => (nest origin v names).map fun e => (name, .table origin [e])

def addLine (es : Entries) (key : List String) (v : Toml) : Option Entries :=
  (nest .dotted v key).bind (addEntry assemblyFuel true es)

def isConsistent (es : Entries) : Bool :=
  (repeated es).all (agree assemblyFuel)

end Residency.Toml
