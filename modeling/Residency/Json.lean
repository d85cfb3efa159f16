import Residency.Number.Binary64

/-!
JSON values. Integers and floating point numbers are kept apart, and an object keeps its members
in order with no name twice.
-/
namespace Residency

inductive Json where
  | null
  | bool (b : Bool)
  | int (n : Int)
  | float (x : Number.Binary64)
  | str (s : String)
  | arr (items : List Json)
  | obj (members : List (String × Json))

namespace Json

mutual

def same : Json → Json → Bool
  | .null, .null => true
  | .bool a, .bool b => a == b
  | .int a, .int b => a == b
  | .float a, .float b => a == b
  | .str a, .str b => a == b
  | .arr a, .arr b => sameItems a b
  | .obj a, .obj b => sameMembers a b
  | _, _ => false

def sameItems : List Json → List Json → Bool
  | [], [] => true
  | v :: vs, w :: ws => same v w && sameItems vs ws
  | _, _ => false

def sameMembers : List (String × Json) → List (String × Json) → Bool
  | [], [] => true
  | (k, v) :: vs, (l, w) :: ws => k == l && same v w && sameMembers vs ws
  | _, _ => false

end

/-- The whole number that a value stands for; a truth value counts as one or zero. -/
def whole? : Json → Option Int
  | .int n => some n
  | .bool b => some (if b then 1 else 0)
  | _ => none

def equals (v w : Json) : Bool :=
  match v, w with
  | .float x, .int n => x.toInt? == some n
  | .str s, .str t => s == t
  | v, w => match v.whole?, w.whole? with
    | some m, some n => m == n
    | _, _ => false

def typeName : Json → String
  | .null => "NoneType"
  | .bool _ => "bool"
  | .int _ => "int"
  | .float _ => "float"
  | .str _ => "str"
  | .arr _ => "list"
  | .obj _ => "dict"

def countsAsTrue : Json → Bool
  | .null => false
  | .bool b => b
  | .int n => n != 0
  | .float x => x.toInt? != some 0
  | .str s => !s.isEmpty
  | .arr items => !items.isEmpty
  | .obj members => !members.isEmpty

mutual

def depth : Json → Nat
  | .arr items => itemsDepth items + 1
  | .obj members => membersDepth members + 1
  | _ => 0

def itemsDepth : List Json → Nat
  | [] => 0
  | v :: vs => max (depth v) (itemsDepth vs)

def membersDepth : List (String × Json) → Nat
  | [] => 0
  | (_, v) :: ms => max (depth v) (membersDepth ms)

end

def member? (k : String) : List (String × Json) → Option Json :=
  List.lookup k

def setMember (k : String) (v : Json) : List (String × Json) → List (String × Json)
  | [] => [(k, v)]
  | (l, w) :: ms => if l = k then (l, v) :: ms else (l, w) :: setMember k v ms

mutual

theorem eq_of_same : ∀ {v w : Json}, same v w = true → v = w
  | .null, .null, _ => rfl
  | .bool _, .bool _, h => by simpa [same] using h
  | .int _, .int _, h => by simpa [same] using h
  | .float _, .float _, h => by simpa [same] using h
  | .str _, .str _, h => by simpa [same] using h
  | .arr _, .arr _, h => by
      simp only [same] at h
      rw [eq_of_sameItems h]
  | .obj _, .obj _, h => by
      simp only [same] at h
      rw [eq_of_sameMembers h]
  | .null, .bool _, h | .null, .int _, h | .null, .float _, h | .null, .str _, h
  | .null, .arr _, h | .null, .obj _, h | .bool _, .null, h | .bool _, .int _, h
  | .bool _, .float _, h | .bool _, .str _, h | .bool _, .arr _, h | .bool _, .obj _, h
  | .int _, .null, h | .int _, .bool _, h | .int _, .float _, h | .int _, .str _, h
  | .int _, .arr _, h | .int _, .obj _, h | .float _, .null, h | .float _, .bool _, h
  | .float _, .int _, h | .float _, .str _, h | .float _, .arr _, h | .float _, .obj _, h
  | .str _, .null, h | .str _, .bool _, h | .str _, .int _, h | .str _, .float _, h
  | .str _, .arr _, h | .str _, .obj _, h | .arr _, .null, h | .arr _, .bool _, h
  | .arr _, .int _, h | .arr _, .float _, h | .arr _, .str _, h | .arr _, .obj _, h
  | .obj _, .null, h | .obj _, .bool _, h | .obj _, .int _, h | .obj _, .float _, h
  | .obj _, .str _, h | .obj _, .arr _, h => by simp [same] at h

theorem eq_of_sameItems : ∀ {vs ws : List Json}, sameItems vs ws = true → vs = ws
  | [], [], _ => rfl
  | v :: vs, w :: ws, h => by
      simp only [sameItems, Bool.and_eq_true] at h
      rw [eq_of_same h.1, eq_of_sameItems h.2]
  | [], _ :: _, h => by simp [sameItems] at h
  | _ :: _, [], h => by simp [sameItems] at h

theorem eq_of_sameMembers :
    ∀ {vs ws : List (String × Json)}, sameMembers vs ws = true → vs = ws
  | [], [], _ => rfl
  | (k, v) :: vs, (l, w) :: ws, h => by
      simp only [sameMembers, Bool.and_eq_true, beq_iff_eq] at h
      rw [h.1.1, eq_of_same h.1.2, eq_of_sameMembers h.2]
  | [], _ :: _, h => by simp [sameMembers] at h
  | _ :: _, [], h => by simp [sameMembers] at h

end

mutual

theorem same_refl : ∀ v : Json, same v v = true
  | .null => rfl
  | .bool _ | .int _ | .float _ | .str _ => by simp [same]
  | .arr items => by simp [same, sameItems_refl items]
  | .obj members => by simp [same, sameMembers_refl members]

theorem sameItems_refl : ∀ vs : List Json, sameItems vs vs = true
  | [] => rfl
  | v :: vs => by simp [sameItems, same_refl v, sameItems_refl vs]

theorem sameMembers_refl : ∀ ms : List (String × Json), sameMembers ms ms = true
  | [] => rfl
  | (_, v) :: ms => by simp [sameMembers, same_refl v, sameMembers_refl ms]

end

theorem same_iff {v w : Json} : same v w = true ↔ v = w :=
  ⟨eq_of_same, fun h => h ▸ same_refl v⟩

instance : DecidableEq Json := fun v w =>
  if h : same v w = true then isTrue (same_iff.1 h) else isFalse fun e => h (same_iff.2 e)

end Json

end Residency
