import Residency.Json
import Residency.Text.CodePoint

/-!
JSON values as a program keeps them: surrogates may stand alone in their texts and in the names of
their members.
-/
namespace Residency

open Text (CodePoint Surrogate)

inductive LooseJson where
  | null
  | bool (b : Bool)
  | int (n : Int)
  | float (x : Number.Binary64)
  | str (s : List CodePoint)
  | arr (items : List LooseJson)
  | obj (members : List (List CodePoint × LooseJson))

namespace LooseJson

mutual

def substituted (f : Surrogate → Char) : LooseJson → Json
  | .null => .null
  | .bool b => .bool b
  | .int n => .int n
  | .float x => .float x
  | .str s => .str (Text.substituted f s)
  | .arr items => .arr (itemsSubstituted f items)
  | .obj members => .obj (membersSubstituted f members)

def itemsSubstituted (f : Surrogate → Char) : List LooseJson → List Json
  | [] => []
  | v :: vs => substituted f v :: itemsSubstituted f vs

def membersSubstituted (f : Surrogate → Char) :
    List (List CodePoint × LooseJson) → List (String × Json)
  | [] => []
  | (k, v) :: ms => (Text.substituted f k, substituted f v) :: membersSubstituted f ms

end

mutual

def isLoose : LooseJson → Bool
  | .str s => s.any CodePoint.isSurrogate
  | .arr items => areLoose items
  | .obj members => membersLoose members
  | _ => false

def areLoose : List LooseJson → Bool
  | [] => false
  | v :: vs => isLoose v || areLoose vs

def membersLoose : List (List CodePoint × LooseJson) → Bool
  | [] => false
  | (k, v) :: ms => k.any CodePoint.isSurrogate || isLoose v || membersLoose ms

end

end LooseJson

end Residency
