import Residency.Json
import Residency.Number.DecimalText
import Residency.Number.Integer
import Residency.Text.Listing

namespace Residency.Json

mutual

def shown : Json → List Char
  | .null => "None".toList
  | .bool b => if b then "True".toList else "False".toList
  | .int n => Number.decimal n
  | .float x => x.text
  | .str s => Text.quoted s.toList
  | .arr items => Text.bracketed (shownItems items)
  | .obj members => Text.braced (shownMembers members)

def shownItems : List Json → List (List Char)
  | [] => []
  | v :: vs => shown v :: shownItems vs

def shownMembers : List (String × Json) → List (List Char × List Char)
  | [] => []
  | (k, v) :: ms => (Text.quoted k.toList, shown v) :: shownMembers ms

end

def displayed : Json → String
  | .str s => s
  | v => String.ofList v.shown

end Residency.Json
