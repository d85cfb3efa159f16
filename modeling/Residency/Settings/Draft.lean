import Residency.Json.Loose
import Residency.Settings

/-!
Settings that nobody has checked: a value of any shape for each setting. Where surrogates stand
alone in a value, all but the writer of the settings file see replacement characters.
-/
namespace Residency

inductive Unchecked where
  | json (v : Json)
  | loose (v : LooseJson)

namespace Unchecked

def substituted (f : Text.Surrogate → Char) : Unchecked → Json
  | .json v => v
  | .loose v => v.substituted f

def toJson : Unchecked → Json :=
  substituted fun _ => '\uFFFD'

def isLoose : Unchecked → Bool
  | .json _ => false
  | .loose v => v.isLoose

end Unchecked

structure Draft where
  unchecked : Setting → Unchecked

def Draft.value (d : Draft) (s : Setting) : Json :=
  (d.unchecked s).toJson

def Settings.value (s : Settings) : Setting → Json
  | .procPath => .str s.procPath
  | .initialPath => .str s.initialPath
  | .buckets => .int s.buckets
  | .tickMillis => .int s.tickMillis
  | .processName => .str s.processName
  | .threadName => .str s.threadName
  | .logBytes => .int s.logBytes
  | .logBackups => .int s.logBackups

def Settings.toDraft (s : Settings) : Draft :=
  { unchecked := fun k => .json (s.value k) }

inductive DraftError where
  | notPath (v : Json)
  | notComparable (operator : String) (v : Json)

def DraftError.message : DraftError → String
  | .notPath v => "expected str, bytes or os.PathLike object, not " ++ v.typeName
  | .notComparable operator v =>
      "'" ++ operator ++ "' not supported between instances of '" ++ v.typeName ++ "' and 'int'"

namespace Draft

def put (d : Draft) (s : Setting) (v : Unchecked) : Draft :=
  { unchecked := fun t => if t = s then v else d.unchecked t }

def set (d : Draft) (s : Setting) (v : Json) : Draft :=
  d.put s (.json v)

def isLoose (d : Draft) : Bool :=
  Setting.all.any fun s => (d.unchecked s).isLoose

def substituted (d : Draft) (f : Text.Surrogate → Char) : Draft :=
  { unchecked := fun s => .json ((d.unchecked s).substituted f) }

def entries (d : Draft) (s : Section) : List (String × Json) :=
  (Setting.all.filter (·.home = s)).map fun t => (t.key, d.value t)

def sections (d : Draft) : List (String × List (String × Json)) :=
  Section.all.map fun s => (s.name, d.entries s)

def toJson (d : Draft) : Json :=
  .obj (d.sections.map fun (name, entries) => (name, .obj entries))

def isDefault (d : Draft) : Bool :=
  Setting.all.all fun s => (d.value s).equals (({} : Settings).value s)

def path (d : Draft) (s : Setting) : Except DraftError Path :=
  match d.value s with
  | .str text => .ok (.ofString text)
  | v => .error (.notPath v)

end Draft

end Residency
