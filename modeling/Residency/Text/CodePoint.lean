/-!
Code points. A program may keep a text in which half of a surrogate pair stands alone, which is no
character and has no place in UTF-8.
-/
namespace Residency.Text

structure Surrogate where
  index : Fin 0x800
  deriving DecidableEq, Repr

inductive CodePoint where
  | char (c : Char)
  | surrogate (s : Surrogate)
  deriving DecidableEq, Repr

namespace CodePoint

def isSurrogate : CodePoint → Bool
  | .char _ => false
  | .surrogate _ => true

def substituted (f : Surrogate → Char) : CodePoint → Char
  | .char c => c
  | .surrogate s => f s

end CodePoint

def substituted (f : Surrogate → Char) (s : List CodePoint) : String :=
  String.ofList (s.map (·.substituted f))

end Residency.Text
