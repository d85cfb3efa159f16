import Residency.Text.Quoted

/-!
Paths, kept as a root and the names on the way. Empty names and `.` are dropped, `..` is kept, and
exactly two slashes at the beginning make a root of their own.
-/
namespace Residency

inductive PathRoot where
  | workingDirectory
  | slash
  | doubleSlash
  deriving DecidableEq, Repr

@[ext] structure Path where
  root : PathRoot := .workingDirectory
  parts : List String := []
  deriving DecidableEq, Repr

namespace Path

def rootOf : List Char → PathRoot
  | '/' :: '/' :: '/' :: _ => .slash
  | '/' :: '/' :: _ => .doubleSlash
  | '/' :: _ => .slash
  | _ => .workingDirectory

def partsOf (s : List Char) : List String :=
  ((s.splitOnP (· = '/')).filter fun part => !part.isEmpty && part != ['.']).map String.ofList

def ofString (s : String) : Path :=
  { root := rootOf s.toList, parts := partsOf s.toList }

def rootText : PathRoot → String
  | .workingDirectory => ""
  | .slash => "/"
  | .doubleSlash => "//"

def toString (p : Path) : String :=
  if p.root = .workingDirectory ∧ p.parts = [] then "."
  else rootText p.root ++ "/".intercalate p.parts

/-- A path below another; one with a root of its own stands alone. -/
def append (p q : Path) : Path :=
  if q.root = .workingDirectory then { p with parts := p.parts ++ q.parts } else q

instance : HAppend Path String Path where
  hAppend p s := p.append (ofString s)

def parent (p : Path) : Path :=
  { p with parts := p.parts.dropLast }

def child (p : Path) (name : String) : Path :=
  { p with parts := p.parts ++ [name] }

def isUnder (p top : Path) : Bool :=
  p.root == top.root && top.parts.isPrefixOf p.parts

def rebase (p source target : Path) : Path :=
  if p.isUnder source then
    { target with parts := target.parts ++ p.parts.drop source.parts.length }
  else p

def hasNul (p : Path) : Bool :=
  p.parts.any fun part => part.toList.contains (Char.ofNat 0)

end Path

end Residency
