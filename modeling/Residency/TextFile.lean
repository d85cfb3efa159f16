import Residency.FileTree
import Residency.Text.Lines
import Residency.Text.Utf8

namespace Residency

inductive TextFileError where
  | file (e : FileError)
  | encoding (e : Text.Utf8.DecodeError)
  deriving DecidableEq, Repr

def TextFileError.message : TextFileError → String
  | .file e => e.message
  | .encoding e => e.message

namespace FileTree

def readText (t : FileTree) (p : Path) : Except TextFileError (List Char) :=
  match t.readBytes p with
  | .error e => .error (.file e)
  | .ok bytes => ((Text.Utf8.decode bytes).mapError .encoding).map Text.universalNewlines

def readText? (t : FileTree) (p : Path) : Except TextFileError (Option String) :=
  match t.isFile p with
  | .error e => .error (.file e)
  | .ok false => .ok none
  | .ok true => (t.readText p).map fun text => some (String.ofList text)

end FileTree

end Residency
