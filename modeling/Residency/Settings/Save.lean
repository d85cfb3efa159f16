import Residency.FileTree
import Residency.Settings.Draft
import Residency.Text.Utf8
import Residency.Toml.Writer

/-!
Saving settings to a file. The directories above the file are made first; the file itself is only
touched when there is a text for all values. A text with surrogates in it cannot be encoded, which
shows when the file has been opened and is empty. Two things that keep the writer from its end are
left out: values that nest too deep for its recursion, and files that may not be written.
-/
namespace Residency

inductive SaveError where
  | file (e : FileError)
  | value (e : Toml.WriteError)
  | encoding (e : Text.Utf8.EncodeError)
  deriving DecidableEq, Repr

def SaveError.message : SaveError → String
  | .file e => e.message
  | .value e => e.message
  | .encoding e => e.message

namespace Draft

def document (d : Draft) : Except Toml.WriteError (List Char) :=
  Toml.document d.sections

/-- A character of private use for each surrogate. -/
def standIn (s : Text.Surrogate) : Char :=
  Char.ofNat (0x100000 + s.index.val)

def firstDifference (position : Nat) : List Char → List Char → Option Text.Utf8.EncodeError
  | a :: s, b :: t =>
      if a = b then firstDifference (position + 1) s t
      else
        some { start := position
               count := (((a :: s).zip (b :: t)).takeWhile fun p => p.1 ≠ p.2).length
               code := a.toNat - 0x100000 + 0xD800 }
  | _, _ => none

/-- The first surrogates in the document of a draft. Documents with different characters in their
places differ there and nowhere else. -/
def encodeError (d : Draft) : Text.Utf8.EncodeError :=
  let text (f : Text.Surrogate → Char) : List Char := (d.substituted f).document.toOption.getD []
  (firstDifference 0 (text standIn) (text fun _ => '\uFFFD')).getD ⟨0, 0, 0⟩

def bytes (d : Draft) (text : List Char) : List UInt8 :=
  if d.isLoose then [] else Text.Utf8.encode text

def save (d : Draft) (t : FileTree) (p : Path) : FileTree × Except SaveError Unit :=
  match t.makeDirectories p.parent with
  | .error e => (t.tryDirectories p.parent, .error (.file e))
  | .ok t => match d.document with
    | .error e => (t, .error (.value e))
    | .ok text => match t.writeBytes p (d.bytes text) with
      | .error e => (t, .error (.file e))
      | .ok t => (t, if d.isLoose then .error (.encoding d.encodeError) else .ok ())

end Draft

end Residency
