import Residency.Console.Colour
import Residency.Text.Blank
import Residency.Text.Case

/-!
Styles of console text, by the words that describe them. Two descriptions of one style have the same
normal form: the attributes in a fixed order, the colour, the background and the link.
-/
namespace Residency.Console

def attributeWords : List (String × List String) :=
  [("bold", ["bold", "b"]), ("dim", ["dim", "d"]), ("italic", ["italic", "i"]),
   ("underline", ["underline", "u"]), ("blink", ["blink"]), ("blink2", ["blink2"]),
   ("reverse", ["reverse", "r"]), ("conceal", ["conceal", "c"]), ("strike", ["strike", "s"]),
   ("underline2", ["underline2", "uu"]), ("frame", ["frame"]), ("encircle", ["encircle"]),
   ("overline", ["overline", "o"])]

def attribute? (word : List Char) : Option String :=
  (attributeWords.find? fun (_, words) => words.any (·.toList == word)).map (·.1)

structure Style where
  attributes : List (String × Bool) := []
  colour : Option (List Char) := none
  background : Option (List Char) := none
  link : Option (List Char) := none

namespace Style

def setAttribute (s : Style) (name : String) (on : Bool) : Style :=
  { s with attributes := (name, on) :: s.attributes }

def readWords (s : Style) : List (List Char) → Except Number.IntegerError (Option Style)
  | [] => .ok (some s)
  | word :: rest =>
      let key := Text.lowered word
      if key = "on".toList then
        match rest with
        | colour :: rest => (isColour (Text.lowered colour)).bind fun b =>
            if b then readWords { s with background := some (Text.lowered colour) } rest
            else .ok none
        | [] => .ok none
      else if key = "not".toList then
        match rest with
        | word :: rest => match attribute? word with
          | some a => readWords (s.setAttribute a false) rest
          | none => .ok none
        | [] => .ok none
      else if key = "link".toList then
        match rest with
        | link :: rest => readWords { s with link := some link } rest
        | [] => .ok none
      else match attribute? key with
        | some a => readWords (s.setAttribute a true) rest
        | none => (isColour key).bind fun b =>
            if b then readWords { s with colour := some key } rest else .ok none

/-- Reads a description; no words describe no style, and neither does the one word `none`. A
description that describes no style is not an error, but a colour part that is no numeral is. -/
def read (s : List Char) : Except Number.IntegerError (Option Style) :=
  if Text.trim s = "none".toList then .ok (some {}) else readWords {} (Text.words s)

def words (s : Style) : List (List Char) :=
  (attributeWords.filterMap fun (a, _) => match s.attributes.lookup a with
    | some true => some a.toList
    | some false => some ("not ".toList ++ a.toList)
    | none => none) ++ s.colour.toList ++
      (match s.background with
       | some colour => ["on ".toList ++ colour]
       | none => []) ++
      (match s.link with
       | some link => ["link ".toList ++ link]
       | none => [])

def text (s : Style) : List Char :=
  if s.words.isEmpty then "none".toList else [' '].intercalate s.words

def normalize (s : List Char) : Except Number.IntegerError (List Char) :=
  (read s).map fun
    | some style => style.text
    | none => Text.lowered (Text.trim s)

example : (normalize "RED b".toList).toOption = some "bold red".toList := by decide +kernel

end Style

end Residency.Console
