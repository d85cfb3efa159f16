import Residency.Text.Blank
import Residency.Text.CellWidth

/-!
Texts on a console of limited width. A line is broken before a word that does not fit what is left
of it, and a word that is wider than the console is cut. Without a width lines stay as they are:
that is the text before it is laid out, not what any console shows.
-/
namespace Residency.Console.Layout

def wordsAfter : List Char → List (List Char)
  | [] => []
  | c :: s => match wordsAfter s with
    | (d :: word) :: words =>
        if Text.isBlank c && !Text.isBlank d then [c] :: (d :: word) :: words
        else (c :: d :: word) :: words
    | words => [c] :: words

/-- The words of a line with all its blanks; those before the first word belong to it. A line of
blanks has none. -/
def words (line : List Char) : List (List Char) :=
  match wordsAfter (line.dropWhile Text.isBlank) with
  | [] => []
  | word :: words => (line.takeWhile Text.isBlank ++ word) :: words

def chop (width : Nat) (piece : List Char) : List Char → List (List Char)
  | [] => [piece]
  | c :: s =>
      if width < Text.cellLength piece + Text.cellWidth c then piece :: chop width [c] s
      else chop width (piece ++ [c]) s

def broken (width : Nat) (line : List Char) (used : Nat) : List (List Char) → List (List Char)
  | [] => [line]
  | word :: words =>
      let length := Text.cellLength (Text.dropEndWhile Text.isBlank word)
      if used + length ≤ width then
        broken width (line ++ word) (used + Text.cellLength word) words
      else
        let before := if line.isEmpty then [] else [line]
        if length ≤ width then before ++ broken width word (Text.cellLength word) words
        else
          let pieces := chop width [] word
          let last := pieces.getLast?.getD []
          before ++ pieces.dropLast ++ broken width last (Text.cellLength last) words

def withoutEnd (width : Nat) (line : List Char) : List Char :=
  line.take (max width (Text.dropEndWhile Text.isBlank line).length)

/-- The front of a line that takes up a width; a blank fills the column of half a character. -/
def crop (width : Nat) : List Char → List Char
  | [] => []
  | c :: s =>
      if width < Text.cellWidth c then List.replicate width ' '
      else c :: crop (width - Text.cellWidth c) s

def fitted (width : Nat) (line : List Char) : List Char :=
  let line := withoutEnd width line
  if width < Text.cellLength line then crop width line else line

def linesOf (width : Nat) (line : List Char) : List (List Char) :=
  match words line with
  | [] => [fitted width line]
  | words => (broken width [] 0 words).map (fitted width)

def lines (columns : Option Nat) (s : List Char) : List (List Char) :=
  let parts := s.splitOnP (· = '\n')
  match columns with
  | none => parts
  | some width => parts.flatMap (linesOf width)

def laid (columns : Option Nat) (s : List Char) : List Char :=
  ['\n'].intercalate (lines columns s)

example : laid (some 9) "a bc  defghijklmnop q".toList = "a bc  \ndefghijkl\nmnop q".toList := by
  decide +kernel

end Residency.Console.Layout
