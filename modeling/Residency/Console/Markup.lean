import Residency.Console.Layout
import Residency.Console.Literal
import Residency.Console.Style
import Residency.Text.Pictograph
import Residency.Text.Quoted

/-!
Console markup. A tag is a text between brackets that begins with a lower-case letter, `#`, `/` or
`@`; it opens a style, or closes one when it begins with a slash, and is not shown itself. An odd
number of backslashes before a tag makes it plain text, and of the others every second one is shown.
Names of pictographs between colons are replaced, within each stretch of plain text.
-/
namespace Residency.Console.Markup

inductive Piece where
  | text (s : List Char)
  | tag (position : Nat) (body : List Char)
  deriving DecidableEq, Repr

def beginsTag (c : Char) : Bool :=
  ('a' ≤ c && c ≤ 'z') || c == '#' || c == '/' || c == '@'

def tagBody? : List Char → Option (List Char)
  | '[' :: c :: s =>
      let more := s.takeWhile (· ≠ ']')
      if beginsTag c && !more.contains '[' && more.length < s.length then some (c :: more) else none
  | _ => none

def flush (run : List Char) (rest : List Piece) : List Piece :=
  if run.isEmpty then rest else .text run.reverse :: rest

/-- The pieces of a text from a position on, after a run of plain characters in reverse order. The
first `skip` characters belong to a piece before them. -/
def pieces (position : Nat) (run : List Char) : (skip : Nat) → List Char → List Piece
  | _, [] => flush run []
  | skip + 1, _ :: s => pieces (position + 1) run skip s
  | 0, c :: s =>
      let slashes := ((c :: s).takeWhile (· = '\\')).length
      match tagBody? ((c :: s).drop slashes) with
      | some body =>
          let tag := if slashes % 2 = 1 then .text ('[' :: body ++ [']'])
            else .tag (position + slashes) body
          flush run (flush (List.replicate (slashes / 2) '\\')
            (tag :: pieces (position + 1) [] (slashes + body.length + 1) s))
      | none => pieces (position + 1) (c :: run) 0 s

def unescaped : List Char → List Char
  | [] => []
  | '\\' :: '[' :: s => '[' :: unescaped s
  | c :: s => c :: unescaped s

def isDropped (c : Char) : Bool :=
  ['\x07', '\x08', '\x0b', '\x0c', '\r'].contains c

def plainText (s : List Char) : List Char :=
  (Text.Pictograph.replaced (unescaped s)).filter (!isDropped ·)

end Markup

inductive MarkupError where
  | nothingToClose (position : Nat)
  | notOpen (body : String) (position : Nat)
  | parameters (literal whole : String) (e : Literal.LiteralError)
  | numeral (e : Number.IntegerError)
  deriving DecidableEq, Repr

def MarkupError.message : MarkupError → String
  | .nothingToClose position =>
      "closing tag '[/]' at position " ++ toString position ++ " has nothing to close"
  | .notOpen body position =>
      "closing tag '[" ++ body ++ "]' at position " ++ toString position ++
        " doesn't match any open tag"
  | .parameters literal whole e =>
      "error parsing " ++ Text.quote literal ++ " in " ++ Text.quote whole ++ "; " ++ e.message
  | .numeral e => e.message

namespace Markup

structure OpenTag where
  start : Nat
  name : List Char
  parameters : Option (List Char)

structure Span where
  start : Nat
  stop : Nat
  style : List Char

structure Rendering where
  text : List Char := []
  opened : List OpenTag := []
  spans : List Span := []

def OpenTag.style (t : OpenTag) : List Char :=
  t.name ++ (match t.parameters with
    | some p => ' ' :: p
    | none => [])

def OpenTag.hasHandler (t : OpenTag) : Bool :=
  t.name.head? = some '@'

def literalOf (parameters : List Char) : List Char :=
  let s := Text.trim parameters
  match s.dropWhile fun c => Text.continuesName c || c = '.' with
  | [] => "()".toList
  | '(' :: r => if r.getLast? = some ')' && !r.contains '\n' then '(' :: r else s
  | _ => s

def OpenTag.flaw? (t : OpenTag) : Option MarkupError :=
  match t.parameters with
  | none | some [] => none
  | some p =>
      if t.hasHandler then
        let literal := literalOf p
        (Literal.flaw? literal).map (.parameters (String.ofList literal) (String.ofList p))
      else none

def Rendering.close (r : Rendering) (t : OpenTag) (opened : List OpenTag) :
    Except MarkupError Rendering :=
  match t.flaw? with
  | some e => .error e
  | none =>
      let spans := if t.hasHandler then r.spans else r.spans ++ [⟨t.start, r.text.length, t.style⟩]
      .ok { r with opened := opened, spans := spans }

/-- Follows a tag. A closing tag without a name closes the tag that was opened last, another the
last one of its style. -/
def Rendering.addTag (r : Rendering) (position : Nat) (body : List Char) :
    Except MarkupError Rendering :=
  let name := body.takeWhile (· ≠ '=')
  match name with
  | '/' :: closed =>
      if (Text.trim closed).isEmpty then
        match r.opened with
        | [] => .error (.nothingToClose position)
        | t :: opened => r.close t opened
      else
        ((Style.normalize (Text.trim closed)).mapError .numeral).bind fun style =>
          match r.opened.find? (·.name = style) with
          | some t => r.close t (r.opened.eraseP (·.name = style))
          | none => .error (.notOpen (String.ofList body) position)
  | _ =>
      ((Style.normalize name).mapError .numeral).map fun style =>
        let parameters := if body.length = name.length then none
          else some (body.drop (name.length + 1))
        { r with opened := ⟨r.text.length, style, parameters⟩ :: r.opened }

def Rendering.add (r : Rendering) : Piece → Except MarkupError Rendering
  | .text s => .ok { r with text := r.text ++ plainText s }
  | .tag position body => r.addTag position body

def insertSpan (s : Span) : List Span → List Span
  | [] => [s]
  | t :: spans => if s.start ≤ t.start then s :: t :: spans else t :: insertSpan s spans

/-- The stretches of text under all tags; one that begins later comes later, and of those that
begin at one place the one that is closed last comes first. A text that is cut into parts has no
empty stretches. -/
def Rendering.allSpans (r : Rendering) (isCut : Bool) : List Span :=
  let rest := r.opened.map fun t => ⟨t.start, r.text.length, t.style⟩
  let spans := (r.spans ++ rest).reverse.foldr insertSpan []
  if isCut then spans.filter fun s => s.start < s.stop else spans

/-- What a markup text shows on a console, which has a width or not. A text is cut at its tabs and
line ends and where it is broken. -/
def shown (columns : Option Nat) (markup : List Char) : Except MarkupError (List Char) :=
  ((pieces 0 [] 0 markup).foldlM Rendering.add {}).bind fun r =>
    let lines := Layout.lines columns (Text.expandTabs r.text)
    let spans := r.allSpans (r.text.contains '\t' || 1 < lines.length)
    (spans.forM fun s => (Style.read s.style).map fun _ => ()).mapError .numeral |>.map
      fun _ => ['\n'].intercalate lines

example : (shown none "[b]x[/bold]\\[y]".toList).toOption = some "x[y]".toList := by decide +kernel

example : (shown none "[red][i]x[/red]y[/b]".toList).toOption = none := by decide +kernel

end Markup

end Residency.Console
