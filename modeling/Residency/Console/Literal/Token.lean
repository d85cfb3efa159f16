import Residency.Console.Literal.Numeral
import Residency.Console.Literal.Quotation
import Residency.Text.NameCharacter

namespace Residency.Console.Literal

inductive Token where
  | name (s : String)
  | word (s : String)
  | number
  | quoted (q : Quotation) (flaw : Option LiteralError)
  | symbol (s : String)
  | lineEnd
  deriving DecidableEq, Repr

structure Placed where
  token : Token
  depth : Nat
  line : Nat
  deriving DecidableEq, Repr

structure Tokens where
  placed : List Placed := []
  stop : Option LiteralError := none
  opened : Option Nat := none

def Tokens.cons (t : Placed) (ts : Tokens) : Tokens :=
  { ts with placed := t :: ts.placed }

def reservedWords : List String :=
  ["False", "None", "True", "and", "as", "assert", "async", "await", "break", "class", "continue",
   "def", "del", "elif", "else", "except", "finally", "for", "from", "global", "if", "import", "in",
   "is", "lambda", "nonlocal", "not", "or", "pass", "raise", "return", "try", "while", "with",
   "yield"]

def longSymbols : List String :=
  ["**=", "//=", "<<=", ">>=", "...", "!=", "%=", "&=", "**", "*=", "+=", "-=", "->", "//", "/=",
   ":=", "<<", "<=", "<>", "==", ">=", ">>", "@=", "^=", "|="]

def symbolAt (c : Char) (s : List Char) : String :=
  (longSymbols.find? fun w => w.toList.isPrefixOf (c :: s)).getD c.toString

def partner (c : Char) : Char :=
  if c = ')' then '(' else if c = '\x7d' then '\x7b' else '['

def maxOpen : Nat := 200

def wrongInName? (run : List Char) : Option Char :=
  match run with
  | [] => none
  | c :: s => if Text.beginsName c then s.find? (!Text.continuesName ·) else some c

def lineEnds (s : List Char) : Nat :=
  s.count '\n'

def quotedAt (line : Nat) (q : Quotation) (s : List Char) :
    Except LiteralError (Token × Nat × List Char) :=
  let read (tripled : Bool) (r : List Char) (found : Option (List Char × List Char)) :=
    match found with
    | some (inside, rest) =>
        .ok (.quoted q (q.flaw? inside.reverse), line + lineEnds inside, rest)
    | none =>
        let passed := if tripled then lineEnds r
          else lineEnds (r.take (r.length - (unended r).length))
        .error (.unterminated tripled (line + passed))
  match s with
  | a :: b :: c :: r =>
      if b = a && c = a then read true r (tripleQuoted? a [] r)
      else read false (b :: c :: r) (singleQuoted? a [] (b :: c :: r))
  | a :: r => read false r (singleQuoted? a [] r)
  | [] => .error (.unterminated false line)
where
  unended : List Char → List Char
    | [] => []
    | '\n' :: s => '\n' :: s
    | '\\' :: _ :: s => unended s
    | _ :: s => unended s

def isIndented (s : List Char) : Bool :=
  let rest := s.dropWhile fun c => c = ' ' || c = '\t'
  rest.length < s.length && rest.head?.any fun c => c ≠ '\n' && c ≠ '#'

/-- The tokens of a text on a line, with the brackets that are open before it and their lines. The
fuel bounds the number of characters. -/
def tokens : Nat → (line : Nat) → (opened : List (Char × Nat)) → List Char →
    Except LiteralError Tokens
  | 0, _, _, _ => .ok {}
  | _, _, [], [] => .ok {}
  | _, _, (o, started) :: _, [] => .ok ⟨[], some (.neverClosed o), some started⟩
  | fuel + 1, line, opened, c :: s =>
      let token (t : Token) (rest : List Char) :=
        (tokens fuel line opened rest).map (.cons ⟨t, opened.length, line⟩)
      let quotedFrom (q : Quotation) (r : List Char) :=
        (quotedAt line q r).bind fun (t, after, rest) =>
          (tokens fuel after opened rest).map (.cons ⟨t, opened.length, line⟩)
      if c = ' ' || c = '\t' || c = '\x0c' then tokens fuel line opened s
      else if c = '\n' then
        if opened.isEmpty then
          (if isIndented s then .ok { stop := some .unexpectedIndent }
            else tokens fuel (line + 1) opened s).map (.cons ⟨.lineEnd, 0, line⟩)
        else tokens fuel (line + 1) opened s
      else if c = '#' then tokens fuel line opened (s.dropWhile (· ≠ '\n'))
      else if c = '\\' then
        match s with
        | '\n' :: r => tokens fuel (line + 1) opened r
        | _ => .ok { stop := some .strayBackslash }
      else if c = '"' || c = '\x27' then quotedFrom {} (c :: s)
      else if c.isDigit || (c = '.' && s.head?.any Char.isDigit) then
        (afterNumeral (c :: s)).bind (token .number)
      else if c.isAlpha || c = '_' || 0x80 ≤ c.toNat then
        let run := (c :: s).takeWhile fun d => d.isAlphanum || d = '_' || 0x80 ≤ d.toNat
        let rest := (c :: s).drop run.length
        let isQuote := rest.head? = some '"' || rest.head? = some '\x27'
        match (if isQuote then quotation? run else none), wrongInName? run with
        | some q, _ => quotedFrom q rest
        | none, some d => .error (.invalidCharacter d)
        | none, none =>
            let name := String.ofList run
            token (if reservedWords.contains name then .word name else .name name) rest
      else if c = '(' || c = '\x7b' || c = '[' then
        if maxOpen ≤ opened.length then .error .tooDeep
        else (tokens fuel line ((c, line) :: opened) s).map
          (.cons ⟨.symbol c.toString, opened.length + 1, line⟩)
      else if c = ')' || c = '\x7d' || c = ']' then
        match opened with
        | [] => .error (.unmatched c)
        | (o, started) :: opened =>
            if o = partner c then
              (tokens fuel line opened s).map (.cons ⟨.symbol c.toString, opened.length, line⟩)
            else .error (.mismatched c o (if started = line then none else some started))
      else
        let w := symbolAt c s
        token (.symbol w) ((c :: s).drop w.length)

def Tokens.ofText (s : List Char) : Except LiteralError Tokens :=
  tokens (s.length + 1) 1 [] s

end Residency.Console.Literal
