import Residency.Text.Quoted

namespace Residency.Console.Literal

inductive NumeralKind where
  | decimal
  | hexadecimal
  | octal
  | binary
  | imaginary
  deriving DecidableEq, Repr

def NumeralKind.word : NumeralKind → String
  | .decimal => "decimal"
  | .hexadecimal => "hexadecimal"
  | .octal => "octal"
  | .binary => "binary"
  | .imaginary => "imaginary"

inductive Form where
  | name
  | attribute
  | constant (word : String)
  | literal
  | template
  | ellipsis
  | call
  | tuple
  | dictionary
  | set
  | generator
  | setComprehension
  | dictionaryComprehension
  | operation
  | comparison
  | conditional
  | function
  | awaited
  | yielded
  | named
  deriving DecidableEq, Repr

def Form.words : Form → String
  | .name => "name"
  | .attribute => "attribute"
  | .constant word => word
  | .literal => "literal"
  | .template => "f-string expression"
  | .ellipsis => "ellipsis"
  | .call => "function call"
  | .tuple => "tuple"
  | .dictionary => "dict literal"
  | .set => "set display"
  | .generator => "generator expression"
  | .setComprehension => "set comprehension"
  | .dictionaryComprehension => "dict comprehension"
  | .operation => "expression"
  | .comparison => "comparison"
  | .conditional => "conditional expression"
  | .function => "lambda"
  | .awaited => "await expression"
  | .yielded => "yield expression"
  | .named => "named expression"

inductive LiteralError where
  | neverClosed (opening : Char)
  | unmatched (closing : Char)
  | mismatched (closing opening : Char) (line : Option Nat)
  | tooDeep
  | unterminated (tripled : Bool) (line : Nat)
  | malformedNumeral (n : NumeralKind)
  | wrongDigit (n : NumeralKind) (digit : Char)
  | leadingZeros
  | tooManyDigits (count : Nat)
  | strayBackslash
  | unexpectedIndent
  | invalidCharacter (c : Char)
  | brokenEscape (start stop : Nat) (reason : String)
  | brokenByte (position : Nat)
  | wideByte
  | mixedQuotation
  | missingComma
  | missingElse
  | missingCall (name : String)
  | missingValue
  | missingColon
  | bareStar
  | starred
  | doublyStarred
  | starredValue
  | starredComprehension
  | doublyStarredComprehension
  | bareTarget
  | assignment
  | assigned (f : Form)
  | assignedTo (f : Form)
  | namedTo (f : Form)
  | assignedArgument
  | bareGenerator
  | starredAfterDouble
  | positionalAfterNamed
  | positionalAfterDouble
  | malformed
  deriving DecidableEq, Repr

def shownCharacter (c : Char) : String :=
  let code := "U+" ++ (String.ofList (Text.hex 4 c.toNat)).toUpper
  if Text.isPrintable c then "invalid character '" ++ c.toString ++ "' (" ++ code ++ ")"
  else "invalid non-printable character " ++ code

def LiteralError.message : LiteralError → String
  | .neverClosed c => "'" ++ c.toString ++ "' was never closed"
  | .unmatched c => "unmatched '" ++ c.toString ++ "'"
  | .mismatched c o line =>
      "closing parenthesis '" ++ c.toString ++ "' does not match opening parenthesis '" ++
        o.toString ++ "'" ++ (match line with
          | some n => " on line " ++ toString n
          | none => "")
  | .tooDeep => "too many nested parentheses"
  | .unterminated tripled line =>
      "unterminated " ++ (if tripled then "triple-quoted " else "") ++
        "string literal (detected at line " ++ toString line ++ ")"
  | .malformedNumeral n => "invalid " ++ n.word ++ " literal"
  | .wrongDigit n d => "invalid digit '" ++ d.toString ++ "' in " ++ n.word ++ " literal"
  | .leadingZeros =>
      "leading zeros in decimal integer literals are not permitted; " ++
        "use an 0o prefix for octal integers"
  | .tooManyDigits count =>
      "Exceeds the limit (4300 digits) for integer string conversion: value has " ++
        toString count ++ " digits; use sys.set_int_max_str_digits() to increase the limit " ++
        "- Consider hexadecimal for huge integer literals to avoid decimal conversion limits."
  | .strayBackslash => "unexpected character after line continuation character"
  | .unexpectedIndent => "unexpected indent"
  | .invalidCharacter c => shownCharacter c
  | .brokenEscape start stop reason =>
      "(unicode error) 'unicodeescape' codec can't decode bytes in position " ++ toString start ++
        "-" ++ toString (stop - 1) ++ ": " ++ reason
  | .brokenByte position =>
      "(value error) invalid \\x escape at position " ++ toString position
  | .wideByte => "bytes can only contain ASCII literal characters"
  | .mixedQuotation => "cannot mix bytes and nonbytes literals"
  | .missingComma => "invalid syntax. Perhaps you forgot a comma?"
  | .missingElse => "expected 'else' after 'if' expression"
  | .missingCall name =>
      "Missing parentheses in call to '" ++ name ++ "'. Did you mean " ++ name ++ "(...)?"
  | .missingValue => "expression expected after dictionary key and ':'"
  | .missingColon => "':' expected after dictionary key"
  | .bareStar => "Invalid star expression"
  | .starred => "cannot use starred expression here"
  | .doublyStarred => "cannot use double starred expression here"
  | .starredValue => "cannot use a starred expression in a dictionary value"
  | .starredComprehension => "iterable unpacking cannot be used in comprehension"
  | .doublyStarredComprehension => "dict unpacking cannot be used in dict comprehension"
  | .bareTarget => "did you forget parentheses around the comprehension target?"
  | .assignment => "invalid syntax. Maybe you meant '==' or ':=' instead of '='?"
  | .assigned f => "cannot assign to " ++ f.words
  | .assignedTo f =>
      "cannot assign to " ++ f.words ++ " here. Maybe you meant '==' instead of '='?"
  | .namedTo f => "cannot use assignment expressions with " ++ f.words
  | .assignedArgument =>
      "expression cannot contain assignment, perhaps you meant \"==\"?"
  | .bareGenerator => "Generator expression must be parenthesized"
  | .starredAfterDouble => "iterable argument unpacking follows keyword argument unpacking"
  | .positionalAfterNamed => "positional argument follows keyword argument"
  | .positionalAfterDouble => "positional argument follows keyword argument unpacking"
  | .malformed => "invalid syntax"

end Residency.Console.Literal
