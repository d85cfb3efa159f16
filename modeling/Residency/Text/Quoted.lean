import Residency.Text.Printable

/-!
Quoted text, as messages show a value: between single quotes, or between double quotes when the
text holds a single quote and no double quote, with backslash escapes for the quote, the backslash
and every character that does not print.
-/
namespace Residency.Text

def hex (width n : Nat) : List Char :=
  let ds := Nat.toDigits 16 n
  List.replicate (width - ds.length) '0' ++ ds

def codeEscape (c : Char) : List Char :=
  let n := c.toNat
  if n < 0x100 then '\\' :: 'x' :: hex 2 n
  else if n < 0x10000 then '\\' :: 'u' :: hex 4 n
  else '\\' :: 'U' :: hex 8 n

def quoteChar (quote c : Char) : List Char :=
  if c = quote ∨ c = '\\' then ['\\', c]
  else if c = '\t' then ['\\', 't']
  else if c = '\n' then ['\\', 'n']
  else if c = '\r' then ['\\', 'r']
  else if isPrintable c then [c]
  else codeEscape c

def quoteFor (s : List Char) : Char :=
  if s.contains '\'' && !s.contains '"' then '"' else '\''

def quoted (s : List Char) : List Char :=
  let q := quoteFor s
  q :: s.flatMap (quoteChar q) ++ [q]

def quote (s : String) : String :=
  String.ofList (quoted s.toList)

example : quote "it's" = "\"it's\"" := by decide +kernel

example : quote "a\tb" = "'a\\tb'" := by decide +kernel

end Residency.Text
