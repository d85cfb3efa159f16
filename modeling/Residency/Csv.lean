/-!
Rows of fields with commas between them. A field that holds a comma, a quote or a line feed
stands between quotes, and a quote inside it is written twice.
-/
namespace Residency.Csv

def isSpecial (c : Char) : Bool :=
  c == ',' || c == '"' || c == '\n'

def quoted (s : List Char) : List Char :=
  '"' :: s.flatMap (fun c => if c = '"' then ['"', '"'] else [c]) ++ ['"']

def field (s : List Char) : List Char :=
  if s.any isSpecial then quoted s else s

def row (fields : List (List Char)) : List Char :=
  [','].intercalate (fields.map field) ++ ['\n']

example : row ["a\"b".toList, "c".toList] = "\"a\"\"b\",c\n".toList := by decide +kernel

end Residency.Csv
