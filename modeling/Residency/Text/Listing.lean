namespace Residency.Text

def joined (separator : List Char) (parts : List (List Char)) : List Char :=
  separator.intercalate parts

def bracketed (items : List (List Char)) : List Char :=
  '[' :: joined [',', ' '] items ++ [']']

def braced (members : List (List Char × List Char)) : List Char :=
  '\x7b' :: joined [',', ' '] (members.map fun (k, v) => k ++ ':' :: ' ' :: v) ++ ['\x7d']

end Residency.Text
