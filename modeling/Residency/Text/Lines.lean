/-!
Lines. `lines` cuts a text at every line boundary that Unicode text may hold, `universalNewlines`
turns the three line ends of text files into the line feed.
-/
namespace Residency.Text

def isLineBreak (c : Char) : Bool :=
  let n := c.toNat
  (10 ≤ n && n ≤ 13) || (28 ≤ n && n ≤ 30) || n == 0x85 || n == 0x2028 || n == 0x2029

/-- The lines of a text without their ends. A carriage return and the line feed after it are one
line end, and a text that ends with a line end has no empty line after it. -/
def lines : List Char → List (List Char)
  | [] => []
  | '\r' :: '\n' :: s => [] :: lines s
  | c :: s =>
      if isLineBreak c then [] :: lines s
      else match lines s with
        | [] => [[c]]
        | l :: ls => (c :: l) :: ls

def universalNewlines : List Char → List Char
  | [] => []
  | '\r' :: '\n' :: s => '\n' :: universalNewlines s
  | c :: s => (if c = '\r' then '\n' else c) :: universalNewlines s

theorem carriageReturn_not_mem_universalNewlines (s : List Char) :
    '\r' ∉ universalNewlines s := by
  fun_induction universalNewlines s with
  | case1 => simp
  | case2 s ih => simpa using ih
  | case3 c s _ ih =>
      by_cases h : c = '\r'
      · simpa [h] using ih
      · simpa [h, eq_comm] using ih

end Residency.Text
