/-!
Blanks, trimming and words. A blank is a character with the Unicode property White_Space, or one
of the four information separators U+001C to U+001F.
-/
namespace Residency.Text

def isBlank (c : Char) : Bool :=
  let n := c.toNat
  (9 ≤ n && n ≤ 13) || (28 ≤ n && n ≤ 32) || n == 0x85 || n == 0xa0 || n == 0x1680 ||
    (0x2000 ≤ n && n ≤ 0x200a) || n == 0x2028 || n == 0x2029 || n == 0x202f || n == 0x205f ||
    n == 0x3000

/-- The blanks that may surround a numeral: the information separators are not among them. -/
def isNumeralBlank (c : Char) : Bool :=
  isBlank c && !(28 ≤ c.toNat && c.toNat ≤ 31)

def dropEndWhile (p : Char → Bool) (s : List Char) : List Char :=
  (s.reverse.dropWhile p).reverse

def trimWhile (p : Char → Bool) (s : List Char) : List Char :=
  dropEndWhile p (s.dropWhile p)

def trim (s : List Char) : List Char :=
  trimWhile isBlank s

def words (s : List Char) : List (List Char) :=
  (s.splitOnP isBlank).filter (!·.isEmpty)

theorem isBlank_of_isNumeralBlank {c : Char} (h : isNumeralBlank c = true) : isBlank c = true := by
  simp only [isNumeralBlank, Bool.and_eq_true] at h
  exact h.1

end Residency.Text
