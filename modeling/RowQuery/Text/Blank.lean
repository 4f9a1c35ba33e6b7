import RowQuery.Text.Split

/-!
# White space

A blank is a character with the Unicode property White_Space. `trim` takes the blanks off both ends
of a text, and `words` gives its maximal runs of other characters.
-/
namespace RowQuery.Text

def isBlank (c : Char) : Bool :=
  let n := c.toNat
  (0x9 ≤ n && n ≤ 0xd) || n == 0x20 || n == 0x85 || n == 0xa0 || n == 0x1680 ||
    (0x2000 ≤ n && n ≤ 0x200a) || n == 0x2028 || n == 0x2029 || n == 0x202f || n == 0x205f ||
    n == 0x3000

def trim (s : List Char) : List Char :=
  ((s.dropWhile isBlank).reverse.dropWhile isBlank).reverse

def words (s : List Char) : List (List Char) :=
  (splitBy isBlank s).filter fun word => !word.isEmpty

end RowQuery.Text
