/-!
White space: the characters with the Unicode property of that name, and the cutting of text at
them.
-/
namespace PagedQuery.Text

def isBlank (c : Char) : Bool :=
  let n := c.toNat
  (9 ≤ n && n ≤ 13) || n == 0x20 || n == 0x85 || n == 0xa0 || n == 0x1680
    || (0x2000 ≤ n && n ≤ 0x200a) || n == 0x2028 || n == 0x2029 || n == 0x202f || n == 0x205f
    || n == 0x3000

/-- White space, the four separators among the control characters included. -/
def isSpace (c : Char) : Bool := isBlank c || (28 ≤ c.toNat && c.toNat ≤ 31)

def dropRightWhile (p : Char → Bool) (cs : List Char) : List Char :=
  (cs.reverse.dropWhile p).reverse

/-- Without the white space at both ends. -/
def trim (cs : List Char) : List Char := dropRightWhile isBlank (cs.dropWhile isBlank)

end PagedQuery.Text
