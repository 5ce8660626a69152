/-!
Blank characters and the trimming of text. Blanks are the white space of all scripts together
with the four information separators of ASCII.
-/

namespace ShareLinks.Text

/-- White space, and the separators from `\x1c` to `\x1f`. -/
def isBlank (c : Char) : Bool :=
  let n := c.toNat
  (9 ≤ n && n ≤ 13) || (28 ≤ n && n ≤ 32) || n == 0x85 || n == 0xA0 || n == 0x1680 ||
    (0x2000 ≤ n && n ≤ 0x200A) || n == 0x2028 || n == 0x2029 || n == 0x202F || n == 0x205F ||
    n == 0x3000

def trim (cs : List Char) : List Char :=
  ((cs.dropWhile isBlank).reverse.dropWhile isBlank).reverse

example : trim "\t a b\x1f\n".toList = "a b".toList := by decide

end ShareLinks.Text
