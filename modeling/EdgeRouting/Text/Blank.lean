/-!
# Blank characters

The characters with the white space property, and the text between them.
-/

namespace EdgeRouting.Text

/-- The character has the white space property. -/
def isBlank (c : Char) : Bool :=
  let code := c.toNat
  (9 ≤ code && code ≤ 13) || code = 0x20 || code = 0x85 || code = 0xa0 || code = 0x1680 ||
    (0x2000 ≤ code && code ≤ 0x200a) || code = 0x2028 || code = 0x2029 || code = 0x202f ||
    code = 0x205f || code = 0x3000

/-- The characters without those at the end that satisfy a test. -/
def dropWhileEnd (test : Char → Bool) (chars : List Char) : List Char :=
  (chars.reverse.dropWhile test).reverse

/-- The characters from the first to the last that is not blank. -/
def trim (chars : List Char) : List Char :=
  dropWhileEnd isBlank (chars.dropWhile isBlank)

end EdgeRouting.Text
