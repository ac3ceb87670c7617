/-!
# Ranges of code points

A property of characters is given by the ranges of code points that have it.  Each entry of such a
table is the first and the last code point of a range; the ranges are in order and do not touch.
-/

namespace EdgeRouting.Text

def isWithin (ranges : List (Nat × Nat)) (c : Char) : Bool :=
  ranges.any fun range => range.1 ≤ c.toNat && c.toNat ≤ range.2

end EdgeRouting.Text
