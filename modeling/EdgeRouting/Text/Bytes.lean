/-!
# Texts by bytes

Places in a text, counted in the bytes that its characters take in UTF-8.
-/

namespace EdgeRouting.Text

def byteCount (text : List Char) : Nat :=
  text.foldl (fun count c => count + c.utf8Size) 0

/-- A character of the text begins at the place, or the text ends there. -/
def isBoundary : List Char → Nat → Bool
  | _, 0 => true
  | [], _ + 1 => false
  | c :: rest, place + 1 => c.utf8Size ≤ place + 1 && isBoundary rest (place + 1 - c.utf8Size)

end EdgeRouting.Text
