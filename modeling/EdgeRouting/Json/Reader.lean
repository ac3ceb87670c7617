import EdgeRouting.Json.Basic
import EdgeRouting.Shorter

/-!
# Readers of JSON texts

A reader takes a value from the front of a text, after any white space, and leaves a shorter text,
or names the first fault that it meets.  Readers are run on a text as a stream: no fault behind the
first one is ever seen.  That the rest is shorter is part of a reader's result, so that the readers
of lists end.
-/

namespace EdgeRouting.Json

abbrev Reader (α : Type) := (text : List Char) → Except Fault (α × Shorter text)

/-- White space between the parts of a JSON text. -/
def isSpace (c : Char) : Bool := c = ' ' || c = '\n' || c = '\t' || c = '\r'

/-- The first character of `text` that is not white space, and what follows it, where `text` ends
`whole`. -/
def nextIn {whole : List Char} :
    (text : List Char) → text.length ≤ whole.length → Option (Char × Shorter whole)
  | [], _ => none
  | c :: rest, hle =>
      if isSpace c then nextIn rest (Shorter.length_tail_le hle) else some (c, ⟨rest, hle⟩)

/-- The first character that is not white space, and what follows it. -/
def next? (text : List Char) : Option (Char × Shorter text) :=
  nextIn text (Shorter.length_le_self text)

end EdgeRouting.Json
