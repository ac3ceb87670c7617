import EdgeRouting.Json.Scalar
import EdgeRouting.Json.Container

/-!
# Whole JSON values and documents

`value` reads any JSON value to a given depth; `skip` only checks a value's grammar, at any depth.
`parse` reads a document, which is one value and nothing behind it.
-/

namespace EdgeRouting.Json

variable {α : Type}

/-- Any value whose arrays and objects are nested at most `depth` deep; a bracket that goes deeper
is a fault.  Of two members of an object with the same key the later one counts. -/
def value (depth : Nat) : Reader Json := fun text =>
  match next? text with
  | none => .error .truncated
  | some (c, rest) =>
      if c = '[' then
        match depth with
        | 0 => .error .malformed
        | inner + 1 =>
            match items (value inner) rest.val with
            | .error fault => .error fault
            | .ok (found, last) => .ok (array found, rest.after last)
      else if c = '\x7b' then
        match depth with
        | 0 => .error .malformed
        | inner + 1 =>
            let member := fun (found : List (String × Json)) (key : String) =>
              Except.ok (ε := Fault) fun text =>
                match value inner text with
                | .error fault => .error fault
                | .ok (item, last) => .ok (KeyMap.insertEntry key item found, last)
            match members characters member [] rest.val with
            | .error fault => .error fault
            | .ok (found, last) => .ok (object found, rest.after last)
      else
        match scalar (c :: rest.val) with
        | .error fault => .error fault
        | .ok (found, last) => .ok (found, rest.afterHead last)

/-- Checks the grammar of a value whose arrays and objects are nested at most `depth` deep. -/
def skipTo (depth : Nat) : Reader Unit := fun text =>
  match next? text with
  | none => .error .truncated
  | some (c, rest) =>
      if c = '[' then
        match depth with
        | 0 => .error .malformed
        | inner + 1 =>
            match items (skipTo inner) rest.val with
            | .error fault => .error fault
            | .ok (_, last) => .ok ((), rest.after last)
      else if c = '\x7b' then
        match depth with
        | 0 => .error .malformed
        | inner + 1 =>
            match members skipCharacters (fun _ _ => .ok (skipTo inner)) () rest.val with
            | .error fault => .error fault
            | .ok (_, last) => .ok ((), rest.after last)
      else
        match skipScalar (c :: rest.val) with
        | .error fault => .error fault
        | .ok (_, last) => .ok ((), rest.afterHead last)

/-- Checks the grammar of a value.  The length of the text bounds the depth of the value. -/
def skip : Reader Unit := fun text => skipTo text.length text

/-- The fault of a value that is not of the wanted shape: the value's own first fault, or else its
shape.  A bracket is known to be of the wrong shape before anything behind it is read. -/
def misfit (text : List Char) : Fault :=
  match next? text with
  | none => .truncated
  | some (c, rest) =>
      if c = '[' ∨ c = '\x7b' then .unsuitable
      else
        match scalar (c :: rest.val) with
        | .error fault => fault
        | .ok _ => .unsuitable

def quotedText : Reader String := fun input =>
  match next? input with
  | none => .error .truncated
  | some (c, rest) =>
      if c = '"' then
        match characters rest.val with
        | .error fault => .error fault
        | .ok (found, last) => .ok (found, rest.after last)
      else
        .error (misfit input)

/-- Reads a whole text: nothing but white space may follow the value. -/
def whole (reader : Reader α) (input : List Char) : Except Fault α :=
  match reader input with
  | .error fault => .error fault
  | .ok (found, rest) =>
      match next? rest.val with
      | none => .ok found
      | some _ => .error .malformed

/-- The deepest nesting of arrays and objects in a document. -/
def maximumDepth : Nat := 127

def parse (document : String) : Except Fault Json :=
  whole (value maximumDepth) document.toList

end EdgeRouting.Json
