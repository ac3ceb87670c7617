import EdgeRouting.Json.Document

/-!
# Records of one field

A record with a single field is read from an object, where other keys are skipped, or from an array
whose only item is the field.
-/

namespace EdgeRouting.Json

variable {α : Type}

/-- Reads a member of an object whose field `name` may be there once; others are skipped. -/
def fieldMember (name : String) (field : Reader α) (found : Option α) (key : String) :
    Except Fault (Reader (Option α)) :=
  if key ≠ name then
    .ok fun text =>
      match skip text with
      | .error fault => .error fault
      | .ok (_, rest) => .ok (found, rest)
  else if found.isSome then
    .error .unsuitable
  else
    .ok fun text =>
      match field text with
      | .error fault => .error fault
      | .ok (value, rest) => .ok (some value, rest)

/-- Reads a record with the field `name`; `missing` tells what it means to leave the field out. -/
def record (name : String) (field : Reader α) (missing : Except Fault α) : Reader α :=
  fun text =>
    match next? text with
    | none => .error .truncated
    | some (c, rest) =>
        if c = '[' then
          match next? rest.val with
          | none => .error .truncated
          | some (first, last) =>
              if first = ']' then
                missing.map fun value => (value, rest.after last)
              else
                match field rest.val with
                | .error fault => .error fault
                | .ok (value, middle) =>
                    match next? middle.val with
                    | none => .error .truncated
                    | some (close, last) =>
                        if close = ']' then .ok (value, rest.after (middle.after last))
                        else .error .malformed
        else if c = '\x7b' then
          match members characters (fieldMember name field) none rest.val with
          | .error fault => .error fault
          | .ok (some value, last) => .ok (value, rest.after last)
          | .ok (none, last) => missing.map fun value => (value, rest.after last)
        else
          .error (misfit text)

def list (item : Reader α) : Reader (List α) := fun text =>
  match next? text with
  | none => .error .truncated
  | some (c, rest) =>
      if c = '[' then
        match items item rest.val with
        | .error fault => .error fault
        | .ok (found, last) => .ok (found, rest.after last)
      else
        .error (misfit text)

end EdgeRouting.Json
