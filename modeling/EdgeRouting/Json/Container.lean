import EdgeRouting.Json.Reader

/-!
# Arrays and objects

`items` and `members` know the brackets, commas and colons of arrays and objects, and leave the
rest to the readers of what stands between them.
-/

namespace EdgeRouting.Json

variable {α κ σ : Type}

/-- The items of an array behind those already read, which are given in reverse, up to the closing
bracket; `text` ends `whole`. -/
def itemsIn {whole : List Char} (item : Reader α) (seen : List α) (text : List Char)
    (hle : text.length ≤ whole.length) : Except Fault (List α × Shorter whole) :=
  match next? text with
  | none => .error .truncated
  | some (c, rest) =>
      if c = ']' then
        .ok (seen.reverse, rest.within hle)
      else if c = ',' then
        match item rest.val with
        | .error fault => .error fault
        | .ok (value, after) =>
            itemsIn item (value :: seen) after.val
              (Shorter.length_le_within (rest.after after) hle)
      else
        .error .malformed
termination_by text.length
decreasing_by exact Shorter.length_after rest after

/-- The items of an array, after its opening bracket. -/
def items (item : Reader α) : Reader (List α) := fun text =>
  match next? text with
  | none => .error .truncated
  | some (c, rest) =>
      if c = ']' then
        .ok ([], rest)
      else
        match item text with
        | .error fault => .error fault
        | .ok (value, after) => itemsIn item [value] after.val after.length_le

/-- One member of an object.  The key, after its quotation mark, is read by `key`; `member` then
chooses from the state and the key how to read the value, or refuses the key. -/
def oneMember (key : Reader κ) (member : σ → κ → Except Fault (Reader σ)) (state : σ) :
    Reader σ := fun text =>
  match next? text with
  | none => .error .truncated
  | some (mark, start) =>
      if mark ≠ '"' then .error .malformed
      else
        match key start.val with
        | .error fault => .error fault
        | .ok (name, keyEnd) =>
            match member state name with
            | .error fault => .error fault
            | .ok value =>
                match next? keyEnd.val with
                | none => .error .truncated
                | some (colon, valueStart) =>
                    if colon ≠ ':' then .error .malformed
                    else
                      match value valueStart.val with
                      | .error fault => .error fault
                      | .ok (state, rest) =>
                          .ok (state, start.after (keyEnd.after (valueStart.after rest)))

/-- The members of an object behind those already read, up to the closing bracket; `text` ends
`whole`. -/
def membersIn {whole : List Char} (key : Reader κ)
    (member : σ → κ → Except Fault (Reader σ)) (state : σ) (text : List Char)
    (hle : text.length ≤ whole.length) : Except Fault (σ × Shorter whole) :=
  match next? text with
  | none => .error .truncated
  | some (c, rest) =>
      if c = '\x7d' then
        .ok (state, rest.within hle)
      else if c = ',' then
        match oneMember key member state rest.val with
        | .error fault => .error fault
        | .ok (state, after) =>
            membersIn key member state after.val
              (Shorter.length_le_within (rest.after after) hle)
      else
        .error .malformed
termination_by text.length
decreasing_by exact Shorter.length_after rest after

/-- The members of an object, after its opening bracket. -/
def members (key : Reader κ) (member : σ → κ → Except Fault (Reader σ)) (state : σ) :
    Reader σ := fun text =>
  match next? text with
  | none => .error .truncated
  | some (c, rest) =>
      if c = '\x7d' then
        .ok (state, rest)
      else
        match oneMember key member state text with
        | .error fault => .error fault
        | .ok (state, after) => membersIn key member state after.val after.length_le

end EdgeRouting.Json
