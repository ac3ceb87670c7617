import EdgeRouting.Wire.Varint

/-!
# Fields of binary messages

A message is a sequence of fields, each with a key that holds its number and its form.  `fields`
splits a message into its fields; what a group holds is checked and left out, as no message of this
library has groups.
-/

namespace EdgeRouting.Wire

/-- What the key of a field and the bytes behind it hold. -/
inductive Token where
  | varint (value : Nat)
  | fixed64
  | bytes (content : Bytes)
  | groupStart
  | groupEnd
  | fixed32
  deriving DecidableEq, Repr

structure Field where
  number : Nat
  token : Token
  deriving DecidableEq, Repr

theorem length_drop (size : Nat) (input : Bytes) : (input.drop size).length ≤ input.length :=
  (List.drop_sublist size input).length_le

/-- Leaves out the bytes of a field of fixed size. -/
def skipBytes (size : Nat) (input : Bytes) :
    Option { rest : Bytes // rest.length ≤ input.length } :=
  if size ≤ input.length then some ⟨input.drop size, length_drop size input⟩ else none

/-- Reads one field.  Keys have at most 32 bits, and no field has the number zero. -/
def readField (input : Bytes) : Option (Field × Shorter input) :=
  match readVarint input with
  | none => none
  | some (key, rest) =>
      let number := key / 8
      if 0x100000000 ≤ key ∨ number = 0 then none
      else
        match key % 8 with
        | 0 => (readVarint rest.val).map fun found =>
            (⟨number, .varint found.1⟩, rest.after found.2)
        | 1 => (skipBytes 8 rest.val).map fun last =>
            (⟨number, .fixed64⟩, rest.afterAtMost last)
        | 2 =>
            match readVarint rest.val with
            | none => none
            | some (size, last) =>
                if size ≤ last.val.length then
                  some (⟨number, .bytes (last.val.take size)⟩,
                    (rest.after last).drop size)
                else none
        | 3 => some (⟨number, .groupStart⟩, rest)
        | 4 => some (⟨number, .groupEnd⟩, rest)
        | 5 => (skipBytes 4 rest.val).map fun last =>
            (⟨number, .fixed32⟩, rest.afterAtMost last)
        | _ => none

/-- The fields behind those in the groups that are `opened`, the innermost first.  Nothing may stand
in `depth` open groups. -/
def fieldsIn (depth : Nat) (opened : List Nat) (input : Bytes) : Option (List Field) :=
  if input.isEmpty then
    if opened.isEmpty then some [] else none
  else
    match readField input with
    | none => none
    | some (field, rest) =>
        match field.token, opened with
        | .groupEnd, [] => none
        | .groupEnd, innermost :: outer =>
            if field.number = innermost then fieldsIn depth outer rest.val else none
        | .groupStart, opened =>
            if opened.length < depth then
              let inner := fieldsIn depth (field.number :: opened) rest.val
              if opened.isEmpty then inner.map (field :: ·) else inner
            else none
        | _, [] => (fieldsIn depth [] rest.val).map (field :: ·)
        | _, opened => if opened.length < depth then fieldsIn depth opened rest.val else none
termination_by input.length
decreasing_by all_goals exact rest.property

/-- The fields of a message, in which groups are nested at most `depth` deep. -/
def fields (depth : Nat) (input : Bytes) : Option (List Field) := fieldsIn depth [] input

/-! ### Writing fields -/

def varintField (number value : Nat) : Bytes := varint (number * 8) ++ varint value

def bytesField (number : Nat) (content : Bytes) : Bytes :=
  varint (number * 8 + 2) ++ varint content.length ++ content

/-! ### Numbers and texts -/

/-- A number of 32 bits with a sign is written with 64 bits. -/
def ofInt32 (value : Int32) : Nat := (value.toInt % 0x10000000000000000).toNat

/-- Only the low 32 bits of a number count. -/
def toInt32 (value : Nat) : Int32 := (UInt32.ofNat value).toInt32

def ofText (text : String) : Bytes := text.toUTF8.data.toList

/-- The text of some bytes, if they are UTF-8. -/
def toText? (bytes : Bytes) : Option String := String.fromUTF8? ⟨bytes.toArray⟩

end EdgeRouting.Wire
