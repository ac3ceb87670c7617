import EdgeRouting.Json.Basic

/-!
# Taking values from JSON

The pieces from which domain values are taken: numbers of a fixed width, lists, maps, and records.
A record is an object with named fields; the records of an ingress may also be given as the array of
their fields in order, where those at the end may be left out.
-/

namespace EdgeRouting.Json

variable {α : Type}

def int32? : Json → Option Int32
  | integer value =>
      if -0x80000000 ≤ value ∧ value < 0x80000000 then some (Int32.ofInt value) else none
  | _ => none

def uint32? : Json → Option UInt32
  | integer value =>
      if 0 ≤ value ∧ value < 0x100000000 then some (UInt32.ofNat value.toNat) else none
  | _ => none

/-- All items of an array, each by the same decoder. -/
def list? (item : Json → Option α) : Json → Option (List α)
  | array items => items.mapM item
  | _ => none

/-- All members of an object, each by the same decoder. -/
def map? (item : Json → Option α) : Json → Option (KeyMap String α)
  | object members =>
      (members.mapM fun member => (item member.2).map fun value => (member.1, value)).map
        KeyMap.ofList
  | _ => none

/-- The value is an object, or an array of at most so many items: a record of an ingress. -/
def isRecord (size : Nat) : Json → Bool
  | object _ => true
  | array items => items.length ≤ size
  | _ => false

/-- A field of a record, by its name in an object and by its place in an array. -/
def field? (place : Nat) (name : String) : Json → Option Json
  | object members => KeyMap.findEntry name members
  | array items => items[place]?
  | _ => none

def required (item : Json → Option α) : Option Json → Option α
  | none => none
  | some json => item json

/-- A field that stands for a default value where it is missing. -/
def withDefault (fallback : α) (item : Json → Option α) : Option Json → Option α
  | none => some fallback
  | some json => item json

/-- A field that stands for a default value where it is missing or null. -/
def unlessNull (fallback : α) (item : Json → Option α) : Option Json → Option α
  | none => some fallback
  | some null => some fallback
  | some json => item json

/-- A field that is unset where it is missing or null. -/
def optional (item : Json → Option α) : Option Json → Option (Option α) :=
  unlessNull none fun json => (item json).map some

/-- A name out of several, as a string or as the key of an object whose only member is null. -/
def choice? (choices : List (String × α)) : Json → Option α
  | string name => KeyMap.findEntry name choices
  | object [(name, null)] => KeyMap.findEntry name choices
  | _ => none

end EdgeRouting.Json
