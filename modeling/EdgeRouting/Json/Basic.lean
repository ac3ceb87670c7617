import EdgeRouting.Json.Numeral
import EdgeRouting.KeyMap

/-!
# JSON values

The value of a JSON text.  An object holds each key once, in the order of keys; a number is either
a 64-bit integer or kept as its numeral, since no reader of this library takes a number with a
fraction or an exponent.
-/

namespace EdgeRouting

inductive Json where
  | null
  | bool (value : Bool)
  | integer (value : Int)
  | fractional (numeral : Numeral)
  | string (value : String)
  | array (items : List Json)
  | object (members : List (String × Json))
  deriving Inhabited

namespace Json

inductive Fault where
  /-- The text is not JSON. -/
  | malformed
  /-- The text ends before its value does. -/
  | truncated
  /-- The text is JSON of another shape than the wanted one. -/
  | unsuitable
  deriving DecidableEq, Repr

/-- The value of an object's member; other values have no members. -/
def member? (key : String) : Json → Option Json
  | object members => KeyMap.findEntry key members
  | _ => none

def string? : Json → Option String
  | string value => some value
  | _ => none

/-- An object from its members in any order; of two with the same key the later one counts. -/
def ofMembers (members : List (String × Json)) : Json :=
  object (KeyMap.ofList members).entries

end Json

end EdgeRouting
