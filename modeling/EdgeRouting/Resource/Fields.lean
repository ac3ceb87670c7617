import EdgeRouting.Json.Decode

/-!
# The fields of cluster objects

The objects of a cluster have many more fields than routing reads.  These fields have types, too,
and a value that breaks one of them is not an object of its kind.  What the types are is a matter of
the version of the cluster's API, so it is left open here.
-/

namespace EdgeRouting

/-- The records that routing reads out of the objects of a cluster. -/
inductive RecordType where
  | metadata
  | secret
  | service
  | serviceSpec
  | servicePort
  | endpoints
  | endpointSubset
  | endpointAddress
  | nameSpace
  deriving DecidableEq, Repr

/-- What the fields that routing does not read may hold.  A field that the type does not have may
hold anything. -/
class FieldTypes where
  admits (type : RecordType) (field : String) (json : Json) : Bool

namespace RecordType

def readFields : RecordType → List String
  | metadata => ["name", "namespace", "labels", "annotations"]
  | secret => ["apiVersion", "kind", "metadata", "data"]
  | service => ["apiVersion", "kind", "metadata", "spec"]
  | serviceSpec => ["type", "externalName", "ports"]
  | servicePort => ["name", "port", "targetPort"]
  | endpoints => ["apiVersion", "kind", "metadata", "subsets"]
  | endpointSubset => ["addresses", "notReadyAddresses"]
  | endpointAddress => ["ip"]
  | nameSpace => ["apiVersion", "kind", "metadata"]

variable [FieldTypes]

/-- A field that routing does not read holds what it may hold, or null if it is unset. -/
def admits (type : RecordType) (field : String) : Json → Bool
  | .null => true
  | json => FieldTypes.admits type field json

/-- All fields that routing does not read hold what they may hold. -/
def admitsAll (type : RecordType) (members : List (String × Json)) : Bool :=
  members.all fun member =>
    type.readFields.contains member.1 || type.admits member.1 member.2

/-- The fields of a record of this type. -/
def fields? (type : RecordType) : Json → Option (String → Option Json)
  | .object members =>
      if type.admitsAll members then some fun name => KeyMap.findEntry name members else none
  | _ => none

/-- The fields of an object whose version and kind, if given, are `v1` and `kind`. -/
def fieldsOfKind? (type : RecordType) (kind : String) (json : Json) :
    Option (String → Option Json) :=
  match type.fields? json with
  | none => none
  | some field =>
      let agrees : String → String → Bool := fun name expected =>
        match field name with
        | none => true
        | some (.string given) => decide (given = expected)
        | some _ => false
      if agrees "apiVersion" "v1" ∧ agrees "kind" kind then some field else none

end RecordType

end EdgeRouting
