import EdgeRouting.Files
import EdgeRouting.Index
import EdgeRouting.Ingress.Json
import EdgeRouting.Json.Document

/-!
# Resource files

A resource file holds one object, or a list of objects that are applied in order up to the first one
that is no resource.  The objects before it stay applied.
-/

namespace EdgeRouting

inductive LoadError where
  | cannotRead (path : String) (cause : FileError)
  | notJson (path : String) (fault : Json.Fault)
  | listWithoutItems (path : String)
  | invalidResource (path : String) (cause : ResourceError)
  | invalidIngress (path : String)
  deriving DecidableEq, Repr

def ResourceError.unsupportedMessage (kind : String) : String :=
  "unsupported resource kind: " ++ Text.quoted kind

namespace LoadError

/-- The outermost message of a failure.  A directory opens like a file, so that it is only its
contents that are no JSON. -/
def message : LoadError → String
  | cannotRead path .directory => path ++ ": invalid JSON"
  | cannotRead path .notText => path ++ ": invalid JSON"
  | cannotRead path _ => path
  | notJson path _ => path ++ ": invalid JSON"
  | listWithoutItems path => path ++ ": list has no items"
  | invalidResource path _ => "invalid resource in " ++ path
  | invalidIngress path => "invalid ingress in " ++ path

end LoadError

namespace ResourceFile

def readJson (files : Files) (path : String) : Except LoadError Json :=
  match files path with
  | .error cause => .error (.cannotRead path cause)
  | .ok text =>
      match Json.parse text with
      | .error fault => .error (.notJson path fault)
      | .ok json => .ok json

/-- The objects of a file. -/
def objects (path : String) (json : Json) : Except LoadError (List Json) :=
  if Resource.claimedKind json = "List" then
    match json.member? "items" with
    | some (.array items) => .ok items
    | _ => .error (.listWithoutItems path)
  else .ok [json]

variable [FieldTypes]

/-- Applies objects up to the first one that is no resource. -/
def applyAll (index : Index) : List Json → Index × Option ResourceError
  | [] => (index, none)
  | object :: rest =>
      match Resource.ofJson? object with
      | .error cause => (index, some cause)
      | .ok resource => applyAll (index.apply resource) rest

/-- Applies the objects of a file.  The result is their number, also of those that the index
ignores. -/
def load (files : Files) (index : Index) (path : String) : Index × Except LoadError Nat :=
  match readJson files path >>= objects path with
  | .error error => (index, .error error)
  | .ok found =>
      match applyAll index found with
      | (index, some cause) => (index, .error (.invalidResource path cause))
      | (index, none) => (index, .ok found.length)

def readIngress (files : Files) (path : String) : Except LoadError Ingress :=
  match readJson files path with
  | .error error => .error error
  | .ok json =>
      match Ingress.ofJson? json with
      | none => .error (.invalidIngress path)
      | some ingress => .ok ingress

end ResourceFile

end EdgeRouting
