import EdgeRouting.Lookup
import EdgeRouting.Text.Quoted

/-!
# The index of cluster objects

The objects that ingresses may refer to, by kind, namespace and name; the last one applied under a
name counts.  No namespace is kept without objects, so that an index shows nothing of objects that
were deleted.
-/

namespace EdgeRouting

inductive Resource where
  | secret (object : Secret)
  | service (object : Service)
  | endpoints (object : Endpoints)
  | nameSpace (object : Namespace)
  deriving DecidableEq

inductive ResourceError where
  /-- It is not an object of the kind that it claims to be. -/
  | unreadable
  | unsupportedKind (kind : String)
  deriving DecidableEq, Repr

namespace Resource

/-- The kind that a JSON value claims to be; without a claim it is empty. -/
def claimedKind (json : Json) : String :=
  ((json.member? "kind").bind Json.string?).getD ""

def ofJson? [FieldTypes] (json : Json) : Except ResourceError Resource :=
  let read := fun resource? : Option Resource =>
    match resource? with
    | some resource => Except.ok resource
    | none => Except.error ResourceError.unreadable
  let kind := claimedKind json
  if kind = "Secret" then read ((Secret.ofJson? json).map secret)
  else if kind = "Service" then read ((Service.ofJson? json).map service)
  else if kind = "Endpoints" then read ((Endpoints.ofJson? json).map endpoints)
  else if kind = "Namespace" then read ((Namespace.ofJson? json).map nameSpace)
  else .error (.unsupportedKind kind)

end Resource

abbrev ByNamespace (α : Type) := KeyMap String (KeyMap String α)

namespace ByNamespace

variable {α : Type}

def find? (objects : ByNamespace α) (name : ObjectName) : Option α :=
  (KeyMap.get? objects name.ns).bind fun inner => inner.get? name.name

def put (objects : ByNamespace α) (name : ObjectName) (object : α) : ByNamespace α :=
  KeyMap.insert objects name.ns
    (((KeyMap.get? objects name.ns).getD .empty).insert name.name object)

/-- Removes an object, and its namespace with the last object in it. -/
def remove (objects : ByNamespace α) (name : ObjectName) : ByNamespace α :=
  match KeyMap.get? objects name.ns with
  | none => objects
  | some inner =>
      let rest := inner.erase name.name
      if rest.isEmpty then KeyMap.erase objects name.ns
      else KeyMap.insert objects name.ns rest

/-- Puts an object under the name in its metadata; without a full name it is ignored. -/
def putNamed (objects : ByNamespace α) (metadata : Metadata) (object : α) : ByNamespace α :=
  match metadata.name, metadata.ns with
  | some name, some ns => objects.put ⟨ns, name⟩ object
  | _, _ => objects

end ByNamespace

structure Index where
  secrets : ByNamespace Secret
  services : ByNamespace Service
  endpoints : ByNamespace Endpoints
  namespaces : KeyMap String Namespace
  deriving DecidableEq

namespace Index

def empty : Index := ⟨.empty, .empty, .empty, .empty⟩

/-- Indexes an object; one without a full name is ignored. -/
def apply (index : Index) : Resource → Index
  | .secret object =>
      { index with secrets := index.secrets.putNamed object.metadata object }
  | .service object =>
      { index with services := index.services.putNamed object.metadata object }
  | .endpoints object =>
      { index with endpoints := index.endpoints.putNamed object.metadata object }
  | .nameSpace object =>
      match object.metadata.name with
      | none => index
      | some name => { index with namespaces := index.namespaces.insert name object }

def delete (index : Index) : Query → Index
  | .secret name => { index with secrets := index.secrets.remove name }
  | .service name => { index with services := index.services.remove name }
  | .endpoints name => { index with endpoints := index.endpoints.remove name }
  | .nameSpace name => { index with namespaces := index.namespaces.erase name }

def find? (index : Index) : (query : Query) → Option query.Answer
  | .secret name => index.secrets.find? name
  | .service name => index.services.find? name
  | .endpoints name => index.endpoints.find? name
  | .nameSpace name => index.namespaces.get? name

/-- The name by which an object is reported missing. -/
def missingName : Query → String
  | .nameSpace name => name
  | query => query.object.display

def lookup (index : Index) : Lookup := fun query =>
  match index.find? query with
  | some object => .ok object
  | none => .error (.notFound query.kind (missingName query))

end Index

end EdgeRouting
