import EdgeRouting.Base64
import EdgeRouting.Resource.Metadata

/-!
# Objects that an ingress refers to

Secrets, services, endpoints and namespaces, as far as routing depends on them, and their JSON form.
The JSON is an object whose version and kind, if given, are those of its type; a field that is
missing or null is unset, and fields that routing does not depend on must have their types.
-/

namespace EdgeRouting

inductive PortName where
  | number (port : Int32)
  | named (name : String)
  deriving DecidableEq, Repr

structure Secret where
  metadata : Metadata
  data : KeyMap String Bytes
  deriving DecidableEq

structure ServicePort where
  name : Option String
  port : Int32
  targetPort : Option PortName
  deriving DecidableEq, Repr

structure ServiceSpec where
  type : Option String
  externalName : Option String
  ports : List ServicePort
  deriving DecidableEq, Repr

structure Service where
  metadata : Metadata
  spec : Option ServiceSpec
  deriving DecidableEq

/-- The addresses behind one set of ports, by whether they are ready. -/
structure EndpointSubset where
  ready : List String
  notReady : List String
  deriving DecidableEq, Repr

structure Endpoints where
  metadata : Metadata
  subsets : List EndpointSubset
  deriving DecidableEq

structure Namespace where
  metadata : Metadata
  deriving DecidableEq

/-- A port as a JSON number of 32 bits or a string. -/
def PortName.ofJson? (json : Json) : Option PortName :=
  match json with
  | .string name => some (.named name)
  | json => (json.int32?).map .number

def PortName.toJson : PortName → Json
  | number port => .integer port.toInt
  | named name => .string name

variable [FieldTypes]

namespace Secret

/-- A value of a secret: base64, or null for no bytes. -/
def valueOfJson? : Json → Option Bytes
  | .null => some []
  | .string encoded => Base64.decode? encoded.toList
  | _ => none

def ofJson? (json : Json) : Option Secret := do
  let field ← RecordType.secret.fieldsOfKind? "Secret" json
  return {
    metadata := ← Json.unlessNull .unset Metadata.ofJson? (field "metadata")
    data := ← Json.unlessNull .empty (Json.map? valueOfJson?) (field "data") }

/-- The bytes under a key, or none if there is no such key. -/
def bytes (secret : Secret) (key : String) : Bytes := (secret.data.get? key).getD []

end Secret

def ServicePort.ofJson? (json : Json) : Option ServicePort := do
  let field ← RecordType.servicePort.fields? json
  return {
    name := ← Json.optional Json.string? (field "name")
    port := ← Json.unlessNull 0 Json.int32? (field "port")
    targetPort := ← Json.optional PortName.ofJson? (field "targetPort") }

def ServiceSpec.ofJson? (json : Json) : Option ServiceSpec := do
  let field ← RecordType.serviceSpec.fields? json
  return {
    type := ← Json.optional Json.string? (field "type")
    externalName := ← Json.optional Json.string? (field "externalName")
    ports := ← Json.unlessNull [] (Json.list? ServicePort.ofJson?) (field "ports") }

def Service.ofJson? (json : Json) : Option Service := do
  let field ← RecordType.service.fieldsOfKind? "Service" json
  return {
    metadata := ← Json.unlessNull .unset Metadata.ofJson? (field "metadata")
    spec := ← Json.optional ServiceSpec.ofJson? (field "spec") }

namespace EndpointSubset

def addressOfJson? (json : Json) : Option String := do
  let field ← RecordType.endpointAddress.fields? json
  Json.unlessNull "" Json.string? (field "ip")

def ofJson? (json : Json) : Option EndpointSubset := do
  let field ← RecordType.endpointSubset.fields? json
  return {
    ready := ← Json.unlessNull [] (Json.list? addressOfJson?) (field "addresses")
    notReady := ← Json.unlessNull [] (Json.list? addressOfJson?) (field "notReadyAddresses") }

end EndpointSubset

def Endpoints.ofJson? (json : Json) : Option Endpoints := do
  let field ← RecordType.endpoints.fieldsOfKind? "Endpoints" json
  return {
    metadata := ← Json.unlessNull .unset Metadata.ofJson? (field "metadata")
    subsets := ← Json.unlessNull [] (Json.list? EndpointSubset.ofJson?) (field "subsets") }

def Namespace.ofJson? (json : Json) : Option Namespace := do
  let field ← RecordType.nameSpace.fieldsOfKind? "Namespace" json
  return { metadata := ← Json.unlessNull .unset Metadata.ofJson? (field "metadata") }

end EdgeRouting
