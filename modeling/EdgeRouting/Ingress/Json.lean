import EdgeRouting.Ingress.Basic

/-!
# The JSON form of an ingress

`Ingress.ofJson?` takes an ingress from a JSON value, `Ingress.toJson` writes it back.  Writing
leaves out what is empty or unset wherever reading supplies it again.
-/

namespace EdgeRouting

namespace Visibility

def choices : List (String × Visibility) :=
  [(externalIP.label, externalIP), (clusterLocal.label, clusterLocal)]

def ofJson? : Json → Option Visibility := Json.choice? choices

end Visibility

namespace HttpOption

def choices : List (String × HttpOption) :=
  [(enabled.label, enabled), (redirected.label, redirected)]

def ofJson? : Json → Option HttpOption := Json.choice? choices

end HttpOption

/-- Some members of an object, unless there is nothing to write. -/
def memberUnless (absent : Bool) (name : String) (json : Json) : List (String × Json) :=
  if absent then [] else [(name, json)]

/-- A member of an object, if it is set. -/
def memberIfSet (name : String) (text : Option String) : List (String × Json) :=
  (text.map fun value => (name, Json.string value)).toList

def TextMap.toJson (texts : TextMap) : Json :=
  .object (texts.mapValues Json.string).entries

def textsToJson (texts : List String) : Json := .array (texts.map .string)

namespace TlsBinding

def ofJson? (json : Json) : Option TlsBinding :=
  if json.isRecord 3 then do
    return {
      hosts := ← Json.withDefault [] (Json.list? Json.string?) (json.field? 0 "hosts")
      secretName := ← Json.required Json.string? (json.field? 1 "secretName")
      secretNamespace := ← Json.required Json.string? (json.field? 2 "secretNamespace") }
  else none

def toJson (binding : TlsBinding) : Json :=
  .ofMembers [
    ("hosts", textsToJson binding.hosts),
    ("secretName", .string binding.secretName),
    ("secretNamespace", .string binding.secretNamespace)]

end TlsBinding

namespace HeaderMatch

def ofJson? (json : Json) : Option HeaderMatch :=
  if json.isRecord 1 then do
    return { exact := ← Json.optional Json.string? (json.field? 0 "exact") }
  else none

def toJson (header : HeaderMatch) : Json :=
  .ofMembers (memberIfSet "exact" header.exact)

end HeaderMatch

namespace Split

def ofJson? (json : Json) : Option Split :=
  if json.isRecord 5 then do
    return {
      serviceNamespace := ← Json.required Json.string? (json.field? 0 "serviceNamespace")
      serviceName := ← Json.required Json.string? (json.field? 1 "serviceName")
      servicePort := ← Json.required PortName.ofJson? (json.field? 2 "servicePort")
      percent := ← Json.withDefault 0 Json.uint32? (json.field? 3 "percent")
      appendHeaders :=
        ← Json.withDefault .empty (Json.map? Json.string?) (json.field? 4 "appendHeaders") }
  else none

def toJson (split : Split) : Json :=
  .ofMembers
    ([("serviceNamespace", .string split.serviceNamespace),
      ("serviceName", .string split.serviceName),
      ("servicePort", split.servicePort.toJson),
      ("percent", .integer split.percent.toNat)] ++
      memberUnless split.appendHeaders.isEmpty "appendHeaders"
        (TextMap.toJson split.appendHeaders))

end Split

namespace HttpPath

def ofJson? (json : Json) : Option HttpPath :=
  if json.isRecord 5 then do
    return {
      path := ← Json.withDefault "" Json.string? (json.field? 0 "path")
      headers :=
        ← Json.withDefault .empty (Json.map? HeaderMatch.ofJson?) (json.field? 1 "headers")
      rewriteHost := ← Json.optional Json.string? (json.field? 2 "rewriteHost")
      appendHeaders :=
        ← Json.withDefault .empty (Json.map? Json.string?) (json.field? 3 "appendHeaders")
      splits := ← Json.withDefault [] (Json.list? Split.ofJson?) (json.field? 4 "splits") }
  else none

def toJson (path : HttpPath) : Json :=
  .ofMembers
    (memberUnless (path.path = "") "path" (.string path.path) ++
      memberUnless path.headers.isEmpty "headers"
        (.object (path.headers.mapValues HeaderMatch.toJson).entries) ++
      memberIfSet "rewriteHost" path.rewriteHost ++
      memberUnless path.appendHeaders.isEmpty "appendHeaders"
        (TextMap.toJson path.appendHeaders) ++
      [("splits", .array (path.splits.map Split.toJson))])

end HttpPath

namespace Rule

/-- The paths of a rule, which stand in a record of their own. -/
def pathsOfJson? (json : Json) : Option (List HttpPath) :=
  if json.isRecord 1 then
    Json.withDefault [] (Json.list? HttpPath.ofJson?) (json.field? 0 "paths")
  else none

def ofJson? (json : Json) : Option Rule :=
  if json.isRecord 3 then do
    return {
      hosts := ← Json.withDefault [] (Json.list? Json.string?) (json.field? 0 "hosts")
      visibility :=
        ← Json.withDefault .externalIP Visibility.ofJson? (json.field? 1 "visibility")
      paths := ← Json.withDefault [] pathsOfJson? (json.field? 2 "http") }
  else none

def toJson (rule : Rule) : Json :=
  .ofMembers [
    ("hosts", textsToJson rule.hosts),
    ("visibility", .string rule.visibility.label),
    ("http", .ofMembers [("paths", .array (rule.paths.map HttpPath.toJson))])]

end Rule

namespace Ingress

/-- What an ingress holds besides its metadata. -/
def specOfJson? (metadata : Metadata) (json : Json) : Option Ingress :=
  if json.isRecord 3 then do
    return {
      metadata
      tls := ← Json.withDefault [] (Json.list? TlsBinding.ofJson?) (json.field? 0 "tls")
      rules := ← Json.withDefault [] (Json.list? Rule.ofJson?) (json.field? 1 "rules")
      httpOption :=
        ← Json.withDefault .enabled HttpOption.ofJson? (json.field? 2 "httpOption") }
  else none

/-- The ingress of a JSON value.  Its version and kind are not looked at. -/
def ofJson? [FieldTypes] (json : Json) : Option Ingress :=
  if json.isRecord 2 then do
    let metadata ← Json.required Metadata.ofJson? (json.field? 0 "metadata")
    Json.required (specOfJson? metadata) (json.field? 1 "spec")
  else none

def specToJson (ingress : Ingress) : Json :=
  .ofMembers
    (memberUnless ingress.tls.isEmpty "tls" (.array (ingress.tls.map TlsBinding.toJson)) ++
      [("rules", .array (ingress.rules.map Rule.toJson)),
        ("httpOption", .string ingress.httpOption.label)])

def toJson (ingress : Ingress) : Json :=
  .ofMembers [
    ("apiVersion", .string "networking.internal.knative.dev/v1alpha1"),
    ("kind", .string "Ingress"),
    ("metadata", ingress.metadata.toJson),
    ("spec", ingress.specToJson)]

end Ingress

end EdgeRouting
