import EdgeRouting.ObjectName
import EdgeRouting.Resource.Fields

/-!
# Metadata of cluster objects

Every object of a cluster says what it is called and carries labels and annotations.  Each part may
be unset, which is told apart from empty where the metadata are written back.
-/

namespace EdgeRouting

abbrev Bytes := List UInt8

/-- Texts under text keys: labels, annotations, headers. -/
abbrev TextMap := KeyMap String String

structure Metadata where
  name : Option String
  ns : Option String
  labels : Option TextMap
  annotations : Option TextMap
  deriving DecidableEq

namespace Metadata

def unset : Metadata := ⟨none, none, none, none⟩

instance : Inhabited Metadata := ⟨unset⟩

/-- The object's name, where unset parts read as empty. -/
def objectName (metadata : Metadata) : ObjectName :=
  ⟨metadata.ns.getD "", metadata.name.getD ""⟩

def labelsOrEmpty (metadata : Metadata) : TextMap := metadata.labels.getD .empty

def annotationsOrEmpty (metadata : Metadata) : TextMap := metadata.annotations.getD .empty

/-- The metadata in a JSON object; parts that are missing or null are unset. -/
def ofJson? [FieldTypes] (json : Json) : Option Metadata := do
  let field ← RecordType.metadata.fields? json
  return {
    name := ← Json.optional Json.string? (field "name")
    ns := ← Json.optional Json.string? (field "namespace")
    labels := ← Json.optional (Json.map? Json.string?) (field "labels")
    annotations := ← Json.optional (Json.map? Json.string?) (field "annotations") }

/-- The parts that are set, as members of a JSON object. -/
def toJson (metadata : Metadata) : Json :=
  let texts := fun map : TextMap => Json.object (map.mapValues Json.string).entries
  let part := fun (name : String) (value : Option Json) =>
    (value.map fun json => (name, json)).toList
  .ofMembers
    (part "name" (metadata.name.map .string) ++ part "namespace" (metadata.ns.map .string) ++
      part "labels" (metadata.labels.map texts) ++
      part "annotations" (metadata.annotations.map texts))

end Metadata

end EdgeRouting
