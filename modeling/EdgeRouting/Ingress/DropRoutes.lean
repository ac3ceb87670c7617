import EdgeRouting.Json.Record
import EdgeRouting.Json.Writer
import EdgeRouting.Text.Blank

/-!
# Routes to drop

An ingress may list path prefixes whose requests are rejected.  The list is a JSON document in an
annotation and is read as a stream: its first fault counts.
-/

namespace EdgeRouting

structure DropRoute where
  path : String
  deriving DecidableEq, Repr

structure DropRoutes where
  routes : List DropRoute
  deriving DecidableEq, Repr

/-- The rejected prefix; a slash is put in front where there is none. -/
def DropRoute.slashedPath (route : DropRoute) : String :=
  if route.path.toList.head? = some '/' then route.path else "/" ++ route.path

def DropRoute.toJson (route : DropRoute) : Json :=
  .object [("path", .string route.path)]

/-- Reads one route; its path must be there. -/
def DropRoute.read : Json.Reader DropRoute := fun text =>
  (Json.record "path" Json.quotedText (.error .unsuitable) text).map
    fun found => (⟨found.1⟩, found.2)

namespace DropRoutes

def empty : DropRoutes := ⟨[]⟩

def paths (routes : DropRoutes) : List String := routes.routes.map DropRoute.slashedPath

def toJson (routes : DropRoutes) : Json :=
  .object [("routes", .array (routes.routes.map DropRoute.toJson))]

/-- Reads the routes; there are none if their field is missing. -/
def read : Json.Reader DropRoutes := fun text =>
  (Json.record "routes" (Json.list DropRoute.read) (.ok []) text).map
    fun found => (⟨found.1⟩, found.2)

/-- The routes of a document, where a blank one lists none. -/
def parse (document : String) : Except Json.Fault DropRoutes :=
  match Text.trim document.toList with
  | [] => .ok empty
  | text => Json.whole read text

end DropRoutes

end EdgeRouting
