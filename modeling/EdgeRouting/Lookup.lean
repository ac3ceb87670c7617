import EdgeRouting.Resource.Basic

/-!
# Lookups

A resolution knows the cluster only by asking for one object at a time.  The answer is the object,
or that it does not exist, or another failure.
-/

namespace EdgeRouting

inductive ResourceKind where
  | secret
  | service
  | endpoints
  | nameSpace
  deriving DecidableEq, Repr

def ResourceKind.label : ResourceKind → String
  | secret => "secret"
  | service => "service"
  | endpoints => "endpoints"
  | nameSpace => "namespace"

inductive Query where
  | secret (object : ObjectName)
  | service (object : ObjectName)
  | endpoints (object : ObjectName)
  | nameSpace (name : String)
  deriving DecidableEq, Repr

namespace Query

@[reducible] def Answer : Query → Type
  | secret _ => Secret
  | service _ => Service
  | endpoints _ => Endpoints
  | nameSpace _ => Namespace

def kind : Query → ResourceKind
  | secret _ => .secret
  | service _ => .service
  | endpoints _ => .endpoints
  | nameSpace _ => .nameSpace

/-- The name of the object; a namespace is outside every namespace. -/
def object : Query → ObjectName
  | secret object => object
  | service object => object
  | endpoints object => object
  | nameSpace name => ⟨"", name⟩

end Query

inductive LookupError where
  | notFound (kind : ResourceKind) (name : String)
  | other (message : String)
  deriving DecidableEq, Repr

namespace LookupError

def message : LookupError → String
  | notFound kind name => kind.label ++ " " ++ name ++ " not found"
  | other message => message

def isNotFound : LookupError → Bool
  | notFound _ _ => true
  | other _ => false

end LookupError

abbrev Lookup := (query : Query) → Except LookupError query.Answer

end EdgeRouting
