import EdgeRouting.Json.Basic
import EdgeRouting.Lookup
import EdgeRouting.Reference

/-!
# Failures of a resolution

A failure is recorded and the resolution tried again later, unlike an object that does not exist
yet, for which a resolution waits.  There is no case for a TLS context that cannot be encoded: only
one that outgrows every buffer has no socket (`TransportSocket.ofTls?_cases`).
-/

namespace EdgeRouting

/-- What an object was fetched for. -/
inductive Subject where
  | secret
  | caSecret
  | service
  | endpoints
  | nameSpace
  deriving DecidableEq, Repr

def Subject.label : Subject → String
  | secret => "secret"
  | caSecret => "CA secret"
  | service => "service"
  | endpoints => "endpoints"
  | nameSpace => "namespace"

inductive ResolveError where
  | track (reference : Reference) (reason : String)
  | fetch (subject : Subject) (object : ObjectName) (cause : LookupError)
  | dropRoutes (fault : Json.Fault)
  deriving DecidableEq, Repr

def ResolveError.message : ResolveError → String
  | track reference _ => "could not track " ++ reference.display
  | fetch subject object _ => "failed to fetch " ++ subject.label ++ " '" ++ object.brief ++ "'"
  | dropRoutes _ => "failed to parse routes to drop"

end EdgeRouting
