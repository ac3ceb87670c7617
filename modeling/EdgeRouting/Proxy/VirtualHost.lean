import EdgeRouting.Proxy.Route

/-!
# Virtual hosts

The routes of some domains, under one name, and what the authorization service is told with each of
their requests.
-/

namespace EdgeRouting

structure VirtualHost where
  name : String
  domains : List String
  routes : List Route
  extAuthz : Option ExtAuthz
  deriving DecidableEq

/-- The context extensions of a virtual host under authorization. -/
def VirtualHost.contextExtensions (host : VirtualHost) : Option TextMap :=
  match host.extAuthz with
  | some (.check contextExtensions) => some contextExtensions
  | _ => none

end EdgeRouting
