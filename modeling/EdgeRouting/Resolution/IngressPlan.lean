import EdgeRouting.Resolution.Certificate
import EdgeRouting.Resolution.RouteTable

/-!
# The plan of an ingress

Certificates come first, then the rules in order, and last the namespace, if it names the listener.
Every rule has a virtual host for requests from within the cluster; only a rule that is reachable
from outside has one for requests from there, and a second one with TLS.
-/

namespace EdgeRouting

/-- The client that the authorization service sees. -/
def extAuthzClient : String := "ingress-translator"

/-- What the authorization service is told with each request: the ingress's labels, and over them
the client and the visibility of the rule. -/
def contextExtensions (ingress : Ingress) (rule : Rule) : TextMap :=
  (ingress.metadata.labelsOrEmpty.insert "client" extAuthzClient).insert "visibility"
    rule.visibility.label

/-- The name of the virtual host of a rule, by the rule's place in its ingress. -/
def ruleName (ingress : Ingress) (place : Nat) : String :=
  "(" ++ ingress.owner.display ++ ").Rules[" ++ toString place ++ "]"

structure RuleHosts where
  visibility : Visibility
  plain : VirtualHost
  tls : Option VirtualHost
  clusters : List Cluster
  deriving DecidableEq

namespace RuleHosts

def external? (hosts : RuleHosts) : Option VirtualHost :=
  if hosts.visibility.isExternal then some hosts.plain else none

def externalTls? (hosts : RuleHosts) : Option VirtualHost :=
  if hosts.visibility.isExternal then hosts.tls else none

end RuleHosts

/-- The virtual hosts of a rule; without TLS routes there is none for TLS. -/
def Rule.virtualHosts (config : Config) (ingress : Ingress) (rule : Rule) (name : String)
    (table : RouteTable) : RuleHosts :=
  let extAuthz :=
    if config.extAuthzEnabledFor ingress then some (.check (contextExtensions ingress rule))
    else none
  { visibility := rule.visibility
    plain := ⟨name, rule.domains, table.routes, extAuthz⟩
    tls :=
      if table.tlsRoutes.isEmpty then none
      else some ⟨name, rule.domains, table.tlsRoutes, extAuthz⟩
    clusters := table.clusters }

namespace Plan

def ruleHosts (config : Config) (ingress : Ingress) (rule : Rule) (place : Nat) :
    Plan RuleHosts := do
  let name := ruleName ingress place
  let table ← ruleTable config ingress rule name
  return rule.virtualHosts config ingress name table

/-- The listener that the ingress's namespace names, if traffic is isolated by port. -/
def listenerPort (config : Config) (ingress : Ingress) : Plan (Option String) :=
  match config.trafficIsolation with
  | .none => return none
  | .port => do
      let found ← need .nameSpace (.nameSpace ingress.owner.ns)
      return Annotations.listenerPort found.metadata.annotationsOrEmpty

def ingress (config : Config) (ingress : Ingress) : Plan ProxyConfig := do
  let sniMatches ← each certificate ingress.tls
  let hosts ← each (fun rule => ruleHosts config ingress rule.1 rule.2) ingress.rules.zipIdx
  let listenerPort ← listenerPort config ingress
  return {
    name := ingress.owner
    listenerPort
    sniMatches
    clusters := hosts.flatMap RuleHosts.clusters
    externalVirtualHosts := hosts.filterMap RuleHosts.external?
    externalTlsVirtualHosts := hosts.filterMap RuleHosts.externalTls?
    internalVirtualHosts := hosts.map RuleHosts.plain }

end Plan

/-- The resolution of an ingress: its plan, carried out against a lookup and a registrar. -/
def resolve (config : Config) (lookup : Lookup) (registrar : Registrar) (ingress : Ingress) :
    Run ProxyConfig :=
  (Plan.ingress config ingress).run lookup registrar

end EdgeRouting
