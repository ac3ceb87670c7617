import EdgeRouting.Resource.Basic

/-!
# Ingresses

An ingress says which hosts are served, how the paths of each host are split over services, and
which certificates terminate TLS.  Empty texts stand for unset ones wherever both can be written:
`HttpPath.pathOrRoot` and `HttpPath.hostOverride` say what a path means.
-/

namespace EdgeRouting

inductive Visibility where
  /-- Reachable from outside the cluster. -/
  | externalIP
  | clusterLocal
  deriving DecidableEq, Repr

/-- What happens to requests from outside that do not use TLS. -/
inductive HttpOption where
  | enabled
  | redirected
  deriving DecidableEq, Repr

/-- TLS for some hosts by the certificate of a secret. -/
structure TlsBinding where
  hosts : List String
  secretName : String
  secretNamespace : String
  deriving DecidableEq, Repr

/-- What a request header must be: this text, or only present. -/
structure HeaderMatch where
  exact : Option String
  deriving DecidableEq, Repr

/-- A share of a path's requests and the service that takes it. -/
structure Split where
  serviceNamespace : String
  serviceName : String
  servicePort : PortName
  percent : UInt32
  appendHeaders : TextMap
  deriving DecidableEq

structure HttpPath where
  path : String
  headers : KeyMap String HeaderMatch
  rewriteHost : Option String
  appendHeaders : TextMap
  splits : List Split
  deriving DecidableEq

structure Rule where
  hosts : List String
  visibility : Visibility
  paths : List HttpPath
  deriving DecidableEq

structure Ingress where
  metadata : Metadata
  tls : List TlsBinding
  rules : List Rule
  httpOption : HttpOption
  deriving DecidableEq

namespace Visibility

def label : Visibility → String
  | externalIP => "ExternalIP"
  | clusterLocal => "ClusterLocal"

def isExternal : Visibility → Bool
  | externalIP => true
  | clusterLocal => false

end Visibility

def HttpOption.label : HttpOption → String
  | enabled => "Enabled"
  | redirected => "Redirected"

def TlsBinding.secret (binding : TlsBinding) : ObjectName :=
  ⟨binding.secretNamespace, binding.secretName⟩

/-- The text to match, where the empty text is the same as none. -/
def HeaderMatch.exactOrPresent (header : HeaderMatch) : Option String :=
  header.exact.filter (· ≠ "")

def Split.service (split : Split) : ObjectName :=
  ⟨split.serviceNamespace, split.serviceName⟩

namespace HttpPath

/-- The prefix that a request path must have; the empty one is `/`. -/
def pathOrRoot (path : HttpPath) : String :=
  if path.path = "" then "/" else path.path

/-- The host that requests are sent to instead, where the empty text is the same as none. -/
def hostOverride (path : HttpPath) : Option String :=
  path.rewriteHost.filter (· ≠ "")

end HttpPath

/-- The hosts of a rule, each alone and with any port, since clients may name the port. -/
def Rule.domains (rule : Rule) : List String :=
  rule.hosts.flatMap fun host => [host, host ++ ":*"]

/-- The name under which an ingress is known to the objects that it depends on. -/
def Ingress.owner (ingress : Ingress) : ObjectName := ingress.metadata.objectName

end EdgeRouting
