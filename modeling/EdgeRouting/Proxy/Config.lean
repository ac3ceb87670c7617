import EdgeRouting.Proxy.Cluster
import EdgeRouting.Proxy.VirtualHost

/-!
# The proxy's configuration for one ingress
-/

namespace EdgeRouting

/-- The certificate that is presented for some server names. -/
structure SniMatch where
  hosts : List String
  certSource : ObjectName
  certificateChain : Bytes
  privateKey : Bytes
  deriving DecidableEq, Repr

structure ProxyConfig where
  name : ObjectName
  /-- The listener of all virtual hosts, if it is not the shared one. -/
  listenerPort : Option String
  /-- One for each binding of the ingress. -/
  sniMatches : List SniMatch
  /-- One for each split; equal names are not merged. -/
  clusters : List Cluster
  externalVirtualHosts : List VirtualHost
  externalTlsVirtualHosts : List VirtualHost
  internalVirtualHosts : List VirtualHost
  deriving DecidableEq

end EdgeRouting
