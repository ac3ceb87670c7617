import EdgeRouting.Proxy.Route
import EdgeRouting.Proxy.TlsContext

/-!
# Clusters

A named group of endpoints, and how the proxy connects to them.
-/

namespace EdgeRouting

/-- A message needs more room than a buffer has left. -/
structure EncodeError where
  required : Nat
  remaining : Nat
  deriving DecidableEq, Repr

/-- The room of an empty buffer that grows with its content. -/
def bufferRoom : Nat := Nat.pow 2 63 - 1

def TlsContext.encodeWithin (room : Nat) (context : TlsContext) : Except EncodeError Bytes :=
  if room < context.encode.length then .error ⟨context.encode.length, room⟩
  else .ok context.encode

/-- A typed configuration in its binary form, under the name of its transport. -/
structure TransportSocket where
  name : String
  typeUrl : String
  value : Bytes
  deriving DecidableEq, Repr

namespace TransportSocket

def tlsName : String := "envoy.transport_sockets.tls"

def tlsContextType : String :=
  "type.googleapis.com/envoy.extensions.transport_sockets.tls.v3.UpstreamTlsContext"

def ofTls (context : TlsContext) : TransportSocket :=
  ⟨tlsName, tlsContextType, context.encode⟩

/-- The socket of a context, which is encoded into a new buffer. -/
def ofTls? (context : TlsContext) : Except EncodeError TransportSocket :=
  (context.encodeWithin bufferRoom).map fun value => ⟨tlsName, tlsContextType, value⟩

def tlsContext? (socket : TransportSocket) : Option TlsContext :=
  if socket.typeUrl = tlsContextType then TlsContext.decode? socket.value else none

end TransportSocket

/-- How the proxy finds the members of a cluster. -/
inductive DiscoveryType where
  /-- They are listed. -/
  | static
  /-- One host name, which the proxy resolves. -/
  | logicalDns
  deriving DecidableEq, Repr

/-- The address of a member: an IP address or a host name, and a port. -/
structure Endpoint where
  address : String
  port : UInt32
  deriving DecidableEq, Repr

structure Cluster where
  name : String
  discovery : DiscoveryType
  connectTimeout : Duration
  /-- The name under which the members are assigned. -/
  assignmentName : String
  endpoints : List Endpoint
  http2 : Bool
  transportSocket : Option TransportSocket
  deriving DecidableEq, Repr

def DiscoveryType.label : DiscoveryType → String
  | static => "Static"
  | logicalDns => "LogicalDns"

def Endpoint.display (endpoint : Endpoint) : String :=
  endpoint.address ++ ":" ++ toString endpoint.port.toNat

/-- A cluster whose members are assigned under its own name. -/
def Cluster.make (name : String) (connectTimeout : Duration) (endpoints : List Endpoint)
    (http2 : Bool) (transportSocket : Option TransportSocket) (discovery : DiscoveryType) :
    Cluster where
  name
  discovery
  connectTimeout
  assignmentName := name
  endpoints
  http2
  transportSocket

end EdgeRouting
