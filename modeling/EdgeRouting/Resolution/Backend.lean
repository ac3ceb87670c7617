import EdgeRouting.Config
import EdgeRouting.Proxy.Cluster
import EdgeRouting.Resolution.Plan

/-!
# Backends

The cluster to which a split sends its share.  The service and its endpoints are registered before
either is read, so that the ingress is resolved again when either appears.
-/

namespace EdgeRouting

/-- The name that certificates of the data plane carry. -/
def dataPlaneName : String := "data-plane.knative.dev"

def caCertificateKey : String := "ca-cert.pem"

def connectTimeLimit : Duration := ⟨5000⟩

namespace Service

def ports (service : Service) : List ServicePort :=
  match service.spec with
  | none => []
  | some spec => spec.ports

/-- The host name that the service stands for, if its endpoints are not in the cluster. -/
def externalHost? (service : Service) : Option String :=
  match service.spec with
  | none => none
  | some spec =>
      if spec.type = some "ExternalName" then some (spec.externalName.getD "") else none

/-- Some port of the service has a name that announces HTTP/2. -/
def speaksHttp2 (service : Service) : Bool :=
  service.ports.any fun port => port.name = some "http2" || port.name = some "h2c"

end Service

/-- The port of a service that a split names, by number or by name. -/
def ServicePort.isNamedBy (port : ServicePort) : PortName → Bool
  | .number number => port.port = number
  | .named name => port.name = some name

/-- The port at which the endpoints listen; a named one is not resolved. -/
def ServicePort.target (port : ServicePort) : Int32 :=
  match port.targetPort with
  | some (.number target) => target
  | _ => port.port

/-- The port that clients of a service use, and the one at which its endpoints listen. -/
structure ResolvedPorts where
  external : Int32
  target : Int32
  deriving DecidableEq, Repr

/-- The ports of the last service port with the given name, or 80 if there is none. -/
def Service.resolvePorts (service : Service) (name : PortName) : ResolvedPorts :=
  match (service.ports.filter fun port => port.isNamedBy name).getLast? with
  | some port => ⟨port.port, port.target⟩
  | none => ⟨80, 80⟩

/-- A port as the proxy takes it; a negative one becomes zero. -/
def portValue (port : Int32) : UInt32 := UInt32.ofNat port.toInt.toNat

/-- One endpoint for each ready address of every subset, in order. -/
def Endpoints.readyEndpoints (endpoints : Endpoints) (port : Int32) : List Endpoint :=
  endpoints.subsets.flatMap fun subset =>
    subset.ready.map fun address => ⟨address, portValue port⟩

/-- The socket by which a backend is reached with TLS, trusting only the given authority. -/
def TransportSocket.trusting (authority : Secret) (http2 : Bool) : TransportSocket :=
  .ofTls
    (.make (authority.bytes caCertificateKey) dataPlaneName
      (if http2 then ["h2"] else []))

structure Backend where
  cluster : Cluster
  weighted : WeightedCluster
  deriving DecidableEq

namespace Plan

/-- How the members of a service's cluster are found, and those that are known. -/
def members (service : Service) (split : Split) : Plan (DiscoveryType × List Endpoint) :=
  let ports := service.resolvePorts split.servicePort
  match service.externalHost? with
  | some host => return (.logicalDns, [⟨host, portValue ports.external⟩])
  | none => do
      let endpoints ← await .endpoints (.endpoints split.service)
      return (.static, endpoints.readyEndpoints ports.target)

/-- The socket of a backend.  Requests whose host is replaced go to a gateway that ends TLS
itself. -/
def transportSocket (config : Config) (path : HttpPath) (http2 : Bool) :
    Plan (Option TransportSocket) :=
  if config.internalEncryption && path.hostOverride.isNone then do
    let authority ← need .caSecret (.secret config.caSecret)
    return some (.trusting authority http2)
  else
    return none

def backend (config : Config) (ingress : Ingress) (path : HttpPath) (split : Split) :
    Plan Backend := do
  follow ⟨.service, split.service⟩
  follow ⟨.endpoints, split.service⟩
  let service ← await .service (.service split.service)
  let http2 := service.speaksHttp2 &&
    !Annotations.disablesHttp2 ingress.metadata.annotationsOrEmpty
  let (discovery, endpoints) ← members service split
  let socket ← transportSocket config path http2
  let name := split.service.display
  return {
    cluster := .make name connectTimeLimit endpoints http2 socket discovery
    weighted := .make name split.percent split.appendHeaders }

end Plan

end EdgeRouting
