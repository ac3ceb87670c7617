import EdgeRouting.Proofs.ReadyResolution
import EdgeRouting.Proofs.TlsContextRoundTrip

/-!
# Encryption of backends

Under encryption a backend is reached with TLS unless the path of its split replaces the host, and
in no other case.  What the proxy then demands of the backend is read out of the bytes of the
socket: a version, the platform's authority and no other, one name, and HTTP/2 exactly if the
cluster itself is marked so.
-/

namespace EdgeRouting

/-! ## What is demanded -/

/-- TLS 1.2, which is version 3, is the least version, and version 0 sets no greatest one. -/
def platformTrust (authority : Secret) (http2 : Bool) : TlsContext where
  common := some {
    parameters := some { minimumVersion := 3, maximumVersion := 0 }
    validation := some {
      trustedCa := some {
        specifier := some (.inlineBytes ((authority.data.get? "ca-cert.pem").getD [])) }
      subjectAltNames :=
        [{ pattern := some (.exactly "data-plane.knative.dev"), ignoreCase := false }] }
    alpnProtocols := if http2 then ["h2"] else [] }
  sni := ""

/-- The service of the split announces HTTP/2, and the ingress does not switch it off. -/
structure Split.SpeaksHttp2 (lookup : Lookup) (ingress : Ingress) (split : Split) : Prop where
  announced : ∃ service spec port,
    lookup (.service ⟨split.serviceNamespace, split.serviceName⟩) = .ok service ∧
    service.spec = some spec ∧ port ∈ spec.ports ∧
    (port.name = some "http2" ∨ port.name = some "h2c")
  allowed : ∀ text,
    ingress.metadata.annotationsOrEmpty.get? "ingress.translator.io/disable-http2" = some text →
    text.toList.map Char.toLower ≠ ['t', 'r', 'u', 'e']

/-- How the proxy connects to the cluster of a split.  A length on the wire has 64 bits, which the
bytes of no socket exceed. -/
structure Connected (config : Config) (lookup : Lookup) (ingress : Ingress)
    (source : HttpPath × Split) (cluster : Cluster) : Prop where
  http2_iff : cluster.http2 = true ↔ source.2.SpeaksHttp2 lookup ingress
  encrypted_iff : cluster.transportSocket ≠ none ↔
    config.internalEncryption = true ∧
      ∀ host, source.1.rewriteHost = some host → host = ""
  trust : ∀ socket, cluster.transportSocket = some socket →
    ∃ authority,
      lookup (.secret ⟨config.servingNamespace, config.caSecretName⟩) = .ok authority ∧
      socket = .ofTls (platformTrust authority cluster.http2) ∧
      (socket.value.length < 2 ^ 64 →
        socket.tlsContext? = some (platformTrust authority cluster.http2))

/-! ## What is decided on the way -/

theorem Service.speaksHttp2_iff (service : Service) :
    service.speaksHttp2 = true ↔
      ∃ spec port, service.spec = some spec ∧ port ∈ spec.ports ∧
        (port.name = some "http2" ∨ port.name = some "h2c") := by
  unfold speaksHttp2 ports
  cases hspec : service.spec with
  | none => simp
  | some spec => simp [List.any_eq_true]

theorem Service.usesHttp2_iff
    {lookup : Lookup} {split : Split} {service : Service} (ingress : Ingress)
    (hservice : lookup (.service split.service) = .ok service) :
    service.usesHttp2 ingress = true ↔ split.SpeaksHttp2 lookup ingress := by
  unfold usesHttp2 Annotations.disablesHttp2
  rw [Bool.and_eq_true, Bool.not_eq_true', service.speaksHttp2_iff,
    Annotations.isOn_eq_false_iff]
  constructor
  · rintro ⟨⟨spec, port, hspec, hport, hname⟩, hallowed⟩
    exact ⟨⟨service, spec, port, hservice, hspec, hport, hname⟩, hallowed⟩
  · rintro ⟨⟨found, spec, port, hfound, hspec, hport, hname⟩, hallowed⟩
    have hsame : found = service := by
      have hanswers : Except.ok found = Except.ok service := hfound.symm.trans hservice
      exact Except.ok.inj hanswers
    subst found
    exact ⟨⟨spec, port, hspec, hport, hname⟩, hallowed⟩

theorem HttpPath.isNone_hostOverride_iff (path : HttpPath) :
    path.hostOverride.isNone = true ↔
      ∀ host, path.rewriteHost = some host → host = "" := by
  unfold hostOverride
  cases path.rewriteHost with
  | none => simp
  | some host => simp

theorem HasCluster.connected
    {config : Config} {lookup : Lookup} {ingress : Ingress} {source : HttpPath × Split}
    {cluster : Cluster} (hcluster : HasCluster config lookup ingress source cluster) :
    Connected config lookup ingress source cluster := by
  obtain ⟨service, members, socket, hservice, _, hsocket, heq⟩ := hcluster.exists_parts
  have hspeaks := Service.usesHttp2_iff ingress hservice
  have hkeeps := source.1.isNone_hostOverride_iff
  rw [Plan.value?_transportSocket_eq_some_iff] at hsocket
  rw [heq]
  cases hencrypts : config.internalEncryption && source.1.hostOverride.isNone with
  | false =>
      have hnone : socket = none := by simpa [hencrypts] using hsocket
      subst socket
      have hplain : ¬(config.internalEncryption = true ∧
          ∀ host, source.1.rewriteHost = some host → host = "") := by
        rw [← hkeeps, ← Bool.and_eq_true, hencrypts]
        exact Bool.false_ne_true
      exact {
        http2_iff := hspeaks
        encrypted_iff := iff_of_false (fun hsome => hsome rfl) hplain
        trust := fun _ hsome => nomatch hsome }
  | true =>
      rw [hencrypts, if_pos rfl] at hsocket
      obtain ⟨authority, hauthority, htrusting⟩ := hsocket
      subst socket
      have hencrypted : config.internalEncryption = true ∧
          ∀ host, source.1.rewriteHost = some host → host = "" := by
        rw [← hkeeps, ← Bool.and_eq_true, hencrypts]
      exact {
        http2_iff := hspeaks
        encrypted_iff := iff_of_true (fun hnone => nomatch hnone) hencrypted
        trust := by
          rintro socket ⟨rfl⟩
          exact ⟨authority, hauthority, rfl, TlsContext.decode?_encode⟩ }

/-! ## Every backend of an ingress -/

/-- Encryption is applied where it is asked for and nowhere else, and with the platform's trust. -/
theorem connections_of_ready
    {config : Config} {lookup : Lookup} {registrar : Registrar} {ingress : Ingress}
    {value : ProxyConfig}
    (hready : (resolve config lookup registrar ingress).result = .ok (.ready value)) :
    List.Forall₂ (Connected config lookup ingress) ingress.pathSplits value.clusters :=
  (clusters_of_ready hready).imp fun _ _ hcluster => hcluster.connected

/-! ### A shop behind a gateway -/

def platformConfig : Config :=
  { Config.standard with
    internalEncryption := true, servingNamespace := "platform", caSecretName := "authority" }

def platformAuthority : Secret := ⟨.unset, KeyMap.empty.insert "ca-cert.pem" [45, 0, 255]⟩

/-- All services speak HTTP/2 on their second port. -/
def http2Services : Lookup
  | .service _ =>
      .ok ⟨.unset, some ⟨none, none, [⟨some "http", 80, none⟩, ⟨some "h2c", 81, none⟩]⟩⟩
  | .endpoints _ => .ok ⟨.unset, []⟩
  | .secret _ => .ok platformAuthority
  | .nameSpace name => .error (.notFound .nameSpace name)

/-- The first path only seems to replace the host, since an empty host is none. -/
def gatewayShop : Ingress where
  metadata := ⟨some "web", some "shop", none, none⟩
  tls := []
  rules :=
    [⟨["shop.example"], .externalIP,
      [⟨"/", .empty, some "", .empty, [⟨"shop", "front", .number 80, 100, .empty⟩]⟩,
        ⟨"/old", .empty, some "gateway.example", .empty,
          [⟨"shop", "front", .number 80, 100, .empty⟩]⟩]⟩]
  httpOption := .enabled

theorem gatewayShop_connected :
    ∃ value,
      (resolve platformConfig http2Services .accepting gatewayShop).result =
        .ok (.ready value) ∧
      value.clusters.map Cluster.http2 = [true, true] ∧
      value.clusters.map (fun cluster =>
        cluster.transportSocket.bind TransportSocket.tlsContext?) =
          [some (platformTrust platformAuthority true), none] ∧
      List.Forall₂ (Connected platformConfig http2Services gatewayShop)
        gatewayShop.pathSplits value.clusters := by
  have hready : (resolve platformConfig http2Services .accepting gatewayShop).result =
      .ok (.ready _) := rfl
  exact ⟨_, hready, by decide +kernel, by decide +kernel, connections_of_ready hready⟩

end EdgeRouting
