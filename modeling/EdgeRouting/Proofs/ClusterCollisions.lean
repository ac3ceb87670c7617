import EdgeRouting.Proofs.ReadyResolution
import EdgeRouting.Proofs.ShownText

/-!
# Clusters of the same name

There is a cluster for each split, named after the split's service, and nothing is merged.  What is
in it also depends on the port that the split names and, under encryption, on whether its path
replaces the host.  Splits that agree on these have the same cluster, so that it does not matter
which one is kept under the name; splits that do not may have clusters that differ.
-/

namespace EdgeRouting

/-- Two splits, each with its path, agree on all that decides what is in their clusters. -/
structure Alike (config : Config) (first second : HttpPath × Split) : Prop where
  service : first.2.service = second.2.service
  servicePort : first.2.servicePort = second.2.servicePort
  rewriting : config.internalEncryption = true →
    first.1.hostOverride.isNone = second.1.hostOverride.isNone

instance (config : Config) (first second : HttpPath × Split) :
    Decidable (Alike config first second) :=
  decidable_of_iff
    (first.2.service = second.2.service ∧ first.2.servicePort = second.2.servicePort ∧
      (config.internalEncryption = true →
        first.1.hostOverride.isNone = second.1.hostOverride.isNone))
    ⟨fun halike => ⟨halike.1, halike.2.1, halike.2.2⟩,
      fun halike => ⟨halike.service, halike.servicePort, halike.rewriting⟩⟩

/-- Two clusters differ at most in the ports of their endpoints and in their sockets. -/
structure Cluster.Resembles (first second : Cluster) : Prop where
  name : first.name = second.name
  discovery : first.discovery = second.discovery
  connectTimeout : first.connectTimeout = second.connectTimeout
  assignmentName : first.assignmentName = second.assignmentName
  addresses : first.endpoints.map Endpoint.address = second.endpoints.map Endpoint.address
  http2 : first.http2 = second.http2

/-- What the clusters of two splits have in common.  A namespace of a real cluster never contains a
slash, and without one the name of a cluster tells the service. -/
structure Collision (config : Config) (first second : (HttpPath × Split) × Cluster) : Prop where
  service : '/' ∉ first.1.2.serviceNamespace.toList →
    '/' ∉ second.1.2.serviceNamespace.toList →
    first.2.name = second.2.name → first.1.2.service = second.1.2.service
  resembles : first.1.2.service = second.1.2.service → first.2.Resembles second.2
  endpoints : first.1.2.service = second.1.2.service →
    first.1.2.servicePort = second.1.2.servicePort → first.2.endpoints = second.2.endpoints
  eq_iff : first.1.2.service = second.1.2.service →
    (first.2 = second.2 ↔
      first.2.endpoints = second.2.endpoints ∧
      (config.internalEncryption = true →
        first.1.1.hostOverride.isNone = second.1.1.hostOverride.isNone))
  eq_of_alike : Alike config first.1 second.1 → first.2 = second.2

theorem ObjectName.eq_of_display
    {first second : ObjectName} (hfirst : '/' ∉ first.ns.toList)
    (hsecond : '/' ∉ second.ns.toList) (hdisplay : first.display = second.display) :
    first = second := by
  have hlists : first.ns.toList ++ '/' :: first.name.toList =
      second.ns.toList ++ '/' :: second.name.toList := by
    have htoList := congrArg String.toList hdisplay
    simpa [display] using htoList
  -- What stands before the first slash is the namespace.
  obtain ⟨hns, hname⟩ := Text.append_mark_inj hfirst hsecond hlists
  exact ObjectName.ext (String.toList_inj.mp hns) (String.toList_inj.mp hname)

/-! ## The parts of a cluster -/

namespace Plan

variable {config : Config} {lookup : Lookup}

theorem members_eq_of_same_port
    (service : Service) {first second : Split} (hservice : first.service = second.service)
    (hport : first.servicePort = second.servicePort) :
    members service first = members service second := by
  unfold members
  rw [hservice, hport]

theorem members_agree
    {service : Service} {first second : Split} (hservice : first.service = second.service)
    {found other : DiscoveryType × List Endpoint}
    (hfirst : (members service first).value? lookup = some found)
    (hsecond : (members service second).value? lookup = some other) :
    found.1 = other.1 ∧
      found.2.map Endpoint.address = other.2.map Endpoint.address := by
  unfold members at hfirst hsecond
  cases hhost : service.externalHost? with
  | some host =>
      simp only [hhost, pure_eq, value?_done, Option.some.injEq] at hfirst hsecond
      subst found
      subst other
      simp only [List.map_cons, List.map_nil, and_self]
  | none =>
      simp only [hhost, bind_eq, pure_eq, value?_bind_eq_some_iff, value?_done,
        Option.some.injEq] at hfirst hsecond
      obtain ⟨endpoints, hendpoints, hfound⟩ := hfirst
      obtain ⟨endpoints', hendpoints', hother⟩ := hsecond
      rw [hservice, hendpoints', Option.some.injEq] at hendpoints
      subst endpoints
      subst found
      subst other
      simp only [Endpoints.readyEndpoints, List.map_flatMap, List.map_map, Function.comp_def,
        and_self]

theorem transportSocket_eq
    {first second : HttpPath} (http2 : Bool)
    (hrewriting : config.internalEncryption = true →
      first.hostOverride.isNone = second.hostOverride.isNone) :
    transportSocket config first http2 = transportSocket config second http2 := by
  have hencrypts : (config.internalEncryption && first.hostOverride.isNone) =
      (config.internalEncryption && second.hostOverride.isNone) := by
    cases hencryption : config.internalEncryption with
    | true => rw [hrewriting hencryption]
    | false => rfl
  unfold transportSocket
  rw [hencrypts]

theorem isSome_of_transportSocket
    {path : HttpPath} {http2 : Bool} {socket : Option TransportSocket}
    (hsocket : (transportSocket config path http2).value? lookup = some socket) :
    socket.isSome = (config.internalEncryption && path.hostOverride.isNone) := by
  rw [value?_transportSocket_eq_some_iff] at hsocket
  cases hencrypts : config.internalEncryption && path.hostOverride.isNone with
  | true =>
      rw [hencrypts, if_pos rfl] at hsocket
      obtain ⟨authority, _, htrusting⟩ := hsocket
      rw [htrusting]
      rfl
  | false =>
      have hnone : socket = none := by simpa [hencrypts] using hsocket
      rw [hnone]
      rfl

end Plan

/-! ## Two clusters -/

section Collisions

variable {config : Config} {lookup : Lookup} {ingress : Ingress}

theorem HasCluster.resembles
    {first second : HttpPath × Split} {cluster other : Cluster}
    (hfirst : HasCluster config lookup ingress first cluster)
    (hsecond : HasCluster config lookup ingress second other)
    (hservice : first.2.service = second.2.service) :
    cluster.Resembles other ∧
    (first.2.servicePort = second.2.servicePort → cluster.endpoints = other.endpoints) ∧
    (cluster.transportSocket = other.transportSocket ↔
      (config.internalEncryption = true →
        first.1.hostOverride.isNone = second.1.hostOverride.isNone)) := by
  obtain ⟨service, members, socket, hlookup, hmembers, hsocket, heq⟩ := hfirst.exists_parts
  obtain ⟨service', members', socket', hlookup', hmembers', hsocket', heq'⟩ :=
    hsecond.exists_parts
  -- Both splits were told the same about their service, as there is only one lookup.
  have hsame : service' = service := by
    rw [hservice, hlookup'] at hlookup
    exact Except.ok.inj hlookup
  subst service'
  obtain ⟨hdiscovery, haddresses⟩ := Plan.members_agree hservice hmembers hmembers'
  rw [heq, heq']
  refine ⟨?_, ?_, ?_, ?_⟩
  · exact {
      name := congrArg ObjectName.display hservice
      discovery := hdiscovery
      connectTimeout := rfl
      assignmentName := congrArg ObjectName.display hservice
      addresses := haddresses
      http2 := rfl }
  · intro hport
    rw [Plan.members_eq_of_same_port service hservice hport, hmembers',
      Option.some.injEq] at hmembers
    exact congrArg Prod.snd hmembers.symm
  · intro hsockets hencryption
    have hsome := congrArg Option.isSome (show socket = socket' from hsockets)
    rw [Plan.isSome_of_transportSocket hsocket, Plan.isSome_of_transportSocket hsocket',
      hencryption, Bool.true_and, Bool.true_and] at hsome
    exact hsome
  · intro hrewriting
    rw [Plan.transportSocket_eq _ hrewriting, hsocket', Option.some.injEq] at hsocket
    exact hsocket.symm

theorem Cluster.Resembles.eq_iff {first second : Cluster} (hresembles : first.Resembles second) :
    first = second ↔
      first.endpoints = second.endpoints ∧ first.transportSocket = second.transportSocket := by
  obtain ⟨name, discovery, connectTimeout, assignmentName, endpoints, http2, socket⟩ := first
  obtain ⟨hname, hdiscovery, htimeout, hassignment, _, hhttp2⟩ := hresembles
  simp only at hname hdiscovery htimeout hassignment hhttp2
  subst hname hdiscovery htimeout hassignment hhttp2
  constructor
  · intro heq
    rw [← heq]
    exact ⟨rfl, rfl⟩
  · rintro ⟨rfl, rfl⟩
    rfl

theorem HasCluster.collision
    {first second : HttpPath × Split} {cluster other : Cluster}
    (hfirst : HasCluster config lookup ingress first cluster)
    (hsecond : HasCluster config lookup ingress second other) :
    Collision config (first, cluster) (second, other) where
  service := by
    intro hslash hslash' hname
    rw [hfirst.name_eq, hsecond.name_eq] at hname
    exact ObjectName.eq_of_display hslash hslash' hname
  resembles hservice := (hfirst.resembles hsecond hservice).1
  endpoints hservice := (hfirst.resembles hsecond hservice).2.1
  eq_iff := by
    intro hservice
    obtain ⟨hresembles, _, hsocket⟩ := hfirst.resembles hsecond hservice
    rw [hresembles.eq_iff, hsocket]
  eq_of_alike := by
    intro halike
    obtain ⟨hresembles, hendpoints, hsocket⟩ := hfirst.resembles hsecond halike.service
    rw [hresembles.eq_iff]
    exact ⟨hendpoints halike.servicePort, hsocket.mpr halike.rewriting⟩

end Collisions

/-- Splits of one service have clusters of one name that differ at most in the ports of their
endpoints and in their sockets, and not at all if the splits are alike.  If all splits whose
clusters have the name that a split refers to are like it, then every cluster of that name is its
own. -/
theorem collisions_of_ready
    {config : Config} {lookup : Lookup} {registrar : Registrar} {ingress : Ingress}
    {value : ProxyConfig}
    (hready : (resolve config lookup registrar ingress).result = .ok (.ready value)) :
    value.clusters.length = ingress.pathSplits.length ∧
    (∀ first ∈ ingress.pathSplits.zip value.clusters,
      ∀ second ∈ ingress.pathSplits.zip value.clusters, Collision config first second) ∧
    (∀ own ∈ ingress.pathSplits.zip value.clusters,
      (∀ other ∈ ingress.pathSplits.zip value.clusters,
        other.2.name = own.2.name → Alike config other.1 own.1) →
      ∀ kept ∈ value.clusters, kept.name = own.1.2.weighted.name → kept = own.2) := by
  obtain ⟨hlength, heach⟩ := List.forall₂_iff_zip.mp (clusters_of_ready hready)
  have hcollision : ∀ first ∈ ingress.pathSplits.zip value.clusters,
      ∀ second ∈ ingress.pathSplits.zip value.clusters, Collision config first second :=
    fun _ hfirst _ hsecond => (heach hfirst).collision (heach hsecond)
  refine ⟨hlength.symm, hcollision, ?_⟩
  intro own hown halike kept hkept hname
  have hclusters : (ingress.pathSplits.zip value.clusters).map Prod.snd = value.clusters :=
    List.map_snd_zip (Nat.le_of_eq hlength.symm)
  rw [← hclusters] at hkept
  obtain ⟨other, hother, rfl⟩ := List.mem_map.mp hkept
  have hownName : own.2.name = own.1.2.weighted.name := (heach hown).name_eq
  exact (hcollision other hother own hown).eq_of_alike
    (halike other hother (hname.trans hownName.symm))

theorem guardedShop_fronts_alike :
    ∃ value,
      (resolve guardedConfig idleServices .accepting guardedShop).result =
        .ok (.ready value) ∧
      value.clusters.map Cluster.name = ["shop/solver", "shop/front", "shop/front"] ∧
      ∀ own ∈ guardedShop.pathSplits.zip value.clusters,
        ∀ kept ∈ value.clusters, kept.name = own.1.2.weighted.name → kept = own.2 := by
  have hready : (resolve guardedConfig idleServices .accepting guardedShop).result =
      .ok (.ready _) := rfl
  obtain ⟨_, _, hkept⟩ := collisions_of_ready hready
  refine ⟨_, hready, by decide +kernel, ?_⟩
  intro own hown
  refine hkept own hown ?_
  revert own
  decide +kernel

/-! ### Where collisions do harm -/

/-- A service with two ports, behind which different programs listen at one address. -/
def twoPorts : Lookup
  | .service _ =>
      .ok ⟨.unset, some ⟨none, none,
        [⟨none, 80, some (.number 8080)⟩, ⟨none, 81, some (.number 8081)⟩]⟩⟩
  | .endpoints _ => .ok ⟨.unset, [⟨["10.0.0.5"], []⟩]⟩
  | .secret _ => .ok ⟨.unset, .empty⟩
  | .nameSpace name => .error (.notFound .nameSpace name)

/-- Old and new requests go to different ports of the front service, others through a gateway. -/
def movingShop : Ingress where
  metadata := ⟨some "web", some "shop", none, none⟩
  tls := []
  rules :=
    [⟨["shop.example"], .externalIP,
      [⟨"/old", .empty, none, .empty, [⟨"shop", "front", .number 80, 100, .empty⟩]⟩,
        ⟨"/new", .empty, none, .empty, [⟨"shop", "front", .number 81, 100, .empty⟩]⟩,
        ⟨"/", .empty, some "gateway.example", .empty,
          [⟨"shop", "front", .number 80, 100, .empty⟩]⟩]⟩]
  httpOption := .enabled

def encryptedConfig : Config := { Config.standard with internalEncryption := true }

theorem movingShop_clusters_differ :
    ∃ value,
      (resolve encryptedConfig twoPorts .accepting movingShop).result = .ok (.ready value) ∧
      value.clusters.map Cluster.name = ["shop/front", "shop/front", "shop/front"] ∧
      value.clusters.Nodup :=
  ⟨_, rfl, by decide +kernel, by decide +kernel⟩

-- With slashes in namespaces a name would not even tell the service.
example : (⟨"a/b", "c"⟩ : ObjectName).display = (⟨"a", "b/c"⟩ : ObjectName).display := by
  decide

end EdgeRouting
