import EdgeRouting.Proofs.ReadyResolution

/-!
# The members of a cluster

Which endpoints the cluster of a split has, and at which port.  A service may have several ports
that a split can mean, and then the last one decides; a service that stands for a host name is
reached at the port that its clients use, and any other one at the port where its endpoints listen.
-/

namespace EdgeRouting

/-! ## Ports and members -/

/-- A split with this name of a port means the port, by its number or by its own name. -/
def PortName.Means (name : PortName) (port : ServicePort) : Prop :=
  name = .number port.port ∨ ∃ text, port.name = some text ∧ name = .named text

/-- The endpoints behind the port listen there.  Without a number for them it is the port itself. -/
def ServicePort.ListensAt (port : ServicePort) (target : Int32) : Prop :=
  port.targetPort = some (.number target) ∨
    ((∀ number, port.targetPort ≠ some (.number number)) ∧ target = port.port)

/-- The port that clients use and the one at which the endpoints listen, for a split that names one
of these ports. -/
inductive PortsAgreed (ports : List ServicePort) (name : PortName) :
    (external target : Int32) → Prop
  /-- Of all the ports that are meant the last one decides. -/
  | last {earlier later : List ServicePort} {port : ServicePort} {target : Int32}
      (hports : ports = earlier ++ port :: later) (hmeant : name.Means port)
      (hlast : ∀ other ∈ later, ¬name.Means other) (htarget : port.ListensAt target) :
      PortsAgreed ports name port.port target
  | standard (hnone : ∀ port ∈ ports, ¬name.Means port) : PortsAgreed ports name 80 80

/-- The endpoint has this address and this port, where no port is below zero. -/
structure Endpoint.IsAt (address : String) (port : Int32) (endpoint : Endpoint) : Prop where
  address : endpoint.address = address
  port : (endpoint.port.toNat : Int) = max port.toInt 0

/-- The service stands for a host name. -/
def ServiceSpec.IsAlias (spec : ServiceSpec) : Prop := spec.type = some "ExternalName"

/-- The cluster has the members of the service, at one port or the other. -/
structure Cluster.HasMembers (lookup : Lookup) (split : Split) (service : Service)
    (external target : Int32) (cluster : Cluster) : Prop where
  aliased : ∀ spec, service.spec = some spec → spec.IsAlias →
    cluster.discovery = .logicalDns ∧
      ∃ endpoint, cluster.endpoints = [endpoint] ∧
        endpoint.IsAt (spec.externalName.getD "") external
  listed : (∀ spec, service.spec = some spec → ¬spec.IsAlias) →
    cluster.discovery = .static ∧
      ∃ endpoints,
        lookup (.endpoints ⟨split.serviceNamespace, split.serviceName⟩) = .ok endpoints ∧
        List.Forall₂ (fun address endpoint => endpoint.IsAt address target)
          (endpoints.subsets.flatMap EndpointSubset.ready) cluster.endpoints

/-- What a cluster is besides the protocol and the encryption of its connections. -/
structure Cluster.IsOf (lookup : Lookup) (split : Split) (cluster : Cluster) : Prop where
  name : cluster.name = split.serviceNamespace ++ "/" ++ split.serviceName
  assignmentName : cluster.assignmentName = split.serviceNamespace ++ "/" ++ split.serviceName
  connectTimeout : cluster.connectTimeout = ⟨5000⟩
  members : ∃ service external target,
    lookup (.service ⟨split.serviceNamespace, split.serviceName⟩) = .ok service ∧
    PortsAgreed ((service.spec.map ServiceSpec.ports).getD []) split.servicePort external target ∧
    cluster.HasMembers lookup split service external target

theorem ServicePort.isNamedBy_iff {port : ServicePort} {name : PortName} :
    port.isNamedBy name = true ↔ name.Means port := by
  unfold isNamedBy PortName.Means
  cases name with
  | number number => simp [eq_comm]
  | named text => simp

theorem ServicePort.listensAt_target (port : ServicePort) : port.ListensAt port.target := by
  unfold ListensAt target
  split
  · next number hnumber => exact .inl hnumber
  · next hother => exact .inr ⟨hother, rfl⟩

/-- The last element that a list keeps has nothing of that kind behind it. -/
theorem exists_split_of_getLast?_filter {α : Type} {keep : α → Bool} {list : List α} {last : α}
    (hlast : (list.filter keep).getLast? = some last) :
    ∃ earlier later, list = earlier ++ last :: later ∧ keep last = true ∧
      ∀ other ∈ later, ¬keep other = true := by
  obtain ⟨kept, hkept⟩ := List.getLast?_eq_some_iff.mp hlast
  obtain ⟨before, rest, hlist, -, hrest⟩ := List.filter_eq_append_iff.mp hkept
  obtain ⟨between, later, hsplit, -, hkeep, hnone⟩ := List.filter_eq_cons_iff.mp hrest
  refine ⟨before ++ between, later, ?_, hkeep, List.filter_eq_nil_iff.mp hnone⟩
  rw [hlist, hsplit, List.append_assoc]

theorem Service.portsAgreed_resolvePorts (service : Service) (name : PortName) :
    PortsAgreed service.ports name (service.resolvePorts name).external
      (service.resolvePorts name).target := by
  unfold resolvePorts
  cases hlast : (service.ports.filter fun port => port.isNamedBy name).getLast? with
  | none =>
      refine .standard ?_
      intro port hport
      rw [← ServicePort.isNamedBy_iff]
      exact List.filter_eq_nil_iff.mp (List.getLast?_eq_none_iff.mp hlast) port hport
  | some port =>
      obtain ⟨earlier, later, hports, hmeant, hothers⟩ := exists_split_of_getLast?_filter hlast
      simp only [ServicePort.isNamedBy_iff] at hmeant hothers
      exact .last hports hmeant hothers port.listensAt_target

theorem isAt_portValue (address : String) (port : Int32) :
    Endpoint.IsAt address port ⟨address, portValue port⟩ where
  address := rfl
  port := by
    have hbound := port.toInt_lt
    have hsmall : port.toInt.toNat < 2 ^ 32 := by omega
    simp only [portValue, UInt32.toNat_ofNat', Nat.mod_eq_of_lt hsmall]
    omega

theorem Service.ports_eq (service : Service) :
    service.ports = (service.spec.map ServiceSpec.ports).getD [] := by
  unfold ports
  cases service.spec <;> rfl

theorem Service.externalHost?_eq_some_iff {service : Service} {host : String} :
    service.externalHost? = some host ↔
      ∃ spec, service.spec = some spec ∧ spec.IsAlias ∧ host = spec.externalName.getD "" := by
  unfold externalHost? ServiceSpec.IsAlias
  cases service.spec with
  | none => simp
  | some spec =>
      by_cases htype : spec.type = some "ExternalName"
      · simp [htype, eq_comm]
      · simp [htype]

theorem Endpoints.forall₂_readyEndpoints (endpoints : Endpoints) (port : Int32) :
    List.Forall₂ (fun address endpoint => endpoint.IsAt address port)
      (endpoints.subsets.flatMap EndpointSubset.ready) (endpoints.readyEndpoints port) := by
  unfold readyEndpoints
  rw [← List.map_flatMap, List.forall₂_map_right_iff, List.forall₂_same]
  intro address _
  exact isAt_portValue address port

/-! ## Clusters -/

section Clusters

variable {config : Config} {lookup : Lookup} {registrar : Registrar} {ingress : Ingress}

theorem Plan.hasMembers_of_value?
    {service : Service} {split : Split} {found : DiscoveryType × List Endpoint}
    (hfound : (members service split).value? lookup = some found)
    {cluster : Cluster} (hdiscovery : cluster.discovery = found.1)
    (hendpoints : cluster.endpoints = found.2) :
    cluster.HasMembers lookup split service (service.resolvePorts split.servicePort).external
      (service.resolvePorts split.servicePort).target := by
  unfold members at hfound
  cases hhost : service.externalHost? with
  | some host =>
      simp only [hhost, pure_eq, value?_done, Option.some.injEq] at hfound
      subst found
      obtain ⟨spec, hspec, halias, rfl⟩ := Service.externalHost?_eq_some_iff.mp hhost
      refine ⟨?_, fun hother => absurd halias (hother spec hspec)⟩
      intro other hother _
      rw [hspec, Option.some.injEq] at hother
      subst other
      exact ⟨hdiscovery, _, hendpoints, isAt_portValue _ _⟩
  | none =>
      simp only [hhost, bind_eq, pure_eq, value?_bind_eq_some_iff, value?_done,
        Option.some.injEq] at hfound
      obtain ⟨endpoints, hasked, rfl⟩ := hfound
      have hlookup := value?_await_eq_some_iff.mp hasked
      refine ⟨?_, fun _ => ⟨hdiscovery, endpoints, hlookup, ?_⟩⟩
      · intro spec hspec halias
        have hsome := Service.externalHost?_eq_some_iff.mpr ⟨spec, hspec, halias, rfl⟩
        rw [hhost] at hsome
        cases hsome
      · rw [hendpoints]
        exact endpoints.forall₂_readyEndpoints _

theorem HasCluster.isOf {source : HttpPath × Split} {cluster : Cluster}
    (hcluster : HasCluster config lookup ingress source cluster) :
    cluster.IsOf lookup source.2 := by
  obtain ⟨service, found, socket, hservice, hfound, _, rfl⟩ := hcluster.exists_parts
  have hports := service.portsAgreed_resolvePorts source.2.servicePort
  rw [service.ports_eq] at hports
  exact {
    name := rfl
    assignmentName := rfl
    connectTimeout := rfl
    members := ⟨service, _, _, hservice, hports, Plan.hasMembers_of_value? hfound rfl rfl⟩ }

/-- The backend of a split has the cluster that its service and, unless this is an alias, its
endpoints call for; and a ready resolution has one such cluster for each split, in order. -/
theorem clusters_have_members
    (config : Config) (lookup : Lookup) (registrar : Registrar) (ingress : Ingress) :
    (∀ path split backend,
      ((Plan.backend config ingress path split).run lookup registrar).result =
        .ok (.ready backend) →
      backend.cluster.IsOf lookup split) ∧
    ∀ value, (resolve config lookup registrar ingress).result = .ok (.ready value) →
      List.Forall₂ (fun source cluster => cluster.IsOf lookup source.2)
        ingress.pathSplits value.clusters := by
  constructor
  · intro path split backend hready
    have hcluster : HasCluster config lookup ingress (path, split) backend.cluster :=
      ⟨backend, Plan.value?_of_ready hready, rfl⟩
    exact hcluster.isOf
  · intro value hready
    exact (clusters_of_ready hready).imp fun _ _ hcluster => hcluster.isOf

end Clusters

/-! ### A shop with documentation elsewhere -/

/-- The front service has two ports of one name, and some of its endpoints are not ready.  The
documentation is an alias whose port is negative. -/
def furnishedServices : Lookup
  | .service ⟨_, "docs"⟩ =>
      .ok ⟨.unset, some ⟨some "ExternalName", some "docs.example", [⟨none, -1, none⟩]⟩⟩
  | .service _ =>
      .ok ⟨.unset, some ⟨none, none,
        [⟨some "http", 80, some (.number 8080)⟩, ⟨some "http", 81, some (.number 8081)⟩,
          ⟨some "admin", 82, some (.named "http")⟩]⟩⟩
  | .endpoints _ =>
      .ok ⟨.unset, [⟨["10.0.0.5", "10.0.0.6"], ["10.0.0.9"]⟩, ⟨["10.0.0.5"], []⟩]⟩
  | .secret object => .error (.notFound .secret object.name)
  | .nameSpace name => .error (.notFound .nameSpace name)

def documentedShop : Ingress where
  metadata := ⟨some "web", some "shop", none, none⟩
  tls := []
  rules :=
    [⟨["shop.example"], .externalIP,
      [⟨"/", .empty, none, .empty,
          [⟨"shop", "front", .named "http", 90, .empty⟩,
            ⟨"shop", "front", .number 82, 10, .empty⟩]⟩,
        ⟨"/docs", .empty, none, .empty, [⟨"shop", "docs", .number (-1), 100, .empty⟩]⟩]⟩]
  httpOption := .enabled

theorem documentedShop_members :
    ∃ value,
      (resolve .standard furnishedServices .accepting documentedShop).result =
        .ok (.ready value) ∧
      value.clusters.map (fun cluster => (cluster.discovery, cluster.endpoints)) =
        [(.static, [⟨"10.0.0.5", 8081⟩, ⟨"10.0.0.6", 8081⟩, ⟨"10.0.0.5", 8081⟩]),
          (.static, [⟨"10.0.0.5", 82⟩, ⟨"10.0.0.6", 82⟩, ⟨"10.0.0.5", 82⟩]),
          (.logicalDns, [⟨"docs.example", 0⟩])] ∧
      List.Forall₂ (fun source cluster => cluster.IsOf furnishedServices source.2)
        documentedShop.pathSplits value.clusters := by
  have hready : (resolve .standard furnishedServices .accepting documentedShop).result =
      .ok (.ready _) := rfl
  refine ⟨_, hready, by decide +kernel, ?_⟩
  exact (clusters_have_members .standard furnishedServices .accepting documentedShop).2 _ hready

end EdgeRouting
