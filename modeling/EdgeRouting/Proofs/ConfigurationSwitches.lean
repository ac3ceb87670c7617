import EdgeRouting.Proofs.ReadyResolution

/-!
# What each switch can change

Two resolutions of one ingress against one lookup, under two configurations.  Each part of the
result depends only on the switches that it is meant to follow: where the configurations agree on
those, the part is the same, whatever they say about the others.
-/

namespace EdgeRouting

def Cluster.withoutSocket (cluster : Cluster) : Cluster := { cluster with transportSocket := none }

def VirtualHost.address (host : VirtualHost) : String × List String := (host.name, host.domains)

/-- The results under two configurations differ only where a switch differs that is meant for it. -/
structure ProxyConfig.DiffersOnlyBy (config other : Config) (ingress : Ingress)
    (first second : ProxyConfig) : Prop where
  name : first.name = second.name
  sniMatches : first.sniMatches = second.sniMatches
  clusters : first.clusters.map Cluster.withoutSocket = second.clusters.map Cluster.withoutSocket
  addresses : ∀ bucket : Bucket, bucket ≠ .externalTls →
    (bucket.hosts first).map VirtualHost.address = (bucket.hosts second).map VirtualHost.address
  sockets : config.internalEncryption = other.internalEncryption →
    config.servingNamespace = other.servingNamespace →
    config.caSecretName = other.caSecretName →
    first.clusters.map Cluster.transportSocket = second.clusters.map Cluster.transportSocket
  listenerPort : config.trafficIsolation = other.trafficIsolation →
    first.listenerPort = second.listenerPort
  plainHosts : config.httpOptionDisabled = other.httpOptionDisabled →
    config.extAuthzEnabled = other.extAuthzEnabled →
    first.internalVirtualHosts = second.internalVirtualHosts ∧
      first.externalVirtualHosts = second.externalVirtualHosts
  tlsHosts : config.extAuthzEnabled = other.extAuthzEnabled →
    ingress.tls ≠ [] ∨ (config.certsSecret = none ↔ other.certsSecret = none) →
    first.externalTlsVirtualHosts = second.externalTlsVirtualHosts

/-! ## References -/

def Split.references (split : Split) : List Reference :=
  [⟨.service, split.service⟩, ⟨.endpoints, split.service⟩]

/-- What a ready resolution registers: the ingress alone names it. -/
def Ingress.references (ingress : Ingress) : List Reference :=
  ingress.tls.map (fun binding => ⟨.secret, binding.secret⟩) ++
    ingress.pathSplits.flatMap fun source => source.2.references

theorem Obligation.references_flatMap {α : Type} (list : List α)
    (obligations : α → List Obligation) :
    references (list.flatMap obligations) =
      list.flatMap fun element => references (obligations element) :=
  List.filterMap_flatMap

theorem Split.references_obligations
    (config : Config) (lookup : Lookup) (path : HttpPath) (split : Split) :
    Obligation.references (split.obligations config lookup path) = split.references := by
  unfold obligations clusterObligations memberObligations HttpPath.authorityObligations
  cases lookup.findsExternalName split.service <;>
    cases config.internalEncryption && !path.rewritesHost <;> rfl

theorem HttpPath.references_obligations
    (config : Config) (lookup : Lookup) (annotations : TextMap) (path : HttpPath) :
    Obligation.references (path.obligations config lookup annotations) =
      path.pathSplits.flatMap fun source => source.2.references := by
  have hreadable : Obligation.references
      (if path.splits.isEmpty then [] else [.hold (.dropRoutesReadable annotations)]) = [] := by
    split <;> rfl
  unfold obligations pathSplits
  rw [Obligation.references_append, hreadable, List.append_nil, Obligation.references_flatMap,
    List.flatMap_map]
  simp only [Split.references_obligations]

theorem Rule.references_obligations
    (config : Config) (lookup : Lookup) (annotations : TextMap) (rule : Rule) :
    Obligation.references (rule.obligations config lookup annotations) =
      rule.pathSplits.flatMap fun source => source.2.references := by
  unfold obligations pathSplits
  rw [Obligation.references_append, Obligation.references_hold, List.append_nil,
    Obligation.references_flatMap, List.flatMap_assoc]
  simp only [HttpPath.references_obligations]

theorem Ingress.references_obligations
    (config : Config) (lookup : Lookup) (ingress : Ingress) :
    Obligation.references (ingress.obligations config lookup) = ingress.references := by
  have hcertificates : Obligation.references (ingress.tls.flatMap TlsBinding.obligations) =
      ingress.tls.map fun binding => ⟨.secret, binding.secret⟩ := by
    rw [Obligation.references_flatMap]
    exact List.flatMap_pure_eq_map _ _
  have hlistener : Obligation.references (ingress.listenerObligations config) = [] := by
    unfold listenerObligations
    split <;> rfl
  unfold obligations references pathSplits
  rw [Obligation.references_append, Obligation.references_append, hcertificates, hlistener,
    List.append_nil, Obligation.references_flatMap, List.flatMap_assoc]
  simp only [Rule.references_obligations]

theorem references_of_ready
    {config : Config} {lookup : Lookup} {registrar : Registrar} {ingress : Ingress}
    {value : ProxyConfig}
    (hready : (resolve config lookup registrar ingress).result = .ok (.ready value)) :
    (resolve config lookup registrar ingress).references = ingress.references := by
  rcases (Plan.ingress_fulfils config lookup ingress).run_cases registrar with
    ⟨_, found, hrun⟩ | ⟨met, obligation, later, obstacle, _, _, _, hrun⟩
  · unfold resolve
    rw [hrun]
    exact ingress.references_obligations config lookup
  · unfold resolve at hready
    rw [hrun] at hready
    exact absurd hready (obstacle.result_ne_ready value)

/-! ## Each part under two configurations -/

section TwoConfigs

variable {config other : Config} {lookup : Lookup} {ingress : Ingress}

theorem Plan.listenerPort_eq_of_agree
    (hisolation : config.trafficIsolation = other.trafficIsolation) :
    Plan.listenerPort config ingress = Plan.listenerPort other ingress := by
  unfold listenerPort
  rw [hisolation]

theorem Plan.transportSocket_eq_of_agree
    (hencryption : config.internalEncryption = other.internalEncryption)
    (hnamespace : config.servingNamespace = other.servingNamespace)
    (hname : config.caSecretName = other.caSecretName) (path : HttpPath) (http2 : Bool) :
    transportSocket config path http2 = transportSocket other path http2 := by
  have hauthority : config.caSecret = other.caSecret := by
    unfold Config.caSecret
    rw [hnamespace, hname]
  unfold transportSocket
  rw [hencryption, hauthority]

/-- Only the socket of a cluster can tell two configurations apart, as the service, its members and
the protocol do not depend on them. -/
theorem HasCluster.agree
    {source : HttpPath × Split} {cluster cluster' : Cluster}
    (hcluster : HasCluster config lookup ingress source cluster)
    (hcluster' : HasCluster other lookup ingress source cluster') :
    cluster.withoutSocket = cluster'.withoutSocket ∧
    (config.internalEncryption = other.internalEncryption →
      config.servingNamespace = other.servingNamespace →
      config.caSecretName = other.caSecretName →
      cluster.transportSocket = cluster'.transportSocket) := by
  obtain ⟨service, members, socket, hservice, hmembers, hsocket, heq⟩ := hcluster.exists_parts
  obtain ⟨service', members', socket', hservice', hmembers', hsocket', heq'⟩ :=
    hcluster'.exists_parts
  have hsameService : service' = service := by
    rw [hservice'] at hservice
    exact Except.ok.inj hservice
  subst service'
  have hsameMembers : members' = members := by
    rw [hmembers'] at hmembers
    exact Option.some.inj hmembers
  subst members'
  rw [heq, heq']
  constructor
  · rfl
  · intro hencryption hnamespace hname
    rw [Plan.transportSocket_eq_of_agree hencryption hnamespace hname, hsocket'] at hsocket
    exact (Option.some.inj hsocket).symm

theorem Config.extAuthzEnabledFor_eq_of_agree
    (hextAuthz : config.extAuthzEnabled = other.extAuthzEnabled) (ingress : Ingress) :
    config.extAuthzEnabledFor ingress = other.extAuthzEnabledFor ingress := by
  unfold extAuthzEnabledFor
  rw [hextAuthz]

theorem PathContext.ownRoute_eq_of_agree
    {bucket : Bucket} {rule : Rule} {place : Nat} {path : HttpPath}
    (hextAuthz : config.extAuthzEnabled = other.extAuthzEnabled)
    (hredirects : bucket = .externalTls ∨ config.httpOptionDisabled = other.httpOptionDisabled) :
    (rule.context config ingress place path).ownRoute bucket =
      (rule.context other ingress place path).ownRoute bucket := by
  have hbypasses : (rule.context config ingress place path).bypassesExtAuthz =
      (rule.context other ingress place path).bypassesExtAuthz := by
    simp only [bypassesExtAuthz, Rule.context,
      Config.extAuthzEnabledFor_eq_of_agree hextAuthz ingress]
  have hplain : config.httpOptionDisabled = other.httpOptionDisabled →
      (rule.context config ingress place path).plainRoute =
        (rule.context other ingress place path).plainRoute := by
    intro hdisabled
    funext weighted
    have hsame : config.redirects ingress rule = other.redirects ingress rule := by
      unfold Config.redirects
      rw [hdisabled]
    simp only [plainRoute, hbypasses]
    simp only [Rule.context, hsame]
    rfl
  have htls : (rule.context config ingress place path).tlsRoute =
      (rule.context other ingress place path).tlsRoute := by
    funext weighted
    simp only [tlsRoute, hbypasses]
    rfl
  -- Only routes with TLS are independent of whether plain requests are redirected.
  cases bucket with
  | externalTls => exact congrFun htls _
  | internal =>
      have hdisabled : config.httpOptionDisabled = other.httpOptionDisabled := by
        simpa using hredirects
      exact congrFun (hplain hdisabled) _
  | external =>
      have hdisabled : config.httpOptionDisabled = other.httpOptionDisabled := by
        simpa using hredirects
      exact congrFun (hplain hdisabled) _

theorem Bucket.host_eq_of_agree
    {bucket : Bucket} (hextAuthz : config.extAuthzEnabled = other.extAuthzEnabled)
    (hredirects : bucket = .externalTls ∨ config.httpOptionDisabled = other.httpOptionDisabled) :
    bucket.host config ingress = bucket.host other ingress := by
  funext rule
  have hroutes (path : HttpPath) : (rule.1.context config ingress rule.2 path).routes bucket =
      (rule.1.context other ingress rule.2 path).routes bucket := by
    unfold PathContext.routes
    rw [PathContext.ownRoute_eq_of_agree hextAuthz hredirects]
    rfl
  simp only [host, hroutes, Config.extAuthzEnabledFor_eq_of_agree hextAuthz ingress]

theorem Config.servesTls_eq_of_agree
    (hserves : ingress.tls ≠ [] ∨ (config.certsSecret = none ↔ other.certsSecret = none)) :
    config.servesTls ingress = other.servesTls ingress := by
  unfold servesTls usesOneCertificate
  rcases hserves with htls | hcertificate
  · have hsome : ingress.tls.isEmpty = false := List.isEmpty_eq_false_iff.mpr htls
    rw [hsome]
    rfl
  · have hsame : config.certsSecret.isSome = other.certsSecret.isSome := by
      rw [Bool.eq_iff_iff, Option.isSome_iff_ne_none, Option.isSome_iff_ne_none]
      exact not_congr hcertificate
    rw [hsame]

theorem Bucket.rules_eq_of_agree
    {bucket : Bucket}
    (hserves : bucket = .externalTls → config.servesTls ingress = other.servesTls ingress) :
    bucket.rules config ingress = bucket.rules other ingress := by
  cases bucket with
  | internal => rfl
  | external => rfl
  | externalTls =>
      rw [rules_externalTls, rules_externalTls, hserves rfl]
      rfl

variable {registrar registrar' : Registrar} {first second : ProxyConfig}
  (hready : (resolve config lookup registrar ingress).result = .ok (.ready first))
  (hready' : (resolve other lookup registrar' ingress).result = .ok (.ready second))

include hready hready'

theorem hosts_eq_of_ready
    (bucket : Bucket) (hextAuthz : config.extAuthzEnabled = other.extAuthzEnabled)
    (hredirects : bucket = .externalTls ∨ config.httpOptionDisabled = other.httpOptionDisabled)
    (hserves : bucket = .externalTls → config.servesTls ingress = other.servesTls ingress) :
    bucket.hosts first = bucket.hosts second := by
  rw [hosts_of_ready hready, hosts_of_ready hready', Bucket.rules_eq_of_agree hserves,
    Bucket.host_eq_of_agree hextAuthz hredirects]

/-- The routes of a virtual host may depend on the configuration, but never where it is found. -/
theorem addresses_eq_of_ready {bucket : Bucket} (hbucket : bucket ≠ .externalTls) :
    (bucket.hosts first).map VirtualHost.address =
      (bucket.hosts second).map VirtualHost.address := by
  have haddress : VirtualHost.address ∘ bucket.host config ingress =
      VirtualHost.address ∘ bucket.host other ingress := rfl
  have hrules : bucket.rules config ingress = bucket.rules other ingress :=
    Bucket.rules_eq_of_agree fun htls => absurd htls hbucket
  rw [hosts_of_ready hready, hosts_of_ready hready', List.map_map, List.map_map, haddress,
    hrules]

/-- A switch has no effect on a resolution beyond the parts that it is meant for. -/
theorem differsOnlyBy_of_ready :
    (resolve config lookup registrar ingress).references =
      (resolve other lookup registrar' ingress).references ∧
    ProxyConfig.DiffersOnlyBy config other ingress first second := by
  obtain ⟨hcertificates, hport, hname, _⟩ := exists_parts_of_ready hready
  obtain ⟨hcertificates', hport', hname', _⟩ := exists_parts_of_ready hready'
  have hclusters := clusters_of_ready hready
  have hclusters' := clusters_of_ready hready'
  constructor
  · rw [references_of_ready hready, references_of_ready hready']
  · exact {
      name := hname.trans hname'.symm
      sniMatches := Option.some.inj (hcertificates.symm.trans hcertificates')
      clusters := map_eq_map_of_forall₂
        (fun _ _ _ hcluster hcluster' => (hcluster.agree hcluster').1) hclusters hclusters'
      addresses := fun _ hbucket => addresses_eq_of_ready hready hready' hbucket
      sockets := fun hencryption hnamespace hname => map_eq_map_of_forall₂
        (fun _ _ _ hcluster hcluster' =>
          (hcluster.agree hcluster').2 hencryption hnamespace hname) hclusters hclusters'
      listenerPort := by
        intro hisolation
        rw [Plan.listenerPort_eq_of_agree hisolation, hport'] at hport
        exact (Option.some.inj hport).symm
      plainHosts := by
        intro hdisabled hextAuthz
        constructor
        · exact hosts_eq_of_ready hready hready' .internal hextAuthz (.inr hdisabled) (by simp)
        · exact hosts_eq_of_ready hready hready' .external hextAuthz (.inr hdisabled) (by simp)
      tlsHosts := by
        intro hextAuthz hserves
        have htls : config.servesTls ingress = other.servesTls ingress :=
          Config.servesTls_eq_of_agree hserves
        exact hosts_eq_of_ready hready hready' .externalTls hextAuthz (.inl rfl) fun _ => htls }

end TwoConfigs

/-! ## A shop that is moved -/

/-- All objects are there, and namespaces name the listener 8080. -/
def furnishedCluster : Lookup
  | .service _ => .ok ⟨.unset, none⟩
  | .endpoints _ => .ok ⟨.unset, [⟨["10.0.0.5"], []⟩]⟩
  | .secret _ => .ok ⟨.unset, .empty⟩
  | .nameSpace name =>
      .ok ⟨⟨some name, none, none,
        some (KeyMap.empty.insert "ingress.translator.io/listener-port" "8080")⟩⟩

/-- Everything is switched but authorization, and one certificate is still used for all hosts. -/
def switchedConfig : Config :=
  { guardedConfig with
    internalEncryption := true, trafficIsolation := .port, httpOptionDisabled := true,
    certsSecret := some ⟨"platform", "wildcard"⟩, caSecretName := "authority" }

theorem guardedShop_switched :
    ∃ first second,
      (resolve guardedConfig furnishedCluster .accepting guardedShop).result =
        .ok (.ready first) ∧
      (resolve switchedConfig furnishedCluster .accepting guardedShop).result =
        .ok (.ready second) ∧
      (first.listenerPort ≠ second.listenerPort ∧
        first.externalVirtualHosts ≠ second.externalVirtualHosts ∧
        first.clusters ≠ second.clusters) ∧
      ProxyConfig.DiffersOnlyBy guardedConfig switchedConfig guardedShop first second ∧
      first.externalTlsVirtualHosts = second.externalTlsVirtualHosts := by
  have hready : (resolve guardedConfig furnishedCluster .accepting guardedShop).result =
      .ok (.ready _) := rfl
  have hready' : (resolve switchedConfig furnishedCluster .accepting guardedShop).result =
      .ok (.ready _) := rfl
  have hdiffers := (differsOnlyBy_of_ready hready hready').2
  refine ⟨_, _, hready, hready', by decide +kernel, hdiffers, ?_⟩
  exact hdiffers.tlsHosts rfl (.inr (by decide))

end EdgeRouting
