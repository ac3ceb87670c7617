import EdgeRouting.Proofs.IngressObligations

/-!
# Ready resolutions

The configuration of a ready resolution, part by part.  Its virtual hosts stand in three buckets,
and what a bucket holds can be read off the ingress and the switches alone: `hosts_of_ready`.  Of
what the lookup answered, only the clusters, the certificates and the listener tell;
`clusters_of_ready` says that there is one cluster for each split, in order.
-/

namespace EdgeRouting

/-! ## What the ingress alone decides -/

/-- The routes to drop, where an annotation that cannot be read lists none. -/
def Ingress.dropRoutes (ingress : Ingress) : DropRoutes :=
  match Annotations.dropRoutes ingress.metadata.annotationsOrEmpty with
  | .ok routes => routes
  | .error _ => .empty

def Split.weighted (split : Split) : WeightedCluster :=
  .make split.service.display split.percent split.appendHeaders

/-- Where the virtual hosts of a configuration are served. -/
inductive Bucket where
  | internal
  | external
  | externalTls
  deriving DecidableEq, Repr

namespace Bucket

def hosts (bucket : Bucket) (value : ProxyConfig) : List VirtualHost :=
  match bucket with
  | internal => value.internalVirtualHosts
  | external => value.externalVirtualHosts
  | externalTls => value.externalTlsVirtualHosts

/-- The rule has a virtual host there. -/
def serves (config : Config) (ingress : Ingress) (bucket : Bucket) (rule : Rule) : Bool :=
  match bucket with
  | internal => true
  | external => rule.visibility.isExternal
  | externalTls => rule.visibility.isExternal && config.servesTls ingress

/-- The rules that have virtual hosts there, each with its place in the ingress. -/
def rules (config : Config) (ingress : Ingress) (bucket : Bucket) : List (Rule × Nat) :=
  ingress.rules.zipIdx.filter fun rule => bucket.serves config ingress rule.1

end Bucket

namespace PathContext

def ownRoute (context : PathContext) (bucket : Bucket) : Route :=
  let weighted := context.path.splits.map Split.weighted
  match bucket with
  | .externalTls => context.tlsRoute weighted
  | _ => context.plainRoute weighted

/-- The route of the path and the routes to drop behind it; a path without splits has none. -/
def routes (context : PathContext) (bucket : Bucket) : List Route :=
  if context.path.splits.isEmpty then []
  else context.ownRoute bucket :: context.dropped context.ingress.dropRoutes

end PathContext

def Rule.context (config : Config) (ingress : Ingress) (rule : Rule) (place : Nat)
    (path : HttpPath) : PathContext :=
  ⟨config, ingress, rule, ruleName ingress place, path⟩

def Bucket.host (config : Config) (ingress : Ingress) (bucket : Bucket) (rule : Rule × Nat) :
    VirtualHost where
  name := ruleName ingress rule.2
  domains := rule.1.domains
  routes := rule.1.paths.flatMap fun path =>
    (rule.1.context config ingress rule.2 path).routes bucket
  extAuthz :=
    if config.extAuthzEnabledFor ingress then some (.check (contextExtensions ingress rule.1))
    else none

def Bucket.host? (bucket : Bucket) (hosts : RuleHosts) : Option VirtualHost :=
  match bucket with
  | .internal => some hosts.plain
  | .external => hosts.external?
  | .externalTls => hosts.externalTls?

def HttpPath.pathSplits (path : HttpPath) : List (HttpPath × Split) :=
  path.splits.map fun split => (path, split)

def Rule.pathSplits (rule : Rule) : List (HttpPath × Split) :=
  rule.paths.flatMap HttpPath.pathSplits

def Ingress.pathSplits (ingress : Ingress) : List (HttpPath × Split) :=
  ingress.rules.flatMap Rule.pathSplits

def Service.usesHttp2 (ingress : Ingress) (service : Service) : Bool :=
  service.speaksHttp2 && !Annotations.disablesHttp2 ingress.metadata.annotationsOrEmpty

/-- The cluster that a split of a path has against a lookup. -/
def HasCluster (config : Config) (lookup : Lookup) (ingress : Ingress)
    (source : HttpPath × Split) (cluster : Cluster) : Prop :=
  ∃ backend, (Plan.backend config ingress source.1 source.2).value? lookup = some backend ∧
    backend.cluster = cluster

/-- The table of a rule once these of its paths are added. -/
structure RouteTable.Covers (config : Config) (lookup : Lookup) (ingress : Ingress)
    (rule : Rule) (place : Nat) (paths : List HttpPath) (table : RouteTable) : Prop where
  routes : table.routes =
    paths.flatMap fun path => (rule.context config ingress place path).routes .internal
  tlsRoutes : table.tlsRoutes =
    if config.servesTls ingress then
      paths.flatMap fun path => (rule.context config ingress place path).routes .externalTls
    else []
  clusters : List.Forall₂ (HasCluster config lookup ingress)
    (paths.flatMap HttpPath.pathSplits) table.clusters

theorem Bucket.map_fst_rules (config : Config) (ingress : Ingress) (bucket : Bucket) :
    (bucket.rules config ingress).map Prod.fst =
      ingress.rules.filter (bucket.serves config ingress) := by
  rw [← List.zipIdx_map_fst 0 ingress.rules, List.filter_map]
  rfl

theorem Bucket.rules_internal (config : Config) (ingress : Ingress) :
    internal.rules config ingress = ingress.rules.zipIdx :=
  List.filter_eq_self.mpr fun _ _ => rfl

theorem Bucket.rules_externalTls (config : Config) (ingress : Ingress) :
    externalTls.rules config ingress =
      if config.servesTls ingress then external.rules config ingress else [] := by
  cases hserves : config.servesTls ingress with
  | true => simp [rules, serves, hserves]
  | false => simp [rules, serves, hserves]

theorem PathContext.length_routes (context : PathContext) (bucket other : Bucket) :
    (context.routes bucket).length = (context.routes other).length := by
  unfold routes
  split <;> rfl

theorem PathContext.ownRoute_eq (context : PathContext) (bucket : Bucket) :
    context.ownRoute bucket =
      if context.bypassesExtAuthz then
        (context.forward (context.path.splits.map Split.weighted)).withoutExtAuthz
      else if context.config.redirects context.ingress context.rule ∧ bucket ≠ .externalTls then
        .redirect context.routeName context.path.headerMatchers context.path.pathOrRoot
      else context.forward (context.path.splits.map Split.weighted) := by
  cases bucket <;> simp [ownRoute, plainRoute, tlsRoute]

/-- In every bucket the route of a path forwards without authorization, or redirects, or
forwards. -/
theorem PathContext.ownRoute_cases (context : PathContext) (bucket : Bucket) :
    (context.bypassesExtAuthz = true ∧ context.ownRoute bucket =
      (context.forward (context.path.splits.map Split.weighted)).withoutExtAuthz) ∨
    (context.bypassesExtAuthz = false ∧ context.ownRoute bucket =
      .redirect context.routeName context.path.headerMatchers context.path.pathOrRoot) ∨
    (context.bypassesExtAuthz = false ∧ context.ownRoute bucket =
      context.forward (context.path.splits.map Split.weighted)) := by
  rw [context.ownRoute_eq bucket]
  cases hbypass : context.bypassesExtAuthz with
  | true => exact .inl ⟨rfl, if_pos rfl⟩
  | false =>
      rw [if_neg Bool.false_ne_true]
      split
      · exact .inr (.inl ⟨rfl, rfl⟩)
      · exact .inr (.inr ⟨rfl, rfl⟩)

theorem Bucket.routes_host_ne_nil
    {config : Config} {ingress : Ingress} {rule : Rule × Nat} {other : Bucket}
    (hother : (other.host config ingress rule).routes ≠ []) (bucket : Bucket) :
    (bucket.host config ingress rule).routes ≠ [] := by
  rw [← List.length_pos_iff_ne_nil] at hother ⊢
  have hlength : (bucket.host config ingress rule).routes.length =
      (other.host config ingress rule).routes.length := by
    simp only [host, List.length_flatMap, PathContext.length_routes _ bucket other]
  rwa [hlength]

/-! ## Lists that correspond element by element -/

section Correspondence

variable {α β γ : Type}

theorem map_eq_of_forall₂ {f : α → γ} {g : β → γ} {first : List α} {second : List β}
    (heach : List.Forall₂ (fun element other => g other = f element) first second) :
    second.map g = first.map f := by
  induction heach with
  | nil => rfl
  | cons hhead htail ih => rw [List.map_cons, List.map_cons, hhead, ih]

theorem filterMap_eq_of_forall₂
    {p : α → Bool} {f : α → γ} {g : β → Option γ} {first : List α} {second : List β}
    (heach : List.Forall₂
      (fun element other => g other = if p element then some (f element) else none)
      first second) :
    second.filterMap g = (first.filter p).map f := by
  induction heach with
  | nil => rfl
  | @cons element other first second hhead htail ih =>
      cases hkept : p element with
      | true =>
          rw [hkept, if_pos rfl] at hhead
          rw [List.filterMap_cons_some hhead, List.filter_cons_of_pos hkept, List.map_cons, ih]
      | false =>
          have hnone : g other = none := by simpa [hkept] using hhead
          rw [List.filterMap_cons_none hnone, List.filter_cons_of_neg (by simp [hkept]), ih]

theorem exists_mem_of_forall₂
    {holds : α → β → Prop} {first : List α} {second : List β}
    (heach : List.Forall₂ holds first second) {element : α} (hmem : element ∈ first) :
    ∃ other ∈ second, holds element other := by
  induction heach with
  | nil => cases hmem
  | @cons _ other _ _ hhead _ ih =>
      cases hmem with
      | head => exact ⟨other, List.mem_cons_self, hhead⟩
      | tail _ hrest =>
          obtain ⟨found, hfound, hholds⟩ := ih hrest
          exact ⟨found, List.mem_cons_of_mem _ hfound, hholds⟩

theorem forall₂_of_common
    {holds : α → β → Prop} {holds' : α → γ → Prop} {agree : β → γ → Prop}
    (hagree : ∀ element one other, holds element one → holds' element other → agree one other)
    {list : List α} {first : List β} {second : List γ}
    (hfirst : List.Forall₂ holds list first) (hsecond : List.Forall₂ holds' list second) :
    List.Forall₂ agree first second := by
  induction hfirst generalizing second with
  | nil =>
      cases hsecond with
      | nil => exact .nil
  | cons hhead _ ih =>
      cases hsecond with
      | cons hother hrest => exact .cons (hagree _ _ _ hhead hother) (ih hrest)

theorem map_eq_map_of_forall₂
    {δ : Type} {holds : α → β → Prop} {holds' : α → γ → Prop} {f : β → δ} {g : γ → δ}
    (hagree : ∀ element one other, holds element one → holds' element other → f one = g other)
    {list : List α} {first : List β} {second : List γ}
    (hfirst : List.Forall₂ holds list first) (hsecond : List.Forall₂ holds' list second) :
    first.map f = second.map g := by
  rw [← List.forall₂_eq_eq_eq, List.forall₂_map_left_iff, List.forall₂_map_right_iff]
  exact forall₂_of_common hagree hfirst hsecond

end Correspondence

/-! ## The value of each plan -/

namespace Plan

variable {config : Config} {lookup : Lookup} {ingress : Ingress}

theorem dropRoutes_eq_of_value?
    {routes : DropRoutes} (hvalue : (dropRoutes ingress).value? lookup = some routes) :
    routes = ingress.dropRoutes := by
  unfold dropRoutes at hvalue
  unfold Ingress.dropRoutes
  cases hread : Annotations.dropRoutes ingress.metadata.annotationsOrEmpty with
  | ok found =>
      simp only [hread, value?_done, Option.some.injEq] at hvalue
      exact hvalue.symm
  | error fault => simp [hread, value?] at hvalue

theorem value?_backend
    {path : HttpPath} {split : Split} {backend : Backend}
    (hvalue : (Plan.backend config ingress path split).value? lookup = some backend) :
    ∃ service members socket,
      lookup (.service split.service) = .ok service ∧
      (Plan.members service split).value? lookup = some members ∧
      (transportSocket config path (service.usesHttp2 ingress)).value? lookup = some socket ∧
      backend.weighted = split.weighted ∧
      backend.cluster =
        .make split.service.display connectTimeLimit members.2 (service.usesHttp2 ingress)
          socket members.1 := by
  simp only [Plan.backend, bind_eq, pure_eq, follow, Plan.bind, value?] at hvalue
  rw [value?_bind_eq_some_iff] at hvalue
  obtain ⟨service, hservice, hvalue⟩ := hvalue
  rw [value?_bind_eq_some_iff] at hvalue
  obtain ⟨members, hmembers, hvalue⟩ := hvalue
  rw [value?_bind_eq_some_iff] at hvalue
  obtain ⟨socket, hsocket, hvalue⟩ := hvalue
  rw [value?_done, Option.some.injEq] at hvalue
  subst backend
  exact ⟨service, members, socket, value?_await_eq_some_iff.mp hservice, hmembers, hsocket,
    rfl, rfl⟩

/-- Without encryption, and where the host is replaced, a backend has no socket. -/
theorem value?_transportSocket_eq_some_iff
    {path : HttpPath} {http2 : Bool} {socket : Option TransportSocket} :
    (transportSocket config path http2).value? lookup = some socket ↔
      if config.internalEncryption && path.hostOverride.isNone then
        ∃ authority, lookup (.secret config.caSecret) = .ok authority ∧
          socket = some (.trusting authority http2)
      else socket = none := by
  unfold transportSocket
  split
  · simp only [bind_eq, pure_eq, value?_bind_eq_some_iff, value?_done, Option.some.injEq]
    constructor
    · rintro ⟨authority, hauthority, htrusting⟩
      exact ⟨authority, value?_need_eq_some_iff.mp hauthority, htrusting.symm⟩
    · rintro ⟨authority, hauthority, htrusting⟩
      exact ⟨authority, value?_need_eq_some_iff.mpr hauthority, htrusting.symm⟩
  · simp only [pure_eq, value?_done, Option.some.injEq]
    exact eq_comm

theorem value?_pathRoutes
    {context : PathContext} {part : Option PathRoutes}
    (hvalue : (pathRoutes context).value? lookup = some part) :
    ∃ clusters,
      List.Forall₂ (HasCluster context.config lookup context.ingress)
        context.path.pathSplits clusters ∧
      part =
        if context.path.splits.isEmpty then none
        else some {
          route := context.ownRoute .internal
          tlsRoute :=
            if context.config.servesTls context.ingress then some (context.ownRoute .externalTls)
            else none
          dropped := context.dropped context.ingress.dropRoutes
          clusters } := by
  obtain ⟨backends, hbackends, hcases⟩ := exists_backends_of_pathRoutes hvalue
  have heach := value?_each_eq_some_iff.mp hbackends
  have hweighted : backends.map Backend.weighted = context.path.splits.map Split.weighted := by
    refine map_eq_of_forall₂ (heach.imp fun split backend hbackend => ?_)
    obtain ⟨_, _, _, _, _, _, hshare, _⟩ := value?_backend hbackend
    exact hshare
  refine ⟨backends.map Backend.cluster, ?_, ?_⟩
  · unfold HttpPath.pathSplits
    rw [List.forall₂_map_left_iff, List.forall₂_map_right_iff]
    exact heach.imp fun split backend hbackend => ⟨backend, hbackend, rfl⟩
  · rcases hcases with ⟨hsplits, hnone⟩ | ⟨hsplits, routes, hroutes, hsome⟩
    · rw [hnone, if_pos hsplits]
    · rw [hsome, if_neg (Bool.eq_false_iff.mp hsplits), dropRoutes_eq_of_value? hroutes]
      simp only [PathContext.pathRoutes, hweighted]
      rfl

end Plan

section HasCluster

variable {config : Config} {lookup : Lookup} {ingress : Ingress} {source : HttpPath × Split}
  {cluster : Cluster}

theorem HasCluster.exists_parts (hcluster : HasCluster config lookup ingress source cluster) :
    ∃ service members socket,
      lookup (.service source.2.service) = .ok service ∧
      (Plan.members service source.2).value? lookup = some members ∧
      (Plan.transportSocket config source.1 (service.usesHttp2 ingress)).value? lookup =
        some socket ∧
      cluster =
        .make source.2.service.display connectTimeLimit members.2 (service.usesHttp2 ingress)
          socket members.1 := by
  obtain ⟨backend, hbackend, hcluster⟩ := hcluster
  obtain ⟨service, members, socket, hservice, hmembers, hsocket, _, hparts⟩ :=
    Plan.value?_backend hbackend
  exact ⟨service, members, socket, hservice, hmembers, hsocket, hcluster.symm.trans hparts⟩

theorem HasCluster.name_eq (hcluster : HasCluster config lookup ingress source cluster) :
    cluster.name = source.2.service.display := by
  obtain ⟨_, _, _, _, _, _, hparts⟩ := hcluster.exists_parts
  rw [hparts]
  rfl

end HasCluster

namespace RouteTable.Covers

variable {config : Config} {lookup : Lookup} {ingress : Ingress} {rule : Rule} {place : Nat}
  {paths : List HttpPath} {table : RouteTable}

theorem empty : RouteTable.empty.Covers config lookup ingress rule place [] where
  routes := rfl
  tlsRoutes := by
    split <;> rfl
  clusters := .nil

theorem addPath
    {path : HttpPath} {part : Option PathRoutes}
    (hcovers : table.Covers config lookup ingress rule place paths)
    (hpart : (Plan.pathRoutes (rule.context config ingress place path)).value? lookup =
      some part) :
    (table.addPath part).Covers config lookup ingress rule place (paths ++ [path]) := by
  obtain ⟨clusters, hclusters, heq⟩ := Plan.value?_pathRoutes hpart
  subst part
  cases hsplits : (rule.context config ingress place path).path.splits with
  | nil =>
      have hnone : path.splits = [] := hsplits
      have hroutes (bucket : Bucket) :
          (rule.context config ingress place path).routes bucket = [] := by
        simp [PathContext.routes, hsplits]
      simp only [List.isEmpty_nil, if_true, RouteTable.addPath]
      exact {
        routes := by simp [hcovers.routes, hroutes]
        tlsRoutes := by simp [hcovers.tlsRoutes, hroutes]
        clusters := by
          simpa [HttpPath.pathSplits, hnone] using hcovers.clusters }
  | cons split rest =>
      have hroutes (bucket : Bucket) :
          (rule.context config ingress place path).routes bucket =
            (rule.context config ingress place path).ownRoute bucket ::
              (rule.context config ingress place path).dropped
                (rule.context config ingress place path).ingress.dropRoutes := by
        simp only [PathContext.routes, hsplits, List.isEmpty_cons, Bool.false_eq_true, if_false]
      have hserves : (rule.context config ingress place path).config.servesTls
          (rule.context config ingress place path).ingress = config.servesTls ingress := rfl
      simp only [List.isEmpty_cons, Bool.false_eq_true, if_false, RouteTable.addPath, hserves]
      exact {
        routes := by simp [hcovers.routes, hroutes]
        -- The routes to drop follow the TLS route of this path, if it has one.  If it has none,
        -- then neither had the paths before it, and the list is still empty.
        tlsRoutes := by
          rw [hcovers.tlsRoutes]
          cases config.servesTls ingress with
          | true => simp [hroutes]
          | false => simp
        clusters := by
          rw [List.flatMap_append, List.flatMap_singleton]
          exact List.rel_append hcovers.clusters hclusters }

theorem addPaths
    {rest : List HttpPath} {parts : List (Option PathRoutes)}
    (hcovers : table.Covers config lookup ingress rule place paths)
    (hparts : List.Forall₂ (fun path part =>
      (Plan.pathRoutes (rule.context config ingress place path)).value? lookup = some part)
      rest parts) :
    (parts.foldl RouteTable.addPath table).Covers config lookup ingress rule place
      (paths ++ rest) := by
  induction hparts generalizing paths table with
  | nil =>
      rw [List.append_nil]
      exact hcovers
  | cons hpart _ ih =>
      have hrest := ih (hcovers.addPath hpart)
      rw [List.append_assoc] at hrest
      exact hrest

variable (hcovers : table.Covers config lookup ingress rule place rule.paths)
include hcovers

theorem plain_virtualHosts :
    (rule.virtualHosts config ingress (ruleName ingress place) table).plain =
      Bucket.internal.host config ingress (rule, place) := by
  simp only [Rule.virtualHosts, Bucket.host, hcovers.routes]

-- There is no virtual host with TLS without TLS routes, but a rule with routes has those too.
theorem tls_virtualHosts (hnonempty : table.routes ≠ []) :
    (rule.virtualHosts config ingress (ruleName ingress place) table).tls =
      if config.servesTls ingress then some (Bucket.externalTls.host config ingress (rule, place))
      else none := by
  simp only [Rule.virtualHosts, hcovers.tlsRoutes]
  cases config.servesTls ingress with
  | true =>
      have hplain : (Bucket.internal.host config ingress (rule, place)).routes ≠ [] := by
        rw [hcovers.routes] at hnonempty
        exact hnonempty
      have htls := List.isEmpty_eq_false_iff.mpr (Bucket.routes_host_ne_nil hplain .externalTls)
      simp only [Bucket.host] at htls ⊢
      simp only [if_true, htls, Bool.false_eq_true, if_false]
  | false => rfl

theorem host?_virtualHosts (hnonempty : table.routes ≠ []) (bucket : Bucket) :
    bucket.host? (rule.virtualHosts config ingress (ruleName ingress place) table) =
      if bucket.serves config ingress rule then some (bucket.host config ingress (rule, place))
      else none := by
  cases bucket with
  | internal => exact congrArg some hcovers.plain_virtualHosts
  | external =>
      simp only [Bucket.host?, RuleHosts.external?, Bucket.serves, hcovers.plain_virtualHosts]
      rfl
  | externalTls =>
      simp only [Bucket.host?, RuleHosts.externalTls?, Bucket.serves,
        hcovers.tls_virtualHosts hnonempty]
      by_cases hexternal : rule.visibility.isExternal = true
      · simp [Rule.virtualHosts, hexternal]
      · simp [Rule.virtualHosts, hexternal]

end RouteTable.Covers

namespace Plan

variable {config : Config} {lookup : Lookup} {ingress : Ingress}

theorem value?_ruleTable
    {rule : Rule} {place : Nat} {table : RouteTable}
    (hvalue : (ruleTable config ingress rule (ruleName ingress place)).value? lookup =
      some table) :
    table.Covers config lookup ingress rule place rule.paths ∧ table.routes ≠ [] := by
  unfold ruleTable at hvalue
  rw [bind_eq, value?_bind_eq_some_iff] at hvalue
  obtain ⟨parts, hparts, hrest⟩ := hvalue
  have hnonempty : (parts.foldl RouteTable.addPath .empty).routes.isEmpty = false := by
    cases hempty : (parts.foldl RouteTable.addPath .empty).routes.isEmpty with
    | false => rfl
    | true => simp [hempty, value?] at hrest
  simp only [hnonempty, Bool.false_eq_true, if_false, pure_eq, value?_done,
    Option.some.injEq] at hrest
  subst table
  exact ⟨RouteTable.Covers.empty.addPaths (value?_each_eq_some_iff.mp hparts),
    List.isEmpty_eq_false_iff.mp hnonempty⟩

theorem value?_ruleHosts
    {rule : Rule × Nat} {hosts : RuleHosts}
    (hvalue : (ruleHosts config ingress rule.1 rule.2).value? lookup = some hosts) :
    (∀ bucket : Bucket, bucket.host? hosts =
      if bucket.serves config ingress rule.1 then some (bucket.host config ingress rule)
      else none) ∧
    List.Forall₂ (HasCluster config lookup ingress) rule.1.pathSplits hosts.clusters ∧
    ∀ bucket : Bucket, (bucket.host config ingress rule).routes ≠ [] := by
  unfold ruleHosts at hvalue
  simp only [bind_eq, value?_bind_eq_some_iff, pure_eq, value?_done, Option.some.injEq]
    at hvalue
  obtain ⟨table, htable, hhosts⟩ := hvalue
  obtain ⟨hcovers, hnonempty⟩ := value?_ruleTable htable
  have hplain : (Bucket.internal.host config ingress rule).routes ≠ [] := by
    rw [hcovers.routes] at hnonempty
    exact hnonempty
  subst hhosts
  exact ⟨hcovers.host?_virtualHosts hnonempty, hcovers.clusters,
    Bucket.routes_host_ne_nil hplain⟩

end Plan

/-! ## The parts of a ready resolution -/

section Ready

variable {config : Config} {lookup : Lookup} {registrar : Registrar} {ingress : Ingress}
  {value : ProxyConfig}

/-- The certificates, the rules and the listener each have the value that their plan has. -/
theorem exists_parts_of_ready
    (hready : (resolve config lookup registrar ingress).result = .ok (.ready value)) :
    (Plan.each Plan.certificate ingress.tls).value? lookup = some value.sniMatches ∧
    (Plan.listenerPort config ingress).value? lookup = some value.listenerPort ∧
    value.name = ingress.owner ∧
    ∃ hosts : List RuleHosts,
      List.Forall₂ (fun (rule : Rule × Nat) found =>
        (Plan.ruleHosts config ingress rule.1 rule.2).value? lookup = some found)
        ingress.rules.zipIdx hosts ∧
      value.clusters = hosts.flatMap RuleHosts.clusters ∧
      ∀ bucket : Bucket, bucket.hosts value = hosts.filterMap bucket.host? := by
  have hvalue := Plan.value?_of_ready hready
  simp only [Plan.ingress, Plan.bind_eq, Plan.pure_eq, Plan.value?_bind_eq_some_iff,
    Plan.value?_done, Option.some.injEq] at hvalue
  obtain ⟨sniMatches, hsniMatches, hosts, hhosts, port, hport, hvalue⟩ := hvalue
  subst value
  refine ⟨hsniMatches, hport, rfl, hosts, Plan.value?_each_eq_some_iff.mp hhosts, rfl, ?_⟩
  intro bucket
  cases bucket with
  | internal => exact (congrFun List.filterMap_eq_map hosts).symm
  | external => rfl
  | externalTls => rfl

/-- The virtual hosts of a bucket are those of the rules that have one there, in order. -/
theorem hosts_of_ready
    (hready : (resolve config lookup registrar ingress).result = .ok (.ready value))
    (bucket : Bucket) :
    bucket.hosts value =
      (bucket.rules config ingress).map (bucket.host config ingress) := by
  obtain ⟨_, _, _, hosts, heach, _, hbucket⟩ := exists_parts_of_ready hready
  rw [hbucket]
  exact filterMap_eq_of_forall₂
    (heach.imp fun rule found hfound => (Plan.value?_ruleHosts hfound).1 bucket)

/-- What holds of the virtual host of each rule holds throughout a bucket. -/
theorem forall₂_hosts_of_ready
    (hready : (resolve config lookup registrar ingress).result = .ok (.ready value))
    (bucket : Bucket) {holds : Rule → VirtualHost → Prop}
    (heach : ∀ rule ∈ ingress.rules.zipIdx, holds rule.1 (bucket.host config ingress rule)) :
    List.Forall₂ holds (ingress.rules.filter (bucket.serves config ingress))
      (bucket.hosts value) := by
  rw [hosts_of_ready hready bucket, ← bucket.map_fst_rules, List.forall₂_map_left_iff,
    List.forall₂_map_right_iff, List.forall₂_same]
  intro rule hrule
  exact heach rule (List.mem_filter.mp hrule).1

theorem internal_of_ready
    (hready : (resolve config lookup registrar ingress).result = .ok (.ready value)) :
    value.internalVirtualHosts =
      ingress.rules.zipIdx.map (Bucket.internal.host config ingress) := by
  rw [← Bucket.rules_internal config ingress]
  exact hosts_of_ready hready .internal

theorem routes_ne_nil_of_ready
    (hready : (resolve config lookup registrar ingress).result = .ok (.ready value))
    (bucket : Bucket) {rule : Rule × Nat} (hrule : rule ∈ ingress.rules.zipIdx) :
    (bucket.host config ingress rule).routes ≠ [] := by
  obtain ⟨_, _, _, hosts, heach, _, _⟩ := exists_parts_of_ready hready
  have hnonempty := (List.forall₂_and_left _ _).mp
    (heach.imp fun rule found hfound => ⟨(Plan.value?_ruleHosts hfound).2.2, hfound⟩)
  exact hnonempty.1 rule hrule bucket

theorem clusters_of_ready
    (hready : (resolve config lookup registrar ingress).result = .ok (.ready value)) :
    List.Forall₂ (HasCluster config lookup ingress) ingress.pathSplits value.clusters := by
  obtain ⟨_, _, _, hosts, heach, hclusters, _⟩ := exists_parts_of_ready hready
  have hsplits : ingress.rules.zipIdx.flatMap (fun rule => rule.1.pathSplits) =
      ingress.pathSplits := by
    rw [← List.flatMap_map Prod.fst, List.zipIdx_map_fst]
    rfl
  rw [hclusters, ← hsplits]
  exact List.rel_flatMap
    (heach.imp fun rule found hfound => (Plan.value?_ruleHosts hfound).2.1) fun _ _ hpart => hpart

theorem condition_of_ready
    (hready : (resolve config lookup registrar ingress).result = .ok (.ready value))
    {condition : Condition}
    (hmem : .hold condition ∈ ingress.obligations config lookup) :
    condition.obstacle? = none := by
  rcases (Plan.ingress_fulfils config lookup ingress).run_cases registrar with
    ⟨hmet, _⟩ | ⟨_, _, _, obstacle, _, _, _, hrun⟩
  · obtain ⟨earlier, later, hsplit⟩ := List.append_of_mem hmem
    exact hmet.at_split hsplit
  · unfold resolve at hready
    rw [hrun] at hready
    exact absurd hready (obstacle.result_ne_ready value)

/-- The routes to drop could be read, since every rule has a path that needs them. -/
theorem dropRoutes_of_ready
    (hready : (resolve config lookup registrar ingress).result = .ok (.ready value))
    {rule : Rule} (hrule : rule ∈ ingress.rules) :
    Annotations.dropRoutes ingress.metadata.annotationsOrEmpty = .ok ingress.dropRoutes := by
  have hobligations :
      ∀ obligation ∈ rule.obligations config lookup ingress.metadata.annotationsOrEmpty,
        obligation ∈ ingress.obligations config lookup := by
    intro obligation hmem
    refine List.mem_append_left _ (List.mem_append_right _ ?_)
    exact List.mem_flatMap.mpr ⟨rule, hrule, hmem⟩
  have hbackend : (Condition.hasBackend rule).obstacle? = none := by
    refine condition_of_ready hready (hobligations _ ?_)
    exact List.mem_append_right _ (List.mem_singleton.mpr rfl)
  have hsome : rule.hasBackend = true := by simpa [Condition.obstacle?] using hbackend
  obtain ⟨path, hpath, hsplits⟩ := List.any_eq_true.mp hsome
  have hreadable :
      (Condition.dropRoutesReadable ingress.metadata.annotationsOrEmpty).obstacle? = none := by
    refine condition_of_ready hready (hobligations _ ?_)
    refine List.mem_append_left _ (List.mem_flatMap.mpr ⟨path, hpath, ?_⟩)
    rw [Bool.not_eq_true'] at hsplits
    refine List.mem_append_right _ ?_
    simp [hsplits]
  unfold Ingress.dropRoutes
  cases hread : Annotations.dropRoutes ingress.metadata.annotationsOrEmpty with
  | ok routes => rfl
  | error fault => simp [Condition.obstacle?, hread] at hreadable

end Ready

theorem exists_ready_of_isReady {ε α : Type} {result : Except ε (Outcome α)}
    (hready : result.toOption.any Outcome.isReady = true) :
    ∃ value, result = .ok (.ready value) := by
  cases result with
  | error _ => cases hready
  | ok outcome =>
      cases outcome with
      | ready value => exact ⟨value, rfl⟩
      | notReady => cases hready

/-! ## A shop under authorization -/

/-- Every service is there, and no endpoint is ready. -/
def idleServices : Lookup
  | .service _ => .ok ⟨.unset, none⟩
  | .endpoints _ => .ok ⟨.unset, []⟩
  | .secret object => .error (.notFound .secret object.name)
  | .nameSpace name => .error (.notFound .nameSpace name)

/-- Certificates are issued by the first path from outside, and the second one has no backend.  The
labels claim to be another client. -/
def guardedShop : Ingress where
  metadata := ⟨some "web", some "shop", some (KeyMap.empty.insert "client" "spoofed"), none⟩
  tls := []
  rules :=
    [⟨["shop.example"], .externalIP,
        [⟨"/.well-known/acme-challenge/token", .empty, none, .empty,
            [⟨"shop", "solver", .number 80, 100, .empty⟩]⟩,
          ⟨"/closed", .empty, none, .empty, []⟩,
          ⟨"/", .empty, none, .empty, [⟨"shop", "front", .number 80, 100, .empty⟩]⟩]⟩,
      ⟨["shop.local"], .clusterLocal,
        [⟨"/", .empty, none, .empty, [⟨"shop", "front", .number 80, 100, .empty⟩]⟩]⟩]
  httpOption := .redirected

/-- Authorization is on, and one certificate serves all hosts. -/
def guardedConfig : Config :=
  { Config.standard with extAuthzEnabled := true, certsSecret := some ⟨"ingress", "cert"⟩ }

end EdgeRouting
