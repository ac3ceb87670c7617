import EdgeRouting.Proofs.TlsMirror

/-!
# Routes and the clusters that they name

Clusters and the references to them are collected in separate lists.  No reference dangles: a route
that forwards names the clusters of its own path's splits, in order, and each of them is there.  In
the other direction the cluster of a split is named by some route, unless its path is redirected
and there are no routes with TLS.
-/

namespace EdgeRouting

/-! ## References -/

/-- A route of the path that forwards requests does so to the path's splits. -/
def Route.RefersTo (clusters : List Cluster) (path : HttpPath) (route : Route) : Prop :=
  ∀ action, route.action = .forward action →
    action.weightedClusters ≠ [] ∧
    List.Forall₂ Split.HasShare path.splits action.weightedClusters ∧
    ∀ weighted ∈ action.weightedClusters, ∃ cluster ∈ clusters, cluster.name = weighted.name

def Route.SendsTo (split : Split) (route : Route) : Prop :=
  ∃ action, route.action = .forward action ∧
    ∃ weighted ∈ action.weightedClusters,
      weighted.name = split.serviceNamespace ++ "/" ++ split.serviceName

/-- Some route of some bucket names the cluster of the split. -/
def ProxyConfig.SendsTo (value : ProxyConfig) (split : Split) : Prop :=
  ∃ bucket : Bucket, ∃ host ∈ bucket.hosts value, ∃ route ∈ host.routes, route.SendsTo split

structure ProxyConfig.RefersSoundly (config : Config) (lookup : Lookup) (ingress : Ingress)
    (value : ProxyConfig) : Prop where
  forwards : ∀ bucket : Bucket,
    List.Forall₂ (fun (rule : Rule) (host : VirtualHost) =>
      List.Forall₂ (Route.RefersTo value.clusters) (rule.routePaths ingress) host.routes)
      (ingress.rules.filter (bucket.serves config ingress)) (bucket.hosts value)
  clusters : List.Forall₂ (fun source cluster =>
      HasCluster config lookup ingress source cluster ∧
      cluster.name = source.2.serviceNamespace ++ "/" ++ source.2.serviceName)
    ingress.pathSplits value.clusters
  -- The plain route of a path is the one that is not there to drop requests.
  used : List.Forall₂ (fun (rule : Rule) (host : VirtualHost) =>
      ∀ path ∈ rule.paths, path.splits ≠ [] →
        ∃ plain, (path, plain) ∈ (rule.routePaths ingress).zip host.routes ∧
          plain.kind ≠ .drop ∧
          ((plain.kind = .redirect ∧ ingress.tls = [] ∧ config.certsSecret = none) ∨
            ∀ split ∈ path.splits, value.SendsTo split))
    ingress.rules value.internalVirtualHosts

/-! ## The routes of a path -/

namespace PathContext

variable (context : PathContext)

theorem action_ownRoute (bucket : Bucket) :
    (context.ownRoute bucket).action = .redirect true 301 ∨
      (context.ownRoute bucket).action = .forward
        ⟨context.path.splits.map Split.weighted, routeTimeout, ["websocket"],
          context.path.hostOverride⟩ := by
  rcases context.ownRoute_cases bucket with ⟨_, hroute⟩ | ⟨_, hroute⟩ | ⟨_, hroute⟩
  · exact .inr (congrArg Route.action hroute)
  · exact .inl (congrArg Route.action hroute)
  · exact .inr (congrArg Route.action hroute)

theorem kind_ownRoute_ne_drop (bucket : Bucket) :
    (context.ownRoute bucket).kind ≠ .drop := by
  rcases context.ownRoute_cases bucket with ⟨_, hroute⟩ | ⟨_, hroute⟩ | ⟨_, hroute⟩
  · rw [hroute]
    exact RouteKind.noConfusion
  · rw [hroute]
    exact RouteKind.noConfusion
  · rw [hroute]
    exact RouteKind.noConfusion

theorem refersTo_ownRoute
    {clusters : List Cluster} (hsplits : context.path.splits ≠ [])
    (hnamed : ∀ split ∈ context.path.splits,
      ∃ cluster ∈ clusters, cluster.name = split.weighted.name)
    (bucket : Bucket) : (context.ownRoute bucket).RefersTo clusters context.path := by
  intro action haction
  rcases context.action_ownRoute bucket with hredirect | hforward
  · rw [hredirect] at haction
    cases haction
  · rw [hforward] at haction
    cases haction
    refine ⟨by simpa using hsplits, Split.forall₂_hasShare context.path.splits, ?_⟩
    intro weighted hweighted
    obtain ⟨split, hsplit, rfl⟩ := List.mem_map.mp hweighted
    exact hnamed split hsplit

theorem refersTo_routes
    {clusters : List Cluster}
    (hnamed : ∀ split ∈ context.path.splits,
      ∃ cluster ∈ clusters, cluster.name = split.weighted.name)
    (bucket : Bucket) :
    List.Forall₂ (Route.RefersTo clusters) (context.path.routePaths context.ingress)
      (context.routes bucket) := by
  unfold HttpPath.routePaths routes
  cases hempty : context.path.splits.isEmpty with
  | true => exact .nil
  | false =>
      have hsplits : context.path.splits ≠ [] := List.isEmpty_eq_false_iff.mp hempty
      refine .cons (context.refersTo_ownRoute hsplits hnamed bucket) ?_
      unfold dropped
      rw [List.forall₂_map_left_iff, List.forall₂_map_right_iff, List.forall₂_same]
      intro dropped _ action haction
      cases haction

theorem sendsTo_ownRoute
    {bucket : Bucket} (hkind : (context.ownRoute bucket).kind ≠ .redirect)
    {split : Split} (hsplit : split ∈ context.path.splits) :
    (context.ownRoute bucket).SendsTo split := by
  rcases context.action_ownRoute bucket with hredirect | hforward
  · have hother : (context.ownRoute bucket).kind = .redirect := by
      unfold Route.kind
      rw [hredirect]
    exact absurd hother hkind
  · exact ⟨_, hforward, split.weighted, List.mem_map_of_mem hsplit, rfl⟩

theorem isExternal_of_redirect
    (hkind : (context.ownRoute .internal).kind = .redirect) :
    context.rule.visibility.isExternal = true := by
  have hredirects : context.config.redirects context.ingress context.rule = true := by
    by_contra hkept
    simp only [ownRoute, plainRoute, if_neg hkept] at hkind
    split at hkind <;> cases hkind
  unfold Config.redirects at hredirects
  exact (Bool.and_eq_true_iff.mp hredirects).2

theorem length_routePaths (bucket : Bucket) :
    (context.path.routePaths context.ingress).length = (context.routes bucket).length := by
  unfold HttpPath.routePaths routes dropped
  split
  · rfl
  · simp

theorem mem_zip_routes (hsplits : context.path.splits ≠ []) (bucket : Bucket) :
    (context.path, context.ownRoute bucket) ∈
      (context.path.routePaths context.ingress).zip (context.routes bucket) := by
  have hempty : context.path.splits.isEmpty = false := List.isEmpty_eq_false_iff.mpr hsplits
  simp [HttpPath.routePaths, routes, hempty]

end PathContext

theorem zip_flatMap {α β γ : Type} {f : α → List β} {g : α → List γ}
    (hlength : ∀ element, (f element).length = (g element).length) (list : List α) :
    (list.flatMap f).zip (list.flatMap g) =
      list.flatMap fun element => (f element).zip (g element) := by
  induction list with
  | nil => rfl
  | cons first rest ih =>
      simp only [List.flatMap_cons]
      rw [List.zip_append (hlength first), ih]

/-! ## The virtual hosts -/

section Hosts

variable {config : Config} {ingress : Ingress}

theorem Bucket.refersTo_host
    {clusters : List Cluster} {rule : Rule × Nat}
    (hnamed : ∀ path ∈ rule.1.paths, ∀ split ∈ path.splits,
      ∃ cluster ∈ clusters, cluster.name = split.weighted.name)
    (bucket : Bucket) :
    List.Forall₂ (Route.RefersTo clusters) (rule.1.routePaths ingress)
      (bucket.host config ingress rule).routes := by
  have hsame : List.Forall₂ (fun path other => path ∈ rule.1.paths ∧ path = other)
      rule.1.paths rule.1.paths := by
    rw [List.forall₂_same]
    intro path hpath
    exact ⟨hpath, rfl⟩
  refine List.rel_flatMap hsame ?_
  rintro path _ ⟨hpath, rfl⟩
  exact (rule.1.context config ingress rule.2 path).refersTo_routes (hnamed path hpath) bucket

theorem Bucket.mem_zip_host
    {rule : Rule × Nat} {path : HttpPath} (hpath : path ∈ rule.1.paths)
    (hsplits : path.splits ≠ []) (bucket : Bucket) :
    (path, (rule.1.context config ingress rule.2 path).ownRoute bucket) ∈
      (rule.1.routePaths ingress).zip (bucket.host config ingress rule).routes := by
  have hlength : ∀ path, (HttpPath.routePaths ingress path).length =
      ((rule.1.context config ingress rule.2 path).routes bucket).length :=
    fun path => (rule.1.context config ingress rule.2 path).length_routePaths bucket
  unfold Rule.routePaths host
  rw [zip_flatMap hlength]
  refine List.mem_flatMap.mpr ⟨path, hpath, ?_⟩
  exact (rule.1.context config ingress rule.2 path).mem_zip_routes hsplits bucket

end Hosts

section Ready

variable {config : Config} {lookup : Lookup} {registrar : Registrar} {ingress : Ingress}
  {value : ProxyConfig}

theorem exists_cluster_of_ready
    (hready : (resolve config lookup registrar ingress).result = .ok (.ready value))
    {rule : Rule} (hrule : rule ∈ ingress.rules) {path : HttpPath} (hpath : path ∈ rule.paths)
    {split : Split} (hsplit : split ∈ path.splits) :
    ∃ cluster ∈ value.clusters, cluster.name = split.weighted.name := by
  have hsource : (path, split) ∈ ingress.pathSplits := by
    refine List.mem_flatMap.mpr ⟨rule, hrule, List.mem_flatMap.mpr ⟨path, hpath, ?_⟩⟩
    exact List.mem_map_of_mem hsplit
  obtain ⟨cluster, hcluster, hown⟩ := exists_mem_of_forall₂ (clusters_of_ready hready) hsource
  exact ⟨cluster, hcluster, hown.name_eq⟩

/-- The route of a path is left to plain requests, or redirects them.  In the second case the rule
is reachable from outside, so that it has a route with TLS if there are any. -/
theorem sendsTo_of_ready
    (hready : (resolve config lookup registrar ingress).result = .ok (.ready value))
    {rule : Rule × Nat} (hrule : rule ∈ ingress.rules.zipIdx)
    {path : HttpPath} (hpath : path ∈ rule.1.paths) {split : Split} (hsplit : split ∈ path.splits)
    (hserves : ((rule.1.context config ingress rule.2 path).ownRoute .internal).kind = .redirect →
      config.servesTls ingress = true) :
    value.SendsTo split := by
  have hsplits : path.splits ≠ [] := List.ne_nil_of_mem hsplit
  have hbucket : ∀ bucket : Bucket, bucket.serves config ingress rule.1 = true →
      ((rule.1.context config ingress rule.2 path).ownRoute bucket).kind ≠ .redirect →
      value.SendsTo split := by
    intro bucket hserved hkind
    have hhost : bucket.host config ingress rule ∈ bucket.hosts value := by
      rw [hosts_of_ready hready bucket]
      exact List.mem_map_of_mem (List.mem_filter.mpr ⟨hrule, hserved⟩)
    have hroute : (rule.1.context config ingress rule.2 path).ownRoute bucket ∈
        (bucket.host config ingress rule).routes :=
      (List.of_mem_zip (bucket.mem_zip_host hpath hsplits)).2
    exact ⟨bucket, _, hhost, _, hroute, PathContext.sendsTo_ownRoute _ hkind hsplit⟩
  by_cases hkind :
      ((rule.1.context config ingress rule.2 path).ownRoute .internal).kind = .redirect
  · have hexternal : rule.1.visibility.isExternal = true :=
      PathContext.isExternal_of_redirect _ hkind
    have hserved : Bucket.externalTls.serves config ingress rule.1 = true :=
      Bool.and_eq_true_iff.mpr ⟨hexternal, hserves hkind⟩
    exact hbucket .externalTls hserved
      (rule.1.context config ingress rule.2 path).ownRoute_mirroredBy.kind_ne_redirect
  · exact hbucket .internal rfl hkind

/-- No reference of a route dangles, and only the clusters of paths that are redirected, where there
are no routes with TLS, may be without one. -/
theorem refersSoundly_of_ready
    (hready : (resolve config lookup registrar ingress).result = .ok (.ready value)) :
    value.RefersSoundly config lookup ingress where
  forwards := by
    intro bucket
    rw [hosts_of_ready hready bucket, ← bucket.map_fst_rules, List.forall₂_map_left_iff,
      List.forall₂_map_right_iff, List.forall₂_same]
    intro rule hrule
    have hmem : rule.1 ∈ ingress.rules :=
      List.fst_mem_of_mem_zipIdx (List.mem_filter.mp hrule).1
    refine bucket.refersTo_host ?_
    intro path hpath split hsplit
    exact exists_cluster_of_ready hready hmem hpath hsplit
  clusters := (clusters_of_ready hready).imp fun _ _ hcluster => ⟨hcluster, hcluster.name_eq⟩
  used := by
    have hrules : ingress.rules = ingress.rules.zipIdx.map Prod.fst :=
      (List.zipIdx_map_fst 0 ingress.rules).symm
    rw [internal_of_ready hready, hrules, List.forall₂_map_left_iff,
      List.forall₂_map_right_iff, ← hrules, List.forall₂_same]
    intro rule hrule path hpath hsplits
    refine ⟨_, Bucket.internal.mem_zip_host hpath hsplits,
      PathContext.kind_ownRoute_ne_drop _ _, ?_⟩
    rw [← servesTls_eq_false_iff]
    by_cases hunserved :
        ((rule.1.context config ingress rule.2 path).ownRoute .internal).kind = .redirect ∧
          config.servesTls ingress = false
    · exact .inl hunserved
    · right
      intro split hsplit
      refine sendsTo_of_ready hready hrule hpath hsplit ?_
      intro hkind
      by_contra hserves
      exact hunserved ⟨hkind, Bool.eq_false_iff.mpr hserves⟩

end Ready

theorem guardedShop_refersSoundly :
    ∃ value,
      (resolve guardedConfig idleServices .accepting guardedShop).result =
        .ok (.ready value) ∧
      value.clusters.map Cluster.name = ["shop/solver", "shop/front", "shop/front"] ∧
      value.externalVirtualHosts.map (fun host => host.routes.map Route.kind) =
        [[.extAuthzDisabled, .redirect]] ∧
      value.RefersSoundly guardedConfig idleServices guardedShop := by
  have hready : (resolve guardedConfig idleServices .accepting guardedShop).result =
      .ok (.ready _) := rfl
  exact ⟨_, hready, by decide +kernel, by decide +kernel, refersSoundly_of_ready hready⟩

end EdgeRouting
