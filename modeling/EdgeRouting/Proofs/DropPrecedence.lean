import EdgeRouting.Proofs.RouteListing

/-!
# Routes of paths and routes to drop

The routes to drop stand behind the route of every path, and so before those of all later paths.
If the proxy takes the first route that matches, only the first path that is served has precedence:
any later one is cut off where it overlaps a declared prefix, however many paths stand between.
-/

namespace EdgeRouting

/-- Some requests have both prefixes. -/
def Overlap (first second : String) : Prop :=
  Text.startsWith first second = true ∨ Text.startsWith second first = true

instance (first second : String) : Decidable (Overlap first second) :=
  inferInstanceAs (Decidable (_ ∨ _))

def Route.Drops (declared : String) (route : Route) : Prop :=
  route.kind = .drop ∧ route.criteria.pathPrefix = declared

namespace VirtualHost

/-- No route to drop stands before the route of a path that it overlaps. -/
def PathsComeFirst (host : VirtualHost) : Prop :=
  host.routes.Pairwise fun earlier later =>
    earlier.kind = .drop → later.kind ≠ .drop →
      ¬Overlap earlier.criteria.pathPrefix later.criteria.pathPrefix

instance (host : VirtualHost) : Decidable host.PathsComeFirst :=
  inferInstanceAs (Decidable (List.Pairwise _ _))

end VirtualHost

/-- The route of a path between the routes before it, which are those of other paths and of what is
dropped behind them, and the routes after it. -/
structure HttpPath.PlacedAt (declared : List String) (earlier : List HttpPath) (path : HttpPath)
    (before : List Route) (own : Route) (after : List Route) : Prop where
  kind : own.kind ≠ .drop
  pathPrefix : own.criteria.pathPrefix = path.pathOrRoot
  preceding : (before.filter fun route => route.kind ≠ .drop).map (·.criteria.pathPrefix) =
    (earlier.filter fun other => other.splits ≠ []).map HttpPath.pathOrRoot
  dropped_before : ∀ text, (∃ route ∈ before, route.Drops text) ↔
    text ∈ declared ∧ ∃ other ∈ earlier, other.splits ≠ []
  dropped_after : ∀ text ∈ declared, ∃ route ∈ after, route.Drops text

structure VirtualHost.Interleaves (declared : List String) (rule : Rule) (host : VirtualHost) :
    Prop where
  placed : ∀ earlier path later, rule.paths = earlier ++ path :: later → path.splits ≠ [] →
    ∃ before own after, host.routes = before ++ own :: after ∧
      path.PlacedAt declared earlier before own after
  pathsComeFirst_iff : host.PathsComeFirst ↔
    ∀ path ∈ rule.servedPaths.tail, ∀ text ∈ declared, ¬Overlap text path.pathOrRoot
  -- A request is known by the criteria that it meets.
  first_match : ∀ meets : RouteMatch → Bool, (∃ text ∈ declared, meets ⟨text, []⟩ = true) →
    ∃ route, host.routes.find? (fun route => meets route.criteria) = some route ∧
      (route.kind ≠ .drop → host.routes.head? = some route)

/-! ## The routes of several paths -/

/-- What the path lists, where the route of the path itself is told from those to drop. -/
def HttpPath.HasRoutes (declared : List String) (path : HttpPath) (routes : List Route) : Prop :=
  (path.splits = [] ∧ routes = []) ∨
    (path.splits ≠ [] ∧ ∃ own name, routes = own :: declared.map (Route.drop name) ∧
      own.kind ≠ .drop ∧ own.criteria.pathPrefix = path.pathOrRoot)

section Paths

variable {declared : List String}

theorem HttpPath.HasRoutes.exists_drops_iff
    {path : HttpPath} {list : List Route} (hlist : path.HasRoutes declared list) (text : String) :
    (∃ route ∈ list, route.Drops text) ↔ text ∈ declared ∧ path.splits ≠ [] := by
  rcases hlist with ⟨hsplits, rfl⟩ | ⟨hsplits, own, name, rfl, hkind, _⟩
  · simp [hsplits]
  · constructor
    · rintro ⟨route, hroute, hdrop, rfl⟩
      rcases List.mem_cons.mp hroute with rfl | hmem
      · exact absurd hdrop hkind
      · obtain ⟨text, htext, rfl⟩ := List.mem_map.mp hmem
        exact ⟨htext, hsplits⟩
    · rintro ⟨htext, _⟩
      exact ⟨.drop name text, List.mem_cons_of_mem own (List.mem_map_of_mem htext), rfl, rfl⟩

variable {routes : HttpPath → List Route}
  (hroutes : ∀ path, HttpPath.HasRoutes declared path (routes path))

include hroutes

theorem exists_drops_flatMap_iff (paths : List HttpPath) (text : String) :
    (∃ route ∈ paths.flatMap routes, route.Drops text) ↔
      text ∈ declared ∧ ∃ path ∈ paths, path.splits ≠ [] := by
  constructor
  · rintro ⟨route, hroute, hdrops⟩
    obtain ⟨path, hpath, hmem⟩ := List.mem_flatMap.mp hroute
    obtain ⟨htext, hsplits⟩ := ((hroutes path).exists_drops_iff text).mp ⟨route, hmem, hdrops⟩
    exact ⟨htext, path, hpath, hsplits⟩
  · rintro ⟨htext, path, hpath, hsplits⟩
    obtain ⟨route, hmem, hdrops⟩ := ((hroutes path).exists_drops_iff text).mpr ⟨htext, hsplits⟩
    exact ⟨route, List.mem_flatMap.mpr ⟨path, hpath, hmem⟩, hdrops⟩

/-- Without the routes to drop, one route is left for each path that is served. -/
theorem map_pathPrefix_filter_flatMap (paths : List HttpPath) :
    ((paths.flatMap routes).filter fun route => route.kind ≠ .drop).map (·.criteria.pathPrefix) =
      (paths.filter fun path => path.splits ≠ []).map HttpPath.pathOrRoot := by
  induction paths with
  | nil => rfl
  | cons path rest ih =>
      rw [List.flatMap_cons, List.filter_append, List.map_append, ih]
      rcases hroutes path with ⟨hsplits, hpath⟩ | ⟨hsplits, own, name, hpath, hkind, hprefix⟩
      · simp [hpath, hsplits]
      · have hnone : (declared.map (Route.drop name)).filter (fun route => route.kind ≠ .drop) =
            [] := by
          simp [List.filter_eq_nil_iff, Route.drop, Route.kind]
        rw [hpath, List.filter_cons_of_pos (by simpa using hkind), hnone,
          List.filter_cons_of_pos (by simpa using hsplits), List.map_cons, List.map_cons, hprefix]
        rfl

theorem placedAt_of_split
    {paths earlier later : List HttpPath} {path : HttpPath}
    (hpaths : paths = earlier ++ path :: later) (hsplits : path.splits ≠ []) :
    ∃ before own after, paths.flatMap routes = before ++ own :: after ∧
      path.PlacedAt declared earlier before own after := by
  rcases hroutes path with ⟨hnone, _⟩ | ⟨_, own, name, hpath, hkind, hprefix⟩
  · exact absurd hnone hsplits
  · refine ⟨earlier.flatMap routes, own,
      declared.map (Route.drop name) ++ later.flatMap routes, ?_, ?_⟩
    · rw [hpaths, List.flatMap_append, List.flatMap_cons, hpath, List.cons_append]
    · exact {
        kind := hkind
        pathPrefix := hprefix
        preceding := map_pathPrefix_filter_flatMap hroutes earlier
        dropped_before := exists_drops_flatMap_iff hroutes earlier
        dropped_after := by
          intro text htext
          exact ⟨_, List.mem_append_left _ (List.mem_map_of_mem htext), rfl, rfl⟩ }

/-- The first path that is served comes before everything else. -/
theorem exists_first_of_flatMap {paths : List HttpPath} (hsome : paths.flatMap routes ≠ []) :
    ∃ own name, ∃ rest : List HttpPath, own.kind ≠ .drop ∧
      paths.flatMap routes = own :: (declared.map (Route.drop name) ++ rest.flatMap routes) ∧
      (paths.filter fun path => path.splits ≠ []).tail =
        rest.filter fun path => path.splits ≠ [] := by
  induction paths with
  | nil => exact absurd rfl hsome
  | cons path rest ih =>
      rw [List.flatMap_cons] at hsome ⊢
      rcases hroutes path with ⟨hsplits, hpath⟩ | ⟨hsplits, own, name, hpath, hkind, _⟩
      · rw [hpath, List.nil_append] at hsome ⊢
        rw [List.filter_cons_of_neg (by simpa using hsplits)]
        exact ih hsome
      · refine ⟨own, name, rest, hkind, ?_, ?_⟩
        · rw [hpath, List.cons_append]
        · rw [List.filter_cons_of_pos (by simpa using hsplits), List.tail_cons]

section Behind

/-! ### Behind the first route -/

variable {name : String} {rest : List HttpPath} {route : Route}
  (hroute : route ∈ declared.map (Route.drop name) ++ rest.flatMap routes)

include hroute

theorem mem_declared_of_drop (hdrop : route.kind = .drop) :
    route.criteria.pathPrefix ∈ declared := by
  rcases List.mem_append.mp hroute with hfirst | hrest
  · obtain ⟨text, htext, rfl⟩ := List.mem_map.mp hfirst
    exact htext
  · exact ((exists_drops_flatMap_iff hroutes rest _).mp ⟨route, hrest, hdrop, rfl⟩).1

theorem exists_served_of_not_drop (hkept : route.kind ≠ .drop) :
    ∃ path ∈ rest.filter (fun path => path.splits ≠ []),
      path.pathOrRoot = route.criteria.pathPrefix := by
  rcases List.mem_append.mp hroute with hfirst | hrest
  · obtain ⟨_, _, rfl⟩ := List.mem_map.mp hfirst
    exact absurd rfl hkept
  · rw [← List.mem_map, ← map_pathPrefix_filter_flatMap hroutes rest]
    exact List.mem_map_of_mem (List.mem_filter.mpr ⟨hrest, by simpa using hkept⟩)

end Behind

theorem exists_own_of_served {paths : List HttpPath} {path : HttpPath}
    (hpath : path ∈ paths.filter fun path => path.splits ≠ []) :
    ∃ own ∈ paths.flatMap routes, own.kind ≠ .drop ∧
      own.criteria.pathPrefix = path.pathOrRoot := by
  obtain ⟨hmem, hsplits⟩ := List.mem_filter.mp hpath
  rcases hroutes path with ⟨hnone, _⟩ | ⟨_, own, name, hlist, hkind, hprefix⟩
  · simp [hnone] at hsplits
  · refine ⟨own, List.mem_flatMap.mpr ⟨path, hmem, ?_⟩, hkind, hprefix⟩
    rw [hlist]
    exact List.mem_cons_self

section Host

variable {rule : Rule} {host : VirtualHost} (hhost : host.routes = rule.paths.flatMap routes)
  (hsome : host.routes ≠ [])

include hhost hsome

theorem VirtualHost.pathsComeFirst_iff_of_flatMap :
    host.PathsComeFirst ↔
      ∀ path ∈ rule.servedPaths.tail, ∀ text ∈ declared, ¬Overlap text path.pathOrRoot := by
  rw [hhost] at hsome
  obtain ⟨own, name, rest, hkind, hlist, htail⟩ := exists_first_of_flatMap hroutes hsome
  have hserved : rule.servedPaths.tail = rest.filter fun path => path.splits ≠ [] := htail
  unfold PathsComeFirst
  rw [hhost, hlist, hserved]
  constructor
  · intro hpairwise path hpath text htext
    have hbehind := (List.pairwise_append.mp (List.pairwise_cons.mp hpairwise).2).2.2
    obtain ⟨later, hlater, hkept, hprefix⟩ := exists_own_of_served hroutes hpath
    rw [← hprefix]
    exact hbehind (.drop name text) (List.mem_map_of_mem htext) later hlater rfl hkept
  · intro hapart
    -- The first route is none to drop, and any pair behind it is told by its prefixes.
    refine List.pairwise_cons.mpr ⟨fun later _ hdrop => absurd hdrop hkind, ?_⟩
    refine List.pairwise_of_forall_mem_list fun earlier hearlier later hlater hdrop hkept => ?_
    have htext := mem_declared_of_drop hroutes hearlier hdrop
    obtain ⟨path, hpath, hprefix⟩ := exists_served_of_not_drop hroutes hlater hkept
    rw [← hprefix]
    exact hapart path hpath _ htext

theorem VirtualHost.find?_of_flatMap
    {meets : RouteMatch → Bool} {text : String} (htext : text ∈ declared)
    (hmeets : meets ⟨text, []⟩ = true) :
    ∃ route, host.routes.find? (fun route => meets route.criteria) = some route ∧
      (route.kind ≠ .drop → host.routes.head? = some route) := by
  rw [hhost] at hsome
  obtain ⟨own, name, rest, _, hlist, _⟩ := exists_first_of_flatMap hroutes hsome
  rw [hhost, hlist]
  by_cases hown : meets own.criteria = true
  · refine ⟨own, ?_, fun _ => rfl⟩
    simp only [List.find?_cons, hown]
  · obtain ⟨route, hroute⟩ : ∃ route, (declared.map (Route.drop name)).find?
        (fun route => meets route.criteria) = some route := by
      rw [← Option.isSome_iff_exists, List.find?_isSome]
      exact ⟨.drop name text, List.mem_map_of_mem htext, hmeets⟩
    refine ⟨route, ?_, ?_⟩
    · simp only [List.find?_cons, hown, List.find?_append, hroute, Option.some_or]
    · intro hkind
      obtain ⟨_, _, rfl⟩ := List.mem_map.mp (List.mem_of_find?_eq_some hroute)
      exact absurd rfl hkind

end Host

end Paths

/-! ## The virtual hosts -/

theorem PathContext.hasRoutes_routes (context : PathContext) (bucket : Bucket) :
    context.path.HasRoutes context.ingress.dropRoutes.paths (context.routes bucket) := by
  unfold routes
  by_cases hsplits : context.path.splits = []
  · exact .inl ⟨hsplits, by simp [hsplits]⟩
  · refine .inr ⟨hsplits, context.ownRoute bucket, context.routeName, ?_,
      context.kind_ownRoute_ne_drop bucket, ?_⟩
    · rw [if_neg (by simpa using hsplits)]
      rfl
    · rw [context.criteria_ownRoute bucket]

theorem Bucket.interleaves_host
    {config : Config} {ingress : Ingress} {rule : Rule × Nat} {bucket : Bucket}
    (hsome : (bucket.host config ingress rule).routes ≠ []) :
    (bucket.host config ingress rule).Interleaves ingress.dropRoutes.paths rule.1 := by
  have hroutes : ∀ path, HttpPath.HasRoutes ingress.dropRoutes.paths path
      ((rule.1.context config ingress rule.2 path).routes bucket) :=
    fun path => (rule.1.context config ingress rule.2 path).hasRoutes_routes bucket
  exact {
    placed := fun _ _ _ hpaths hsplits => placedAt_of_split hroutes hpaths hsplits
    pathsComeFirst_iff := VirtualHost.pathsComeFirst_iff_of_flatMap hroutes rfl hsome
    first_match := by
      rintro meets ⟨text, htext, hmeets⟩
      exact VirtualHost.find?_of_flatMap hroutes rfl hsome htext hmeets }

/-- In every bucket a route to drop comes before the route of a path exactly if another path that
is served does. -/
theorem drops_interleaved_of_ready
    {config : Config} {lookup : Lookup} {registrar : Registrar} {ingress : Ingress}
    {value : ProxyConfig}
    (hready : (resolve config lookup registrar ingress).result = .ok (.ready value))
    (bucket : Bucket) :
    List.Forall₂ (fun rule host =>
        ∃ declared, Annotations.dropRoutes ingress.metadata.annotationsOrEmpty = .ok declared ∧
          host.Interleaves declared.paths rule)
      (ingress.rules.filter (bucket.serves config ingress)) (bucket.hosts value) := by
  refine forall₂_hosts_of_ready hready bucket fun rule hrule => ?_
  have hdeclared := dropRoutes_of_ready hready (List.fst_mem_of_mem_zipIdx hrule)
  have hsome := routes_ne_nil_of_ready hready bucket hrule
  exact ⟨_, hdeclared, Bucket.interleaves_host hsome⟩

/-! ### A shop with a path that is cut off -/

/-- The second path is also to be dropped. -/
def closingShop : Ingress where
  metadata := ⟨some "web", some "shop", none,
    some (KeyMap.empty.insert "ingress.translator.io/drop-routes"
      "\x7b\"routes\":[\x7b\"path\":\"/b\"\x7d]\x7d")⟩
  tls := []
  rules :=
    [⟨["shop.example"], .externalIP,
      [⟨"/a", .empty, none, .empty, [⟨"shop", "front", .number 80, 100, .empty⟩]⟩,
        ⟨"/b", .empty, none, .empty, [⟨"shop", "front", .number 80, 100, .empty⟩]⟩]⟩]
  httpOption := .enabled

def oneCertificate : Config :=
  { Config.standard with certsSecret := some ⟨"ingress", "cert"⟩ }

theorem closingShop_ready :
    ∃ value, (resolve oneCertificate idleServices .accepting closingShop).result =
      .ok (.ready value) :=
  exists_ready_of_isReady (by decide +kernel)

theorem closingShop_paths_cut_off :
    ∃ value,
      (resolve oneCertificate idleServices .accepting closingShop).result =
        .ok (.ready value) ∧
      ∀ bucket : Bucket, ∃ host ∈ bucket.hosts value, ¬host.PathsComeFirst := by
  obtain ⟨value, hready⟩ := closingShop_ready
  refine ⟨value, hready, fun bucket => ?_⟩
  rw [hosts_of_ready hready bucket]
  cases bucket <;> decide +kernel

theorem closingShop_drops_interleaved :
    ∃ value,
      (resolve oneCertificate idleServices .accepting closingShop).result =
        .ok (.ready value) ∧
      ∀ bucket : Bucket,
        List.Forall₂ (fun rule host =>
            ∃ declared,
              Annotations.dropRoutes closingShop.metadata.annotationsOrEmpty = .ok declared ∧
              host.Interleaves declared.paths rule)
          (closingShop.rules.filter (bucket.serves oneCertificate closingShop))
          (bucket.hosts value) := by
  obtain ⟨value, hready⟩ := closingShop_ready
  exact ⟨value, hready, drops_interleaved_of_ready hready⟩

end EdgeRouting
