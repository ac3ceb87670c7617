import EdgeRouting.Proofs.Authorization
import EdgeRouting.Proofs.ReferentialIntegrity

/-!
# The routes of a rule, one after another

A virtual host lists, for each path of its rule that has splits, the route of the path and behind
it one route for each entry of the drop-routes annotation.  Whether the route of the path forwards,
bypasses authorization or redirects follows from the switches, the ingress and the prefix.  The
order matters, since the proxy takes the first route that matches.
-/

namespace EdgeRouting

/-- The paths that have routes. -/
def Rule.servedPaths (rule : Rule) : List HttpPath :=
  rule.paths.filter fun path => path.splits ≠ []

/-! ## What a route has to say -/

/-- One matcher for each header, in key order; only a text that is not empty has to be met. -/
structure MatchersOf (headers : KeyMap String HeaderMatch) (matchers : List HeaderMatcher) :
    Prop where
  sorted : matchers.Pairwise fun earlier later => compare earlier.name later.name = .lt
  mem_iff : ∀ matcher, matcher ∈ matchers ↔
    ∃ header, headers.get? matcher.name = some header ∧
      ∀ text, matcher.exactMatch = some text ↔ header.exact = some text ∧ text ≠ ""

/-- Requests are authorized, but not those of the path, by which certificates are issued. -/
def PathContext.Exempts (context : PathContext) (pathPrefix : String) : Prop :=
  context.config.Authorizes context.ingress ∧
    Text.startsWith pathPrefix "/.well-known/acme-challenge/" = true

/-- Requests from outside are sent to HTTPS, unless they have come with it. -/
def PathContext.Redirects (context : PathContext) (bucket : Bucket) : Prop :=
  context.ingress.httpOption = .redirected ∧ context.config.httpOptionDisabled = false ∧
    context.rule.visibility = .externalIP ∧ bucket ≠ .externalTls

/-- What the route of a path says in a bucket; the exemption comes before the redirection. -/
structure Route.Serves (context : PathContext) (bucket : Bucket) (route : Route) : Prop where
  name : route.name = context.ruleName ++ ".Paths[" ++ route.criteria.pathPrefix ++ "]"
  pathPrefix : route.criteria.pathPrefix =
    if context.path.path = "" then "/" else context.path.path
  matchers : MatchersOf context.path.headers route.criteria.headers
  exempt : context.Exempts route.criteria.pathPrefix →
    route.kind = .extAuthzDisabled ∧ route.Forwards context.path
  redirect : ¬context.Exempts route.criteria.pathPrefix → context.Redirects bucket →
    route.kind = .redirect ∧ route.action = .redirect true 301 ∧ route.weightedClusters = [] ∧
      route.requestHeaders = [] ∧ route.extAuthz = none
  normal : ¬context.Exempts route.criteria.pathPrefix → ¬context.Redirects bucket →
    route.kind = .normal ∧ route.extAuthz = none ∧ route.Forwards context.path

/-- The route rejects what an entry of the annotation declares, under the name of another route. -/
structure Route.Rejects (own : Route) (entry : DropRoute) (route : Route) : Prop where
  name : route.name = own.name
  criteria : route.criteria =
    ⟨if Text.startsWith entry.path "/" then entry.path else "/" ++ entry.path, []⟩
  action : route.action = .respond 404
  requestHeaders : route.requestHeaders = []
  extAuthz : route.extAuthz = none
  kind : route.kind = .drop

/-- What a path lists: its own route, and behind it one for each entry. -/
def PathContext.Lists (context : PathContext) (bucket : Bucket) (entries : List DropRoute)
    (routes : List Route) : Prop :=
  ∃ own rejecting, routes = own :: rejecting ∧ own.Serves context bucket ∧
    List.Forall₂ own.Rejects entries rejecting

/-- The routes are those of the paths with splits, in order. -/
def VirtualHost.Lists (config : Config) (ingress : Ingress) (bucket : Bucket) (rule : Rule)
    (host : VirtualHost) : Prop :=
  ∃ declared, Annotations.dropRoutes ingress.metadata.annotationsOrEmpty = .ok declared ∧
    ∃ parts, host.routes = parts.flatten ∧
      List.Forall₂
        (fun path part =>
          PathContext.Lists ⟨config, ingress, rule, host.name, path⟩ bucket declared.routes part)
        rule.servedPaths parts

/-! ## The parts of a route -/

theorem HeaderMatch.eq_exactOrPresent_iff (header : HeaderMatch) (exactMatch : Option String) :
    exactMatch = header.exactOrPresent ↔
      ∀ text, exactMatch = some text ↔ header.exact = some text ∧ text ≠ "" := by
  rw [Option.ext_iff]
  simp [exactOrPresent, Option.filter_eq_some_iff]

theorem HttpPath.matchersOf_headerMatchers (path : HttpPath) :
    MatchersOf path.headers path.headerMatchers where
  sorted := List.pairwise_map.mpr path.headers.sorted
  mem_iff := by
    intro matcher
    unfold headerMatchers
    rw [List.mem_map]
    constructor
    · rintro ⟨⟨name, header⟩, hentry, rfl⟩
      exact ⟨header, KeyMap.get?_eq_some_iff.mpr hentry, (header.eq_exactOrPresent_iff _).mp rfl⟩
    · rintro ⟨header, hheader, htexts⟩
      have hexact := (header.eq_exactOrPresent_iff matcher.exactMatch).mpr htexts
      refine ⟨(matcher.name, header), KeyMap.get?_eq_some_iff.mp hheader, ?_⟩
      rw [← hexact]

theorem DropRoute.slashedPath_eq (entry : DropRoute) :
    entry.slashedPath =
      if Text.startsWith entry.path "/" then entry.path else "/" ++ entry.path := by
  have hslash : Text.startsWith entry.path "/" = true ↔ entry.path.toList.head? = some '/' := by
    rw [Text.startsWith_iff]
    cases entry.path.toList with
    | nil => simp
    | cons first rest => simp [List.cons_prefix_cons, eq_comm]
  simp only [slashedPath, hslash]

namespace PathContext

variable (context : PathContext)

theorem bypassesExtAuthz_iff :
    context.bypassesExtAuthz = true ↔ context.Exempts context.path.pathOrRoot := by
  unfold bypassesExtAuthz Exempts
  rw [Bool.and_eq_true, Config.extAuthzEnabledFor_iff]
  rfl

theorem redirects_iff (bucket : Bucket) :
    context.config.redirects context.ingress context.rule = true ∧ bucket ≠ .externalTls ↔
      context.Redirects bucket := by
  unfold Config.redirects Redirects
  cases context.rule.visibility <;> simp [Visibility.isExternal, and_assoc]

theorem name_ownRoute (bucket : Bucket) :
    (context.ownRoute bucket).name = context.routeName := by
  rcases context.ownRoute_cases bucket with ⟨_, hroute⟩ | ⟨_, hroute⟩ | ⟨_, hroute⟩
  · exact congrArg Route.name hroute
  · exact congrArg Route.name hroute
  · exact congrArg Route.name hroute

theorem criteria_ownRoute (bucket : Bucket) :
    (context.ownRoute bucket).criteria =
      ⟨context.path.pathOrRoot, context.path.headerMatchers⟩ := by
  rcases context.ownRoute_cases bucket with ⟨_, hroute⟩ | ⟨_, hroute⟩ | ⟨_, hroute⟩
  · exact congrArg Route.criteria hroute
  · exact congrArg Route.criteria hroute
  · exact congrArg Route.criteria hroute

theorem serves_ownRoute (bucket : Bucket) :
    (context.ownRoute bucket).Serves context bucket := by
  have hcriteria := context.criteria_ownRoute bucket
  exact {
    name := by
      rw [context.name_ownRoute, hcriteria]
      rfl
    pathPrefix := by
      rw [hcriteria]
      rfl
    matchers := by
      rw [hcriteria]
      exact context.path.matchersOf_headerMatchers
    exempt := by
      rw [hcriteria, ← bypassesExtAuthz_iff, ownRoute_eq]
      intro hbypass
      rw [if_pos hbypass]
      exact ⟨rfl, context.forwards_forward.action, context.forwards_forward.requestHeaders⟩
    redirect := by
      rw [hcriteria, ← bypassesExtAuthz_iff, ← redirects_iff, ownRoute_eq]
      intro hkept hredirects
      rw [if_neg hkept, if_pos hredirects]
      exact ⟨rfl, rfl, rfl, rfl, rfl⟩
    normal := by
      rw [hcriteria, ← bypassesExtAuthz_iff, ← redirects_iff, ownRoute_eq]
      intro hkept hserved
      rw [if_neg hkept, if_neg hserved]
      exact ⟨rfl, rfl, context.forwards_forward⟩ }

theorem rejects_dropped (bucket : Bucket) (declared : DropRoutes) :
    List.Forall₂ (context.ownRoute bucket).Rejects declared.routes
      (context.dropped declared) := by
  unfold dropped DropRoutes.paths
  rw [List.map_map, List.forall₂_map_right_iff, List.forall₂_same]
  intro entry _
  exact {
    name := (context.name_ownRoute bucket).symm
    criteria := congrArg (RouteMatch.mk · []) entry.slashedPath_eq
    action := rfl
    requestHeaders := rfl
    extAuthz := rfl
    kind := rfl }

theorem lists_routes (hsplits : context.path.splits ≠ []) (bucket : Bucket) :
    context.Lists bucket context.ingress.dropRoutes.routes (context.routes bucket) := by
  refine ⟨_, _, ?_, context.serves_ownRoute bucket,
    context.rejects_dropped bucket context.ingress.dropRoutes⟩
  unfold routes
  rw [if_neg (by simpa using hsplits)]

end PathContext

/-! ## The virtual hosts -/

theorem flatMap_eq_flatten_map_filter {α β : Type} {f : α → List β} (keep : α → Bool)
    (hskip : ∀ element, ¬keep element = true → f element = []) (list : List α) :
    list.flatMap f = ((list.filter keep).map f).flatten := by
  induction list with
  | nil => rfl
  | cons first rest ih =>
      by_cases hkeep : keep first = true
      · rw [List.flatMap_cons, ih, List.filter_cons_of_pos hkeep, List.map_cons, List.flatten_cons]
      · rw [List.flatMap_cons, ih, List.filter_cons_of_neg hkeep, hskip first hkeep,
          List.nil_append]

section Hosts

variable {config : Config} {ingress : Ingress}

theorem Bucket.lists_host
    (hdeclared : Annotations.dropRoutes ingress.metadata.annotationsOrEmpty =
      .ok ingress.dropRoutes)
    (bucket : Bucket) (rule : Rule × Nat) :
    VirtualHost.Lists config ingress bucket rule.1 (bucket.host config ingress rule) := by
  refine ⟨ingress.dropRoutes, hdeclared, _,
    flatMap_eq_flatten_map_filter (fun path => path.splits ≠ []) ?_ rule.1.paths, ?_⟩
  · intro path hskipped
    have hempty : path.splits = [] := by simpa using hskipped
    simp [PathContext.routes, Rule.context, hempty]
  · unfold Rule.servedPaths
    rw [List.forall₂_map_right_iff, List.forall₂_same]
    intro path hpath
    have hsplits : path.splits ≠ [] := by simpa using (List.mem_filter.mp hpath).2
    exact (rule.1.context config ingress rule.2 path).lists_routes hsplits bucket

end Hosts

/-- In every bucket the virtual host of a rule lists exactly what the paths of the rule call for. -/
theorem routes_listed_of_ready
    {config : Config} {lookup : Lookup} {registrar : Registrar} {ingress : Ingress}
    {value : ProxyConfig}
    (hready : (resolve config lookup registrar ingress).result = .ok (.ready value))
    (bucket : Bucket) :
    List.Forall₂ (VirtualHost.Lists config ingress bucket)
      (ingress.rules.filter (bucket.serves config ingress)) (bucket.hosts value) := by
  refine forall₂_hosts_of_ready hready bucket fun rule hrule => ?_
  have hdeclared := dropRoutes_of_ready hready (List.fst_mem_of_mem_zipIdx hrule)
  exact bucket.lists_host hdeclared rule

/-! ### A shop with private pages -/

/-- The pages of the shop in `guardedShop`, two of which nobody may see. -/
def privateShop : Ingress :=
  { guardedShop with
    metadata := { guardedShop.metadata with
      annotations := some (KeyMap.empty.insert "ingress.translator.io/drop-routes"
        "\x7b\"routes\":[\x7b\"path\":\"/orders\"\x7d,\x7b\"path\":\"debug\"\x7d]\x7d") } }

theorem privateShop_routes_listed :
    ∃ value,
      (resolve guardedConfig idleServices .accepting privateShop).result =
        .ok (.ready value) ∧
      value.internalVirtualHosts.map (fun host =>
        host.routes.map fun route => (route.kind, route.criteria.pathPrefix)) =
        [[(.extAuthzDisabled, "/.well-known/acme-challenge/token"), (.drop, "/orders"),
            (.drop, "/debug"), (.redirect, "/"), (.drop, "/orders"), (.drop, "/debug")],
          [(.normal, "/"), (.drop, "/orders"), (.drop, "/debug")]] ∧
      ∀ bucket : Bucket,
        List.Forall₂ (VirtualHost.Lists guardedConfig privateShop bucket)
          (privateShop.rules.filter (bucket.serves guardedConfig privateShop))
          (bucket.hosts value) := by
  obtain ⟨value, hready⟩ : ∃ value,
      (resolve guardedConfig idleServices .accepting privateShop).result = .ok (.ready value) :=
    exists_ready_of_isReady (by decide +kernel)
  refine ⟨value, hready, ?_, routes_listed_of_ready hready⟩
  rw [internal_of_ready hready]
  decide +kernel

end EdgeRouting
