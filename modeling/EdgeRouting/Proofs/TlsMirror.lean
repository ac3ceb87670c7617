import EdgeRouting.Proofs.Forwarding

/-!
# Routes with TLS

An ingress that is served with TLS has its routes from outside twice, and the two tables are built
by different code.  Here they are laid side by side with the paths that they come from: they differ
only where plain requests are redirected, and there a request that comes with TLS is forwarded.
-/

namespace EdgeRouting

/-! ## Three lists side by side -/

/-- Three lists of the same length, related element by element. -/
inductive Aligned {α β γ : Type} (holds : α → β → γ → Prop) :
    List α → List β → List γ → Prop
  | nil : Aligned holds [] [] []
  | cons {first : α} {second : β} {third : γ} {firsts : List α} {seconds : List β}
      {thirds : List γ} (hhead : holds first second third)
      (htail : Aligned holds firsts seconds thirds) :
      Aligned holds (first :: firsts) (second :: seconds) (third :: thirds)

namespace Aligned

variable {α β γ δ : Type} {holds : α → β → γ → Prop}

theorem map {f : δ → α} {g : δ → β} {h : δ → γ} {list : List δ}
    (heach : ∀ element ∈ list, holds (f element) (g element) (h element)) :
    Aligned holds (list.map f) (list.map g) (list.map h) := by
  induction list with
  | nil => exact .nil
  | cons first rest ih =>
      refine .cons (heach first List.mem_cons_self) (ih ?_)
      intro element helement
      exact heach element (List.mem_cons_of_mem first helement)

theorem append {firsts firsts' : List α} {seconds seconds' : List β} {thirds thirds' : List γ}
    (hleft : Aligned holds firsts seconds thirds)
    (hright : Aligned holds firsts' seconds' thirds') :
    Aligned holds (firsts ++ firsts') (seconds ++ seconds') (thirds ++ thirds') := by
  induction hleft with
  | nil => exact hright
  | cons hhead _ ih => exact .cons hhead ih

theorem flatMap {f : δ → List α} {g : δ → List β} {h : δ → List γ} {list : List δ}
    (heach : ∀ element ∈ list, Aligned holds (f element) (g element) (h element)) :
    Aligned holds (list.flatMap f) (list.flatMap g) (list.flatMap h) := by
  induction list with
  | nil => exact .nil
  | cons first rest ih =>
      simp only [List.flatMap_cons]
      refine (heach first List.mem_cons_self).append (ih ?_)
      intro element helement
      exact heach element (List.mem_cons_of_mem first helement)

theorem exists_of_mem_third {firsts : List α} {seconds : List β} {thirds : List γ} {third : γ}
    (haligned : Aligned holds firsts seconds thirds) (hthird : third ∈ thirds) :
    ∃ first second, holds first second third := by
  induction haligned with
  | nil => cases hthird
  | @cons first second _ _ _ _ hhead _ ih =>
      cases hthird with
      | head => exact ⟨first, second, hhead⟩
      | tail _ hrest => exact ih hrest

end Aligned

/-! ## What stands for what -/

/-- The path of each route of a path: its own route comes first and then those to drop. -/
def HttpPath.routePaths (ingress : Ingress) (path : HttpPath) : List HttpPath :=
  if path.splits.isEmpty then [] else path :: ingress.dropRoutes.paths.map fun _ => path

def Rule.routePaths (ingress : Ingress) (rule : Rule) : List HttpPath :=
  rule.paths.flatMap (HttpPath.routePaths ingress)

/-- What takes the place of a plain route for requests that come with TLS. -/
structure Route.MirroredBy (path : HttpPath) (plain tls : Route) : Prop where
  name : tls.name = plain.name
  criteria : tls.criteria = plain.criteria
  same : plain.kind ≠ .redirect → tls = plain
  forwarded : plain.kind = .redirect → tls.kind = .normal ∧ tls.Forwards path

structure VirtualHost.MirroredBy (ingress : Ingress) (rule : Rule) (plain tls : VirtualHost) :
    Prop where
  name : tls.name = plain.name
  domains : tls.domains = plain.domains
  extAuthz : tls.extAuthz = plain.extAuthz
  routes : Aligned Route.MirroredBy (rule.routePaths ingress) plain.routes tls.routes

namespace Route

theorem kind_redirect (name : String) (headers : List HeaderMatcher) (path : String) :
    (redirect name headers path).kind = .redirect := rfl

theorem MirroredBy.of_kind_ne_redirect
    {route : Route} (path : HttpPath) (hkind : route.kind ≠ .redirect) :
    route.MirroredBy path route where
  name := rfl
  criteria := rfl
  same _ := rfl
  forwarded hredirect := absurd hredirect hkind

theorem MirroredBy.kind_ne_redirect
    {path : HttpPath} {plain tls : Route} (hmirrored : plain.MirroredBy path tls) :
    tls.kind ≠ .redirect := by
  by_cases hkind : plain.kind = .redirect
  · have hnormal : tls.kind = .normal := (hmirrored.forwarded hkind).1
    rw [hnormal]
    decide
  · rw [hmirrored.same hkind]
    exact hkind

end Route

namespace PathContext

theorem ownRoute_mirroredBy (context : PathContext) :
    (context.ownRoute .external).MirroredBy context.path (context.ownRoute .externalTls) := by
  simp only [ownRoute, plainRoute, tlsRoute]
  -- The bypass comes first for both routes; after it only the plain one is redirected.
  cases hbypass : context.bypassesExtAuthz with
  | true => exact Route.MirroredBy.of_kind_ne_redirect context.path RouteKind.noConfusion
  | false =>
      cases hredirects : context.config.redirects context.ingress context.rule with
      | true =>
          exact {
            name := rfl
            criteria := rfl
            same := fun hkind => absurd (Route.kind_redirect _ _ _) hkind
            forwarded := fun _ => ⟨rfl, context.forwards_forward⟩ }
      | false => exact Route.MirroredBy.of_kind_ne_redirect context.path RouteKind.noConfusion

theorem routes_mirroredBy (context : PathContext) :
    Aligned Route.MirroredBy (context.path.routePaths context.ingress)
      (context.routes .external) (context.routes .externalTls) := by
  unfold routes HttpPath.routePaths
  cases context.path.splits.isEmpty with
  | true => exact .nil
  | false =>
      refine .cons context.ownRoute_mirroredBy (Aligned.map ?_)
      intro prefixed _
      exact Route.MirroredBy.of_kind_ne_redirect context.path RouteKind.noConfusion

end PathContext

theorem Bucket.host_mirroredBy (config : Config) (ingress : Ingress) (rule : Rule × Nat) :
    (external.host config ingress rule).MirroredBy ingress rule.1
      (externalTls.host config ingress rule) where
  name := rfl
  domains := rfl
  extAuthz := rfl
  routes := Aligned.flatMap fun path _ =>
    (rule.1.context config ingress rule.2 path).routes_mirroredBy

/-! ## Virtual hosts with TLS -/

section Ready

variable {config : Config} {lookup : Lookup} {registrar : Registrar} {ingress : Ingress}
  {value : ProxyConfig}

theorem externalTls_eq_nil_of_ready
    (hready : (resolve config lookup registrar ingress).result = .ok (.ready value))
    (hserves : config.servesTls ingress = false) : value.externalTlsVirtualHosts = [] := by
  have hhosts := hosts_of_ready hready .externalTls
  rw [Bucket.rules_externalTls, hserves] at hhosts
  exact hhosts

theorem externalTls_aligned_of_ready
    (hready : (resolve config lookup registrar ingress).result = .ok (.ready value))
    (hserves : config.servesTls ingress = true) :
    Aligned (VirtualHost.MirroredBy ingress)
      (ingress.rules.filter fun rule => rule.visibility.isExternal)
      value.externalVirtualHosts value.externalTlsVirtualHosts := by
  have hplain : value.externalVirtualHosts =
      (Bucket.external.rules config ingress).map (Bucket.external.host config ingress) :=
    hosts_of_ready hready .external
  have htls : value.externalTlsVirtualHosts =
      (Bucket.external.rules config ingress).map (Bucket.externalTls.host config ingress) := by
    have hhosts := hosts_of_ready hready .externalTls
    rw [Bucket.rules_externalTls, hserves] at hhosts
    exact hhosts
  have hrules := Bucket.external.map_fst_rules config ingress
  rw [hplain, htls]
  change Aligned _ (ingress.rules.filter (Bucket.external.serves config ingress)) _ _
  rw [← hrules]
  exact Aligned.map fun rule _ => Bucket.host_mirroredBy config ingress rule

theorem servesTls_eq_false_iff :
    config.servesTls ingress = false ↔ ingress.tls = [] ∧ config.certsSecret = none := by
  simp [Config.servesTls, Config.usesOneCertificate]

/-- Without a TLS binding and without a certificate for all hosts there is no virtual host with
TLS.  Otherwise each virtual host from outside has its counterpart with TLS, in order, whose routes
are the same except that nothing is redirected. -/
theorem externalTls_mirrors_external
    (hready : (resolve config lookup registrar ingress).result = .ok (.ready value)) :
    (ingress.tls = [] ∧ config.certsSecret = none → value.externalTlsVirtualHosts = []) ∧
    (¬(ingress.tls = [] ∧ config.certsSecret = none) →
      Aligned (VirtualHost.MirroredBy ingress)
        (ingress.rules.filter fun rule => rule.visibility.isExternal)
        value.externalVirtualHosts value.externalTlsVirtualHosts) ∧
    (∀ host ∈ value.externalTlsVirtualHosts, ∀ route ∈ host.routes,
      route.kind ≠ .redirect) := by
  rw [← servesTls_eq_false_iff, Bool.not_eq_false]
  refine ⟨externalTls_eq_nil_of_ready hready, externalTls_aligned_of_ready hready, ?_⟩
  intro host hhost route hroute
  cases hserves : config.servesTls ingress with
  | false =>
      rw [externalTls_eq_nil_of_ready hready hserves] at hhost
      cases hhost
  | true =>
      have haligned := externalTls_aligned_of_ready hready hserves
      obtain ⟨rule, plainHost, hmirrored⟩ := haligned.exists_of_mem_third hhost
      obtain ⟨path, plain, hroutes⟩ := hmirrored.routes.exists_of_mem_third hroute
      exact hroutes.kind_ne_redirect

end Ready

theorem guardedShop_mirrored :
    ∃ value,
      (resolve guardedConfig idleServices .accepting guardedShop).result =
        .ok (.ready value) ∧
      value.externalVirtualHosts.map (fun host => host.routes.map Route.kind) =
        [[.extAuthzDisabled, .redirect]] ∧
      value.externalTlsVirtualHosts.map (fun host => host.routes.map Route.kind) =
        [[.extAuthzDisabled, .normal]] ∧
      Aligned (VirtualHost.MirroredBy guardedShop)
        (guardedShop.rules.filter fun rule => rule.visibility.isExternal)
        value.externalVirtualHosts value.externalTlsVirtualHosts := by
  have hready : (resolve guardedConfig idleServices .accepting guardedShop).result =
      .ok (.ready _) := rfl
  refine ⟨_, hready, by decide +kernel, by decide +kernel, ?_⟩
  exact (externalTls_mirrors_external hready).2.1 (by decide)

end EdgeRouting
