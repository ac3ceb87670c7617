import EdgeRouting.Proofs.ReadyResolution

/-!
# Authorization

If the requests of an ingress are authorized, so are those of every virtual host that is made for
it: the labels of the ingress cannot choose for whom the authorization service takes a request, and
only paths by which certificates are issued are exempt.  The statement is one for all buckets, since
a bucket without the setting would let everything pass.
-/

namespace EdgeRouting

theorem Text.startsWith_iff {text beginning : String} :
    startsWith text beginning = true ↔ beginning.toList <+: text.toList :=
  List.isPrefixOf_iff_prefix

theorem Text.startsWith_trans {text middle beginning : String}
    (htext : startsWith text middle = true) (hmiddle : startsWith middle beginning = true) :
    startsWith text beginning = true := by
  rw [startsWith_iff] at htext hmiddle ⊢
  exact hmiddle.trans htext

/-! ## What authorization means -/

/-- Requests for the ingress are authorized: the switch is on, and the ingress does not opt out. -/
def Config.Authorizes (config : Config) (ingress : Ingress) : Prop :=
  config.extAuthzEnabled = true ∧
    ∀ text,
      ingress.metadata.annotationsOrEmpty.get? "ingress.translator.io/disable-ext-authz" =
        some text →
      text.toList.map Char.toLower ≠ ['t', 'r', 'u', 'e']

/-- The route forwards requests, and all of them are for paths by which certificates are issued. -/
def Route.IssuesCertificates (route : Route) : Prop :=
  (∃ action, route.action = .forward action) ∧
    Text.startsWith route.criteria.pathPrefix "/.well-known/acme-challenge/" = true

/-- What a route says where requests are authorized.  Redirects and drops issue no certificates. -/
structure Route.Guarded (route : Route) : Prop where
  exempt_iff : route.extAuthz = some .disabled ↔ route.IssuesCertificates
  unset : ¬route.IssuesCertificates → route.extAuthz = none

structure VirtualHost.Guarded (ingress : Ingress) (rule : Rule) (host : VirtualHost) : Prop where
  extensions : ∃ extensions,
    host.extAuthz = some (.check extensions) ∧
    extensions.get? "client" = some "ingress-translator" ∧
    extensions.get? "visibility" = some rule.visibility.label ∧
    ∀ key, key ≠ "client" → key ≠ "visibility" →
      extensions.get? key = ingress.metadata.labelsOrEmpty.get? key
  routes : ∀ route ∈ host.routes, route.Guarded

theorem Config.extAuthzEnabledFor_iff (config : Config) (ingress : Ingress) :
    config.extAuthzEnabledFor ingress = true ↔ config.Authorizes ingress := by
  unfold extAuthzEnabledFor Authorizes
  unfold Annotations.disablesExtAuthz
  rw [Bool.and_eq_true, Bool.not_eq_true', Annotations.isOn_eq_false_iff]
  rfl

theorem extensions_contextExtensions (ingress : Ingress) (rule : Rule) :
    (contextExtensions ingress rule).get? "client" = some "ingress-translator" ∧
    (contextExtensions ingress rule).get? "visibility" = some rule.visibility.label ∧
    ∀ key, key ≠ "client" → key ≠ "visibility" →
      (contextExtensions ingress rule).get? key = ingress.metadata.labelsOrEmpty.get? key := by
  unfold contextExtensions extAuthzClient
  refine ⟨?_, ?_, ?_⟩
  · rw [KeyMap.get?_insert, if_neg (by decide), KeyMap.get?_insert, if_pos rfl]
  · rw [KeyMap.get?_insert, if_pos rfl]
  · intro key hclient hvisibility
    rw [KeyMap.get?_insert, if_neg hvisibility, KeyMap.get?_insert, if_neg hclient]

/-! ## The routes of a path -/

namespace Route

theorem Guarded.startsWith_of_exempt
    {route : Route} (hguarded : route.Guarded) (hexempt : route.extAuthz = some .disabled)
    {requested : String} (hmatch : Text.startsWith requested route.criteria.pathPrefix = true) :
    Text.startsWith requested "/.well-known/acme-challenge/" = true :=
  Text.startsWith_trans hmatch (hguarded.exempt_iff.mp hexempt).2

theorem Guarded.of_issuesCertificates
    {route : Route} (hissues : route.IssuesCertificates)
    (hextAuthz : route.extAuthz = some .disabled) : route.Guarded where
  exempt_iff := ⟨fun _ => hissues, fun _ => hextAuthz⟩
  unset hother := absurd hissues hother

theorem Guarded.of_not_issuesCertificates
    {route : Route} (hother : ¬route.IssuesCertificates) (hextAuthz : route.extAuthz = none) :
    route.Guarded where
  exempt_iff := by simp [hextAuthz, hother]
  unset _ := hextAuthz

end Route

namespace PathContext

variable {context : PathContext}

theorem guarded_ownRoute
    (henabled : context.config.extAuthzEnabledFor context.ingress = true) (bucket : Bucket) :
    (context.ownRoute bucket).Guarded := by
  -- Where requests are authorized, the prefix alone decides on the bypass.
  have hbeginning : context.bypassesExtAuthz =
      Text.startsWith context.path.pathOrRoot acmeChallengePrefix := by
    rw [bypassesExtAuthz, henabled, Bool.true_and]
  rcases context.ownRoute_cases bucket with
    ⟨hbypass, hroute⟩ | ⟨_, hroute⟩ | ⟨hbypass, hroute⟩
  · rw [hroute]
    exact .of_issuesCertificates ⟨⟨_, rfl⟩, hbeginning.symm.trans hbypass⟩ rfl
  · rw [hroute]
    exact .of_not_issuesCertificates (fun hissues => nomatch hissues.1) rfl
  · rw [hroute]
    refine .of_not_issuesCertificates ?_ rfl
    intro hissues
    rw [hbeginning] at hbypass
    exact Bool.false_ne_true (hbypass.symm.trans hissues.2)

theorem extAuthz_ownRoute
    (hdisabled : context.config.extAuthzEnabledFor context.ingress = false) (bucket : Bucket) :
    (context.ownRoute bucket).extAuthz = none := by
  have hforwards : context.bypassesExtAuthz = false := by
    rw [bypassesExtAuthz, hdisabled, Bool.false_and]
  rcases context.ownRoute_cases bucket with
    ⟨hbypass, _⟩ | ⟨_, hroute⟩ | ⟨_, hroute⟩
  · exact absurd (hforwards.symm.trans hbypass) Bool.false_ne_true
  · rw [hroute]
    rfl
  · rw [hroute]
    rfl

theorem forall_mem_routes
    (holds : Route → Prop) {bucket : Bucket} (hown : holds (context.ownRoute bucket))
    (hdrop : ∀ name path, holds (Route.drop name path)) :
    ∀ route ∈ context.routes bucket, holds route := by
  intro route hroute
  unfold routes at hroute
  cases hsplits : context.path.splits.isEmpty with
  | true => simp [hsplits] at hroute
  | false =>
      simp only [hsplits, Bool.false_eq_true, if_false, List.mem_cons] at hroute
      rcases hroute with rfl | hdropped
      · exact hown
      · obtain ⟨path, _, rfl⟩ := List.mem_map.mp hdropped
        exact hdrop context.routeName path

end PathContext

/-! ## The virtual hosts -/

section Hosts

variable {config : Config} {ingress : Ingress}

theorem Bucket.guarded_host
    (henabled : config.extAuthzEnabledFor ingress = true) (bucket : Bucket)
    (rule : Rule × Nat) : (bucket.host config ingress rule).Guarded ingress rule.1 where
  extensions := by
    refine ⟨contextExtensions ingress rule.1, ?_, extensions_contextExtensions ingress rule.1⟩
    exact if_pos henabled
  routes := by
    intro route hroute
    obtain ⟨path, _, hpath⟩ := List.mem_flatMap.mp hroute
    refine PathContext.forall_mem_routes Route.Guarded
      (PathContext.guarded_ownRoute henabled bucket) ?_ route hpath
    intro name dropped
    exact .of_not_issuesCertificates (fun hissues => nomatch hissues.1) rfl

theorem Bucket.extAuthz_host
    (hdisabled : config.extAuthzEnabledFor ingress = false) (bucket : Bucket)
    (rule : Rule × Nat) :
    (bucket.host config ingress rule).extAuthz = none ∧
    ∀ route ∈ (bucket.host config ingress rule).routes, route.extAuthz = none := by
  refine ⟨if_neg (Bool.eq_false_iff.mp hdisabled), ?_⟩
  intro route hroute
  obtain ⟨path, _, hpath⟩ := List.mem_flatMap.mp hroute
  exact PathContext.forall_mem_routes (fun route => route.extAuthz = none)
    (PathContext.extAuthz_ownRoute hdisabled bucket) (fun _ _ => rfl) route hpath

end Hosts

/-- Where requests are authorized, each virtual host in every bucket says so for its rule, and an
exempt route takes only requests for paths by which certificates are issued; elsewhere nothing has
a setting. -/
theorem authorization_of_ready
    {config : Config} {lookup : Lookup} {registrar : Registrar} {ingress : Ingress}
    {value : ProxyConfig}
    (hready : (resolve config lookup registrar ingress).result = .ok (.ready value)) :
    (config.Authorizes ingress → ∀ bucket : Bucket,
      List.Forall₂ (VirtualHost.Guarded ingress)
        (ingress.rules.filter (bucket.serves config ingress)) (bucket.hosts value) ∧
      ∀ host ∈ bucket.hosts value, ∀ route ∈ host.routes,
        route.extAuthz = some .disabled →
        ∀ requested, Text.startsWith requested route.criteria.pathPrefix = true →
          Text.startsWith requested "/.well-known/acme-challenge/" = true) ∧
    (¬config.Authorizes ingress → ∀ bucket : Bucket,
      ∀ host ∈ bucket.hosts value,
        host.extAuthz = none ∧ ∀ route ∈ host.routes, route.extAuthz = none) := by
  rw [← Config.extAuthzEnabledFor_iff]
  refine ⟨?_, ?_⟩
  · intro henabled bucket
    rw [hosts_of_ready hready bucket, ← bucket.map_fst_rules]
    refine ⟨?_, ?_⟩
    · rw [List.forall₂_map_left_iff, List.forall₂_map_right_iff, List.forall₂_same]
      intro rule _
      exact bucket.guarded_host henabled rule
    · intro host hhost route hroute hexempt requested hmatch
      obtain ⟨rule, _, rfl⟩ := List.mem_map.mp hhost
      have hguarded := (bucket.guarded_host henabled rule).routes route hroute
      exact hguarded.startsWith_of_exempt hexempt hmatch
  · intro hdisabled bucket host hhost
    rw [hosts_of_ready hready bucket] at hhost
    obtain ⟨rule, _, rfl⟩ := List.mem_map.mp hhost
    exact bucket.extAuthz_host (Bool.eq_false_iff.mpr hdisabled) rule

theorem guardedShop_authorized :
    ∃ value,
      (resolve guardedConfig idleServices .accepting guardedShop).result =
        .ok (.ready value) ∧
      guardedConfig.Authorizes guardedShop ∧
      ∀ bucket : Bucket,
        List.Forall₂ (VirtualHost.Guarded guardedShop)
          (guardedShop.rules.filter (bucket.serves guardedConfig guardedShop))
          (bucket.hosts value) := by
  have hready : (resolve guardedConfig idleServices .accepting guardedShop).result =
      .ok (.ready _) := rfl
  have hauthorizes : guardedConfig.Authorizes guardedShop := ⟨rfl, fun _ hnone => nomatch hnone⟩
  refine ⟨_, hready, hauthorizes, ?_⟩
  intro bucket
  exact ((authorization_of_ready hready).1 hauthorizes bucket).1

end EdgeRouting
