import EdgeRouting.Proofs.ReadyResolution
import EdgeRouting.Proofs.ShownText

/-!
# Virtual hosts and the visibility of rules

Every rule has one virtual host for requests from within the cluster, named after the rule's place
among all rules.  The ones for requests from outside are the same virtual hosts, those of the
external rules and no others; and the name of a virtual host tells its rule, so that none from
outside can stand for a rule that is local to the cluster.
-/

namespace EdgeRouting

/-- The virtual host is made for the rule at this place. -/
structure VirtualHost.StandsFor (ingress : Ingress) (rule : Rule × Nat) (host : VirtualHost) :
    Prop where
  name : host.name =
    "(" ++ (ingress.metadata.ns.getD "" ++ "/" ++ ingress.metadata.name.getD "") ++ ").Rules[" ++
      toString rule.2 ++ "]"
  domains : host.domains = rule.1.hosts.flatMap fun domain => [domain, domain ++ ":*"]
  routes : host.routes ≠ []

structure ProxyConfig.Partitioned (ingress : Ingress) (value : ProxyConfig) : Prop where
  internal : List.Forall₂ (VirtualHost.StandsFor ingress) ingress.rules.zipIdx
    value.internalVirtualHosts
  external : value.externalVirtualHosts =
    ((ingress.rules.zip value.internalVirtualHosts).filter fun entry =>
      entry.1.visibility = .externalIP).map Prod.snd
  externalTls : value.externalTlsVirtualHosts = [] ∨
    List.Forall₂ (VirtualHost.StandsFor ingress)
      (ingress.rules.zipIdx.filter fun rule => rule.1.visibility = .externalIP)
      value.externalTlsVirtualHosts
  exposed : ∀ host ∈ value.externalVirtualHosts ++ value.externalTlsVirtualHosts,
    ∀ rule ∈ ingress.rules.zipIdx, host.name = ruleName ingress rule.2 →
      rule.1.visibility = .externalIP

theorem Visibility.isExternal_eq (visibility : Visibility) :
    visibility.isExternal = decide (visibility = .externalIP) := by
  cases visibility <;> rfl

theorem Bucket.rules_external (config : Config) (ingress : Ingress) :
    external.rules config ingress =
      ingress.rules.zipIdx.filter fun rule => rule.1.visibility = .externalIP := by
  simp only [rules, serves, Visibility.isExternal_eq]

theorem ruleName_injective
    {ingress : Ingress} {first second : Nat}
    (hname : ruleName ingress first = ruleName ingress second) : first = second := by
  unfold ruleName at hname
  have hplaces : toString first = toString second := by simpa using hname
  exact Text.decimal_injective hplaces

theorem Bucket.standsFor_host
    {config : Config} {ingress : Ingress} {rule : Rule × Nat} {bucket : Bucket}
    (hroutes : (bucket.host config ingress rule).routes ≠ []) :
    (bucket.host config ingress rule).StandsFor ingress rule where
  name := rfl
  domains := rfl
  routes := hroutes

theorem map_snd_filter_zip {α β : Type} (keep : α → Bool) (f : α × Nat → β) (list : List α) :
    ((list.zip (list.zipIdx.map f)).filter fun entry => keep entry.1).map Prod.snd =
      (list.zipIdx.filter fun element => keep element.1).map f := by
  have hzip : list.zip (list.zipIdx.map f) =
      list.zipIdx.map fun element => (element.1, f element) := by
    rw [← List.zip_map', List.zipIdx_map_fst]
  rw [hzip, List.filter_map, List.map_map]
  rfl

section Ready

variable {config : Config} {lookup : Lookup} {registrar : Registrar} {ingress : Ingress}
  {value : ProxyConfig}

theorem standsFor_of_ready
    (hready : (resolve config lookup registrar ingress).result = .ok (.ready value))
    (bucket : Bucket) :
    List.Forall₂ (VirtualHost.StandsFor ingress) (bucket.rules config ingress)
      (bucket.hosts value) := by
  rw [hosts_of_ready hready bucket, List.forall₂_map_right_iff, List.forall₂_same]
  intro rule hrule
  have hmem : rule ∈ ingress.rules.zipIdx := (List.mem_filter.mp hrule).1
  exact Bucket.standsFor_host (routes_ne_nil_of_ready hready bucket hmem)

/-- The names of two rules differ, so a virtual host is found only where its own rule has one. -/
theorem serves_of_ready
    (hready : (resolve config lookup registrar ingress).result = .ok (.ready value))
    (bucket : Bucket) {host : VirtualHost} (hhost : host ∈ bucket.hosts value)
    {rule : Rule × Nat} (hrule : rule ∈ ingress.rules.zipIdx)
    (hname : host.name = ruleName ingress rule.2) :
    bucket.serves config ingress rule.1 = true := by
  rw [hosts_of_ready hready bucket] at hhost
  obtain ⟨own, hown, rfl⟩ := List.mem_map.mp hhost
  obtain ⟨hmem, hserved⟩ := List.mem_filter.mp hown
  have hplace : own.2 = rule.2 := ruleName_injective hname
  have hsame : own.1 = rule.1 := by
    have hfirst := List.mk_mem_zipIdx_iff_getElem?.mp hmem
    have hsecond := List.mk_mem_zipIdx_iff_getElem?.mp hrule
    rw [hplace, hsecond] at hfirst
    exact (Option.some.inj hfirst).symm
  rw [← hsame]
  exact hserved

/-- Rules that are local to the cluster are seen only from within. -/
theorem partitioned_of_ready
    (hready : (resolve config lookup registrar ingress).result = .ok (.ready value)) :
    value.Partitioned ingress where
  internal := by
    rw [← Bucket.rules_internal config ingress]
    exact standsFor_of_ready hready .internal
  external := by
    have hexternal : value.externalVirtualHosts =
        (Bucket.external.rules config ingress).map (Bucket.external.host config ingress) :=
      hosts_of_ready hready .external
    -- A rule has one virtual host for both, as only the third bucket has routes of its own.
    have hsame : Bucket.external.host config ingress = Bucket.internal.host config ingress := rfl
    rw [hexternal, hsame, internal_of_ready hready,
      map_snd_filter_zip (fun rule : Rule => decide (rule.visibility = .externalIP)),
      ← Bucket.rules_external config ingress]
  externalTls := by
    have htls := standsFor_of_ready hready .externalTls
    rw [Bucket.rules_externalTls] at htls
    cases hserves : config.servesTls ingress with
    | false =>
        rw [hserves] at htls
        exact .inl (List.forall₂_nil_left_iff.mp htls)
    | true =>
        rw [hserves] at htls
        rw [← Bucket.rules_external config ingress]
        exact .inr htls
  exposed := by
    intro host hhost rule hrule hname
    have hexternal : rule.1.visibility.isExternal = true := by
      rcases List.mem_append.mp hhost with hplain | htls
      · exact serves_of_ready hready .external hplain hrule hname
      · have hserved := serves_of_ready hready .externalTls htls hrule hname
        exact (Bool.and_eq_true_iff.mp hserved).1
    rw [rule.1.visibility.isExternal_eq] at hexternal
    exact of_decide_eq_true hexternal

end Ready

/-- The rule that is local to the cluster comes first. -/
def turnedShop : Ingress := { guardedShop with rules := guardedShop.rules.reverse }

theorem turnedShop_partitioned :
    ∃ value,
      (resolve guardedConfig idleServices .accepting turnedShop).result =
        .ok (.ready value) ∧
      value.externalVirtualHosts.map VirtualHost.name = ["(shop/web).Rules[1]"] ∧
      value.externalTlsVirtualHosts.map VirtualHost.domains =
        [["shop.example", "shop.example:*"]] ∧
      value.Partitioned turnedShop := by
  have hready : (resolve guardedConfig idleServices .accepting turnedShop).result =
      .ok (.ready _) := rfl
  exact ⟨_, hready, by decide +kernel, by decide +kernel, partitioned_of_ready hready⟩

end EdgeRouting
