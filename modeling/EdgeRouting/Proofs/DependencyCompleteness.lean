import EdgeRouting.Index
import EdgeRouting.Proofs.TranscriptDiscipline

/-!
# The dependencies of a resolution

What a resolution may depend on: the objects whose references it gave to the registrar, the
authority if traffic to backends is encrypted, and the namespace if it names the listener.  A
resolution asks for nothing else, so it cannot tell apart two lookups that agree on these, however
they differ elsewhere.
-/

namespace EdgeRouting

def Reference.query (reference : Reference) : Query :=
  match reference.kind with
  | .secret => .secret reference.object
  | .service => .service reference.object
  | .endpoints => .endpoints reference.object

/-- The objects on which a resolution of the ingress may depend that followed some references. -/
inductive Dependency (config : Config) (ingress : Ingress) (followed : Reference → Prop) :
    Query → Prop where
  | followed {reference : Reference} (hfollowed : followed reference) :
      Dependency config ingress followed reference.query
  | authority (hencryption : config.internalEncryption = true) :
      Dependency config ingress followed (.secret config.caSecret)
  | nameSpace (hisolation : config.trafficIsolation = .port) :
      Dependency config ingress followed (.nameSpace ingress.owner.ns)

section Dependency

variable {config : Config} {lookup : Lookup} {registrar : Registrar} {ingress : Ingress}

theorem Dependency.mono
    {first second : Reference → Prop} {query : Query}
    (himp : ∀ reference, first reference → second reference)
    (hdependency : Dependency config ingress first query) :
    Dependency config ingress second query := by
  cases hdependency with
  | followed hfollowed => exact .followed (himp _ hfollowed)
  | authority hencryption => exact .authority hencryption
  | nameSpace hisolation => exact .nameSpace hisolation

theorem mem_references_of_register
    {before : List Obligation} {later : List Event} {reference : Reference}
    (htranscript : (resolve config lookup registrar ingress).transcript =
      Obligation.events before ++ later)
    (hregister : .register reference ∈ before) :
    reference ∈ (resolve config lookup registrar ingress).references := by
  have hlisted := Plan.references_run lookup registrar (Plan.ingress config ingress)
  unfold resolve at htranscript ⊢
  rw [hlisted, htranscript, List.filterMap_append, Obligation.filterMap_reference?_events]
  have hmem : reference ∈ Obligation.references before :=
    List.mem_filterMap.mpr ⟨.register reference, hregister, rfl⟩
  exact List.mem_append_left _ hmem

/-- A resolution asks only for objects on which it may depend: a justified obligation to fetch
comes after the registration of its reference, or is one to fetch the authority or the namespace. -/
theorem dependency_of_mem_queries
    {query : Query}
    (hquery : query ∈ (resolve config lookup registrar ingress).queries) :
    Dependency config ingress
      (fun reference => reference ∈ (resolve config lookup registrar ingress).references)
      query := by
  rw [Run.mem_queries_iff] at hquery
  obtain ⟨earlier, later, htranscript⟩ := List.append_of_mem hquery
  obtain ⟨before, subject, after, _, hearlier, hjustified, _⟩ :=
    exists_justified_fetch htranscript
  subst earlier
  have hfollowed : ∀ {reference : Reference} {registered : List Obligation},
      registered <:+ before → .register reference ∈ registered →
        reference ∈ (resolve config lookup registrar ingress).references :=
    fun hsuffix hregister =>
      mem_references_of_register htranscript (hsuffix.subset hregister)
  cases query with
  | secret name =>
      rcases hjustified with ⟨binding, _, _, hsuffix⟩ | ⟨hname, hencryption, _⟩
      · exact .followed (hfollowed hsuffix List.mem_cons_self)
      · subst name
        exact .authority hencryption
  | service name => exact .followed (hfollowed hjustified List.mem_cons_self)
  | endpoints name =>
      exact .followed (hfollowed hjustified.2 (List.mem_cons_of_mem _ List.mem_cons_self))
  | nameSpace name =>
      obtain ⟨hname, hisolation⟩ := hjustified
      subst name
      exact .nameSpace hisolation

/-- Only its dependencies can change a resolution, its result and its transcript alike. -/
theorem resolve_eq_of_agree_on_dependencies
    {other : Lookup}
    (hagree : ∀ query,
      Dependency config ingress
        (fun reference => reference ∈ (resolve config lookup registrar ingress).references)
        query →
      other query = lookup query) :
    resolve config other registrar ingress = resolve config lookup registrar ingress :=
  Plan.run_eq_of_agree fun query hquery => hagree query (dependency_of_mem_queries hquery)

end Dependency

/-! ## A shop and its dependencies -/

/-- All requests for the shop go to its front service. -/
def storefront : Ingress where
  metadata := ⟨some "web", some "shop", none, none⟩
  tls := []
  rules :=
    [⟨["shop.example"], .externalIP,
      [⟨"/", .empty, none, .empty, [⟨"shop", "front", .number 80, 100, .empty⟩]⟩]⟩]
  httpOption := .enabled

def encryptedByPort : Config :=
  { Config.standard with internalEncryption := true, trafficIsolation := .port }

def shopIndex : Index :=
  [.service ⟨⟨some "front", some "shop", none, none⟩, none⟩,
    .endpoints ⟨⟨some "front", some "shop", none, none⟩, []⟩,
    .secret ⟨⟨some "routing-serving-certs", some "knative-serving", none, none⟩, .empty⟩,
    .nameSpace ⟨⟨some "shop", none, none, none⟩⟩].foldl Index.apply .empty

/-- The shop in which some things changed, but nothing on which the storefront depends. -/
def rearrangedShopIndex : Index :=
  [.secret ⟨⟨some "front", some "shop", none, none⟩, .empty⟩,
    .service ⟨⟨some "back", some "shop", none, none⟩, none⟩,
    .nameSpace ⟨⟨some "other", none, none, none⟩⟩].foldl Index.apply shopIndex

theorem references_storefront :
    (resolve encryptedByPort shopIndex.lookup .accepting storefront).references =
      [⟨.service, ⟨"shop", "front"⟩⟩, ⟨.endpoints, ⟨"shop", "front"⟩⟩] := by
  decide

theorem agree_on_dependencies_of_storefront
    {query : Query}
    (hdependency : Dependency encryptedByPort storefront
      (fun reference => reference ∈
        (resolve encryptedByPort shopIndex.lookup .accepting storefront).references) query) :
    rearrangedShopIndex.lookup query = shopIndex.lookup query := by
  cases hdependency with
  | authority _ => rfl
  | nameSpace _ => rfl
  | followed hfollowed =>
      rw [references_storefront, List.mem_cons, List.mem_singleton] at hfollowed
      rcases hfollowed with hservice | hendpoints
      · subst hservice
        rfl
      · subst hendpoints
        rfl

theorem resolve_storefront_in_rearranged_shop :
    (∀ query,
      Dependency encryptedByPort storefront
        (fun reference => reference ∈
          (resolve encryptedByPort shopIndex.lookup .accepting storefront).references)
        query →
      rearrangedShopIndex.lookup query = shopIndex.lookup query) ∧
    resolve encryptedByPort rearrangedShopIndex.lookup .accepting storefront =
      resolve encryptedByPort shopIndex.lookup .accepting storefront :=
  ⟨fun _ hdependency => agree_on_dependencies_of_storefront hdependency,
    resolve_eq_of_agree_on_dependencies fun _ hdependency =>
      agree_on_dependencies_of_storefront hdependency⟩

end EdgeRouting
