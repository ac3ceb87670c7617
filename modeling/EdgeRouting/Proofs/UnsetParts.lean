import EdgeRouting.Proofs.BackendEncryption
import EdgeRouting.Proofs.ClusterCollisions
import EdgeRouting.Proofs.DropRoutesAnnotation
import Mathlib.Logic.Relation

/-!
# Unset and empty parts of an ingress

An ingress can say the same in several ways: an empty text stands for an unset one, an empty path
for the root, and an annotation without routes for none.  `Ingress.Restates` lists what can be
exchanged, one part at a time.  Whatever is exchanged, the plan of the ingress stays as it is, so
that no lookup and no registrar can tell the difference.

There is no place where an ingress is brought into one form.  Each part is read anew wherever it is
used, and all readings of a path agree.
-/

namespace EdgeRouting

/-! ## Saying the same in another way -/

inductive Metadata.Restates : Metadata → Metadata → Prop where
  | name {metadata : Metadata} (hname : metadata.name = none) :
      Restates metadata { metadata with name := some "" }
  | ns {metadata : Metadata} (hns : metadata.ns = none) :
      Restates metadata { metadata with ns := some "" }
  | labels {metadata : Metadata} (hlabels : metadata.labels = none) :
      Restates metadata { metadata with labels := some .empty }
  | annotations {metadata : Metadata} (hannotations : metadata.annotations = none) :
      Restates metadata { metadata with annotations := some .empty }
  | dropRoutes {metadata : Metadata} {annotations : TextMap} {document : String}
      (hannotations : metadata.annotations = some annotations)
      (hdocument : annotations.get? "ingress.translator.io/drop-routes" = some document)
      (hblank : ∀ c ∈ document.toList, Text.isBlank c = true) :
      Restates metadata
        { metadata with
          annotations := some (annotations.erase "ingress.translator.io/drop-routes") }

inductive HttpPath.Restates : HttpPath → HttpPath → Prop where
  | path {path : HttpPath} (hpath : path.path = "") : Restates path { path with path := "/" }
  | rewriteHost {path : HttpPath} (hhost : path.rewriteHost = some "") :
      Restates path { path with rewriteHost := none }
  | header {path : HttpPath} {name : String}
      (hheader : path.headers.get? name = some ⟨some ""⟩) :
      Restates path { path with headers := path.headers.insert name ⟨none⟩ }

/-- One part, anywhere in the ingress, is said in another way. -/
inductive Ingress.Restates : Ingress → Ingress → Prop where
  | metadata {ingress : Ingress} {metadata : Metadata}
      (hmetadata : ingress.metadata.Restates metadata) :
      Restates ingress { ingress with metadata }
  | path {ingress : Ingress} {before after : List Rule} {rule : Rule}
      {paths later : List HttpPath} {path other : HttpPath}
      (hrule : ingress.rules = before ++ rule :: after)
      (hpath : rule.paths = paths ++ path :: later) (hother : path.Restates other) :
      Restates ingress
        { ingress with
          rules := before ++ { rule with paths := paths ++ other :: later } :: after }

/-! ## What is read of an ingress -/

structure Metadata.SameReading (first second : Metadata) : Prop where
  objectName : first.objectName = second.objectName
  labels : first.labelsOrEmpty = second.labelsOrEmpty
  disablesHttp2 : Annotations.disablesHttp2 first.annotationsOrEmpty =
    Annotations.disablesHttp2 second.annotationsOrEmpty
  disablesExtAuthz : Annotations.disablesExtAuthz first.annotationsOrEmpty =
    Annotations.disablesExtAuthz second.annotationsOrEmpty
  dropRoutes : Annotations.dropRoutes first.annotationsOrEmpty =
    Annotations.dropRoutes second.annotationsOrEmpty

structure HttpPath.SameReading (first second : HttpPath) : Prop where
  pathOrRoot : first.pathOrRoot = second.pathOrRoot
  hostOverride : first.hostOverride = second.hostOverride
  headerMatchers : first.headerMatchers = second.headerMatchers
  appendHeaders : first.appendHeaders = second.appendHeaders
  splits : first.splits = second.splits

structure Rule.SameReading (first second : Rule) : Prop where
  hosts : first.hosts = second.hosts
  visibility : first.visibility = second.visibility
  paths : List.Forall₂ HttpPath.SameReading first.paths second.paths

structure Ingress.SameReading (first second : Ingress) : Prop where
  metadata : first.metadata.SameReading second.metadata
  tls : first.tls = second.tls
  httpOption : first.httpOption = second.httpOption
  rules : List.Forall₂ Rule.SameReading first.rules second.rules

theorem Metadata.SameReading.refl (metadata : Metadata) : metadata.SameReading metadata :=
  ⟨rfl, rfl, rfl, rfl, rfl⟩

theorem HttpPath.SameReading.refl (path : HttpPath) : path.SameReading path :=
  ⟨rfl, rfl, rfl, rfl, rfl⟩

theorem Rule.SameReading.refl (rule : Rule) : rule.SameReading rule :=
  ⟨rfl, rfl, List.forall₂_same.mpr fun path _ => .refl path⟩

theorem Metadata.Restates.sameReading {first second : Metadata}
    (hrestates : first.Restates second) : first.SameReading second := by
  cases hrestates with
  | name hname =>
      have hobject : first.objectName = ⟨first.ns.getD "", ""⟩ := by
        rw [objectName, hname]
        rfl
      exact ⟨hobject, rfl, rfl, rfl, rfl⟩
  | ns hns =>
      have hobject : first.objectName = ⟨"", first.name.getD ""⟩ := by
        rw [objectName, hns]
        rfl
      exact ⟨hobject, rfl, rfl, rfl, rfl⟩
  | labels hlabels =>
      have hempty : first.labelsOrEmpty = .empty := by
        rw [labelsOrEmpty, hlabels]
        rfl
      exact ⟨rfl, hempty, rfl, rfl, rfl⟩
  | annotations hannotations =>
      have hempty : first.annotationsOrEmpty = .empty := by
        rw [annotationsOrEmpty, hannotations]
        rfl
      exact ⟨rfl, rfl, congrArg _ hempty, congrArg _ hempty, congrArg _ hempty⟩
  | @dropRoutes annotations document hannotations hdocument hblank =>
      have hgiven : first.annotationsOrEmpty = annotations := by
        rw [annotationsOrEmpty, hannotations]
        rfl
      have hother (key : String) (hkey : key ≠ "ingress.translator.io/drop-routes") :
          (annotations.erase "ingress.translator.io/drop-routes").get? key =
            annotations.get? key := by
        rw [KeyMap.get?_erase, if_neg hkey]
      have hswitch (key : String) (hkey : key ≠ "ingress.translator.io/drop-routes") :
          Annotations.isOn first.annotationsOrEmpty key =
            Annotations.isOn (annotations.erase "ingress.translator.io/drop-routes") key := by
        rw [hgiven, Annotations.isOn, Annotations.isOn, hother key hkey]
      have hroutes : Annotations.dropRoutes first.annotationsOrEmpty =
          Annotations.dropRoutes (annotations.erase "ingress.translator.io/drop-routes") := by
        simp only [Annotations.dropRoutes, Annotations.dropRoutesKey, hgiven, hdocument,
          KeyMap.get?_erase, if_true, DropRoutes.parse_blank hblank]
      exact ⟨rfl, rfl, hswitch _ (by decide), hswitch _ (by decide), hroutes⟩

theorem HttpPath.Restates.sameReading {first second : HttpPath}
    (hrestates : first.Restates second) : first.SameReading second := by
  cases hrestates with
  | path hpath =>
      have hroot : first.pathOrRoot = "/" := by rw [pathOrRoot, if_pos hpath]
      exact ⟨hroot, rfl, rfl, rfl, rfl⟩
  | rewriteHost hhost =>
      have hnone : first.hostOverride = none := by
        rw [hostOverride, hhost]
        rfl
      exact ⟨rfl, hnone, rfl, rfl, rfl⟩
  | @header name hheader =>
      have hmatched (headers : KeyMap String HeaderMatch) :
          (headers.entries.map fun header =>
            (⟨header.1, header.2.exactOrPresent⟩ : HeaderMatcher)) =
            (headers.mapValues HeaderMatch.exactOrPresent).entries.map fun header =>
              ⟨header.1, header.2⟩ := by
        simp [KeyMap.mapValues]
      have hsame : first.headers.mapValues HeaderMatch.exactOrPresent =
          (first.headers.insert name ⟨none⟩).mapValues HeaderMatch.exactOrPresent := by
        apply KeyMap.eq_of_get?_eq
        intro key
        rw [KeyMap.get?_mapValues, KeyMap.get?_mapValues, KeyMap.get?_insert]
        by_cases hkey : key = name
        · rw [if_pos hkey, hkey, hheader]
          rfl
        · rw [if_neg hkey]
      have hmatchers : first.headerMatchers =
          { first with headers := first.headers.insert name ⟨none⟩ }.headerMatchers := by
        rw [headerMatchers, headerMatchers, hmatched, hmatched, hsame]
      exact ⟨rfl, rfl, hmatchers, rfl, rfl⟩

theorem forall₂_replace {α : Type} {holds : α → α → Prop} (hrefl : ∀ element, holds element element)
    (before after : List α) {element other : α} (hother : holds element other) :
    List.Forall₂ holds (before ++ element :: after) (before ++ other :: after) := by
  have hsame (list : List α) : List.Forall₂ holds list list :=
    List.forall₂_same.mpr fun element _ => hrefl element
  exact List.rel_append (hsame before) (.cons hother (hsame after))

theorem Ingress.Restates.sameReading {first second : Ingress}
    (hrestates : first.Restates second) : first.SameReading second := by
  cases hrestates with
  | metadata hmetadata =>
      exact ⟨hmetadata.sameReading, rfl, rfl, List.forall₂_same.mpr fun rule _ => .refl rule⟩
  | @path before after rule paths later path other hrule hpath hother =>
      have hpaths : List.Forall₂ HttpPath.SameReading rule.paths (paths ++ other :: later) := by
        rw [hpath]
        exact forall₂_replace .refl paths later hother.sameReading
      have hrules : List.Forall₂ Rule.SameReading first.rules
          (before ++ { rule with paths := paths ++ other :: later } :: after) := by
        rw [hrule]
        exact forall₂_replace .refl before after ⟨rfl, rfl, hpaths⟩
      exact ⟨.refl first.metadata, rfl, rfl, hrules⟩

/-! ## Plans of ingresses that read the same -/

theorem Config.extAuthzEnabledFor_eq {first second : Ingress} (config : Config)
    (hsame : first.metadata.SameReading second.metadata) :
    config.extAuthzEnabledFor first = config.extAuthzEnabledFor second := by
  rw [extAuthzEnabledFor, extAuthzEnabledFor, hsame.disablesExtAuthz]

/-- The contexts differ at most in what cannot be read. -/
structure PathContext.SameReading (first second : PathContext) : Prop where
  config : first.config = second.config
  ingress : first.ingress.SameReading second.ingress
  visibility : first.rule.visibility = second.rule.visibility
  ruleName : first.ruleName = second.ruleName
  path : first.path.SameReading second.path

namespace PathContext.SameReading

variable {first second : PathContext} (hsame : first.SameReading second)
include hsame

theorem routeName : first.routeName = second.routeName := by
  rw [PathContext.routeName, PathContext.routeName, hsame.ruleName, hsame.path.pathOrRoot]

theorem forward : first.forward = second.forward := by
  funext weighted
  simp only [PathContext.forward, hsame.routeName, hsame.path.headerMatchers,
    hsame.path.pathOrRoot, hsame.path.appendHeaders, hsame.path.hostOverride]

theorem bypassesExtAuthz : first.bypassesExtAuthz = second.bypassesExtAuthz := by
  simp only [PathContext.bypassesExtAuthz, hsame.config, hsame.path.pathOrRoot,
    Config.extAuthzEnabledFor_eq _ hsame.ingress.metadata]

theorem redirects :
    first.config.redirects first.ingress first.rule =
      second.config.redirects second.ingress second.rule := by
  simp only [Config.redirects, hsame.config, hsame.ingress.httpOption, hsame.visibility]

theorem servesTls :
    first.config.servesTls first.ingress = second.config.servesTls second.ingress := by
  simp only [Config.servesTls, hsame.config, hsame.ingress.tls]

theorem pathRoutes : first.pathRoutes = second.pathRoutes := by
  funext backends routes
  simp only [PathContext.pathRoutes, PathContext.plainRoute, PathContext.tlsRoute,
    PathContext.dropped, hsame.routeName, hsame.forward, hsame.bypassesExtAuthz, hsame.redirects,
    hsame.servesTls, hsame.path.headerMatchers, hsame.path.pathOrRoot]

end PathContext.SameReading

namespace Plan

theorem each_eq_of_forall₂ {α β γ : Type} {step : α → Plan γ} {step' : β → Plan γ}
    {first : List α} {second : List β}
    (hsteps : List.Forall₂ (fun element other => step element = step' other) first second) :
    each step first = each step' second := by
  induction hsteps with
  | nil => rfl
  | cons hhead _ ih => rw [each, each, hhead, ih]

theorem backend_eq {first second : Ingress} {path other : HttpPath} (config : Config)
    (hmetadata : first.metadata.SameReading second.metadata) (hpath : path.SameReading other) :
    backend config first path = backend config second other := by
  funext split
  simp only [backend, transportSocket, hmetadata.disablesHttp2, hpath.hostOverride]

theorem pathRoutes_eq {first second : PathContext} (hsame : first.SameReading second) :
    pathRoutes first = pathRoutes second := by
  simp only [pathRoutes, hsame.config, hsame.path.splits,
    backend_eq _ hsame.ingress.metadata hsame.path, hsame.pathRoutes, dropRoutes,
    hsame.ingress.metadata.dropRoutes]

section Rules

variable {first second : Ingress} {rule other : Rule} (config : Config)
  (hingress : first.SameReading second)
include hingress

theorem ruleTable_eq (hrule : rule.SameReading other) (name : String) :
    ruleTable config first rule name = ruleTable config second other name := by
  have hpaths : each (fun path => pathRoutes ⟨config, first, rule, name, path⟩) rule.paths =
      each (fun path => pathRoutes ⟨config, second, other, name, path⟩) other.paths := by
    apply each_eq_of_forall₂
    refine hrule.paths.imp fun path otherPath hpath => ?_
    exact pathRoutes_eq ⟨rfl, hingress, hrule.visibility, rfl, hpath⟩
  rw [ruleTable, ruleTable, hpaths]

theorem ruleHosts_eq (hrule : rule.SameReading other) (place : Nat) :
    ruleHosts config first rule place = ruleHosts config second other place := by
  have hname : ruleName first place = ruleName second place := by
    rw [ruleName, ruleName, Ingress.owner, Ingress.owner, hingress.metadata.objectName]
  have hhosts : rule.virtualHosts config first = other.virtualHosts config second := by
    funext name table
    simp only [Rule.virtualHosts, Rule.domains, contextExtensions, hrule.hosts, hrule.visibility,
      hingress.metadata.labels, Config.extAuthzEnabledFor_eq config hingress.metadata]
  rw [ruleHosts, ruleHosts, hname, ruleTable_eq config hingress hrule, hhosts]

end Rules

end Plan

theorem forall₂_zipIdx {α β : Type} {holds : α → β → Prop} {first : List α} {second : List β}
    (heach : List.Forall₂ holds first second) (start : Nat) :
    List.Forall₂ (fun element other => holds element.1 other.1 ∧ element.2 = other.2)
      (first.zipIdx start) (second.zipIdx start) := by
  induction heach generalizing start with
  | nil => exact .nil
  | cons hhead _ ih => exact .cons ⟨hhead, rfl⟩ (ih (start + 1))

theorem Plan.ingress_eq {first second : Ingress} (config : Config)
    (hsame : first.SameReading second) :
    Plan.ingress config first = Plan.ingress config second := by
  have howner : first.owner = second.owner := hsame.metadata.objectName
  have hrules : each (fun rule => ruleHosts config first rule.1 rule.2) first.rules.zipIdx =
      each (fun rule => ruleHosts config second rule.1 rule.2) second.rules.zipIdx := by
    apply each_eq_of_forall₂
    refine (forall₂_zipIdx hsame.rules 0).imp fun rule other hrule => ?_
    rw [ruleHosts_eq config hsame hrule.1, hrule.2]
  have hlistener : Plan.listenerPort config first = Plan.listenerPort config second := by
    rw [Plan.listenerPort, Plan.listenerPort, howner]
  rw [Plan.ingress, Plan.ingress, hsame.tls, hrules, hlistener, howner]

/-! ## What is made of a path -/

/-- The route takes its path to say what the clusters of the path do. -/
structure Route.Follows (hostName : String) (path : HttpPath) (route : Route) : Prop where
  name : route.name = hostName ++ ".Paths[" ++ path.pathOrRoot ++ "]"
  pathPrefix : route.criteria.pathPrefix = path.pathOrRoot
  hostOverride : ∀ action, route.action = .forward action →
    action.hostOverride = path.hostOverride

/-- Each path with splits has its route, and the routes behind it are named like this one. -/
def VirtualHost.Follows (rule : Rule) (host : VirtualHost) : Prop :=
  ∃ parts, host.routes = parts.flatten ∧
    List.Forall₂
      (fun path part => ∃ own dropped, part = own :: dropped ∧ own.Follows host.name path ∧
        ∀ route ∈ dropped, route.name = own.name)
      rule.servedPaths parts

/-- All that is made of a path takes it to say the same. -/
structure ProxyConfig.ReadsAlike (config : Config) (ingress : Ingress) (value : ProxyConfig) :
    Prop where
  routes : ∀ bucket : Bucket, List.Forall₂ VirtualHost.Follows
    (ingress.rules.filter (bucket.serves config ingress)) (bucket.hosts value)
  encrypted : List.Forall₂
    (fun source cluster =>
      cluster.transportSocket.isSome =
        (config.internalEncryption && source.1.hostOverride.isNone))
    ingress.pathSplits value.clusters

theorem PathContext.follows_ownRoute (context : PathContext) (bucket : Bucket) :
    (context.ownRoute bucket).Follows context.ruleName context.path := by
  have hcriteria := context.criteria_ownRoute bucket
  refine ⟨context.name_ownRoute bucket, by rw [hcriteria], ?_⟩
  intro action haction
  rcases context.ownRoute_cases bucket with ⟨_, hroute⟩ | ⟨_, hroute⟩ | ⟨_, hroute⟩
  · rw [hroute] at haction
    cases haction
    rfl
  · rw [hroute] at haction
    cases haction
  · rw [hroute] at haction
    cases haction
    rfl

theorem Bucket.follows_host (config : Config) (ingress : Ingress) (bucket : Bucket)
    (rule : Rule × Nat) : (bucket.host config ingress rule).Follows rule.1 := by
  refine ⟨_, flatMap_eq_flatten_map_filter (fun path => path.splits ≠ []) ?_ rule.1.paths, ?_⟩
  · intro path hskipped
    have hempty : path.splits = [] := by simpa using hskipped
    simp [PathContext.routes, Rule.context, hempty]
  · unfold Rule.servedPaths
    rw [List.forall₂_map_right_iff, List.forall₂_same]
    intro path hpath
    have hsplits : path.splits ≠ [] := by simpa using (List.mem_filter.mp hpath).2
    have hroutes : (rule.1.context config ingress rule.2 path).routes bucket =
        (rule.1.context config ingress rule.2 path).ownRoute bucket ::
          (rule.1.context config ingress rule.2 path).dropped ingress.dropRoutes := by
      unfold PathContext.routes
      rw [if_neg (by simpa [Rule.context] using hsplits)]
      rfl
    have hfollows := (rule.1.context config ingress rule.2 path).follows_ownRoute bucket
    refine ⟨_, _, hroutes, hfollows, ?_⟩
    intro route hroute
    obtain ⟨dropped, _, rfl⟩ := List.mem_map.mp hroute
    exact (PathContext.name_ownRoute _ bucket).symm

theorem readsAlike_of_ready
    {config : Config} {lookup : Lookup} {registrar : Registrar} {ingress : Ingress}
    {value : ProxyConfig}
    (hready : (resolve config lookup registrar ingress).result = .ok (.ready value)) :
    value.ReadsAlike config ingress where
  routes := fun bucket => forall₂_hosts_of_ready hready bucket
    fun rule _ => bucket.follows_host config ingress rule
  encrypted := by
    refine (clusters_of_ready hready).imp fun source cluster hcluster => ?_
    obtain ⟨_, _, socket, _, _, hsocket, hparts⟩ := hcluster.exists_parts
    rw [hparts]
    exact Plan.isSome_of_transportSocket hsocket

/-! ## Resolutions -/

theorem Ingress.owner_and_plan_eq_of_restated {first second : Ingress}
    (hrestated : Relation.EqvGen Ingress.Restates first second) :
    first.owner = second.owner ∧
      ∀ config, Plan.ingress config first = Plan.ingress config second := by
  induction hrestated with
  | rel first second hrestates =>
      have hsame := hrestates.sameReading
      exact ⟨hsame.metadata.objectName, fun config => Plan.ingress_eq config hsame⟩
  | refl ingress => exact ⟨rfl, fun _ => rfl⟩
  | symm first second _ ih => exact ⟨ih.1.symm, fun config => (ih.2 config).symm⟩
  | trans first middle second _ _ hfirst hsecond =>
      exact ⟨hfirst.1.trans hsecond.1,
        fun config => (hfirst.2 config).trans (hsecond.2 config)⟩

/-- Ingresses that say the same in other ways are resolved in the same way, step by step and under
the same owner, and all that is made of a path takes it to say the same. -/
theorem resolve_eq_of_restated
    {first second : Ingress} (hrestated : Relation.EqvGen Ingress.Restates first second)
    (config : Config) (lookup : Lookup) (registrar : Registrar) :
    first.owner = second.owner ∧
    resolve config lookup registrar first = resolve config lookup registrar second ∧
    ∀ value, (resolve config lookup registrar first).result = .ok (.ready value) →
      value.ReadsAlike config first ∧ value.ReadsAlike config second := by
  obtain ⟨howner, hplan⟩ := Ingress.owner_and_plan_eq_of_restated hrestated
  have hresolve : resolve config lookup registrar first =
      resolve config lookup registrar second := by
    rw [resolve, resolve, hplan]
  refine ⟨howner, hresolve, fun value hready => ⟨readsAlike_of_ready hready, ?_⟩⟩
  rw [hresolve] at hready
  exact readsAlike_of_ready hready

/-! ### A shop that says nothing twice -/

/-- A shop in a namespace without a name, all of whose texts are empty or blank. -/
def silentShop : Ingress where
  metadata := ⟨some "web", none, none,
    some (KeyMap.empty.insert "ingress.translator.io/drop-routes" "\u00a0\n")⟩
  tls := []
  rules :=
    [⟨["shop.example"], .externalIP,
      [⟨"", KeyMap.empty.insert "x-beta" ⟨some ""⟩, some "", .empty,
        [⟨"shop", "front", .number 80, 100, .empty⟩]⟩]⟩]
  httpOption := .enabled

/-- The same shop with unset parts for the empty ones. -/
def plainShop : Ingress where
  metadata := ⟨some "web", some "", some .empty, some .empty⟩
  tls := []
  rules :=
    [⟨["shop.example"], .externalIP,
      [⟨"/", KeyMap.empty.insert "x-beta" ⟨none⟩, none, .empty,
        [⟨"shop", "front", .number 80, 100, .empty⟩]⟩]⟩]
  httpOption := .enabled

theorem silentShop_restated : Relation.EqvGen Ingress.Restates silentShop plainShop := by
  have hblank : ∀ c ∈ "\u00a0\n".toList, Text.isBlank c = true :=
    List.all_eq_true.mp (by decide)
  refine .trans _ _ _ (.rel _ _ (.metadata (.ns rfl))) ?_
  refine .trans _ _ _ (.rel _ _ (.metadata (.labels rfl))) ?_
  refine .trans _ _ _ (.rel _ _ (.metadata (.dropRoutes rfl rfl hblank))) ?_
  refine .trans _ _ _ (.rel _ _ (@Ingress.Restates.path _ [] [] _ [] [] _ _ rfl rfl (.path rfl))) ?_
  refine .trans _ _ _
    (.rel _ _ (@Ingress.Restates.path _ [] [] _ [] [] _ _ rfl rfl (.rewriteHost rfl))) ?_
  refine .trans _ _ _
    (.rel _ _ (@Ingress.Restates.path _ [] [] _ [] [] _ _ rfl rfl
      (@HttpPath.Restates.header _ "x-beta" rfl))) ?_
  exact .refl _

theorem silentShop_resolved_as_plainShop :
    Relation.EqvGen Ingress.Restates silentShop plainShop ∧
    resolve platformConfig http2Services .accepting silentShop =
      resolve platformConfig http2Services .accepting plainShop ∧
    ∃ value,
      (resolve platformConfig http2Services .accepting silentShop).result =
        .ok (.ready value) ∧
      (value.internalVirtualHosts.flatMap VirtualHost.routes).map Route.name =
        ["(/web).Rules[0].Paths[/]"] ∧
      value.ReadsAlike platformConfig silentShop ∧ value.ReadsAlike platformConfig plainShop := by
  obtain ⟨_, hresolve, hreads⟩ := resolve_eq_of_restated silentShop_restated platformConfig
    http2Services .accepting
  obtain ⟨value, hready⟩ : ∃ value,
      (resolve platformConfig http2Services .accepting silentShop).result =
        .ok (.ready value) :=
    exists_ready_of_isReady (by decide +kernel)
  refine ⟨silentShop_restated, hresolve, value, hready, ?_, hreads value hready⟩
  rw [internal_of_ready hready]
  decide +kernel

end EdgeRouting
