import EdgeRouting.Proofs.Obligations
import EdgeRouting.Resolution.IngressPlan

/-!
# The obligations of an ingress

Certificates first, then the rules with their paths and splits in order, and last the namespace.
The lists are read off the ingress and, where a service decides whether its endpoints matter, off
the lookup; the plan of the ingress fulfils them.

Main statement: the first obligation that meets an obstacle decides the result of a resolution
alone, and without one the resolution is ready.
-/

namespace EdgeRouting

/-- The type of the service says that its endpoints are not in the cluster. -/
def Service.isExternalName (service : Service) : Bool :=
  service.spec.any fun spec => spec.type = some "ExternalName"

/-- The lookup has a service of this name, and its endpoints are not in the cluster. -/
def Lookup.findsExternalName (lookup : Lookup) (name : ObjectName) : Bool :=
  match lookup (.service name) with
  | .ok service => service.isExternalName
  | .error _ => false

def HttpPath.rewritesHost (path : HttpPath) : Bool := path.rewriteHost.any fun host => host ≠ ""

/-! ## The lists -/

def TlsBinding.obligations (binding : TlsBinding) : List Obligation :=
  [.register ⟨.secret, binding.secret⟩, .fetch .secret (.secret binding.secret)]

def Split.memberObligations (lookup : Lookup) (split : Split) : List Obligation :=
  if lookup.findsExternalName split.service then []
  else [.fetch .endpoints (.endpoints split.service)]

def HttpPath.authorityObligations (config : Config) (path : HttpPath) : List Obligation :=
  if config.internalEncryption && !path.rewritesHost then
    [.fetch .caSecret (.secret config.caSecret)]
  else []

/-- The cluster of a split, but for its socket. -/
def Split.clusterObligations (lookup : Lookup) (split : Split) : List Obligation :=
  [.register ⟨.service, split.service⟩, .register ⟨.endpoints, split.service⟩,
    .fetch .service (.service split.service)] ++ split.memberObligations lookup

def Split.obligations (config : Config) (lookup : Lookup) (path : HttpPath) (split : Split) :
    List Obligation :=
  split.clusterObligations lookup ++ path.authorityObligations config

def HttpPath.obligations (config : Config) (lookup : Lookup) (annotations : TextMap)
    (path : HttpPath) : List Obligation :=
  path.splits.flatMap (Split.obligations config lookup path) ++
    if path.splits.isEmpty then [] else [.hold (.dropRoutesReadable annotations)]

def Rule.obligations (config : Config) (lookup : Lookup) (annotations : TextMap)
    (rule : Rule) : List Obligation :=
  rule.paths.flatMap (HttpPath.obligations config lookup annotations) ++
    [.hold (.hasBackend rule)]

namespace Ingress

def listenerObligations (config : Config) (ingress : Ingress) : List Obligation :=
  match config.trafficIsolation with
  | .none => []
  | .port => [.fetch .nameSpace (.nameSpace ingress.owner.ns)]

def obligations (config : Config) (lookup : Lookup) (ingress : Ingress) : List Obligation :=
  ingress.tls.flatMap TlsBinding.obligations ++
    ingress.rules.flatMap
      (Rule.obligations config lookup ingress.metadata.annotationsOrEmpty) ++
    ingress.listenerObligations config

end Ingress

/-! ## The plan fulfils them -/

theorem Service.isSome_externalHost? (service : Service) :
    service.externalHost?.isSome = service.isExternalName := by
  unfold externalHost? isExternalName
  cases service.spec with
  | none => rfl
  | some spec =>
      by_cases htype : spec.type = some "ExternalName"
      · simp [htype]
      · simp [htype]

theorem HttpPath.isNone_hostOverride (path : HttpPath) :
    path.hostOverride.isNone = !path.rewritesHost := by
  unfold hostOverride rewritesHost
  cases path.rewriteHost with
  | none => rfl
  | some host =>
      by_cases hhost : host = ""
      · simp [hhost]
      · simp [hhost]

namespace Plan

variable {config : Config} {lookup : Lookup} {ingress : Ingress}

theorem certificate_fulfils (binding : TlsBinding) :
    (certificate binding).Fulfils lookup binding.obligations := by
  have hshape : binding.obligations =
      [.register ⟨.secret, binding.secret⟩] ++ [.fetch .secret (.secret binding.secret)] := rfl
  rw [hshape]
  exact (Fulfils.follow _).bind fun _ _ => (Fulfils.need rfl _).thenDone _

theorem members_fulfils {service : Service} {split : Split}
    (hfound : lookup (.service split.service) = .ok service) :
    (members service split).Fulfils lookup (split.memberObligations lookup) := by
  have hexternal : lookup.findsExternalName split.service = service.externalHost?.isSome := by
    unfold Lookup.findsExternalName
    rw [hfound, service.isSome_externalHost?]
  unfold members Split.memberObligations
  rw [hexternal]
  cases service.externalHost? with
  | some host => exact .done _
  | none => exact (Fulfils.await rfl _).thenDone _

theorem transportSocket_fulfils (path : HttpPath) (http2 : Bool) :
    (transportSocket config path http2).Fulfils lookup (path.authorityObligations config) := by
  unfold transportSocket HttpPath.authorityObligations
  rw [path.isNone_hostOverride]
  split
  · exact (Fulfils.need rfl _).thenDone _
  · exact .done none

theorem backend_fulfils (path : HttpPath) (split : Split) :
    (backend config ingress path split).Fulfils lookup
      (split.obligations config lookup path) := by
  have hshape : split.obligations config lookup path =
      [.register ⟨.service, split.service⟩] ++
        ([.register ⟨.endpoints, split.service⟩] ++
          ([.fetch .service (.service split.service)] ++
            (split.memberObligations lookup ++ path.authorityObligations config))) := by
    simp [Split.obligations, Split.clusterObligations]
  rw [hshape]
  refine (Fulfils.follow _).bind fun _ _ => (Fulfils.follow _).bind fun _ _ =>
    (Fulfils.await rfl _).bind fun service hservice => ?_
  have hfound := value?_await_eq_some_iff.mp hservice
  exact (members_fulfils hfound).bind fun member _ =>
    (transportSocket_fulfils path _).thenDone _

theorem dropRoutes_fulfils :
    (dropRoutes ingress).Fulfils lookup
      [.hold (.dropRoutesReadable ingress.metadata.annotationsOrEmpty)] := by
  unfold dropRoutes
  cases hread : Annotations.dropRoutes ingress.metadata.annotationsOrEmpty with
  | ok routes =>
      refine .held ?_ (.done routes)
      simp [Condition.obstacle?, hread]
  | error fault =>
      have hbroken : (Condition.dropRoutesReadable
          ingress.metadata.annotationsOrEmpty).obstacle? =
            some (.failure (.dropRoutes fault)) := by
        simp [Condition.obstacle?, hread]
      exact .broken hbroken rfl

/-- As many backends as splits, so the one list is empty when the other is. -/
theorem isEmpty_backends
    {context : PathContext} {backends : List Backend}
    (hbackends : (each (backend context.config context.ingress context.path)
      context.path.splits).value? lookup = some backends) :
    backends.isEmpty = context.path.splits.isEmpty := by
  have hlength := (value?_each_eq_some_iff.mp hbackends).length_eq
  rw [Bool.eq_iff_iff, List.isEmpty_iff_length_eq_zero, List.isEmpty_iff_length_eq_zero,
    hlength]

theorem pathRoutes_fulfils (context : PathContext) :
    (pathRoutes context).Fulfils lookup
      (context.path.obligations context.config lookup
        context.ingress.metadata.annotationsOrEmpty) := by
  unfold pathRoutes HttpPath.obligations
  refine (Fulfils.each fun split _ => backend_fulfils context.path split).bind
    fun backends hbackends => ?_
  rw [isEmpty_backends hbackends]
  split
  · exact .done none
  · exact dropRoutes_fulfils.thenDone _

/-- A path adds something exactly if it has splits; the drop routes are read only then. -/
theorem exists_backends_of_pathRoutes
    {context : PathContext} {part : Option PathRoutes}
    (hpart : (pathRoutes context).value? lookup = some part) :
    ∃ backends,
      (each (backend context.config context.ingress context.path)
        context.path.splits).value? lookup = some backends ∧
      ((context.path.splits.isEmpty = true ∧ part = none) ∨
        (context.path.splits.isEmpty = false ∧
          ∃ routes, (dropRoutes context.ingress).value? lookup = some routes ∧
            part = some (context.pathRoutes backends routes))) := by
  unfold pathRoutes at hpart
  rw [bind_eq, value?_bind_eq_some_iff] at hpart
  obtain ⟨backends, hbackends, hrest⟩ := hpart
  rw [isEmpty_backends hbackends] at hrest
  refine ⟨backends, hbackends, ?_⟩
  cases hsplits : context.path.splits.isEmpty with
  | true =>
      simp only [hsplits, if_true, pure_eq, value?_done, Option.some.injEq] at hrest
      exact .inl ⟨rfl, hrest.symm⟩
  | false =>
      simp only [hsplits, Bool.false_eq_true, if_false, bind_eq,
        value?_bind_eq_some_iff, pure_eq, value?_done, Option.some.injEq] at hrest
      obtain ⟨routes, hroutes, hvalue⟩ := hrest
      exact .inr ⟨rfl, routes, hroutes, hvalue.symm⟩

theorem isNone_of_pathRoutes
    {context : PathContext} {part : Option PathRoutes}
    (hpart : (pathRoutes context).value? lookup = some part) :
    part.isNone = context.path.splits.isEmpty := by
  obtain ⟨backends, _, ⟨hsplits, hnone⟩ | ⟨hsplits, routes, _, hsome⟩⟩ :=
    exists_backends_of_pathRoutes hpart
  · rw [hsplits, hnone]
    rfl
  · rw [hsplits, hsome]
    rfl

/-- A table without routes stays so exactly as long as only paths without routes are added. -/
theorem isEmpty_routes_addPaths {paths : List HttpPath} {parts : List (Option PathRoutes)}
    (hparts : List.Forall₂ (fun path part => part.isNone = path.splits.isEmpty) paths parts)
    (table : RouteTable) :
    (parts.foldl RouteTable.addPath table).routes.isEmpty =
      (table.routes.isEmpty && !paths.any fun path => !path.splits.isEmpty) := by
  induction hparts generalizing table with
  | nil => simp
  | @cons path part paths parts hfirst _ ih =>
      have hadd : (table.addPath part).routes.isEmpty =
          (table.routes.isEmpty && path.splits.isEmpty) := by
        rw [← hfirst]
        cases part <;> simp [RouteTable.addPath]
      rw [List.foldl_cons, ih, hadd, List.any_cons, Bool.not_or, Bool.not_not, Bool.and_assoc]

theorem ruleTable_fulfils (rule : Rule) (name : String) :
    (ruleTable config ingress rule name).Fulfils lookup
      (rule.obligations config lookup ingress.metadata.annotationsOrEmpty) := by
  unfold ruleTable Rule.obligations
  refine (Fulfils.each fun path _ =>
    pathRoutes_fulfils ⟨config, ingress, rule, name, path⟩).bind fun parts hparts => ?_
  have hempty : (parts.foldl RouteTable.addPath .empty).routes.isEmpty = !rule.hasBackend :=
    isEmpty_routes_addPaths
      ((value?_each_eq_some_iff.mp hparts).imp fun _ _ => isNone_of_pathRoutes) .empty
  simp only [hempty]
  cases hbackend : rule.hasBackend with
  | true =>
      refine .held ?_ (.done _)
      simp [Condition.obstacle?, hbackend]
  | false =>
      have hbroken : (Condition.hasBackend rule).obstacle? = some .absence := by
        simp [Condition.obstacle?, hbackend]
      exact .broken hbroken rfl

theorem listenerPort_fulfils :
    (listenerPort config ingress).Fulfils lookup (ingress.listenerObligations config) := by
  unfold listenerPort Ingress.listenerObligations
  cases config.trafficIsolation with
  | none => exact .done none
  | port => exact (Fulfils.need rfl _).thenDone _

theorem ingress_fulfils (config : Config) (lookup : Lookup) (ingress : Ingress) :
    (Plan.ingress config ingress).Fulfils lookup (ingress.obligations config lookup) := by
  have hrules : ingress.rules.zipIdx.flatMap (fun rule =>
        rule.1.obligations config lookup ingress.metadata.annotationsOrEmpty) =
      ingress.rules.flatMap
        (Rule.obligations config lookup ingress.metadata.annotationsOrEmpty) := by
    rw [← List.flatMap_map Prod.fst, List.zipIdx_map_fst]
  unfold Plan.ingress Ingress.obligations
  rw [List.append_assoc, ← hrules]
  refine (Fulfils.each fun binding _ => certificate_fulfils binding).bind fun _ _ => ?_
  refine (Fulfils.each fun rule _ => ?_).bind fun _ _ => listenerPort_fulfils.thenDone _
  exact (ruleTable_fulfils rule.1 _).thenDone _

end Plan

/-! ## The result of a resolution -/

/-- A resolution is ready if and only if it meets all its obligations; otherwise the first
obstacle decides, whatever comes later. -/
theorem resolve_result_of_obligations
    (config : Config) (lookup : Lookup) (registrar : Registrar) (ingress : Ingress) :
    ((∃ value, (resolve config lookup registrar ingress).result = .ok (.ready value)) ↔
      EachAfter (Obligation.Met lookup registrar) [] (ingress.obligations config lookup)) ∧
    ∀ met obligation later obstacle,
      ingress.obligations config lookup = met ++ obligation :: later →
      EachAfter (Obligation.Met lookup registrar) [] met →
      obligation.obstacle? lookup registrar (Obligation.references met) = some obstacle →
      (resolve config lookup registrar ingress).result = obstacle.result := by
  have hplan := Plan.ingress_fulfils config lookup ingress
  refine ⟨⟨?_, ?_⟩, ?_⟩
  · rintro ⟨value, hready⟩
    rcases hplan.run_cases registrar with
      ⟨hmet, _⟩ | ⟨met, obligation, later, obstacle, _, _, _, hrun⟩
    · exact hmet
    · unfold resolve at hready
      rw [hrun] at hready
      exact absurd hready (obstacle.result_ne_ready value)
  · intro hmet
    obtain ⟨value, hrun⟩ := hplan.run_of_met hmet
    exact ⟨value, congrArg Run.result hrun⟩
  · intro met obligation later obstacle hsplit hmet hobstacle
    rw [hsplit] at hplan
    exact congrArg Run.result (hplan.run_of_first_obstacle hmet hobstacle)

/-! ## A shop with obstacles -/

/-- A shop with a certificate and one path, over which the given services take turns. -/
def shopServedBy (services : List String) : Ingress where
  metadata := ⟨some "web", some "shop", none, none⟩
  tls := [⟨["shop.example"], "cert", "shop"⟩]
  rules :=
    [⟨["shop.example"], .externalIP,
      [⟨"/", .empty, none, .empty,
        services.map fun name => ⟨"shop", name, .number 80, 50, .empty⟩⟩]⟩]
  httpOption := .enabled

def emptyCluster : Lookup := fun query => .error (.notFound query.kind query.object.name)

/-- The only service is the gallery, and its endpoints are elsewhere. -/
def galleryCluster : Lookup
  | .secret _ => .ok ⟨.unset, .empty⟩
  | .service object =>
      if object.name = "gallery" then
        .ok ⟨.unset, some ⟨some "ExternalName", some "gallery.example", []⟩⟩
      else .error (.notFound .service object.name)
  | query => emptyCluster query

def Registrar.refusing (refused : Reference) : Registrar := fun _ reference =>
  if reference = refused then some "too many references" else none

/-- What comes before the second service of a shop that is served by the gallery first. -/
def galleryObligations : List Obligation :=
  [.register ⟨.secret, ⟨"shop", "cert"⟩⟩, .fetch .secret (.secret ⟨"shop", "cert"⟩),
    .register ⟨.service, ⟨"shop", "gallery"⟩⟩, .register ⟨.endpoints, ⟨"shop", "gallery"⟩⟩,
    .fetch .service (.service ⟨"shop", "gallery"⟩)]

/-- The gallery alone is enough.  With another service the shop fails if its certificate is missing,
waits if only that service is missing, and fails if the endpoints of that service may not be
followed.  Without any service it waits. -/
theorem resolve_shopServedBy :
    (∃ value, (resolve .standard galleryCluster .accepting (shopServedBy ["gallery"])).result =
      .ok (.ready value)) ∧
    (resolve .standard emptyCluster .accepting (shopServedBy ["gallery", "front"])).result =
      .error (.fetch .secret ⟨"shop", "cert"⟩ (.notFound .secret "cert")) ∧
    (resolve .standard galleryCluster .accepting (shopServedBy ["gallery", "front"])).result =
      .ok .notReady ∧
    (resolve .standard galleryCluster (.refusing ⟨.endpoints, ⟨"shop", "front"⟩⟩)
      (shopServedBy ["gallery", "front"])).result =
      .error (.track ⟨.endpoints, ⟨"shop", "front"⟩⟩ "too many references") ∧
    (resolve .standard galleryCluster .accepting (shopServedBy [])).result = .ok .notReady := by
  have hdecides (lookup : Lookup) (registrar : Registrar) (services : List String) :=
    resolve_result_of_obligations .standard lookup registrar (shopServedBy services)
  refine ⟨?_, ?_, ?_, ?_, ?_⟩
  · exact (hdecides galleryCluster .accepting ["gallery"]).1.mpr (by decide)
  · exact (hdecides emptyCluster .accepting ["gallery", "front"]).2
      [.register ⟨.secret, ⟨"shop", "cert"⟩⟩] _ _ _ rfl (by decide) rfl
  · exact (hdecides galleryCluster .accepting ["gallery", "front"]).2
      (galleryObligations ++ [.register ⟨.service, ⟨"shop", "front"⟩⟩,
        .register ⟨.endpoints, ⟨"shop", "front"⟩⟩]) _ _ .absence rfl (by decide) rfl
  · exact (hdecides galleryCluster (.refusing ⟨.endpoints, ⟨"shop", "front"⟩⟩)
      ["gallery", "front"]).2
      (galleryObligations ++ [.register ⟨.service, ⟨"shop", "front"⟩⟩]) _ _ _ rfl (by decide) rfl
  · exact (hdecides galleryCluster .accepting []).2
      [.register ⟨.secret, ⟨"shop", "cert"⟩⟩, .fetch .secret (.secret ⟨"shop", "cert"⟩)] _ _
      .absence rfl (by decide) rfl

end EdgeRouting
