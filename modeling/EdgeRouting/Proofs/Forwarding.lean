import EdgeRouting.Proofs.ReadyResolution

/-!
# Forwarding

What a route says that forwards the requests of a path, in terms of the path alone: every split has
its share, without a limit of time, and the headers of the path are added.
-/

namespace EdgeRouting

/-- The headers of a map in key order, each overwriting one that is there. -/
structure HeadersOf (map : TextMap) (headers : List HeaderValue) : Prop where
  sorted : headers.Pairwise fun earlier later => compare earlier.key later.key = .lt
  mem_iff : ∀ header,
    header ∈ headers ↔ map.get? header.key = some header.value ∧ header.append = false

structure Split.HasShare (split : Split) (weighted : WeightedCluster) : Prop where
  name : weighted.name = split.serviceNamespace ++ "/" ++ split.serviceName
  weight : weighted.weight = split.percent
  headers : HeadersOf split.appendHeaders weighted.requestHeaders

/-- Requests are split as the path says, without a limit of time. -/
structure ForwardAction.Serves (path : HttpPath) (action : ForwardAction) : Prop where
  shares : List.Forall₂ Split.HasShare path.splits action.weightedClusters
  timeout : action.timeout = ⟨0⟩
  upgrades : action.upgrades = ["websocket"]
  hostOverride : ∀ host, action.hostOverride = some host ↔ path.rewriteHost = some host ∧ host ≠ ""

structure Route.Forwards (path : HttpPath) (route : Route) : Prop where
  action : ∃ action, route.action = .forward action ∧ action.Serves path
  requestHeaders : HeadersOf path.appendHeaders route.requestHeaders

theorem headersOf_headersToAdd (map : TextMap) : HeadersOf map (headersToAdd map) where
  sorted := List.pairwise_map.mpr map.sorted
  mem_iff := by
    intro header
    unfold headersToAdd
    rw [List.mem_map, KeyMap.get?_eq_some_iff]
    constructor
    · rintro ⟨entry, hentry, rfl⟩
      exact ⟨hentry, rfl⟩
    · rintro ⟨hentry, happend⟩
      obtain ⟨key, text, append⟩ := header
      simp only at hentry happend
      subst append
      exact ⟨(key, text), hentry, rfl⟩

theorem Split.hasShare_weighted (split : Split) : split.HasShare split.weighted where
  name := rfl
  weight := rfl
  headers := headersOf_headersToAdd split.appendHeaders

theorem Split.forall₂_hasShare (splits : List Split) :
    List.Forall₂ HasShare splits (splits.map weighted) := by
  rw [List.forall₂_map_right_iff, List.forall₂_same]
  intro split _
  exact split.hasShare_weighted

theorem HttpPath.hostOverride_eq_some_iff (path : HttpPath) (host : String) :
    path.hostOverride = some host ↔ path.rewriteHost = some host ∧ host ≠ "" := by
  simp [hostOverride, Option.filter_eq_some_iff]

theorem PathContext.forwards_forward (context : PathContext) :
    (context.forward (context.path.splits.map Split.weighted)).Forwards context.path where
  action := by
    refine ⟨_, rfl, ?_⟩
    exact {
      shares := Split.forall₂_hasShare context.path.splits
      timeout := rfl
      upgrades := rfl
      hostOverride := context.path.hostOverride_eq_some_iff }
  requestHeaders := headersOf_headersToAdd context.path.appendHeaders

end EdgeRouting
