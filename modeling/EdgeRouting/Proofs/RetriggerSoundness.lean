import EdgeRouting.Proofs.DependencyCompleteness
import EdgeRouting.Proofs.IndexChanges
import EdgeRouting.Proofs.ReferenceTracking
import EdgeRouting.Session

/-!
# Resolving again after changes

A resolution leaves the references that it followed with the session, and they stay there until
the owner is forgotten.  So whatever happens in between, a resolution that would come out otherwise
later on depends on an object that changed and that the session still knows the owner by.

A controller watches an ingress if it resolves it again after every change to an object on which the
ingress is known to depend.  What it keeps is never stale.
-/

namespace EdgeRouting

namespace Session

variable {config : Config} {ingress : Ingress} {session later observer : Session}

/-! ## What a session knows of an ingress -/

/-- By the references of its owner, the ingress may depend on the object. -/
def KnowsDependency (session : Session) (config : Config) (ingress : Ingress) (query : Query) :
    Prop :=
  Dependency config ingress
    (fun reference => ingress.owner ∈ session.references.ownersOf reference) query

def Tracks (session : Session) (owner : ObjectName) (list : List Reference) : Prop :=
  ∀ reference ∈ list, owner ∈ session.references.ownersOf reference

theorem tracks_step
    {owner : ObjectName} {list : List Reference} {step : Step}
    (htracks : session.Tracks owner list) (hkept : step ≠ .untrack owner) :
    (session.step step).Tracks owner list := by
  intro reference hmem
  have howner := htracks reference hmem
  cases step with
  | apply resource => exact howner
  | delete query => exact howner
  | track tracked other => exact References.mem_ownersOf_track.mpr (.inr howner)
  | resolve config registrar other => exact References.mem_ownersOf_trackAll.mpr (.inr howner)
  | untrack other =>
      have hne : owner ≠ other := fun heq => hkept (congrArg Step.untrack heq.symm)
      exact References.mem_ownersOf_untrack.mpr ⟨hne, howner⟩

theorem tracks_run
    {owner : ObjectName} {list : List Reference} {steps : List Step}
    (htracks : session.Tracks owner list) (hkept : ∀ step ∈ steps, step ≠ .untrack owner) :
    (session.run steps).Tracks owner list := by
  induction steps generalizing session with
  | nil => exact htracks
  | cons first rest ih =>
      have hfirst := tracks_step htracks (hkept first List.mem_cons_self)
      exact ih hfirst fun step hmem => hkept step (List.mem_cons_of_mem _ hmem)

/-- Nothing is refused, so all references that a resolution followed are left with the session. -/
theorem tracks_step_resolve :
    (session.step (.resolve config .accepting ingress)).Tracks ingress.owner
      (session.resolution config .accepting ingress).references := by
  intro reference hmem
  have haccepted : (session.resolution config .accepting ingress).accepted =
      (session.resolution config .accepting ingress).references :=
    Plan.accepted_run_accepting _ _
  rw [← haccepted] at hmem
  exact References.mem_ownersOf_trackAll.mpr (.inl ⟨rfl, hmem⟩)

/-- A resolution comes out as before if no object changed on which it is known to depend, to a
session that still has its references. -/
theorem resolution_eq_of_unchanged
    (htracks : observer.Tracks ingress.owner
      (session.resolution config .accepting ingress).references)
    (hsame : ∀ query, observer.KnowsDependency config ingress query →
      later.index.find? query = session.index.find? query) :
    later.resolution config .accepting ingress =
      session.resolution config .accepting ingress := by
  refine Plan.run_eq_of_agree fun query hquery => ?_
  have hdependency := (dependency_of_mem_queries hquery).mono htracks
  exact Index.lookup_eq_of_find?_eq (hsame query hdependency)

/-! ## Controllers -/

/-- Says after which steps an ingress is resolved again. -/
abbrev Controller := Session → Step → Bool

/-- After every change to an object on which the ingress is known to depend. -/
def Controller.Watches (controller : Controller) (config : Config) (ingress : Ingress) : Prop :=
  ∀ (session : Session) (step : Step) (query : Query),
    (session.step step).index.find? query ≠ session.index.find? query →
    session.KnowsDependency config ingress query → controller session step = true

/-- A session and the last resolution of an ingress. -/
structure Watch where
  session : Session
  kept : Run ProxyConfig

/-- The ingress is resolved, and its resolution kept. -/
def watch (session : Session) (config : Config) (ingress : Ingress) : Watch :=
  ⟨session.step (.resolve config .accepting ingress),
    session.resolution config .accepting ingress⟩

namespace Watch

def step (controller : Controller) (config : Config) (ingress : Ingress) (watch : Watch)
    (step : Step) : Watch :=
  let next := watch.session.step step
  if controller watch.session step then next.watch config ingress
  else ⟨next, watch.kept⟩

def run (controller : Controller) (config : Config) (ingress : Ingress) (watch : Watch)
    (steps : List Step) : Watch :=
  steps.foldl (step controller config ingress) watch

/-- The kept resolution is the present one, and the session still has its references. -/
structure Fresh (config : Config) (ingress : Ingress) (watch : Watch) : Prop where
  current : watch.kept = watch.session.resolution config .accepting ingress
  tracked : watch.session.Tracks ingress.owner watch.kept.references

end Watch

theorem fresh_watch : (session.watch config ingress).Fresh config ingress where
  current := rfl
  tracked := tracks_step_resolve

theorem Watch.Fresh.step
    {controller : Controller} {watch : Watch} {step : Step}
    (hfresh : watch.Fresh config ingress) (hwatches : controller.Watches config ingress)
    (hkept : step ≠ .untrack ingress.owner) :
    (watch.step controller config ingress step).Fresh config ingress := by
  unfold Watch.step
  cases hdecision : controller watch.session step with
  | true => exact fresh_watch
  | false =>
      have hsame : ∀ query, watch.session.KnowsDependency config ingress query →
          (watch.session.step step).index.find? query = watch.session.index.find? query := by
        intro query hknown
        by_contra hchanged
        have hagain := hwatches watch.session step query hchanged hknown
        rw [hdecision] at hagain
        contradiction
      have htracked := hfresh.tracked
      rw [hfresh.current] at htracked
      exact ⟨hfresh.current.trans (resolution_eq_of_unchanged htracked hsame).symm,
        tracks_step hfresh.tracked hkept⟩

theorem Watch.Fresh.run
    {controller : Controller} {watch : Watch} {steps : List Step}
    (hfresh : watch.Fresh config ingress) (hwatches : controller.Watches config ingress)
    (hkept : ∀ step ∈ steps, step ≠ .untrack ingress.owner) :
    (watch.run controller config ingress steps).Fresh config ingress := by
  induction steps generalizing watch with
  | nil => exact hfresh
  | cons first rest ih =>
      have hfirst := hfresh.step hwatches (hkept first List.mem_cons_self)
      exact ih hfirst fun step hmem => hkept step (List.mem_cons_of_mem _ hmem)

/-! ### The controller that goes by references -/

/-- The object that a step may change. -/
def Step.query? : Step → Option Query
  | .apply resource => resource.query?
  | .delete query => some query
  | .track _ _ => none
  | .untrack _ => none
  | .resolve _ _ _ => none

/-- A change to the object concerns the owner: everyone if it is a namespace or the authority, and
else those who depend on it. -/
def concerns (session : Session) (config : Config) (owner : ObjectName) : Query → Bool
  | .secret name =>
      name = config.caSecret || owner ∈ session.references.ownersOf ⟨.secret, name⟩
  | .service name => owner ∈ session.references.ownersOf ⟨.service, name⟩
  | .endpoints name => owner ∈ session.references.ownersOf ⟨.endpoints, name⟩
  | .nameSpace _ => true

/-- Resolves an ingress again when a step touches an object that concerns its owner. -/
def Controller.byReferences (config : Config) (ingress : Ingress) : Controller :=
  fun session step => step.query?.any (session.concerns config ingress.owner)

theorem query?_eq_of_changed
    {step : Step} {query : Query}
    (hchanged : (session.step step).index.find? query ≠ session.index.find? query) :
    step.query? = some query := by
  by_contra hother
  cases step with
  | apply resource => exact hchanged (Index.find?_apply_of_ne hother)
  | delete deleted =>
      exact hchanged (Index.find?_delete_of_ne fun heq => hother (congrArg some heq))
  | track reference owner => exact hchanged rfl
  | untrack owner => exact hchanged rfl
  | resolve config registrar ingress => exact hchanged rfl

theorem concerns_of_knowsDependency
    {query : Query} (hknown : session.KnowsDependency config ingress query) :
    session.concerns config ingress.owner query = true := by
  cases hknown with
  | authority _ => simp [concerns]
  | nameSpace _ => rfl
  | @followed reference hfollowed =>
      obtain ⟨kind, object⟩ := reference
      cases kind with
      | secret => simp [Reference.query, concerns, hfollowed]
      | service => simp [Reference.query, concerns, hfollowed]
      | endpoints => simp [Reference.query, concerns, hfollowed]

theorem Controller.byReferences_watches (config : Config) (ingress : Ingress) :
    (Controller.byReferences config ingress).Watches config ingress := by
  intro session step query hchanged hknown
  unfold byReferences
  rw [query?_eq_of_changed hchanged]
  exact concerns_of_knowsDependency hknown

/-! ## Soundness -/

/-- If a resolution would come out otherwise later in a session that did not forget the owner, some
object changed on which the ingress is known to depend.  So no controller that watches the ingress
keeps a stale resolution, and the one that goes by references does watch it. -/
theorem retrigger_sound
    (config : Config) (ingress : Ingress) (session : Session) (steps : List Step)
    (hkept : ∀ step ∈ steps, step ≠ .untrack ingress.owner) :
    (∀ later : Session, later = (session.step (.resolve config .accepting ingress)).run steps →
      later.resolution config .accepting ingress ≠
        session.resolution config .accepting ingress →
      ∃ query, later.index.find? query ≠ session.index.find? query ∧
        later.KnowsDependency config ingress query) ∧
    (∀ controller : Controller, controller.Watches config ingress →
      ∀ watch : Watch, watch = (session.watch config ingress).run controller config ingress steps →
        watch.kept = watch.session.resolution config .accepting ingress) ∧
    (Controller.byReferences config ingress).Watches config ingress := by
  refine ⟨?_, ?_, Controller.byReferences_watches config ingress⟩
  · intro later hlater hdifferent
    have htracks : later.Tracks ingress.owner
        (session.resolution config .accepting ingress).references := by
      rw [hlater]
      exact tracks_run tracks_step_resolve hkept
    by_contra hnone
    have hsame : ∀ query, later.KnowsDependency config ingress query →
        later.index.find? query = session.index.find? query := by
      intro query hknown
      by_contra hchanged
      exact hnone ⟨query, hchanged, hknown⟩
    exact hdifferent (resolution_eq_of_unchanged htracks hsame)
  · intro controller hwatches watch hwatch
    rw [hwatch]
    exact (fresh_watch.run hwatches hkept).current

/-! ### A shop that opens -/

/-- The front service appears, and someone else comes and goes. -/
def shopOpening : List Step :=
  [.apply (.service ⟨⟨some "front", some "shop", none, none⟩, none⟩),
    .track ⟨.service, ⟨"shop", "front"⟩⟩ ⟨"shop", "guest"⟩,
    .untrack ⟨"shop", "guest"⟩,
    .apply (.endpoints ⟨⟨some "front", some "shop", none, none⟩, []⟩)]

theorem shopOpening_keeps_storefront (step : Step) (hstep : step ∈ shopOpening) :
    step ≠ .untrack storefront.owner := by
  simp only [shopOpening, List.mem_cons, List.not_mem_nil, or_false] at hstep
  rcases hstep with hservice | htrack | huntrack | hendpoints
  · rw [hservice]
    exact Step.noConfusion
  · rw [htrack]
    exact Step.noConfusion
  · rw [huntrack]
    intro heq
    exact absurd (Step.untrack.inj heq) (by decide)
  · rw [hendpoints]
    exact Step.noConfusion

/-- The storefront waits in the empty shop and has to be resolved again once it opens. -/
theorem storefront_resolved_again :
    (∀ step ∈ shopOpening, step ≠ .untrack storefront.owner) ∧
    (∃ query,
      ((empty.step (.resolve .standard .accepting storefront)).run
        shopOpening).index.find? query ≠ empty.index.find? query ∧
      ((empty.step (.resolve .standard .accepting storefront)).run
        shopOpening).KnowsDependency .standard storefront query) ∧
    (∀ watch : Watch,
      watch = (empty.watch .standard storefront).run
        (Controller.byReferences .standard storefront) .standard storefront shopOpening →
      watch.kept = watch.session.resolution .standard .accepting storefront) := by
  have hsound := retrigger_sound .standard storefront empty shopOpening
    shopOpening_keeps_storefront
  obtain ⟨hknown, hfresh, hwatches⟩ := hsound
  refine ⟨shopOpening_keeps_storefront, hknown _ rfl ?_, hfresh _ hwatches⟩
  intro hsame
  exact absurd (congrArg Run.queries hsame) (by decide)

end Session

end EdgeRouting
