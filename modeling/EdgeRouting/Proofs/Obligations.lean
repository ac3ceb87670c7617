import EdgeRouting.Ingress.Annotations
import EdgeRouting.Ingress.Basic
import EdgeRouting.Proofs.PlanExecution

/-!
# Obligations

A plan can be read as a list of obligations: references that have to be accepted, objects that have
to be there, and conditions on the ingress itself.  They are seen to in order, and the first one
that meets an obstacle ends the run.

`Plan.Fulfils` relates a plan to its obligations against one lookup.  It is closed under sequences
of plans, and it fixes the whole run, the transcript included.
-/

namespace EdgeRouting

/-! ## Lists in which elements answer to what came before -/

section EachAfter

variable {σ : Type}

/-- Every element of the list stands in the relation to all that comes before it. -/
def EachAfter (holds : List σ → σ → Prop) : (before list : List σ) → Prop
  | _, [] => True
  | before, first :: rest => holds before first ∧ EachAfter holds (before ++ [first]) rest

instance EachAfter.decidable (holds : List σ → σ → Prop)
    [∀ before element, Decidable (holds before element)] :
    ∀ before list, Decidable (EachAfter holds before list)
  | _, [] => .isTrue trivial
  | before, first :: rest =>
      have := decidable holds (before ++ [first]) rest
      inferInstanceAs (Decidable (_ ∧ _))

variable {holds : List σ → σ → Prop}

theorem eachAfter_append {before first second : List σ} :
    EachAfter holds before (first ++ second) ↔
      EachAfter holds before first ∧ EachAfter holds (before ++ first) second := by
  induction first generalizing before with
  | nil => simp [EachAfter]
  | cons head rest ih =>
      simp only [List.cons_append, EachAfter, ih, and_assoc]
      rw [List.append_assoc, List.singleton_append]

theorem EachAfter.at_split
    {before list earlier later : List σ} {element : σ}
    (heach : EachAfter holds before list)
    (hsplit : list = earlier ++ element :: later) :
    holds (before ++ earlier) element := by
  subst list
  exact (eachAfter_append.mp heach).2.1

theorem EachAfter.of_prefix
    {before list earlier later : List σ}
    (heach : EachAfter holds before list) (hsplit : list = earlier ++ later) :
    EachAfter holds before earlier := by
  subst list
  exact (eachAfter_append.mp heach).1

/-- A relation that looks only at what came last holds after more as well. -/
theorem EachAfter.weaken
    (hlocal : ∀ earlier before element, holds before element →
      holds (earlier ++ before) element)
    {before list : List σ} (heach : EachAfter holds before list) (earlier : List σ) :
    EachAfter holds (earlier ++ before) list := by
  induction list generalizing before with
  | nil => trivial
  | cons first rest ih =>
      refine ⟨hlocal earlier before first heach.1, ?_⟩
      rw [List.append_assoc]
      exact ih heach.2

theorem EachAfter.append
    (hlocal : ∀ earlier before element, holds before element →
      holds (earlier ++ before) element)
    {first second : List σ} (hfirst : EachAfter holds [] first)
    (hsecond : EachAfter holds [] second) :
    EachAfter holds [] (first ++ second) := by
  refine eachAfter_append.mpr ⟨hfirst, ?_⟩
  have hweak := hsecond.weaken hlocal first
  rwa [List.append_nil] at hweak

theorem EachAfter.flatMap
    (hlocal : ∀ earlier before element, holds before element →
      holds (earlier ++ before) element)
    {τ : Type} {list : List τ} {parts : τ → List σ}
    (hparts : ∀ element ∈ list, EachAfter holds [] (parts element)) :
    EachAfter holds [] (list.flatMap parts) := by
  induction list with
  | nil => trivial
  | cons first rest ih =>
      rw [List.flatMap_cons]
      exact (hparts first List.mem_cons_self).append hlocal
        (ih fun element hmem => hparts element (List.mem_cons_of_mem _ hmem))

theorem eachAfter_or_first_exception
    (holds : List σ → σ → Prop) (before list : List σ) :
    EachAfter holds before list ∨
      ∃ earlier element later, list = earlier ++ element :: later ∧
        EachAfter holds before earlier ∧ ¬ holds (before ++ earlier) element := by
  induction list generalizing before with
  | nil => exact .inl trivial
  | cons first rest ih =>
      by_cases hfirst : holds before first
      · rcases ih (before ++ [first]) with
          hrest | ⟨earlier, element, later, hsplit, hearlier, hexception⟩
        · exact .inl ⟨hfirst, hrest⟩
        · refine .inr ⟨first :: earlier, element, later, ?_, ⟨hfirst, hearlier⟩, ?_⟩
          · rw [hsplit, List.cons_append]
          · rwa [List.append_assoc, List.singleton_append] at hexception
      · refine .inr ⟨[], first, rest, rfl, trivial, ?_⟩
        rwa [List.append_nil]

end EachAfter

/-! ## Obstacles and obligations -/

/-- What ends a resolution without a value. -/
inductive Obstacle where
  /-- Something does not exist yet. -/
  | absence
  | failure (error : ResolveError)
  deriving DecidableEq, Repr

namespace Obstacle

variable {α : Type}

def result : Obstacle → Except ResolveError (Outcome α)
  | absence => .ok .notReady
  | failure error => .error error

theorem result_ne_ready (obstacle : Obstacle) (value : α) :
    obstacle.result ≠ .ok (.ready value) := by
  cases obstacle <;> simp [result]

def plan : Obstacle → Plan α
  | absence => .notReady
  | failure error => .fail error

end Obstacle

/-- The objects that a resolution waits for if they do not exist. -/
def Subject.isAwaited : Subject → Bool
  | service => true
  | endpoints => true
  | secret => false
  | caSecret => false
  | nameSpace => false

def Subject.obstacle (subject : Subject) (query : Query) (cause : LookupError) : Obstacle :=
  if subject.isAwaited && cause.isNotFound then .absence
  else .failure (.fetch subject query.object cause)

def Rule.hasBackend (rule : Rule) : Bool := rule.paths.any fun path => !path.splits.isEmpty

/-- A condition on an ingress that needs no lookup. -/
inductive Condition where
  | dropRoutesReadable (annotations : TextMap)
  | hasBackend (rule : Rule)

def Condition.obstacle? : Condition → Option Obstacle
  | dropRoutesReadable annotations =>
      match Annotations.dropRoutes annotations with
      | .ok _ => none
      | .error fault => some (.failure (.dropRoutes fault))
  | hasBackend rule => if rule.hasBackend then none else some .absence

inductive Obligation where
  | register (reference : Reference)
  | fetch (subject : Subject) (query : Query)
  | hold (condition : Condition)

namespace Obligation

def reference? : Obligation → Option Reference
  | register reference => some reference
  | _ => none

def references (obligations : List Obligation) : List Reference :=
  obligations.filterMap reference?

/-- What ends a run at this obligation, if anything does, after the given references. -/
def obstacle? (lookup : Lookup) (registrar : Registrar) (earlier : List Reference) :
    Obligation → Option Obstacle
  | register reference =>
      (registrar earlier reference).map fun reason => .failure (.track reference reason)
  | fetch subject query =>
      match lookup query with
      | .ok _ => none
      | .error cause => some (subject.obstacle query cause)
  | hold condition => condition.obstacle?

/-- The obligation meets no obstacle after those before it. -/
def Met (lookup : Lookup) (registrar : Registrar) (before : List Obligation)
    (obligation : Obligation) : Prop :=
  obligation.obstacle? lookup registrar (references before) = none

instance decidableMet (lookup : Lookup) (registrar : Registrar) (before : List Obligation)
    (obligation : Obligation) : Decidable (obligation.Met lookup registrar before) :=
  inferInstanceAs (Decidable (_ = none))

/-- What the transcript shows of an obligation. -/
def event? (met : Bool) : Obligation → Option Event
  | register reference => some (.registration reference met)
  | fetch _ query => some (.lookup query)
  | hold _ => none

def events (obligations : List Obligation) : List Event := obligations.filterMap (event? true)

@[simp] theorem references_append (first second : List Obligation) :
    references (first ++ second) = references first ++ references second :=
  List.filterMap_append

@[simp] theorem events_append (first second : List Obligation) :
    events (first ++ second) = events first ++ events second :=
  List.filterMap_append

/-- The references of a transcript are those of its obligations, and all of them are accepted. -/
theorem filterMap_reference?_events (obligations : List Obligation) :
    (events obligations).filterMap Event.reference? = references obligations := by
  unfold events references
  rw [List.filterMap_filterMap]
  congr 1
  funext obligation
  cases obligation <;> rfl

theorem filterMap_accepted?_events (obligations : List Obligation) :
    (events obligations).filterMap Event.accepted? = references obligations := by
  unfold events references
  rw [List.filterMap_filterMap]
  congr 1
  funext obligation
  cases obligation <;> rfl

@[simp] theorem references_fetch (subject : Subject) (query : Query) :
    references [.fetch subject query] = [] := rfl

@[simp] theorem references_hold (condition : Condition) :
    references [.hold condition] = [] := rfl

@[simp] theorem events_hold (condition : Condition) : events [.hold condition] = [] := rfl

end Obligation

/-! ## Plans that fulfil obligations -/

namespace Plan

variable {α β : Type} {lookup : Lookup} {registrar : Registrar}

/-- Against the lookup, the plan sees to the obligations in order, ends at the first one that meets
an obstacle, and has its value after the last. -/
inductive Fulfils (lookup : Lookup) : Plan α → List Obligation → Prop where
  | done (value : α) : Fulfils lookup (.done value) []
  | register {reference : Reference} {next : Plan α} {rest : List Obligation}
      (hrest : Fulfils lookup next rest) :
      Fulfils lookup (.register reference next) (.register reference :: rest)
  | fetched {subject : Subject} {query : Query}
      {next : Except LookupError query.Answer → Plan α}
      {object : query.Answer} {rest : List Obligation}
      (hanswer : lookup query = .ok object)
      (hrest : Fulfils lookup (next (.ok object)) rest) :
      Fulfils lookup (.ask query next) (.fetch subject query :: rest)
  | missed {subject : Subject} {query : Query}
      {next : Except LookupError query.Answer → Plan α}
      {cause : LookupError} {rest : List Obligation}
      (hanswer : lookup query = .error cause)
      (hstop : next (.error cause) = (subject.obstacle query cause).plan) :
      Fulfils lookup (.ask query next) (.fetch subject query :: rest)
  | held {condition : Condition} {plan : Plan α} {rest : List Obligation}
      (hholds : condition.obstacle? = none) (hrest : Fulfils lookup plan rest) :
      Fulfils lookup plan (.hold condition :: rest)
  | broken {condition : Condition} {obstacle : Obstacle} {plan : Plan α}
      {rest : List Obligation}
      (hbroken : condition.obstacle? = some obstacle) (hstop : plan = obstacle.plan) :
      Fulfils lookup plan (.hold condition :: rest)

namespace Fulfils

/-! ### Sequences -/

theorem obstaclePlan_bind (obstacle : Obstacle) (next : α → Plan β) :
    obstacle.plan.bind next = obstacle.plan := by
  cases obstacle <;> rfl

/-- One plan after another sees to the obligations of the first and then to those of the second.
The second is only needed for the value that the first has against this lookup. -/
theorem bind
    {plan : Plan α} {next : α → Plan β} {first second : List Obligation}
    (hplan : plan.Fulfils lookup first)
    (hnext : ∀ value, plan.value? lookup = some value →
      (next value).Fulfils lookup second) :
    (plan.bind next).Fulfils lookup (first ++ second) := by
  induction hplan with
  | done value => exact hnext value rfl
  | register hrest ih => exact .register (ih hnext)
  | fetched hanswer hrest ih =>
      refine .fetched hanswer (ih fun value hvalue => hnext value ?_)
      simp only [value?]
      rw [hanswer]
      exact hvalue
  | missed hanswer hstop =>
      refine .missed hanswer ?_
      rw [hstop, obstaclePlan_bind]
  | held hholds hrest ih => exact .held hholds (ih hnext)
  | broken hbroken hstop =>
      refine .broken hbroken ?_
      rw [hstop, obstaclePlan_bind]

theorem thenDone {plan : Plan α} {obligations : List Obligation}
    (hplan : plan.Fulfils lookup obligations) (finish : α → β) :
    (plan.bind fun value => .done (finish value)).Fulfils lookup obligations := by
  rw [← List.append_nil obligations]
  exact hplan.bind fun value _ => .done (finish value)

theorem follow (reference : Reference) :
    (Plan.follow reference).Fulfils lookup [.register reference] :=
  .register (.done ())

theorem need {subject : Subject} (hsubject : subject.isAwaited = false) (query : Query) :
    (Plan.need subject query).Fulfils lookup [.fetch subject query] := by
  cases hanswer : lookup query with
  | ok object => exact .fetched hanswer (.done object)
  | error cause =>
      refine .missed hanswer ?_
      simp [Subject.obstacle, hsubject, Obstacle.plan]

theorem await {subject : Subject} (hsubject : subject.isAwaited = true) (query : Query) :
    (Plan.await subject query).Fulfils lookup [.fetch subject query] := by
  cases hanswer : lookup query with
  | ok object => exact .fetched hanswer (.done object)
  | error cause =>
      refine .missed hanswer ?_
      cases hmissing : cause.isNotFound with
      | true => simp [Subject.obstacle, hsubject, hmissing, Obstacle.plan]
      | false => simp [Subject.obstacle, hsubject, hmissing, Obstacle.plan]

theorem each
    {step : α → Plan β} {list : List α} {obligations : α → List Obligation}
    (hstep : ∀ element ∈ list, (step element).Fulfils lookup (obligations element)) :
    (Plan.each step list).Fulfils lookup (list.flatMap obligations) := by
  induction list with
  | nil => exact .done []
  | cons first rest ih =>
      rw [List.flatMap_cons]
      refine (hstep first List.mem_cons_self).bind fun value _ => ?_
      have hrest := ih fun element hmem => hstep element (List.mem_cons_of_mem _ hmem)
      exact hrest.thenDone fun values => value :: values

/-! ### Runs -/

theorem exists_done_of_nil {plan : Plan α} (hplan : plan.Fulfils lookup []) :
    ∃ value, plan = .done value := by
  cases hplan with
  | done value => exact ⟨value, rfl⟩

theorem runFrom_step
    {plan : Plan α} {before rest : List Obligation} {first : Obligation}
    (hplan : plan.Fulfils lookup (first :: rest))
    (hmet : first.Met lookup registrar before) :
    ∃ next : Plan α, next.Fulfils lookup rest ∧
      plan.runFrom lookup registrar (Obligation.references before) =
        (next.runFrom lookup registrar (Obligation.references (before ++ [first]))).afterAll
          (Obligation.events [first]) := by
  unfold Obligation.Met at hmet
  cases hplan with
  | @register reference next _ hrest =>
      have haccepted : registrar (Obligation.references before) reference = none := by
        simpa [Obligation.obstacle?] using hmet
      refine ⟨next, hrest, ?_⟩
      rw [Obligation.references_append]
      simp only [runFrom, haccepted]
      rfl
  | @fetched subject query next object _ hanswer hrest =>
      refine ⟨next (.ok object), hrest, ?_⟩
      rw [Obligation.references_append, Obligation.references_fetch, List.append_nil]
      simp only [runFrom]
      rw [hanswer]
      rfl
  | missed hanswer hstop =>
      simp only [Obligation.obstacle?] at hmet
      rw [hanswer] at hmet
      simp at hmet
  | held hholds hrest =>
      refine ⟨plan, hrest, ?_⟩
      rw [Obligation.references_append, Obligation.references_hold, List.append_nil,
        Obligation.events_hold]
      rfl
  | broken hbroken hstop =>
      simp only [Obligation.obstacle?] at hmet
      rw [hbroken] at hmet
      simp at hmet

theorem runFrom_of_obstacle
    {plan : Plan α} {before rest : List Obligation} {first : Obligation}
    {obstacle : Obstacle}
    (hplan : plan.Fulfils lookup (first :: rest))
    (hobstacle : first.obstacle? lookup registrar (Obligation.references before) =
      some obstacle) :
    plan.runFrom lookup registrar (Obligation.references before) =
      ⟨obstacle.result, Obligation.references (before ++ [first]),
        (first.event? false).toList⟩ := by
  have hend : ∀ earlier, (obstacle.plan : Plan α).runFrom lookup registrar earlier =
      ⟨obstacle.result, earlier, []⟩ := by
    intro earlier
    cases obstacle <;> rfl
  rw [Obligation.references_append]
  cases hplan with
  | @register reference next _ hrest =>
      obtain ⟨reason, hrefused, hreason⟩ := Option.map_eq_some_iff.mp hobstacle
      subst obstacle
      simp only [runFrom, hrefused]
      rfl
  | fetched hanswer hrest =>
      simp only [Obligation.obstacle?] at hobstacle
      rw [hanswer] at hobstacle
      simp at hobstacle
  | @missed subject query next cause _ hanswer hstop =>
      simp only [Obligation.obstacle?] at hobstacle
      rw [hanswer] at hobstacle
      simp only [Option.some.injEq] at hobstacle
      rw [Obligation.references_fetch, List.append_nil]
      simp only [runFrom]
      rw [hanswer, hstop, hobstacle, hend]
      rfl
  | held hholds hrest =>
      simp only [Obligation.obstacle?] at hobstacle
      rw [hholds] at hobstacle
      simp at hobstacle
  | broken hbroken hstop =>
      simp only [Obligation.obstacle?] at hobstacle
      rw [hbroken] at hobstacle
      simp only [Option.some.injEq] at hobstacle
      rw [hstop, hobstacle, hend, Obligation.references_hold, List.append_nil]
      rfl

/-- The obligations that are met first are all in the transcript, and what follows is the run of a
plan for the others. -/
theorem runFrom_steps
    {plan : Plan α} {before met rest : List Obligation}
    (hplan : plan.Fulfils lookup (met ++ rest))
    (hmet : EachAfter (Obligation.Met lookup registrar) before met) :
    ∃ next : Plan α, next.Fulfils lookup rest ∧
      plan.runFrom lookup registrar (Obligation.references before) =
        (next.runFrom lookup registrar (Obligation.references (before ++ met))).afterAll
          (Obligation.events met) := by
  induction met generalizing plan before with
  | nil =>
      refine ⟨plan, hplan, ?_⟩
      rw [List.append_nil]
      rfl
  | cons first others ih =>
      obtain ⟨middle, hmiddle, hfirst⟩ := hplan.runFrom_step hmet.1
      obtain ⟨next, hnext, hothers⟩ := ih hmiddle hmet.2
      refine ⟨next, hnext, ?_⟩
      rw [hfirst, hothers, Run.afterAll_afterAll, ← Obligation.events_append,
        List.append_assoc, List.singleton_append]

theorem run_of_met {plan : Plan α} {obligations : List Obligation}
    (hplan : plan.Fulfils lookup obligations)
    (hmet : EachAfter (Obligation.Met lookup registrar) [] obligations) :
    ∃ value, plan.run lookup registrar =
      ⟨.ok (.ready value), Obligation.references obligations,
        Obligation.events obligations⟩ := by
  rw [← List.append_nil obligations] at hplan
  obtain ⟨next, hnext, hrun⟩ := hplan.runFrom_steps hmet
  obtain ⟨value, hvalue⟩ := hnext.exists_done_of_nil
  refine ⟨value, hrun.trans ?_⟩
  rw [hvalue]
  simp [runFrom, Run.afterAll]

theorem run_of_first_obstacle
    {plan : Plan α} {met later : List Obligation} {obligation : Obligation}
    {obstacle : Obstacle}
    (hplan : plan.Fulfils lookup (met ++ obligation :: later))
    (hmet : EachAfter (Obligation.Met lookup registrar) [] met)
    (hobstacle : obligation.obstacle? lookup registrar (Obligation.references met) =
      some obstacle) :
    plan.run lookup registrar =
      ⟨obstacle.result, Obligation.references (met ++ [obligation]),
        Obligation.events met ++ (obligation.event? false).toList⟩ := by
  obtain ⟨next, hnext, hrun⟩ := hplan.runFrom_steps hmet
  refine hrun.trans ?_
  rw [List.nil_append, hnext.runFrom_of_obstacle hobstacle]
  rfl

/-- A run either meets all obligations and has a value, or ends at the first obstacle.  Its
references and its transcript show exactly the obligations up to there. -/
theorem run_cases
    {plan : Plan α} {obligations : List Obligation}
    (hplan : plan.Fulfils lookup obligations) (registrar : Registrar) :
    (EachAfter (Obligation.Met lookup registrar) [] obligations ∧
      ∃ value, plan.run lookup registrar =
        ⟨.ok (.ready value), Obligation.references obligations,
          Obligation.events obligations⟩) ∨
    ∃ met obligation later obstacle, obligations = met ++ obligation :: later ∧
      EachAfter (Obligation.Met lookup registrar) [] met ∧
      obligation.obstacle? lookup registrar (Obligation.references met) = some obstacle ∧
      plan.run lookup registrar =
        ⟨obstacle.result, Obligation.references (met ++ [obligation]),
          Obligation.events met ++ (obligation.event? false).toList⟩ := by
  rcases eachAfter_or_first_exception (Obligation.Met lookup registrar) [] obligations with
    hmet | ⟨met, obligation, later, hsplit, hmet, hexception⟩
  · exact .inl ⟨hmet, hplan.run_of_met hmet⟩
  · obtain ⟨obstacle, hobstacle⟩ := Option.ne_none_iff_exists'.mp hexception
    rw [hsplit] at hplan
    exact .inr ⟨met, obligation, later, obstacle, hsplit, hmet, hobstacle,
      hplan.run_of_first_obstacle hmet hobstacle⟩

end Fulfils

end Plan

end EdgeRouting
