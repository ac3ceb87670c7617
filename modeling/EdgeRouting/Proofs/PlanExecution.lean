import EdgeRouting.Resolution.Plan
import Mathlib.Data.List.Forall2

/-!
# Carrying out plans

Laws of plans and of their runs that hold whatever a plan is about.  A plan has a value against a
lookup if everything that it needs is there; the value of a sequence of plans is put together from
those of its parts.  A run depends on the lookup only through the objects that it asked for, so two
lookups that agree on those cannot be told apart.  It lists the references that its transcript
shows.
-/

namespace EdgeRouting

namespace Run

variable {α : Type}

def afterAll (events : List Event) (run : Run α) : Run α :=
  { run with transcript := events ++ run.transcript }

theorem afterAll_afterAll (first second : List Event) (run : Run α) :
    (run.afterAll second).afterAll first = run.afterAll (first ++ second) := by
  simp [afterAll, List.append_assoc]

@[simp] theorem queries_after_lookup (run : Run α) (query : Query) :
    (run.after (.lookup query)).queries = query :: run.queries := rfl

@[simp] theorem references_after (run : Run α) (event : Event) :
    (run.after event).references = run.references := rfl

@[simp] theorem transcript_after (run : Run α) (event : Event) :
    (run.after event).transcript = event :: run.transcript := rfl

@[simp] theorem accepted_after_acceptance (run : Run α) (reference : Reference) :
    (run.after (.registration reference true)).accepted =
      reference :: run.accepted := rfl

@[simp] theorem accepted_after_lookup (run : Run α) (query : Query) :
    (run.after (.lookup query)).accepted = run.accepted := rfl

theorem mem_queries_iff (run : Run α) (query : Query) :
    query ∈ run.queries ↔ Event.lookup query ∈ run.transcript := by
  unfold queries
  rw [List.mem_filterMap]
  constructor
  · rintro ⟨event, hevent, hquery⟩
    cases event with
    | registration reference accepted => simp [Event.query?] at hquery
    | lookup asked =>
        simp only [Event.query?, Option.some.injEq] at hquery
        subst asked
        exact hevent
  · intro hevent
    exact ⟨.lookup query, hevent, rfl⟩

theorem mem_accepted_iff (run : Run α) (reference : Reference) :
    reference ∈ run.accepted ↔ Event.registration reference true ∈ run.transcript := by
  unfold accepted
  rw [List.mem_filterMap]
  constructor
  · rintro ⟨event, hevent, hreference⟩
    cases event with
    | registration registered accepted =>
        cases accepted with
        | false => simp [Event.accepted?] at hreference
        | true =>
            simp only [Event.accepted?, Option.some.injEq] at hreference
            subst registered
            exact hevent
    | lookup asked => simp [Event.accepted?] at hreference
  · intro hevent
    exact ⟨.registration reference true, hevent, rfl⟩

end Run

namespace Plan

variable {α β : Type}

theorem bind_eq (plan : Plan α) (next : α → Plan β) :
    plan >>= next = plan.bind next := rfl

theorem pure_eq (value : α) : (pure value : Plan α) = done value := rfl

/-! ## The value of a plan -/

/-- The value that a plan has once all its references are accepted. -/
def value? (lookup : Lookup) : Plan α → Option α
  | done value => some value
  | notReady => none
  | fail _ => none
  | register _ next => next.value? lookup
  | ask query next => (next (lookup query)).value? lookup

@[simp] theorem value?_done (lookup : Lookup) (value : α) :
    (done value).value? lookup = some value := rfl

theorem value?_bind
    (lookup : Lookup) (plan : Plan α) (next : α → Plan β) :
    (plan.bind next).value? lookup =
      (plan.value? lookup).bind fun value => (next value).value? lookup := by
  induction plan with
  | done value => rfl
  | notReady => rfl
  | fail error => rfl
  | register reference rest ih => exact ih
  | ask query rest ih => exact ih (lookup query)

theorem value?_bind_eq_some_iff
    {lookup : Lookup} {plan : Plan α} {next : α → Plan β} {value : β} :
    (plan.bind next).value? lookup = some value ↔
      ∃ first, plan.value? lookup = some first ∧
        (next first).value? lookup = some value := by
  rw [value?_bind]
  exact Option.bind_eq_some_iff

theorem value?_await_eq_some_iff
    {lookup : Lookup} {subject : Subject} {query : Query} {object : query.Answer} :
    (await subject query).value? lookup = some object ↔ lookup query = .ok object := by
  simp only [await, value?]
  cases hanswer : lookup query with
  | ok found => simp [value?]
  | error cause =>
      cases hmissing : cause.isNotFound with
      | true => simp [value?, hmissing]
      | false => simp [value?, hmissing]

theorem value?_need_eq_some_iff
    {lookup : Lookup} {subject : Subject} {query : Query} {object : query.Answer} :
    (need subject query).value? lookup = some object ↔ lookup query = .ok object := by
  simp only [need, value?]
  cases hanswer : lookup query with
  | ok found => simp [value?]
  | error cause => simp [value?]

theorem value?_of_ready
    {lookup : Lookup} {registrar : Registrar} {plan : Plan α} {earlier : List Reference}
    {value : α} (hready : (plan.runFrom lookup registrar earlier).result = .ok (.ready value)) :
    plan.value? lookup = some value := by
  induction plan generalizing earlier with
  | done found =>
      simp only [runFrom, Except.ok.injEq, Outcome.ready.injEq] at hready
      rw [value?_done, hready]
  | notReady => simp [runFrom] at hready
  | fail error => simp [runFrom] at hready
  | register reference next ih =>
      simp only [runFrom] at hready
      cases hdecision : registrar earlier reference with
      | some reason => simp [hdecision] at hready
      | none =>
          simp only [hdecision] at hready
          exact ih hready
  | ask query next ih => exact ih (lookup query) hready

/-- The plans for the elements of a list have one value for each element, in order. -/
theorem value?_each_eq_some_iff
    {lookup : Lookup} {step : α → Plan β} {list : List α} {values : List β} :
    (each step list).value? lookup = some values ↔
      List.Forall₂ (fun element value => (step element).value? lookup = some value)
        list values := by
  induction list generalizing values with
  | nil =>
      simp only [each, value?_done, Option.some.injEq, List.forall₂_nil_left_iff]
      exact eq_comm
  | cons first rest ih =>
      simp only [each, bind_eq, pure_eq, value?_bind_eq_some_iff, value?_done, ih,
        List.forall₂_cons_left_iff, Option.some.injEq]
      constructor
      · rintro ⟨value, hvalue, others, hothers, heq⟩
        exact ⟨value, others, hvalue, hothers, heq.symm⟩
      · rintro ⟨value, others, hvalue, hothers, heq⟩
        exact ⟨value, hvalue, others, hothers, heq.symm⟩

/-! ## What a run depends on -/

/-- A lookup that answers all questions of a run as before leaves the run as it is: the plan
cannot ask anything else before an answer differs. -/
theorem runFrom_eq_of_agree
    {lookup other : Lookup} {registrar : Registrar} {plan : Plan α}
    {earlier : List Reference}
    (hagree : ∀ query ∈ (plan.runFrom lookup registrar earlier).queries,
      other query = lookup query) :
    plan.runFrom other registrar earlier = plan.runFrom lookup registrar earlier := by
  induction plan generalizing earlier with
  | done value => rfl
  | notReady => rfl
  | fail error => rfl
  | register reference next ih =>
      simp only [runFrom] at hagree ⊢
      cases hdecision : registrar earlier reference with
      | some reason => rfl
      | none =>
          simp only [hdecision] at hagree ⊢
          rw [ih hagree]
  | ask query next ih =>
      simp only [runFrom, Run.queries_after_lookup, List.mem_cons] at hagree ⊢
      have hanswer : other query = lookup query := hagree query (.inl rfl)
      rw [hanswer, ih (lookup query) fun asked hasked => hagree asked (.inr hasked)]

theorem run_eq_of_agree
    {lookup other : Lookup} {registrar : Registrar} {plan : Plan α}
    (hagree : ∀ query ∈ (plan.run lookup registrar).queries,
      other query = lookup query) :
    plan.run other registrar = plan.run lookup registrar :=
  runFrom_eq_of_agree hagree

/-! ## The references of a run -/

/-- The references that a run lists are those that its transcript shows. -/
theorem references_runFrom
    (lookup : Lookup) (registrar : Registrar) (plan : Plan α) (earlier : List Reference) :
    (plan.runFrom lookup registrar earlier).references =
      earlier ++
        (plan.runFrom lookup registrar earlier).transcript.filterMap Event.reference? := by
  induction plan generalizing earlier with
  | done value => exact (List.append_nil earlier).symm
  | notReady => exact (List.append_nil earlier).symm
  | fail error => exact (List.append_nil earlier).symm
  | register reference next ih =>
      simp only [runFrom]
      cases registrar earlier reference with
      | some reason => rfl
      | none =>
          rw [Run.references_after, Run.transcript_after, ih (earlier ++ [reference]),
            List.append_assoc]
          rfl
  | ask query next ih => exact ih (lookup query) earlier

theorem references_run (lookup : Lookup) (registrar : Registrar) (plan : Plan α) :
    (plan.run lookup registrar).references =
      (plan.run lookup registrar).transcript.filterMap Event.reference? :=
  references_runFrom lookup registrar plan []

theorem accepted_runFrom_accepting
    (lookup : Lookup) (plan : Plan α) (earlier : List Reference) :
    earlier ++ (plan.runFrom lookup .accepting earlier).accepted =
      (plan.runFrom lookup .accepting earlier).references := by
  induction plan generalizing earlier with
  | done value => exact List.append_nil earlier
  | notReady => exact List.append_nil earlier
  | fail error => exact List.append_nil earlier
  | register reference next ih =>
      simp only [runFrom, Registrar.accepting, Run.accepted_after_acceptance,
        Run.references_after]
      rw [← ih, List.append_assoc, List.singleton_append]
  | ask query next ih => exact ih (lookup query) earlier

theorem accepted_run_accepting (lookup : Lookup) (plan : Plan α) :
    (plan.run lookup .accepting).accepted = (plan.run lookup .accepting).references :=
  accepted_runFrom_accepting lookup plan []

end Plan

end EdgeRouting
