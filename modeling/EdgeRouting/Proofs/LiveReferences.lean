import EdgeRouting.Proofs.InForce
import EdgeRouting.Proofs.PlanExecution
import EdgeRouting.Proofs.ReferenceTracking
import EdgeRouting.Session

/-!
# Live references

References come from single registrations and from resolutions, which register what their registrar
accepts whatever becomes of them, and they go when their owner is forgotten.  What an owner has is
what was registered for it since it was forgotten last, and both ways of asking for it agree.  The
steps of different owners do not meet, and for one owner only the order of forgetting relative to
registering counts.
-/

namespace EdgeRouting

/-! ## Orders -/

/-- By namespace, and within a namespace by name. -/
def ObjectName.Precedes (first second : ObjectName) : Prop :=
  first.ns < second.ns ∨ (first.ns = second.ns ∧ first.name < second.name)

theorem ObjectName.compare_eq_lt_iff {first second : ObjectName} :
    compare first second = .lt ↔ first.Precedes second := by
  have htext (left right : String) : compare left right = .lt ↔ left < right :=
    compareOfLessAndEq_eq_lt
  change compareLex (compareOn ObjectName.ns) (compareOn ObjectName.name) first second = .lt ↔ _
  rw [compareLex, Ordering.then_eq_lt]
  simp [compareOn, Precedes, htext]

/-- By kind, and within a kind by object. -/
def Reference.Precedes (first second : Reference) : Prop :=
  first.kind.rank < second.kind.rank ∨
    (first.kind = second.kind ∧ first.object.Precedes second.object)

theorem Reference.compare_eq_lt_iff {first second : Reference} :
    compare first second = .lt ↔ first.Precedes second := by
  have hkind : first.kind.rank = second.kind.rank ↔ first.kind = second.kind :=
    ⟨TrackedKind.rank_injective, congrArg TrackedKind.rank⟩
  change compareLex (compareOn fun reference : Reference => reference.kind.rank)
    (compareOn Reference.object) first second = .lt ↔ _
  rw [compareLex, Ordering.then_eq_lt]
  simp [compareOn, Precedes, Nat.compare_eq_lt, ObjectName.compare_eq_lt_iff, hkind]

namespace References

/-! ## Steps -/

/-- What happens to references. -/
inductive Step where
  | track (reference : Reference) (owner : ObjectName)
  | untrack (owner : ObjectName)
  /-- An ingress is resolved against some lookup.  The registrar decides which of the ingress's
  references are accepted. -/
  | resolve (config : Config) (lookup : Lookup) (registrar : Registrar) (ingress : Ingress)

namespace Step

def owner : Step → ObjectName
  | track _ owner => owner
  | untrack owner => owner
  | resolve _ _ _ ingress => ingress.owner

/-- The step registers the reference for the owner, and the registration is accepted. -/
inductive Registers : Step → Reference → ObjectName → Prop
  | track (reference : Reference) (owner : ObjectName) :
      Registers (.track reference owner) reference owner
  | resolve {config : Config} {lookup : Lookup} {registrar : Registrar} {ingress : Ingress}
      {reference : Reference}
      (haccepted : Event.registration reference true ∈
        (EdgeRouting.resolve config lookup registrar ingress).transcript) :
      Registers (.resolve config lookup registrar ingress) reference ingress.owner

end Step

/-- A resolution leaves the references that were accepted, also if it fails or has to wait. -/
def step (references : References) : Step → References
  | .track reference owner => references.track reference owner
  | .untrack owner => references.untrack owner
  | .resolve config lookup registrar ingress =>
      references.trackAll (resolve config lookup registrar ingress).accepted ingress.owner

def run (references : References) (steps : List Step) : References := steps.foldl step references

/-- Some registration of the reference for the owner was accepted, and the owner was not forgotten
since. -/
def Live (steps : List Step) (reference : Reference) (owner : ObjectName) : Prop :=
  InForce (fun step => step.Registers reference owner) (fun step => step = .untrack owner) steps

variable {references : References} {owner other : ObjectName} {reference : Reference}

/-- The references of an owner come in order, each of them once. -/
theorem sorted_referencesOf (references : References) (owner : ObjectName) :
    (references.referencesOf owner).keys.Pairwise Reference.Precedes :=
  (references.referencesOf owner).sorted_keys.imp Reference.compare_eq_lt_iff.mp

/-- The owners of a reference come in order, each of them once. -/
theorem sorted_ownersOf (references : References) (reference : Reference) :
    (references.ownersOf reference).Pairwise ObjectName.Precedes := by
  unfold ownersOf
  rw [List.pairwise_map]
  apply List.Pairwise.filter
  exact references.byOwner.sorted.imp ObjectName.compare_eq_lt_iff.mp

/-! ## References by their members -/

/-- No owner is kept without references. -/
def AllInhabited (references : References) : Prop := references.byOwner.AllInhabited

theorem allInhabited_empty : empty.AllInhabited := KeyMap.allInhabited_empty

theorem AllInhabited.track (hall : references.AllInhabited) :
    (references.track reference owner).AllInhabited :=
  KeyMap.AllInhabited.insert hall (KeyMap.isEmpty_insert ..)

theorem AllInhabited.untrack (hall : references.AllInhabited) :
    (references.untrack owner).AllInhabited :=
  KeyMap.AllInhabited.erase hall

theorem AllInhabited.trackAll {list : List Reference} (hall : references.AllInhabited) :
    (references.trackAll list owner).AllInhabited := by
  induction list generalizing references with
  | nil => exact hall
  | cons first rest ih => exact ih hall.track

theorem AllInhabited.get?_byOwner (hall : references.AllInhabited) (owner : ObjectName) :
    references.byOwner.get? owner =
      if (references.referencesOf owner).isEmpty then none
      else some (references.referencesOf owner) := by
  unfold referencesOf
  cases hset : references.byOwner.get? owner with
  | none => rfl
  | some set => simp [hall owner set hset]

/-- References are what their members say, as long as no owner is kept without one. -/
theorem eq_of_mem_ownersOf_iff
    {first second : References} (hfirst : first.AllInhabited) (hsecond : second.AllInhabited)
    (hsame : ∀ owner reference,
      owner ∈ first.ownersOf reference ↔ owner ∈ second.ownersOf reference) :
    first = second := by
  have hsets : ∀ owner, first.referencesOf owner = second.referencesOf owner := by
    intro owner
    apply KeyMap.eq_of_contains_iff
    intro reference
    rw [← mem_ownersOf_iff, ← mem_ownersOf_iff]
    exact hsame owner reference
  have howners : first.byOwner = second.byOwner := by
    apply KeyMap.eq_of_get?_eq
    intro owner
    rw [hfirst.get?_byOwner, hsecond.get?_byOwner, hsets]
  cases first
  cases second
  exact congrArg References.mk howners

/-! ## What a step and a run leave -/

namespace Step

theorem Registers.owner_eq {step : Step} (hregisters : step.Registers reference owner) :
    owner = step.owner := by
  cases hregisters with
  | track => rfl
  | resolve => rfl

theorem registers_untrack_iff : (untrack other).Registers reference owner ↔ False := by
  constructor
  · intro hregisters
    cases hregisters
  · exact False.elim

theorem registers_track_iff {tracked : Reference} :
    (track tracked other).Registers reference owner ↔ owner = other ∧ reference = tracked := by
  constructor
  · intro hregisters
    cases hregisters
    exact ⟨rfl, rfl⟩
  · rintro ⟨rfl, rfl⟩
    exact .track reference owner

theorem registers_resolve_iff
    {config : Config} {lookup : Lookup} {registrar : Registrar} {ingress : Ingress} :
    (resolve config lookup registrar ingress).Registers reference owner ↔
      owner = ingress.owner ∧
        reference ∈ (EdgeRouting.resolve config lookup registrar ingress).accepted := by
  rw [Run.mem_accepted_iff]
  constructor
  · intro hregisters
    cases hregisters with
    | resolve haccepted => exact ⟨rfl, haccepted⟩
  · rintro ⟨rfl, haccepted⟩
    exact .resolve haccepted

end Step

theorem mem_ownersOf_step {step : Step} :
    owner ∈ (references.step step).ownersOf reference ↔
      step.Registers reference owner ∨
        (owner ∈ references.ownersOf reference ∧ ¬ step = .untrack owner) := by
  cases step with
  | track tracked other =>
      rw [References.step, mem_ownersOf_track, Step.registers_track_iff]
      simp
  | untrack other =>
      rw [References.step, mem_ownersOf_untrack, Step.registers_untrack_iff, Step.untrack.injEq]
      simp [and_comm, eq_comm]
  | resolve config lookup registrar ingress =>
      rw [References.step, mem_ownersOf_trackAll, Step.registers_resolve_iff]
      simp

theorem mem_ownersOf_run {steps : List Step} :
    owner ∈ (empty.run steps).ownersOf reference ↔ Live steps reference owner := by
  have hstart : ¬ owner ∈ empty.ownersOf reference := by simp [empty, ownersOf, KeyMap.empty]
  exact foldl_iff_inForce (fun references : References => owner ∈ references.ownersOf reference)
    hstart fun _ _ => mem_ownersOf_step

theorem AllInhabited.run {steps : List Step} (hall : references.AllInhabited) :
    (references.run steps).AllInhabited := by
  induction steps generalizing references with
  | nil => exact hall
  | cons first rest ih =>
      have hfirst : (references.step first).AllInhabited := by
        cases first with
        | track reference owner => exact hall.track
        | untrack owner => exact hall.untrack
        | resolve config lookup registrar ingress => exact hall.trackAll
      exact ih hfirst

theorem referencesOf_step_of_ne {step : Step} (hother : owner ≠ step.owner) :
    (references.step step).referencesOf owner = references.referencesOf owner := by
  apply KeyMap.eq_of_contains_iff
  intro reference
  rw [← mem_ownersOf_iff, ← mem_ownersOf_iff, mem_ownersOf_step]
  have hregisters : ¬ step.Registers reference owner :=
    fun hregisters => hother hregisters.owner_eq
  have huntrack : ¬ step = .untrack owner := by
    rintro rfl
    exact hother rfl
  simp [hregisters, huntrack]

/-- The order of forgetting an owner relative to registering for it decides what it has. -/
theorem run_eq_of_reordering
    {steps reordered : List Step} (reordering : Reordering steps reordered)
    (hkeeps : ∀ owner, reordering.Keeps (fun step => step = .untrack owner)
      (fun step => ∃ reference, step.Registers reference owner)) :
    empty.run reordered = empty.run steps := by
  apply eq_of_mem_ownersOf_iff allInhabited_empty.run allInhabited_empty.run
  intro owner reference
  rw [mem_ownersOf_run, mem_ownersOf_run]
  apply reordering.inForce_iff
  · intro position other huntrack hregisters
    exact hkeeps owner position other huntrack ⟨reference, hregisters⟩
  · rintro step hregisters rfl
    exact Step.registers_untrack_iff.mp hregisters

end References

/-! ## Sessions -/

namespace Session

variable {session : Session}

/-- What a step of a session means for its references; its ingresses are resolved against its
index. -/
def referenceStep? (session : Session) : Step → Option References.Step
  | .apply _ => none
  | .delete _ => none
  | .track reference owner => some (.track reference owner)
  | .untrack owner => some (.untrack owner)
  | .resolve config registrar ingress =>
      some (.resolve config session.index.lookup registrar ingress)

def referenceSteps (session : Session) : List Step → List References.Step
  | [] => []
  | first :: rest =>
      (session.referenceStep? first).toList ++ (session.step first).referenceSteps rest

theorem references_step (step : Step) :
    (session.step step).references =
      session.references.run (session.referenceStep? step).toList := by
  cases step <;> rfl

/-- What is true of references after their steps is true of those of every session. -/
theorem references_run (steps : List Step) :
    (session.run steps).references = session.references.run (session.referenceSteps steps) := by
  induction steps generalizing session with
  | nil => rfl
  | cons first rest ih =>
      have hrun : session.run (first :: rest) = (session.step first).run rest := rfl
      rw [hrun, ih, references_step, referenceSteps]
      exact (List.foldl_append ..).symm

end Session

/-! ## What an owner has -/

/-- After any steps from nothing, an owner has exactly the references that are live for it, in
order; the owners of a reference are those that have it, in order; a step for one owner leaves the
references of all others alone; and steps in another order, in which no owner's forgetting changes
sides with its registrations, leave the same references.  So it is for what a session keeps. -/
theorem References.live_references (steps : List Step) :
    let references := References.empty.run steps
    (∀ (owner : ObjectName) (reference : Reference),
      reference ∈ (references.referencesOf owner).keys ↔ Live steps reference owner) ∧
    (∀ owner : ObjectName, (references.referencesOf owner).keys.Pairwise Reference.Precedes) ∧
    (∀ reference : Reference,
      (references.ownersOf reference).Pairwise ObjectName.Precedes ∧
        ∀ owner : ObjectName, owner ∈ references.ownersOf reference ↔
          reference ∈ (references.referencesOf owner).keys) ∧
    (∀ (step : Step) (owner : ObjectName), owner ≠ step.owner →
      (references.step step).referencesOf owner = references.referencesOf owner) ∧
    (∀ (reordered : List Step) (reordering : Reordering steps reordered),
      (∀ owner : ObjectName, reordering.Keeps (fun step => step = .untrack owner)
        (fun step => ∃ reference, step.Registers reference owner)) →
      References.empty.run reordered = references) ∧
    (∀ sessionSteps : List Session.Step, Session.empty.referenceSteps sessionSteps = steps →
      (Session.empty.run sessionSteps).references = references) := by
  intro references
  have hasked : ∀ (owner : ObjectName) (reference : Reference),
      owner ∈ references.ownersOf reference ↔
        reference ∈ (references.referencesOf owner).keys := by
    intro owner reference
    rw [mem_ownersOf_iff, KeyMap.mem_keys_iff]
  refine ⟨?_, references.sorted_referencesOf, ?_, ?_, ?_, ?_⟩
  · intro owner reference
    rw [← hasked, mem_ownersOf_run]
  · intro reference
    exact ⟨references.sorted_ownersOf reference, fun owner => hasked owner reference⟩
  · intro step owner hother
    exact referencesOf_step_of_ne hother
  · intro reordered reordering hkeeps
    exact run_eq_of_reordering reordering hkeeps
  · rintro sessionSteps rfl
    exact Session.references_run sessionSteps

end EdgeRouting
