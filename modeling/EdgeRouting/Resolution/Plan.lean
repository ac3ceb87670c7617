import EdgeRouting.Outcome
import EdgeRouting.Resolution.Error

/-!
# Plans

A resolution is written as a plan: a tree that says which object is registered or asked for next
and how the answer is used.  A plan does nothing by itself.  `Plan.run` carries it out against a
lookup and a registrar, which may refuse references, and keeps a list of the references and a
transcript of what was done; with the result, these are all that can be observed of a resolution.
-/

namespace EdgeRouting

inductive Plan (α : Type) where
  | done (value : α)
  | notReady
  | fail (error : ResolveError)
  | register (reference : Reference) (next : Plan α)
  | ask (query : Query) (next : Except LookupError query.Answer → Plan α)

/-- Accepts a reference, or refuses it for a reason.  The references that it was given before in the
same resolution are listed in order. -/
abbrev Registrar := (earlier : List Reference) → Reference → Option String

def Registrar.accepting : Registrar := fun _ _ => none

/-- What a resolution did, step by step. -/
inductive Event where
  | registration (reference : Reference) (accepted : Bool)
  | lookup (query : Query)
  deriving DecidableEq, Repr

structure Run (α : Type) where
  result : Except ResolveError (Outcome α)
  /-- All references that were given to the registrar, in order, with one that it refused. -/
  references : List Reference
  transcript : List Event

namespace Event

def reference? : Event → Option Reference
  | registration reference _ => some reference
  | lookup _ => none

def accepted? : Event → Option Reference
  | registration reference true => some reference
  | _ => none

def query? : Event → Option Query
  | registration _ _ => none
  | lookup query => some query

end Event

namespace Run

variable {α : Type}

def after (event : Event) (run : Run α) : Run α :=
  { run with transcript := event :: run.transcript }

def accepted (run : Run α) : List Reference := run.transcript.filterMap Event.accepted?

def queries (run : Run α) : List Query := run.transcript.filterMap Event.query?

end Run

namespace Plan

variable {α β : Type}

def bind : Plan α → (α → Plan β) → Plan β
  | done value, next => next value
  | notReady, _ => notReady
  | fail error, _ => fail error
  | register reference rest, next => register reference (rest.bind next)
  | ask query rest, next => ask query fun answer => (rest answer).bind next

instance : Monad Plan where
  pure := done
  bind := bind

/-- Registers a dependency, before it is read. -/
def follow (reference : Reference) : Plan Unit := register reference (done ())

/-- Asks for an object that must exist. -/
def need (subject : Subject) (query : Query) : Plan query.Answer :=
  ask query fun answer =>
    match answer with
    | .ok object => done object
    | .error cause => fail (.fetch subject query.object cause)

/-- Asks for an object and waits for it if it does not exist. -/
def await (subject : Subject) (query : Query) : Plan query.Answer :=
  ask query fun answer =>
    match answer with
    | .ok object => done object
    | .error cause =>
        if cause.isNotFound then notReady else fail (.fetch subject query.object cause)

def each (step : α → Plan β) : List α → Plan (List β)
  | [] => done []
  | first :: rest => do
      let value ← step first
      let values ← each step rest
      return value :: values

/-- Carries out a plan, where `earlier` lists the references given to the registrar so far.  A
reference is listed before the registrar decides on it. -/
def runFrom (lookup : Lookup) (registrar : Registrar) (earlier : List Reference) :
    Plan α → Run α
  | done value => ⟨.ok (.ready value), earlier, []⟩
  | notReady => ⟨.ok .notReady, earlier, []⟩
  | fail error => ⟨.error error, earlier, []⟩
  | register reference next =>
      let listed := earlier ++ [reference]
      match registrar earlier reference with
      | some reason => ⟨.error (.track reference reason), listed, [.registration reference false]⟩
      | none => (next.runFrom lookup registrar listed).after (.registration reference true)
  | ask query next =>
      ((next (lookup query)).runFrom lookup registrar earlier).after (.lookup query)

def run (lookup : Lookup) (registrar : Registrar) (plan : Plan α) : Run α :=
  plan.runFrom lookup registrar []

end Plan

end EdgeRouting
