/-!
# Outcomes

A step of a resolution either has its value or has to wait for something that does not exist yet.
Waiting is no failure: the step is tried again when something changes.
-/

namespace EdgeRouting

inductive Outcome (α : Type) where
  | ready (value : α)
  | notReady
  deriving DecidableEq, Repr

namespace Outcome

variable {α β : Type}

def isReady : Outcome α → Bool
  | ready _ => true
  | notReady => false

def ready? : Outcome α → Option α
  | ready value => some value
  | notReady => none

def map (change : α → β) : Outcome α → Outcome β
  | ready value => ready (change value)
  | notReady => notReady

end Outcome

end EdgeRouting
