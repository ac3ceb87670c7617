import EdgeRouting.ObjectName

/-!
# References to objects

A reference names an object whose changes call for a new resolution.  References are ordered
by kind (secrets, services, endpoints), then by namespace, then by name.
-/

namespace EdgeRouting

/-- The kinds of objects whose changes are followed. -/
inductive TrackedKind where
  | secret
  | service
  | endpoints
  deriving DecidableEq, Repr

namespace TrackedKind

def rank : TrackedKind → Nat
  | secret => 0
  | service => 1
  | endpoints => 2

def label : TrackedKind → String
  | secret => "Secret"
  | service => "Service"
  | endpoints => "Endpoints"

theorem rank_injective {first second : TrackedKind}
    (hrank : first.rank = second.rank) : first = second := by
  cases first <;> cases second <;> simp [rank] at hrank ⊢

end TrackedKind

structure Reference where
  kind : TrackedKind
  object : ObjectName
  deriving DecidableEq, Repr

namespace Reference

instance : Ord Reference :=
  ⟨compareLex (compareOn fun reference => reference.kind.rank) (compareOn Reference.object)⟩

instance : Std.TransOrd Reference :=
  inferInstanceAs
    (Std.TransCmp
      (compareLex (compareOn fun reference : Reference => reference.kind.rank)
        (compareOn Reference.object)))

instance : Std.LawfulEqOrd Reference where
  eq_of_compare := by
    intro first second heq
    change compareLex _ _ first second = .eq at heq
    simp only [compareLex_eq_eq, compareOn, Std.LawfulEqOrd.compare_eq_iff_eq] at heq
    cases first
    cases second
    cases TrackedKind.rank_injective heq.1
    cases heq.2
    rfl

/-- The reference with the version of its kind, as in `Secret.v1 namespace/name`. -/
def display (reference : Reference) : String :=
  reference.kind.label ++ ".v1 " ++ reference.object.display

end Reference

end EdgeRouting
