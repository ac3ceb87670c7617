/-!
# Names of objects

An object that lives in a namespace is identified, within its kind, by the namespace and its
own name.  Names are ordered by namespace and then by name.
-/

namespace EdgeRouting

@[ext]
structure ObjectName where
  ns : String
  name : String
  deriving DecidableEq, Repr, Inhabited

namespace ObjectName

instance : Ord ObjectName :=
  ⟨compareLex (compareOn ObjectName.ns) (compareOn ObjectName.name)⟩

instance : Std.TransOrd ObjectName :=
  inferInstanceAs
    (Std.TransCmp (compareLex (compareOn ObjectName.ns) (compareOn ObjectName.name)))

instance : Std.LawfulEqOrd ObjectName where
  eq_of_compare := by
    intro first second heq
    change compareLex _ _ first second = .eq at heq
    simp only [compareLex_eq_eq, compareOn, Std.LawfulEqOrd.compare_eq_iff_eq] at heq
    cases first
    cases second
    cases heq.1
    cases heq.2
    rfl

/-- The full name, `namespace/name`. -/
def display (object : ObjectName) : String :=
  object.ns ++ "/" ++ object.name

/-- The full name, or the bare name of an object outside every namespace. -/
def brief (object : ObjectName) : String :=
  if object.ns = "" then object.name else object.display

end ObjectName

end EdgeRouting
