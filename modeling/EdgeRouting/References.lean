import EdgeRouting.KeyMap
import EdgeRouting.Reference

/-!
# The references of owners

For each owner, the objects that it depends on.  An owner without references is not kept.
-/

namespace EdgeRouting

structure References where
  byOwner : KeyMap ObjectName (KeySet Reference)
  deriving DecidableEq

namespace References

def empty : References := ⟨.empty⟩

def referencesOf (references : References) (owner : ObjectName) : KeySet Reference :=
  (references.byOwner.get? owner).getD .empty

def track (references : References) (reference : Reference) (owner : ObjectName) : References :=
  ⟨references.byOwner.insert owner ((references.referencesOf owner).insert reference ())⟩

def trackAll (references : References) (list : List Reference) (owner : ObjectName) :
    References :=
  list.foldl (fun references reference => references.track reference owner) references

/-- Forgets all references of an owner. -/
def untrack (references : References) (owner : ObjectName) : References :=
  ⟨references.byOwner.erase owner⟩

def ownersOf (references : References) (reference : Reference) : List ObjectName :=
  (references.byOwner.entries.filter fun entry => entry.2.contains reference).map Prod.fst

end References

end EdgeRouting
