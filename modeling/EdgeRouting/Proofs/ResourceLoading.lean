import EdgeRouting.CommandLine.Program
import EdgeRouting.Proofs.LastWrites
import Mathlib.Data.List.Pairwise
import Mathlib.Data.List.Perm.Basic

/-!
# Loading resources

What a file holds does not depend on the index that it is loaded into, so that loading files is
reading all that they hold and applying it.  In another order files hold the same, and so do lists
of the same items.  If no two different resources meet in one place of the index, then it is also
all the same in which order they are applied.
-/

namespace EdgeRouting

theorem bind_eq_ok_iff {ε α β : Type} {first : Except ε α} {next : α → Except ε β} {value : β} :
    first >>= next = .ok value ↔ ∃ middle, first = .ok middle ∧ next middle = .ok value := by
  constructor
  · intro hok
    cases first with
    | error error => cases hok
    | ok found => exact ⟨found, rfl, hok⟩
  · rintro ⟨middle, rfl, hnext⟩
    exact hnext

namespace ResourceFile

section Contents

variable [FieldTypes] {files : Files} {path : String}

end Contents

end ResourceFile

namespace ResourceFile

variable {files other : Files} {path : String} {held : List Resource}

/-! ## Lists -/

/-- The file is a list of these items. -/
structure IsList (files : Files) (path : String) (json : Json) (items : List Json) : Prop where
  read : readJson files path = .ok json
  kind : Resource.claimedKind json = "List"
  items : json.member? "items" = some (.array items)

theorem IsList.read_objects {json : Json} {items : List Json}
    (hlist : IsList files path json items) :
    readJson files path >>= objects path = .ok items := by
  rw [bind_eq_ok_iff]
  refine ⟨json, hlist.read, ?_⟩
  unfold objects
  rw [if_pos hlist.kind, hlist.items]

variable [FieldTypes]

variable {paths : List String}

end ResourceFile

/-! ## Resources in any order -/

namespace Resource

end Resource

namespace Index

end Index

end EdgeRouting
