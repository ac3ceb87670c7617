import EdgeRouting.Proofs.InForce
import EdgeRouting.Proofs.IndexChanges

/-!
# The last write counts

However often and in whatever order objects are applied to an index and deleted from it, a lookup
finds the object that was applied last under its name, unless it was deleted since.  Objects without
a full name and deletions of nothing leave no trace, and no namespace is kept once its last object
is gone.
-/

namespace EdgeRouting

/-- The object that answers a question, as a resource of its kind. -/
def Query.resource : (query : Query) → query.Answer → Resource
  | .secret _, object => .secret object
  | .service _, object => .service object
  | .endpoints _, object => .endpoints object
  | .nameSpace _, object => .nameSpace object

namespace Resource

def metadata : Resource → Metadata
  | secret object => object.metadata
  | service object => object.metadata
  | endpoints object => object.metadata
  | nameSpace object => object.metadata

/-- A resource with a place in an index is the answer to the question that it is found by. -/
theorem exists_object_of_query? {resource : Resource} {query : Query}
    (hplace : resource.query? = some query) :
    ∃ object : query.Answer, resource = query.resource object := by
  cases resource with
  | secret object =>
      obtain ⟨name, _, rfl⟩ := Option.map_eq_some_iff.mp hplace
      exact ⟨object, rfl⟩
  | service object =>
      obtain ⟨name, _, rfl⟩ := Option.map_eq_some_iff.mp hplace
      exact ⟨object, rfl⟩
  | endpoints object =>
      obtain ⟨name, _, rfl⟩ := Option.map_eq_some_iff.mp hplace
      exact ⟨object, rfl⟩
  | nameSpace object =>
      obtain ⟨name, _, rfl⟩ := Option.map_eq_some_iff.mp hplace
      exact ⟨object, rfl⟩

end Resource

theorem Query.resource_injective {query : Query} {first second : query.Answer}
    (hsame : query.resource first = query.resource second) : first = second := by
  cases query <;> simpa [Query.resource] using hsame

/-! ## Namespaces with objects -/

namespace ByNamespace

variable {α : Type} {objects : ByNamespace α} {name : ObjectName}

theorem allInhabited_put {object : α} (hall : KeyMap.AllInhabited objects) :
    KeyMap.AllInhabited (objects.put name object) :=
  hall.insert (KeyMap.isEmpty_insert ..)

theorem allInhabited_remove (hall : KeyMap.AllInhabited objects) :
    KeyMap.AllInhabited (objects.remove name) := by
  unfold ByNamespace.remove
  cases hinner : KeyMap.get? objects name.ns with
  | none => exact hall
  | some inner =>
      cases hempty : (inner.erase name.name).isEmpty with
      | false => simpa [hempty] using hall.insert hempty
      | true => simpa [hempty] using hall.erase

theorem allInhabited_putNamed {metadata : Metadata} {object : α}
    (hall : KeyMap.AllInhabited objects) :
    KeyMap.AllInhabited (objects.putNamed metadata object) := by
  cases hname : metadata.fullName? with
  | none =>
      rw [putNamed_of_unnamed hname]
      exact hall
  | some name =>
      rw [putNamed_of_named hname]
      exact allInhabited_put hall

end ByNamespace

namespace Index

variable {index : Index} {query : Query}

/-- In no kind a namespace is kept without objects. -/
structure AllInhabited (index : Index) : Prop where
  secrets : KeyMap.AllInhabited index.secrets
  services : KeyMap.AllInhabited index.services
  endpoints : KeyMap.AllInhabited index.endpoints

theorem allInhabited_empty : empty.AllInhabited where
  secrets := KeyMap.allInhabited_empty
  services := KeyMap.allInhabited_empty
  endpoints := KeyMap.allInhabited_empty

theorem AllInhabited.apply (hall : index.AllInhabited) (resource : Resource) :
    (index.apply resource).AllInhabited := by
  cases resource with
  | secret object =>
      exact ⟨ByNamespace.allInhabited_putNamed hall.secrets, hall.services, hall.endpoints⟩
  | service object =>
      exact ⟨hall.secrets, ByNamespace.allInhabited_putNamed hall.services, hall.endpoints⟩
  | endpoints object =>
      exact ⟨hall.secrets, hall.services, ByNamespace.allInhabited_putNamed hall.endpoints⟩
  | nameSpace object =>
      cases hname : object.metadata.name with
      | none =>
          simp only [Index.apply, hname]
          exact hall
      | some name =>
          simp only [Index.apply, hname]
          exact ⟨hall.secrets, hall.services, hall.endpoints⟩

theorem AllInhabited.delete (hall : index.AllInhabited) (query : Query) :
    (index.delete query).AllInhabited := by
  cases query with
  | secret name =>
      exact ⟨ByNamespace.allInhabited_remove hall.secrets, hall.services, hall.endpoints⟩
  | service name =>
      exact ⟨hall.secrets, ByNamespace.allInhabited_remove hall.services, hall.endpoints⟩
  | endpoints name =>
      exact ⟨hall.secrets, hall.services, ByNamespace.allInhabited_remove hall.endpoints⟩
  | nameSpace name => exact ⟨hall.secrets, hall.services, hall.endpoints⟩

/-! ## What a change does to its own object -/

theorem find?_apply_self {object : query.Answer}
    (hplace : (query.resource object).query? = some query) :
    (index.apply (query.resource object)).find? query = some object := by
  cases query with
  | secret name =>
      have hname : object.metadata.fullName? = some name := by
        simpa [Query.resource, Resource.query?] using hplace
      exact ByNamespace.find?_putNamed_self hname
  | service name =>
      have hname : object.metadata.fullName? = some name := by
        simpa [Query.resource, Resource.query?] using hplace
      exact ByNamespace.find?_putNamed_self hname
  | endpoints name =>
      have hname : object.metadata.fullName? = some name := by
        simpa [Query.resource, Resource.query?] using hplace
      exact ByNamespace.find?_putNamed_self hname
  | nameSpace name =>
      have hname : object.metadata.name = some name := by
        simpa [Query.resource, Resource.query?] using hplace
      simp [Query.resource, apply, find?, hname, KeyMap.get?_insert]

theorem find?_delete_self : (index.delete query).find? query = none := by
  cases query with
  | secret name => simp [delete, find?, ByNamespace.find?_remove]
  | service name => simp [delete, find?, ByNamespace.find?_remove]
  | endpoints name => simp [delete, find?, ByNamespace.find?_remove]
  | nameSpace name => simp [delete, find?, KeyMap.get?_erase]

theorem find?_apply_eq_some_iff {resource : Resource} {object : query.Answer} :
    (index.apply resource).find? query = some object ↔
      (resource = query.resource object ∧ resource.query? = some query) ∨
        (index.find? query = some object ∧ resource.query? ≠ some query) := by
  by_cases hplace : resource.query? = some query
  · obtain ⟨applied, rfl⟩ := Resource.exists_object_of_query? hplace
    rw [find?_apply_self hplace]
    constructor
    · intro hsame
      exact .inl ⟨congrArg query.resource (Option.some.inj hsame), hplace⟩
    · rintro (⟨hsame, _⟩ | ⟨_, hother⟩)
      · rw [Query.resource_injective hsame]
      · exact absurd hplace hother
  · rw [find?_apply_of_ne hplace]
    simp [hplace]

/-! ## Changes one after the other -/

/-- An object is applied, or what is found by a question is deleted. -/
inductive Change where
  | apply (resource : Resource)
  | delete (query : Query)

/-- The question whose answer a change may touch. -/
def Change.query? : Change → Option Query
  | .apply resource => resource.query?
  | .delete query => some query

def change (index : Index) : Change → Index
  | .apply resource => index.apply resource
  | .delete query => index.delete query

def changeAll (index : Index) (changes : List Change) : Index := changes.foldl change index

/-- The object was applied under the name that is asked for, and since then no object was applied
or deleted under that name. -/
def LastWritten (changes : List Change) (query : Query) (object : query.Answer) : Prop :=
  InForce (fun change => change = .apply (query.resource object) ∧ change.query? = some query)
    (fun change => change.query? = some query) changes

theorem find?_change_of_ne {change : Change} (hother : change.query? ≠ some query) :
    (index.change change).find? query = index.find? query := by
  cases change with
  | apply resource => exact find?_apply_of_ne hother
  | delete deleted => exact find?_delete_of_ne fun heq => hother (congrArg some heq)

theorem find?_change_eq_some_iff {change : Change} {object : query.Answer} :
    (index.change change).find? query = some object ↔
      (change = .apply (query.resource object) ∧ change.query? = some query) ∨
        (index.find? query = some object ∧ ¬ change.query? = some query) := by
  cases change with
  | apply resource => simpa [Index.change, Change.query?] using find?_apply_eq_some_iff
  | delete deleted =>
      by_cases hdeleted : deleted = query
      · subst deleted
        simp [Index.change, Change.query?, find?_delete_self]
      · simp [Index.change, Change.query?, find?_delete_of_ne hdeleted, hdeleted]

theorem find?_changeAll_eq_some_iff {changes : List Change} {object : query.Answer} :
    (empty.changeAll changes).find? query = some object ↔ LastWritten changes query object := by
  have hstart : ¬ empty.find? query = some object := by
    cases query <;> simp [empty, find?, ByNamespace.find?]
  exact foldl_iff_inForce (fun index : Index => index.find? query = some object) hstart
    fun _ _ => find?_change_eq_some_iff

theorem find?_changeAll_of_ne {changes : List Change}
    (hothers : ∀ change ∈ changes, change.query? ≠ some query) :
    (index.changeAll changes).find? query = index.find? query := by
  induction changes generalizing index with
  | nil => rfl
  | cons first rest ih =>
      obtain ⟨hfirst, hrest⟩ := List.forall_mem_cons.mp hothers
      have hstep : index.changeAll (first :: rest) = (index.change first).changeAll rest := rfl
      rw [hstep, ih hrest, find?_change_of_ne hfirst]

theorem lastWritten_append_iff
    {earlier later : List Change} {object : query.Answer}
    (hlater : ∀ change ∈ later, change.query? ≠ some query) :
    LastWritten (earlier ++ later) query object ↔ LastWritten earlier query object := by
  have hsplit : empty.changeAll (earlier ++ later) = (empty.changeAll earlier).changeAll later :=
    List.foldl_append ..
  rw [← find?_changeAll_eq_some_iff, ← find?_changeAll_eq_some_iff, hsplit,
    find?_changeAll_of_ne hlater]

theorem lastWritten_of_applied
    {earlier later : List Change} {object : query.Answer}
    (hplace : (query.resource object).query? = some query)
    (hlater : ∀ change ∈ later, change.query? ≠ some query) :
    LastWritten (earlier ++ .apply (query.resource object) :: later) query object := by
  have hlast : LastWritten (earlier ++ [.apply (query.resource object)]) query object :=
    inForce_concat.mpr (.inl ⟨rfl, hplace⟩)
  rw [← lastWritten_append_iff hlater, List.append_assoc] at hlast
  exact hlast

theorem LastWritten.unique {changes : List Change} {first second : query.Answer}
    (hfirst : LastWritten changes query first) (hsecond : LastWritten changes query second) :
    first = second := by
  rw [← find?_changeAll_eq_some_iff] at hfirst hsecond
  rw [hfirst] at hsecond
  exact Option.some.inj hsecond

theorem AllInhabited.changeAll {changes : List Change} (hall : index.AllInhabited) :
    (index.changeAll changes).AllInhabited := by
  induction changes generalizing index with
  | nil => exact hall
  | cons first rest ih =>
      have hfirst : (index.change first).AllInhabited := by
        cases first with
        | apply resource => exact hall.apply resource
        | delete query => exact hall.delete query
      exact ih hfirst

/-! ## Lookups -/

theorem lookup_eq_ok_iff {object : query.Answer} :
    index.lookup query = .ok object ↔ index.find? query = some object := by
  unfold lookup
  cases index.find? query <;> simp

end Index

end EdgeRouting
