import EdgeRouting.Index

/-!
# Changes of an index

An object that is applied or deleted is seen under its own name, and no other answer changes.  So an
index changes at most at the object that was touched, and what a lookup says of any other object is
as before.
-/

namespace EdgeRouting

/-- The name under which an object is indexed; without both parts it is not. -/
def Metadata.fullName? (metadata : Metadata) : Option ObjectName :=
  match metadata.name, metadata.ns with
  | some name, some ns => some ⟨ns, name⟩
  | _, _ => none

theorem Metadata.fullName?_eq_some_iff {metadata : Metadata} {full : ObjectName} :
    metadata.fullName? = some full ↔
      metadata.name = some full.name ∧ metadata.ns = some full.ns := by
  unfold fullName?
  cases metadata.name <;> cases metadata.ns <;> simp [ObjectName.ext_iff, and_comm]

theorem Metadata.fullName?_eq_none_iff {metadata : Metadata} :
    metadata.fullName? = none ↔ metadata.name = none ∨ metadata.ns = none := by
  unfold fullName?
  cases metadata.name <;> cases metadata.ns <;> simp

/-- The object that a resource is once it is indexed. -/
def Resource.query? : Resource → Option Query
  | .secret object => object.metadata.fullName?.map .secret
  | .service object => object.metadata.fullName?.map .service
  | .endpoints object => object.metadata.fullName?.map .endpoints
  | .nameSpace object => object.metadata.name.map .nameSpace

namespace ByNamespace

variable {α : Type} {objects : ByNamespace α} {name wanted : ObjectName}

theorem find?_insert {ns : String} {inner : KeyMap String α} :
    find? (KeyMap.insert objects ns inner) wanted =
      if wanted.ns = ns then inner.get? wanted.name else objects.find? wanted := by
  unfold find?
  rw [KeyMap.get?_insert]
  by_cases hns : wanted.ns = ns
  · rw [if_pos hns, if_pos hns, Option.bind_some]
  · rw [if_neg hns, if_neg hns]

theorem find?_erase {ns : String} :
    find? (KeyMap.erase objects ns) wanted =
      if wanted.ns = ns then none else objects.find? wanted := by
  unfold find?
  rw [KeyMap.get?_erase]
  by_cases hns : wanted.ns = ns
  · rw [if_pos hns, if_pos hns, Option.bind_none]
  · rw [if_neg hns, if_neg hns]

theorem find?_put {object : α} :
    (objects.put name object).find? wanted =
      if wanted = name then some object else objects.find? wanted := by
  unfold put
  rw [find?_insert, KeyMap.get?_insert]
  simp only [ObjectName.ext_iff]
  by_cases hns : wanted.ns = name.ns
  · by_cases hname : wanted.name = name.name
    · simp [hns, hname]
    · rw [find?, hns]
      cases KeyMap.get? objects name.ns <;> simp [hname]
  · simp [hns]

theorem find?_remove :
    (objects.remove name).find? wanted =
      if wanted = name then none else objects.find? wanted := by
  unfold remove
  simp only [ObjectName.ext_iff]
  cases hinner : KeyMap.get? objects name.ns with
  | none =>
      by_cases hns : wanted.ns = name.ns
      · simp [find?, hns, hinner]
      · simp [hns]
  | some inner =>
      have hrest := inner.get?_erase name.name wanted.name
      have hfound : wanted.ns = name.ns → objects.find? wanted = inner.get? wanted.name := by
        intro hns
        rw [find?, hns, hinner, Option.bind_some]
      cases hempty : (inner.erase name.name).isEmpty with
      | true =>
          rw [KeyMap.get?_of_isEmpty hempty] at hrest
          by_cases hns : wanted.ns = name.ns
          · simp [find?_erase, hns, hfound hns, hempty, ← hrest]
          · simp [find?_erase, hns, hempty]
      | false =>
          by_cases hns : wanted.ns = name.ns
          · simp [find?_insert, hns, hfound hns, hempty, hrest]
          · simp [find?_insert, hns, hempty]

theorem putNamed_of_named {metadata : Metadata} {object : α}
    (hname : metadata.fullName? = some name) :
    objects.putNamed metadata object = objects.put name object := by
  obtain ⟨hfirst, hsecond⟩ := Metadata.fullName?_eq_some_iff.mp hname
  simp [putNamed, hfirst, hsecond]

theorem putNamed_of_unnamed {metadata : Metadata} {object : α}
    (hname : metadata.fullName? = none) :
    objects.putNamed metadata object = objects := by
  rcases Metadata.fullName?_eq_none_iff.mp hname with hmissing | hmissing
  · simp [putNamed, hmissing]
  · simp [putNamed, hmissing]

theorem find?_putNamed_of_ne {metadata : Metadata} {object : α}
    (hother : metadata.fullName? ≠ some wanted) :
    (objects.putNamed metadata object).find? wanted = objects.find? wanted := by
  cases hname : metadata.fullName? with
  | none => rw [putNamed_of_unnamed hname]
  | some name =>
      have hne : wanted ≠ name := fun heq => hother (heq ▸ hname)
      rw [putNamed_of_named hname, find?_put, if_neg hne]

theorem find?_putNamed_self {metadata : Metadata} {object : α}
    (hname : metadata.fullName? = some name) :
    (objects.putNamed metadata object).find? name = some object := by
  rw [putNamed_of_named hname, find?_put, if_pos rfl]

end ByNamespace

namespace Index

variable {index : Index} {query : Query}

theorem find?_apply_of_ne {resource : Resource} (hother : resource.query? ≠ some query) :
    (index.apply resource).find? query = index.find? query := by
  cases resource with
  | secret object =>
      cases query with
      | secret name =>
          refine ByNamespace.find?_putNamed_of_ne fun hname => hother ?_
          rw [Resource.query?, hname, Option.map_some]
      | _ => rfl
  | service object =>
      cases query with
      | service name =>
          refine ByNamespace.find?_putNamed_of_ne fun hname => hother ?_
          rw [Resource.query?, hname, Option.map_some]
      | _ => rfl
  | endpoints object =>
      cases query with
      | endpoints name =>
          refine ByNamespace.find?_putNamed_of_ne fun hname => hother ?_
          rw [Resource.query?, hname, Option.map_some]
      | _ => rfl
  | nameSpace object =>
      cases hname : object.metadata.name with
      | none => simp only [apply, hname]
      | some applied =>
          simp only [apply, hname]
          cases query with
          | nameSpace name =>
              have hne : name ≠ applied := by
                intro heq
                rw [Resource.query?, hname, heq, Option.map_some] at hother
                contradiction
              simp [find?, KeyMap.get?_insert, hne]
          | _ => rfl

theorem find?_delete_of_ne {deleted : Query} (hother : deleted ≠ query) :
    (index.delete deleted).find? query = index.find? query := by
  cases deleted with
  | secret gone =>
      cases query with
      | secret name =>
          have hne : name ≠ gone := fun heq => hother (congrArg Query.secret heq.symm)
          simp [delete, find?, ByNamespace.find?_remove, hne]
      | _ => rfl
  | service gone =>
      cases query with
      | service name =>
          have hne : name ≠ gone := fun heq => hother (congrArg Query.service heq.symm)
          simp [delete, find?, ByNamespace.find?_remove, hne]
      | _ => rfl
  | endpoints gone =>
      cases query with
      | endpoints name =>
          have hne : name ≠ gone := fun heq => hother (congrArg Query.endpoints heq.symm)
          simp [delete, find?, ByNamespace.find?_remove, hne]
      | _ => rfl
  | nameSpace gone =>
      cases query with
      | nameSpace name =>
          have hne : name ≠ gone := fun heq => hother (congrArg Query.nameSpace heq.symm)
          simp [delete, find?, KeyMap.get?_erase, hne]
      | _ => rfl

theorem lookup_eq_of_find?_eq {other : Index} (hfound : other.find? query = index.find? query) :
    other.lookup query = index.lookup query := by
  unfold lookup
  rw [hfound]

end Index

end EdgeRouting
