import EdgeRouting.References

/-!
# Tracked references

Who depends on an object after references were tracked and owners forgotten.  Tracking only adds,
and it concerns one owner; an owner loses its references only when it is forgotten itself.
-/

namespace EdgeRouting

namespace References

variable {references : References} {owner other : ObjectName} {reference tracked : Reference}

theorem referencesOf_track :
    (references.track tracked other).referencesOf owner =
      if owner = other then (references.referencesOf other).insert tracked ()
      else references.referencesOf owner := by
  unfold track
  rw [referencesOf, KeyMap.get?_insert]
  by_cases howner : owner = other
  · simp [howner]
  · simp [howner, referencesOf]

theorem referencesOf_untrack :
    (references.untrack other).referencesOf owner =
      if owner = other then .empty else references.referencesOf owner := by
  unfold untrack
  rw [referencesOf, KeyMap.get?_erase]
  by_cases howner : owner = other
  · simp [howner]
  · simp [howner, referencesOf]

theorem mem_ownersOf_iff :
    owner ∈ references.ownersOf reference ↔
      (references.referencesOf owner).contains reference = true := by
  unfold ownersOf referencesOf
  rw [List.mem_map]
  constructor
  · rintro ⟨⟨found, set⟩, hmem, howner⟩
    obtain ⟨hentry, hcontains⟩ := List.mem_filter.mp hmem
    have hfound : found = owner := howner
    subst found
    rw [KeyMap.get?_eq_some_iff.mpr hentry]
    exact hcontains
  · intro hcontains
    cases hset : references.byOwner.get? owner with
    | none =>
        rw [hset] at hcontains
        contradiction
    | some set =>
        rw [hset] at hcontains
        have hentry := KeyMap.get?_eq_some_iff.mp hset
        exact ⟨(owner, set), List.mem_filter.mpr ⟨hentry, hcontains⟩, rfl⟩

theorem mem_ownersOf_track :
    owner ∈ (references.track tracked other).ownersOf reference ↔
      (owner = other ∧ reference = tracked) ∨ owner ∈ references.ownersOf reference := by
  rw [mem_ownersOf_iff, mem_ownersOf_iff, referencesOf_track]
  by_cases howner : owner = other
  · subst howner
    rw [if_pos rfl, KeyMap.contains_insert]
    simp
  · simp [howner]

theorem mem_ownersOf_trackAll {list : List Reference} :
    owner ∈ (references.trackAll list other).ownersOf reference ↔
      (owner = other ∧ reference ∈ list) ∨ owner ∈ references.ownersOf reference := by
  induction list generalizing references with
  | nil => simp [trackAll]
  | cons first rest ih =>
      have hshape : references.trackAll (first :: rest) other =
          (references.track first other).trackAll rest other := rfl
      have hmem : reference ∈ first :: rest ↔ reference ∈ rest ∨ reference = first := by
        rw [List.mem_cons]
        exact or_comm
      rw [hshape, ih, mem_ownersOf_track, hmem, and_or_left, or_assoc]

theorem mem_ownersOf_untrack :
    owner ∈ (references.untrack other).ownersOf reference ↔
      owner ≠ other ∧ owner ∈ references.ownersOf reference := by
  rw [mem_ownersOf_iff, mem_ownersOf_iff, referencesOf_untrack]
  by_cases howner : owner = other
  · simp [howner, KeyMap.contains]
  · simp [howner]

end References

end EdgeRouting
