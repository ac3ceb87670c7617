import Mathlib.Data.List.Induction
import Mathlib.Logic.Equiv.Defs

/-!
# What a list of events leaves in force

Some events begin a state of affairs and some end it.  It is in force after a list of events if one
of them began it and none behind that one ended it.  A fold keeps track of this as soon as each of
its steps does, and only the order of ends relative to beginnings counts.
-/

namespace EdgeRouting

variable {α σ : Type} {begins ends : α → Prop} {events : List α}

/-- Some event begins it, and no event behind that one ends it. -/
def InForce (begins ends : α → Prop) (events : List α) : Prop :=
  ∃ (place : Nat) (event : α), events[place]? = some event ∧ begins event ∧
    ∀ (later : Nat) (other : α), place < later → events[later]? = some other → ¬ ends other

theorem not_inForce_nil : ¬ InForce begins ends [] := by
  rintro ⟨place, event, hevent, _⟩
  simp at hevent

/-- The last event decides, unless it has no say. -/
theorem inForce_concat {last : α} :
    InForce begins ends (events ++ [last]) ↔
      begins last ∨ (InForce begins ends events ∧ ¬ ends last) := by
  have hlast : (events ++ [last])[events.length]? = some last := by simp
  constructor
  · rintro ⟨place, event, hevent, hbegins, hlater⟩
    by_cases hplace : place < events.length
    · have hkept : events[place]? = some event := by
        rw [List.getElem?_append_left hplace] at hevent
        exact hevent
      have hends : ¬ ends last := hlater events.length last hplace hlast
      refine .inr ⟨⟨place, event, hkept, hbegins, ?_⟩, hends⟩
      intro later other hafter hother
      have hbound : later < events.length := (List.getElem?_eq_some_iff.mp hother).1
      apply hlater later other hafter
      rw [List.getElem?_append_left hbound]
      exact hother
    · have hbound := (List.getElem?_eq_some_iff.mp hevent).1
      have hend : place = events.length := by
        rw [List.length_append, List.length_singleton] at hbound
        omega
      rw [hend, hlast] at hevent
      exact .inl (Option.some.inj hevent ▸ hbegins)
  · rintro (hbegins | ⟨⟨place, event, hevent, hbegins, hlater⟩, hends⟩)
    · refine ⟨events.length, last, hlast, hbegins, ?_⟩
      intro later other hafter hother
      have hbound := (List.getElem?_eq_some_iff.mp hother).1
      rw [List.length_append, List.length_singleton] at hbound
      omega
    · have hplace : place < events.length := (List.getElem?_eq_some_iff.mp hevent).1
      refine ⟨place, event, ?_, hbegins, ?_⟩
      · rw [List.getElem?_append_left hplace]
        exact hevent
      · intro later other hafter hother
        by_cases hbound : later < events.length
        · rw [List.getElem?_append_left hbound] at hother
          exact hlater later other hafter hother
        · have hcount := (List.getElem?_eq_some_iff.mp hother).1
          have hend : later = events.length := by
            rw [List.length_append, List.length_singleton] at hcount
            omega
          rw [hend, hlast] at hother
          exact Option.some.inj hother ▸ hends

/-- If each step of a fold begins, keeps and ends what its event does, so does the whole fold. -/
theorem foldl_iff_inForce
    (holds : σ → Prop) {step : σ → α → σ} {start : σ} (hstart : ¬ holds start)
    (hstep : ∀ state event,
      holds (step state event) ↔ begins event ∨ (holds state ∧ ¬ ends event)) :
    holds (events.foldl step start) ↔ InForce begins ends events := by
  induction events using List.reverseRecOn with
  | nil => exact ⟨fun hholds => absurd hholds hstart, fun hforce => absurd hforce not_inForce_nil⟩
  | append_singleton earlier last ih =>
      rw [List.foldl_append, inForce_concat, ← ih]
      exact hstep _ last

/-! ## Other orders -/

/-- The same events in another order, with the place that each one moves to. -/
structure Reordering (events reordered : List α) where
  place : Fin events.length ≃ Fin reordered.length
  same : ∀ position, reordered.get (place position) = events.get position

namespace Reordering

variable {reordered : List α} {first second : α → Prop}

/-- Events of the first sort do not change sides with events of the second. -/
def Keeps (reordering : Reordering events reordered) (first second : α → Prop) : Prop :=
  ∀ position other, first (events.get position) → second (events.get other) →
    (reordering.place position < reordering.place other ↔ position < other)

def symm (reordering : Reordering events reordered) : Reordering reordered events where
  place := reordering.place.symm
  same := by
    intro position
    rw [← reordering.same, Equiv.apply_symm_apply]

theorem Keeps.symm {reordering : Reordering events reordered}
    (hkeeps : reordering.Keeps first second) : reordering.symm.Keeps first second := by
  intro position other hfirst hsecond
  rw [← reordering.symm.same] at hfirst hsecond
  have hsides := hkeeps _ _ hfirst hsecond
  simp only [Reordering.symm, Equiv.apply_symm_apply] at hsides
  exact hsides.symm

/-- An end that stands behind a beginning afterwards has stood behind it before. -/
theorem inForce (reordering : Reordering events reordered)
    (hkeeps : reordering.Keeps ends begins) (hapart : ∀ event, begins event → ¬ ends event)
    (hforce : InForce begins ends events) : InForce begins ends reordered := by
  obtain ⟨place, event, hevent, hbegins, hlater⟩ := hforce
  obtain ⟨hplace, rfl⟩ := List.getElem?_eq_some_iff.mp hevent
  let beginning : Fin events.length := ⟨place, hplace⟩
  have hmoved : reordered.get (reordering.place beginning) = events.get beginning :=
    reordering.same beginning
  refine ⟨reordering.place beginning, events.get beginning, ?_, hbegins, ?_⟩
  · rw [← hmoved]
    exact List.getElem?_eq_getElem (reordering.place beginning).isLt
  · intro later other hafter hother hends
    obtain ⟨hbound, rfl⟩ := List.getElem?_eq_some_iff.mp hother
    obtain ⟨origin, horigin⟩ := reordering.place.surjective ⟨later, hbound⟩
    have hends : ends (events.get origin) := by
      rw [← reordering.same, horigin]
      exact hends
    have hside := hkeeps origin beginning hends hbegins
    have hnotBefore : ¬ origin < beginning := by
      rw [← hside, horigin]
      exact Nat.lt_asymm hafter
    have hne : origin ≠ beginning := by
      intro heq
      rw [heq] at hends
      exact hapart _ hbegins hends
    have hbehind : beginning < origin := by
      have hvalue : origin.val ≠ place := fun heq => hne (Fin.ext heq)
      have hle : ¬ origin.val < place := hnotBefore
      exact Nat.lt_of_le_of_ne (Nat.le_of_not_lt hle) hvalue.symm
    exact hlater origin _ hbehind (List.getElem?_eq_getElem origin.isLt) hends

theorem inForce_iff (reordering : Reordering events reordered)
    (hkeeps : reordering.Keeps ends begins) (hapart : ∀ event, begins event → ¬ ends event) :
    InForce begins ends reordered ↔ InForce begins ends events :=
  ⟨reordering.symm.inForce hkeeps.symm hapart, reordering.inForce hkeeps hapart⟩

end Reordering

end EdgeRouting
