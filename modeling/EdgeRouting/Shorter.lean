/-!
# Shorter rests

What is left of a list once something of it has been read.  A reader whose result says that its rest
is shorter can be run again and again, and the repetition ends.
-/

namespace EdgeRouting

abbrev Shorter {α : Type} (input : List α) := { rest : List α // rest.length < input.length }

namespace Shorter

variable {α : Type} {input whole : List α} {head : α}

theorem length_tail (head : α) (input : List α) : input.length < (head :: input).length :=
  Nat.lt_succ_self _

/-- What is left after the first element. -/
def tail : Shorter (head :: input) := ⟨input, length_tail head input⟩

theorem length_after (middle : Shorter input) (rest : Shorter middle.val) :
    rest.val.length < input.length :=
  Nat.lt_trans rest.property middle.property

/-- What is left after two readings. -/
def after (middle : Shorter input) (rest : Shorter middle.val) : Shorter input :=
  ⟨rest.val, length_after middle rest⟩

@[simp] theorem val_after (middle : Shorter input) (rest : Shorter middle.val) :
    (middle.after rest).val = rest.val := rfl

theorem length_afterHead (middle : Shorter input) (rest : Shorter (head :: middle.val)) :
    rest.val.length < input.length :=
  Nat.lt_of_lt_of_le rest.property middle.property

/-- What is left after a reading that begins with the last element taken. -/
def afterHead (middle : Shorter input) (rest : Shorter (head :: middle.val)) : Shorter input :=
  ⟨rest.val, length_afterHead middle rest⟩

theorem length_afterAtMost (middle : Shorter input)
    (rest : { rest : List α // rest.length ≤ middle.val.length }) :
    rest.val.length < input.length :=
  Nat.lt_of_le_of_lt rest.property middle.property

/-- What is left after a reading and another one that may be of nothing. -/
def afterAtMost (middle : Shorter input)
    (rest : { rest : List α // rest.length ≤ middle.val.length }) : Shorter input :=
  ⟨rest.val, length_afterAtMost middle rest⟩

theorem length_within (rest : Shorter input) (hle : input.length ≤ whole.length) :
    rest.val.length < whole.length :=
  Nat.lt_of_lt_of_le rest.property hle

/-- What is left of a list is also left of one that it ends. -/
def within (rest : Shorter input) (hle : input.length ≤ whole.length) : Shorter whole :=
  ⟨rest.val, length_within rest hle⟩

theorem length_le_within (rest : Shorter input) (hle : input.length ≤ whole.length) :
    rest.val.length ≤ whole.length :=
  Nat.le_of_lt (length_within rest hle)

theorem length_le_self (input : List α) : input.length ≤ input.length :=
  Nat.le_refl _

theorem length_le (rest : Shorter input) : rest.val.length ≤ input.length :=
  Nat.le_of_lt rest.property

theorem length_tail_le (hle : (head :: input).length ≤ whole.length) :
    input.length ≤ whole.length :=
  Nat.le_of_succ_le hle

theorem length_tail_le_within (rest : Shorter input)
    (hle : (head :: input).length ≤ whole.length) : rest.val.length ≤ whole.length :=
  Nat.le_trans (length_le rest) (length_tail_le hle)

theorem length_drop (size : Nat) (rest : Shorter input) :
    (rest.val.drop size).length < input.length :=
  Nat.lt_of_le_of_lt (List.drop_sublist size rest.val).length_le rest.property

/-- What is left without so many elements at its front. -/
def drop (size : Nat) (rest : Shorter input) : Shorter input :=
  ⟨rest.val.drop size, length_drop size rest⟩

end Shorter

end EdgeRouting
