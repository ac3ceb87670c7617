import EdgeRouting.Json.Characters

/-!
# Values without brackets

Numbers, words and strings: `scalar` reads them, `skipScalar` only checks their grammar and does
not look at the size of numbers.
-/

namespace EdgeRouting.Json

/-- The digits at the front of a text, and what follows them. -/
def digits (text : List Char) : List Char × List Char :=
  (text.takeWhile Numeral.isDigit, text.dropWhile Numeral.isDigit)

/-- One digit or more; `atEnd` is the fault of a text that ends before them. -/
def someDigits (atEnd : Fault) (text : List Char) : Except Fault (List Char × List Char) :=
  match text with
  | [] => .error atEnd
  | c :: _ => if Numeral.isDigit c then .ok (digits text) else .error .malformed

/-- The digits after a point, if there is one. -/
def fractionPart (atEnd : Fault) (text : List Char) :
    Except Fault (List Char × List Char) :=
  match text with
  | '.' :: rest => someDigits atEnd rest
  | _ => .ok ([], text)

/-- The sign and the digits of an exponent, if there is one. -/
def exponentPart (atEnd : Fault) (text : List Char) :
    Except Fault (Option (Bool × List Char) × List Char) :=
  let after : Bool → List Char → Except Fault (Option (Bool × List Char) × List Char) :=
    fun negative rest => do
      let (power, last) ← someDigits atEnd rest
      return (some (negative, power), last)
  match text with
  | c :: rest =>
      if c = 'e' ∨ c = 'E' then
        match rest with
        | '+' :: rest => after false rest
        | '-' :: rest => after true rest
        | rest => after false rest
      else
        .ok (none, text)
  | [] => .ok (none, text)

/-- A numeral, whose sign has been read.  A zero at the front stands alone. -/
def unsigned (atEnd : Fault) (negative : Bool) (text : List Char) :
    Except Fault (Numeral × List Char) := do
  let (whole, rest) ← someDigits atEnd text
  if whole.head? = some '0' ∧ whole.length ≠ 1 then
    .error .malformed
  else
    let (fraction, rest) ← fractionPart atEnd rest
    let (exponent, rest) ← exponentPart atEnd rest
    return (⟨negative, whole, fraction, exponent⟩, rest)

/-- A numeral; `atEnd` is the fault of a text that ends within it. -/
def numeral (atEnd : Fault) (text : List Char) : Except Fault (Numeral × List Char) :=
  match text with
  | '-' :: rest => unsigned atEnd true rest
  | _ => unsigned atEnd false text

/-- The value of a numeral, unless it is too large for a double. -/
def ofNumeral (numeral : Numeral) : Except Fault Json :=
  match numeral.integer? with
  | some value => .ok (integer value)
  | none => if numeral.isFinite then .ok (fractional numeral) else .error .malformed

/-- The letters of a word that must follow. -/
def word : (letters text : List Char) → Except Fault (List Char)
  | [], text => .ok text
  | _ :: _, [] => .error .truncated
  | letter :: letters, c :: rest =>
      if c = letter then word letters rest else .error .malformed

theorem length_of_word {letters text rest : List Char} (hword : word letters text = .ok rest) :
    rest.length ≤ text.length := by
  induction letters generalizing text with
  | nil =>
      cases hword
      exact Nat.le_refl _
  | cons letter letters ih =>
      cases text with
      | nil => cases hword
      | cons c tail =>
          simp only [word] at hword
          split at hword
          · exact Nat.le_succ_of_le (ih hword)
          · cases hword

theorem length_of_digits (text : List Char) : (digits text).2.length ≤ text.length :=
  (List.dropWhile_sublist _).length_le

theorem length_of_someDigits {atEnd : Fault} {text found rest : List Char}
    (hdigits : someDigits atEnd text = .ok (found, rest)) : rest.length < text.length := by
  cases text with
  | nil => cases hdigits
  | cons c tail =>
      simp only [someDigits] at hdigits
      split at hdigits
      · next hdigit =>
        cases hdigits
        simp only [List.dropWhile_cons, hdigit, if_true]
        exact Nat.lt_succ_of_le (length_of_digits tail)
      · cases hdigits

theorem length_of_fractionPart {atEnd : Fault} {text found rest : List Char}
    (hpart : fractionPart atEnd text = .ok (found, rest)) : rest.length ≤ text.length := by
  unfold fractionPart at hpart
  split at hpart
  · exact Nat.le_succ_of_le (Nat.le_of_lt (length_of_someDigits hpart))
  · cases hpart
    exact Nat.le_refl _

theorem length_of_exponentPart {atEnd : Fault} {text rest : List Char}
    {found : Option (Bool × List Char)}
    (hpart : exponentPart atEnd text = .ok (found, rest)) : rest.length ≤ text.length := by
  have hafter : ∀ {negative : Bool} {tail : List Char},
      (do let (power, last) ← someDigits atEnd tail
          return (some (negative, power), last)) = Except.ok (found, rest) →
        rest.length ≤ tail.length := by
    intro negative tail hrun
    cases hdigits : someDigits atEnd tail with
    | error fault => simp [hdigits, bind, Except.bind] at hrun
    | ok pair =>
        simp only [hdigits, bind, Except.bind, pure, Except.pure] at hrun
        cases hrun
        exact Nat.le_of_lt (length_of_someDigits hdigits)
  cases text with
  | nil =>
      cases hpart
      exact Nat.le_refl _
  | cons c tail =>
      simp only [exponentPart] at hpart
      split at hpart
      · split at hpart
        · exact Nat.le_succ_of_le (Nat.le_succ_of_le (hafter hpart))
        · exact Nat.le_succ_of_le (Nat.le_succ_of_le (hafter hpart))
        · exact Nat.le_succ_of_le (hafter hpart)
      · cases hpart
        exact Nat.le_refl _

theorem length_of_unsigned {atEnd : Fault} {negative : Bool} {text rest : List Char}
    {found : Numeral} (hnumeral : unsigned atEnd negative text = .ok (found, rest)) :
    rest.length < text.length := by
  simp only [unsigned, bind, Except.bind] at hnumeral
  split at hnumeral
  · cases hnumeral
  · next hwhole =>
    split at hnumeral
    · cases hnumeral
    · split at hnumeral
      · cases hnumeral
      · next hfraction =>
        split at hnumeral
        · cases hnumeral
        · next hexponent =>
          cases hnumeral
          exact Nat.lt_of_le_of_lt
            (Nat.le_trans (length_of_exponentPart hexponent) (length_of_fractionPart hfraction))
            (length_of_someDigits hwhole)

theorem length_of_numeral {atEnd : Fault} {text rest : List Char} {found : Numeral}
    (hnumeral : numeral atEnd text = .ok (found, rest)) : rest.length < text.length := by
  unfold numeral at hnumeral
  split at hnumeral
  · exact Nat.lt_succ_of_lt (length_of_unsigned hnumeral)
  · exact length_of_unsigned hnumeral

theorem length_of_word_tail {letters rest last : List Char} (first : Char)
    (hword : word letters rest = .ok last) : last.length < (first :: rest).length :=
  Nat.lt_succ_of_le (length_of_word hword)

/-- The letters of a word behind its first one, which stand for a value. -/
def spelled {α : Type} {first : Char} {rest : List Char} (letters : List Char) (value : α) :
    Except Fault (α × Shorter (first :: rest)) :=
  match hword : word letters rest with
  | .error fault => .error fault
  | .ok last => .ok (value, ⟨last, length_of_word_tail first hword⟩)

def readNumeral (atEnd : Fault) : Reader Numeral := fun text =>
  match hnumeral : numeral atEnd text with
  | .error fault => .error fault
  | .ok (found, last) => .ok (found, ⟨last, length_of_numeral hnumeral⟩)

/-- A value whose first character stands at the front and is not a bracket. -/
def scalar : Reader Json
  | [] => .error .truncated
  | c :: rest =>
      if c = '"' then
        match characters rest with
        | .error fault => .error fault
        | .ok (value, last) => .ok (string value, Shorter.tail.after last)
      else if c = 'n' then spelled ['u', 'l', 'l'] null
      else if c = 't' then spelled ['r', 'u', 'e'] (bool true)
      else if c = 'f' then spelled ['a', 'l', 's', 'e'] (bool false)
      else if c = '-' ∨ Numeral.isDigit c then
        match readNumeral .truncated (c :: rest) with
        | .error fault => .error fault
        | .ok (found, last) =>
            match ofNumeral found with
            | .error fault => .error fault
            | .ok value => .ok (value, last)
      else
        .error .malformed

/-- Checks the grammar of a value whose first character stands at the front and is not a bracket.
A number must be complete even at the end of the text. -/
def skipScalar : Reader Unit
  | [] => .error .truncated
  | c :: rest =>
      if c = '"' then
        match skipCharacters rest with
        | .error fault => .error fault
        | .ok (_, last) => .ok ((), Shorter.tail.after last)
      else if c = 'n' then spelled ['u', 'l', 'l'] ()
      else if c = 't' then spelled ['r', 'u', 'e'] ()
      else if c = 'f' then spelled ['a', 'l', 's', 'e'] ()
      else if c = '-' ∨ Numeral.isDigit c then
        match readNumeral .malformed (c :: rest) with
        | .error fault => .error fault
        | .ok (_, last) => .ok ((), last)
      else
        .error .malformed

end EdgeRouting.Json
