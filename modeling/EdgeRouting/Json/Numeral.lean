/-!
# Numerals

A JSON number as it is written: sign, whole digits, digits after the point, exponent.  Numerals
without point and exponent that fit 64 bits are integers; all others stand for binary floating
point numbers, and one whose number is too large for a double is refused.

The range is that of a reader that keeps the digits that fit 64 bits, rounds them to a double and
multiplies by a power of ten that is itself a double, with one rounding at the end.
-/

namespace EdgeRouting

structure Numeral where
  negative : Bool
  whole : List Char
  fraction : List Char
  /-- The sign of the exponent (true if negative) and its digits. -/
  exponent : Option (Bool × List Char)
  deriving DecidableEq, Repr

namespace Numeral

def isDigit (c : Char) : Bool := '0' ≤ c && c ≤ '9'

def digitValue (c : Char) : Nat := c.toNat - '0'.toNat

def ofDigits (digits : List Char) : Nat :=
  digits.foldl (fun value digit => value * 10 + digitValue digit) 0

/-- The least number that does not fit 64 bits. -/
def wordEnd : Nat := 0x10000000000000000

/-- Appends digits to a significand while it fits 64 bits; also counts those left over. -/
def accumulate (significand : Nat) : List Char → Nat × Nat
  | [] => (significand, 0)
  | digit :: rest =>
      let next := significand * 10 + digitValue digit
      if next < wordEnd then accumulate next rest else (significand, rest.length + 1)

/-- The nearest number with 53 significant bits; a tie goes to the even one. -/
def roundToDouble (value : Nat) : Nat :=
  let spare := value.log2 - 52
  let unit := Nat.pow 2 spare
  let quotient := value / unit
  let remainder := value % unit
  if 2 * remainder > unit || (2 * remainder = unit && quotient % 2 = 1) then
    (quotient + 1) * unit
  else
    quotient * unit

/-- Half a unit of the last place above the largest double.  From here on numbers round to
infinity. -/
def overflow : Nat := Nat.pow 2 1024 - Nat.pow 2 970

/-- The product of a significand and a power of ten rounds to a finite double. -/
def scalesToFinite (significand : Nat) (power : Int) : Bool :=
  if power < 0 then
    true
  else if 308 < power then
    significand = 0
  else
    roundToDouble significand * roundToDouble (Nat.pow 10 power.toNat) < overflow

def isFinite (numeral : Numeral) : Bool :=
  let (significand, leftOver) := accumulate 0 numeral.whole
  let (significand, ignored) := accumulate significand numeral.fraction
  let power : Int := (leftOver : Int) - ((numeral.fraction.length - ignored : Nat) : Int)
  match numeral.exponent with
  | none => scalesToFinite significand power
  | some (negative, digits) =>
      let exponent := ofDigits digits
      if 0x80000000 ≤ exponent then
        negative || significand = 0
      else if negative then
        scalesToFinite significand (power - exponent)
      else
        scalesToFinite significand (power + exponent)

/-- The integer that a numeral stands for, if it fits 64 bits: without a sign where it is not
negative, with one where it is. -/
def integer? (numeral : Numeral) : Option Int :=
  match numeral.fraction, numeral.exponent with
  | [], none =>
      let size := ofDigits numeral.whole
      if numeral.negative then
        if 0 < size ∧ size ≤ wordEnd / 2 then some (- (size : Int)) else none
      else if size < wordEnd then some (size : Int) else none
  | _, _ => none

def render (numeral : Numeral) : List Char :=
  (if numeral.negative then ['-'] else []) ++ numeral.whole ++
    (if numeral.fraction.isEmpty then [] else '.' :: numeral.fraction) ++
    match numeral.exponent with
    | none => []
    | some (negative, digits) => 'e' :: (if negative then ['-'] else []) ++ digits

end Numeral

end EdgeRouting
