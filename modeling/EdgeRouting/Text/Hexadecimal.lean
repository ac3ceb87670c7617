/-!
# Hexadecimal numerals
-/

namespace EdgeRouting.Text

/-- A number in lowercase, without leading zeros. -/
def hexadecimal (value : Nat) : List Char := Nat.toDigits 16 value

def hexValue? (c : Char) : Option Nat :=
  if '0' ≤ c ∧ c ≤ '9' then some (c.toNat - '0'.toNat)
  else if 'a' ≤ c ∧ c ≤ 'f' then some (c.toNat - 'a'.toNat + 10)
  else if 'A' ≤ c ∧ c ≤ 'F' then some (c.toNat - 'A'.toNat + 10)
  else none

end EdgeRouting.Text
