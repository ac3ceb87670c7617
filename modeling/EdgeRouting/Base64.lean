/-!
# Base64

Bytes as text in the standard alphabet: three bytes become four characters of six bits each, and
the last group is padded.  Decoding accepts only what encoding produces: no white space, no missing
padding, and no set bit that belongs to no byte.
-/

namespace EdgeRouting.Base64

/-- The character of a group of six bits. -/
def symbol (bits : Nat) : Char :=
  if bits < 26 then Char.ofNat ('A'.toNat + bits)
  else if bits < 52 then Char.ofNat ('a'.toNat + (bits - 26))
  else if bits < 62 then Char.ofNat ('0'.toNat + (bits - 52))
  else if bits = 62 then '+'
  else '/'

/-- The group of six bits of a character. -/
def bits? (c : Char) : Option Nat :=
  if 'A' ≤ c ∧ c ≤ 'Z' then some (c.toNat - 'A'.toNat)
  else if 'a' ≤ c ∧ c ≤ 'z' then some (c.toNat - 'a'.toNat + 26)
  else if '0' ≤ c ∧ c ≤ '9' then some (c.toNat - '0'.toNat + 52)
  else if c = '+' then some 62
  else if c = '/' then some 63
  else none

def encode : List UInt8 → List Char
  | [] => []
  | [first] =>
      let bits := first.toNat * 16
      [symbol (bits / 64), symbol (bits % 64), '=', '=']
  | [first, second] =>
      let bits := (first.toNat * 256 + second.toNat) * 4
      [symbol (bits / 4096), symbol (bits / 64 % 64), symbol (bits % 64), '=']
  | first :: second :: third :: rest =>
      let bits := (first.toNat * 256 + second.toNat) * 256 + third.toNat
      symbol (bits / 262144) :: symbol (bits / 4096 % 64) :: symbol (bits / 64 % 64) ::
        symbol (bits % 64) :: encode rest

def decode? : List Char → Option (List UInt8)
  | [] => some []
  | [a, b, '=', '='] => do
      let bits := (← bits? a) * 64 + (← bits? b)
      if bits % 16 = 0 then some [UInt8.ofNat (bits / 16)] else none
  | [a, b, c, '='] => do
      let bits := ((← bits? a) * 64 + (← bits? b)) * 64 + (← bits? c)
      if bits % 4 = 0 then
        some [UInt8.ofNat (bits / 1024), UInt8.ofNat (bits / 4 % 256)]
      else none
  | a :: b :: c :: d :: rest => do
      let bits := (((← bits? a) * 64 + (← bits? b)) * 64 + (← bits? c)) * 64 + (← bits? d)
      let others ← decode? rest
      some (UInt8.ofNat (bits / 65536) :: UInt8.ofNat (bits / 256 % 256) ::
        UInt8.ofNat (bits % 256) :: others)
  | _ => none

end EdgeRouting.Base64
