import EdgeRouting.Resource.Metadata
import EdgeRouting.Shorter

/-!
# Variable-length integers

A number is written in groups of seven bits, least significant first; every byte but the last one
has its high bit set.  A reader takes any number of at most 64 bits, also with more groups than it
needs: ten bytes at most, and of the tenth only one bit.
-/

namespace EdgeRouting.Wire

def varint (value : Nat) : Bytes :=
  if value < 128 then
    [UInt8.ofNat value]
  else
    UInt8.ofNat (value % 128 + 128) :: varint (value / 128)
termination_by value
decreasing_by omega

/-- Reads a number of at most so many bytes, the last of which may only hold one bit. -/
def readVarintWithin : (count : Nat) → (input : Bytes) → Option (Nat × Shorter input)
  | 0, _ => none
  | _ + 1, [] => none
  | count + 1, byte :: rest =>
      if byte.toNat < 128 then
        if count = 0 ∧ 2 ≤ byte.toNat then none
        else some (byte.toNat, Shorter.tail)
      else
        match readVarintWithin count rest with
        | none => none
        | some (high, last) =>
            some (byte.toNat - 128 + 128 * high, Shorter.tail.after last)

def readVarint (input : Bytes) : Option (Nat × Shorter input) := readVarintWithin 10 input

end EdgeRouting.Wire
