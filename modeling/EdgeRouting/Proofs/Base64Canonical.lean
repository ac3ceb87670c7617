import EdgeRouting.Base64
import Mathlib.Tactic.Common

/-!
# Base64 and back

Every list of bytes is decoded from exactly one text, which is the one that encodes it.  So bytes go
through base64 unchanged, and a text that differs from the encoding of some bytes in any character
does not stand for them.
-/

namespace EdgeRouting.Base64

/-! ## Characters -/

theorem bits?_symbol {bits : Nat} (hbits : bits < 64) : bits? (symbol bits) = some bits := by
  have hall : ∀ bits < 64, bits? (symbol bits) = some bits := by decide
  exact hall bits hbits

theorem symbol_ne_padding {bits : Nat} (hbits : bits < 64) : symbol bits ≠ '=' := by
  intro hpadding
  have hnone : bits? '=' = none := by decide
  have hsome := bits?_symbol hbits
  rw [hpadding, hnone] at hsome
  cases hsome

/-- A character between two others is found by counting from the first one. -/
theorem ofNat_add_toNat_sub {c first last : Char} (hrange : first ≤ c ∧ c ≤ last) :
    Char.ofNat (first.toNat + (c.toNat - first.toNat)) = c := by
  have hle : first.toNat ≤ c.toNat := hrange.1
  rw [Nat.add_sub_cancel' hle, Char.ofNat_toNat]

theorem symbol_of_bits? {c : Char} {bits : Nat} (hbits : bits? c = some bits) :
    bits < 64 ∧ c = symbol bits := by
  unfold bits? at hbits
  split_ifs at hbits with hcapital hsmall hdigit hplus hslash
  · cases hbits
    have hlast : c.toNat ≤ 90 := hcapital.2
    have hindex : c.toNat - 'A'.toNat < 26 := by
      change c.toNat - 65 < 26
      omega
    rw [symbol, if_pos hindex, ofNat_add_toNat_sub hcapital]
    exact ⟨by omega, rfl⟩
  · cases hbits
    have hlast : c.toNat ≤ 122 := hsmall.2
    have hindex : c.toNat - 'a'.toNat < 26 := by
      change c.toNat - 97 < 26
      omega
    rw [symbol, if_neg (by omega), if_pos (by omega), Nat.add_sub_cancel,
      ofNat_add_toNat_sub hsmall]
    exact ⟨by omega, rfl⟩
  · cases hbits
    have hlast : c.toNat ≤ 57 := hdigit.2
    have hindex : c.toNat - '0'.toNat < 10 := by
      change c.toNat - 48 < 10
      omega
    rw [symbol, if_neg (by omega), if_neg (by omega), if_pos (by omega), Nat.add_sub_cancel,
      ofNat_add_toNat_sub hdigit]
    exact ⟨by omega, rfl⟩
  · cases hbits
    exact ⟨by decide, hplus⟩
  · cases hbits
    exact ⟨by decide, hslash⟩

/-! ## Groups of characters -/

theorem decode?_encode (bytes : List UInt8) : decode? (encode bytes) = some bytes := by
  fun_induction encode bytes with
  | case1 => rfl
  | case2 first bits =>
      have hfirst : first.toNat < 256 := first.toNat_lt
      have hjoined : bits / 64 * 64 + bits % 64 = bits := by omega
      have hwhole : bits / 16 = first.toNat := by omega
      have hunused : bits % 16 = 0 := by omega
      rw [decode?, bits?_symbol (by omega), bits?_symbol (by omega)]
      simp [hjoined, hwhole, hunused]
  | case3 first second bits =>
      have hfirst : first.toNat < 256 := first.toNat_lt
      have hsecond : second.toNat < 256 := second.toNat_lt
      have hjoined : (bits / 4096 * 64 + bits / 64 % 64) * 64 + bits % 64 = bits := by omega
      have hwhole : bits / 1024 = first.toNat := by omega
      have hother : bits / 4 % 256 = second.toNat := by omega
      have hunused : bits % 4 = 0 := by omega
      rw [decode?, bits?_symbol (by omega), bits?_symbol (by omega), bits?_symbol (by omega)]
      · simp [hjoined, hwhole, hother, hunused]
      -- No symbol pads a group, so that the group is not taken for one of fewer bytes.
      · exact symbol_ne_padding (by omega)
  | case4 first second third rest bits ih =>
      have hfirst : first.toNat < 256 := first.toNat_lt
      have hsecond : second.toNat < 256 := second.toNat_lt
      have hthird : third.toNat < 256 := third.toNat_lt
      have hjoined : ((bits / 262144 * 64 + bits / 4096 % 64) * 64 + bits / 64 % 64) * 64 +
          bits % 64 = bits := by omega
      have hwhole : bits / 65536 = first.toNat := by omega
      have hother : bits / 256 % 256 = second.toNat := by omega
      have hlast : bits % 256 = third.toNat := by omega
      rw [decode?, bits?_symbol (by omega), bits?_symbol (by omega), bits?_symbol (by omega),
        bits?_symbol (by omega)]
      · simp [hjoined, hwhole, hother, hlast, ih]
      · intro hpadding
        exact absurd hpadding (symbol_ne_padding (by omega))
      · intro hpadding
        exact absurd hpadding (symbol_ne_padding (by omega))

theorem encode_of_decode? {text : List Char} {bytes : List UInt8}
    (hbytes : decode? text = some bytes) : text = encode bytes := by
  fun_induction decode? text generalizing bytes with
  | case1 =>
      cases hbytes
      rfl
  | case2 a b =>
      simp only [Option.bind_eq_bind, Option.bind_eq_some_iff, Option.ite_none_right_eq_some,
        Option.some.injEq] at hbytes
      obtain ⟨high, ha, low, hb, hunused, rfl⟩ := hbytes
      obtain ⟨hhigh, rfl⟩ := symbol_of_bits? ha
      obtain ⟨hlow, rfl⟩ := symbol_of_bits? hb
      have hwhole := UInt8.toNat_ofNat_of_lt' (show (high * 64 + low) / 16 < 256 by omega)
      have hleft : (high * 64 + low) / 16 * 16 / 64 = high := by omega
      have hright : (high * 64 + low) / 16 * 16 % 64 = low := by omega
      simp only [encode, hwhole, hleft, hright]
  | case3 a b c =>
      simp only [Option.bind_eq_bind, Option.bind_eq_some_iff, Option.ite_none_right_eq_some,
        Option.some.injEq] at hbytes
      obtain ⟨high, ha, middle, hb, low, hc, hunused, rfl⟩ := hbytes
      obtain ⟨hhigh, rfl⟩ := symbol_of_bits? ha
      obtain ⟨hmiddle, rfl⟩ := symbol_of_bits? hb
      obtain ⟨hlow, rfl⟩ := symbol_of_bits? hc
      generalize hbits : (high * 64 + middle) * 64 + low = bits at hunused ⊢
      have hwhole := UInt8.toNat_ofNat_of_lt' (show bits / 1024 < 256 by omega)
      have hother := UInt8.toNat_ofNat_of_lt' (show bits / 4 % 256 < 256 by omega)
      have hjoined : (bits / 1024 * 256 + bits / 4 % 256) * 4 = bits := by omega
      have hleft : bits / 4096 = high := by omega
      have hinner : bits / 64 % 64 = middle := by omega
      have hright : bits % 64 = low := by omega
      simp only [encode, hwhole, hother, hjoined, hleft, hinner, hright]
  | case4 a b c d rest _ _ ih =>
      simp only [Option.bind_eq_bind, Option.bind_eq_some_iff, Option.some.injEq] at hbytes
      obtain ⟨first, ha, second, hb, third, hc, last, hd, others, hothers, rfl⟩ := hbytes
      obtain ⟨hfirst, rfl⟩ := symbol_of_bits? ha
      obtain ⟨hsecond, rfl⟩ := symbol_of_bits? hb
      obtain ⟨hthird, rfl⟩ := symbol_of_bits? hc
      obtain ⟨hlast, rfl⟩ := symbol_of_bits? hd
      generalize hbits : ((first * 64 + second) * 64 + third) * 64 + last = bits
      have hwhole := UInt8.toNat_ofNat_of_lt' (show bits / 65536 < 256 by omega)
      have hother := UInt8.toNat_ofNat_of_lt' (show bits / 256 % 256 < 256 by omega)
      have hrest := UInt8.toNat_ofNat_of_lt' (show bits % 256 < 256 by omega)
      have hjoined : (bits / 65536 * 256 + bits / 256 % 256) * 256 + bits % 256 = bits := by
        omega
      have hone : bits / 262144 = first := by omega
      have htwo : bits / 4096 % 64 = second := by omega
      have hthree : bits / 64 % 64 = third := by omega
      have hfour : bits % 64 = last := by omega
      simp only [encode, hwhole, hother, hrest, hjoined, hone, htwo, hthree, hfour, ih hothers]
  | case5 => cases hbytes

theorem decode?_eq_some_iff {text : List Char} {bytes : List UInt8} :
    decode? text = some bytes ↔ text = encode bytes := by
  constructor
  · exact encode_of_decode?
  · rintro rfl
    exact decode?_encode bytes

/-- The last two bits of the second text belong to no byte. -/
example : decode? "AP8=".toList = some [0, 255] ∧ decode? "AP9=".toList = none := by decide

end EdgeRouting.Base64
