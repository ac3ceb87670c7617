import EdgeRouting.Text.Quoted
import Mathlib.Logic.Function.Basic

/-!
# Reading what is shown

A numeral tells its number.  A quoted text tells which text it is and where it ends, whatever
follows it: a character is quoted as itself or with a backslash before it, and a quotation mark
without one is the end.
-/

namespace EdgeRouting.Text

/-- The longest part in front is the same if it is one of all that fulfil `p`. -/
theorem append_cons_inj_of_forall {α : Type} {p : α → Prop} {first second rest others : List α}
    {mark other : α} (hfirst : ∀ element ∈ first, p element) (hmark : ¬p mark)
    (hsecond : ∀ element ∈ second, p element) (hother : ¬p other)
    (hsame : first ++ mark :: rest = second ++ other :: others) :
    first = second ∧ mark = other ∧ rest = others := by
  rcases List.append_eq_append_iff.mp hsame with
    ⟨between, hbetween, hends⟩ | ⟨between, hbetween, hends⟩
  · cases between with
    | nil =>
        obtain ⟨hmarks, hrests⟩ := List.cons.inj hends
        exact ⟨by rw [hbetween, List.append_nil], hmarks, hrests⟩
    | cons head tail =>
        have hhead : mark = head := (List.cons.inj hends).1
        exact absurd (hsecond mark (by simp [hbetween, hhead])) hmark
  · cases between with
    | nil =>
        obtain ⟨hmarks, hrests⟩ := List.cons.inj hends
        exact ⟨by rw [hbetween, List.append_nil], hmarks.symm, hrests.symm⟩
    | cons head tail =>
        have hhead : other = head := (List.cons.inj hends).1
        exact absurd (hfirst other (by simp [hbetween, hhead])) hother

/-- Texts without a mark in them are told from what is behind the first mark. -/
theorem append_mark_inj {mark : Char} {first second rest others : List Char}
    (hfirst : mark ∉ first) (hsecond : mark ∉ second)
    (hsame : first ++ mark :: rest = second ++ mark :: others) :
    first = second ∧ rest = others := by
  obtain ⟨hfirsts, -, hrests⟩ := append_cons_inj_of_forall (p := fun c => c ≠ mark)
    (fun _ hc heq => hfirst (heq ▸ hc)) (not_not.mpr rfl)
    (fun _ hc heq => hsecond (heq ▸ hc)) (not_not.mpr rfl) hsame
  exact ⟨hfirsts, hrests⟩

/-! ## Numerals -/

theorem isDigit_of_mem_decimal {value : Nat} {c : Char} (hc : c ∈ (toString value).toList) :
    c.isDigit = true := by
  rw [Nat.toString_eq_repr, Nat.toList_repr] at hc
  exact Nat.isDigit_of_mem_toDigits (by decide) (by decide) hc

theorem decimal_injective : Function.Injective fun value : Nat => toString value := by
  intro first second hsame
  have hdigits := congrArg String.toList hsame
  simp only [Nat.toString_eq_repr, Nat.toList_repr] at hdigits
  rw [← @Nat.ofDigitChars_ten_toDigits first, hdigits, Nat.ofDigitChars_ten_toDigits]

theorem digitChar_inj : ∀ first < 16, ∀ second < 16,
    Nat.digitChar first = Nat.digitChar second → first = second := by
  decide

theorem hexadecimal_of_lt {value : Nat} (hvalue : value < 16) :
    hexadecimal value = [Nat.digitChar value] := Nat.toDigits_of_lt_base hvalue

theorem hexadecimal_of_le {value : Nat} (hvalue : 16 ≤ value) :
    hexadecimal value = hexadecimal (value / 16) ++ [Nat.digitChar (value % 16)] :=
  Nat.toDigits_of_base_le (by decide) hvalue

theorem hexadecimal_ne_nil (value : Nat) : hexadecimal value ≠ [] := Nat.toDigits_ne_nil

theorem exists_digit_of_mem_hexadecimal {value : Nat} {c : Char} (hc : c ∈ hexadecimal value) :
    ∃ digit < 16, c = Nat.digitChar digit := by
  induction value using Nat.strongRecOn with
  | ind value ih =>
      by_cases hvalue : value < 16
      · rw [hexadecimal_of_lt hvalue, List.mem_singleton] at hc
        exact ⟨value, hvalue, hc⟩
      · rw [hexadecimal_of_le (by omega), List.mem_append, List.mem_singleton] at hc
        rcases hc with hc | hc
        · exact ih (value / 16) (by omega) hc
        · exact ⟨value % 16, by omega, hc⟩

theorem brace_not_mem_hexadecimal (value : Nat) : '\x7d' ∉ hexadecimal value := by
  intro hmem
  obtain ⟨digit, hdigit, hbrace⟩ := exists_digit_of_mem_hexadecimal hmem
  have hother : ∀ digit < 16, '\x7d' ≠ Nat.digitChar digit := by decide
  exact hother digit hdigit hbrace

theorem one_lt_length_hexadecimal {value : Nat} (hvalue : 16 ≤ value) :
    1 < (hexadecimal value).length := by
  rw [hexadecimal_of_le hvalue, List.length_append, List.length_singleton]
  have hfront := List.length_pos_iff.mpr (hexadecimal_ne_nil (value / 16))
  omega

theorem hexadecimal_injective : Function.Injective hexadecimal := by
  intro first
  induction first using Nat.strongRecOn with
  | ind first ih =>
      intro second hsame
      by_cases hfirst : first < 16
      · by_cases hsecond : second < 16
        · rw [hexadecimal_of_lt hfirst, hexadecimal_of_lt hsecond] at hsame
          exact digitChar_inj first hfirst second hsecond (List.cons.inj hsame).1
        · have hlonger := one_lt_length_hexadecimal (Nat.le_of_not_lt hsecond)
          rw [← hsame, hexadecimal_of_lt hfirst] at hlonger
          exact absurd hlonger (Nat.lt_irrefl 1)
      · by_cases hsecond : second < 16
        · have hlonger := one_lt_length_hexadecimal (Nat.le_of_not_lt hfirst)
          rw [hsame, hexadecimal_of_lt hsecond] at hlonger
          exact absurd hlonger (Nat.lt_irrefl 1)
        · rw [hexadecimal_of_le (Nat.le_of_not_lt hfirst),
            hexadecimal_of_le (Nat.le_of_not_lt hsecond)] at hsame
          obtain ⟨hfront, hlast⟩ := List.append_inj' hsame rfl
          have hquotient := ih (first / 16) (by omega) hfront
          have hrest := digitChar_inj (first % 16) (by omega) (second % 16) (by omega)
            (List.cons.inj hlast).1
          omega

/-! ## Characters -/

/-- Characters with a letter or mark of their own behind the backslash. -/
def shortEscapes : List (Char × Char) :=
  [('\x00', '0'), ('\t', 't'), ('\n', 'n'), ('\r', 'r'), ('"', '"'), ('\\', '\\')]

/-- How a character may be quoted. -/
inductive QuotedAs : Char → List Char → Prop
  | short {c mark : Char} (hshort : (c, mark) ∈ shortEscapes) : QuotedAs c ['\\', mark]
  | codePoint (c : Char) :
      QuotedAs c ('\\' :: 'u' :: '\x7b' :: (hexadecimal c.toNat ++ ['\x7d']))
  | plain {c : Char} (hquote : c ≠ '"') (hslash : c ≠ '\\') : QuotedAs c [c]

theorem quotedAs_quoteChar (c : Char) : QuotedAs c (quoteChar c) := by
  unfold quoteChar
  split
  · exact .short (by decide)
  · exact .short (by decide)
  · exact .short (by decide)
  · exact .short (by decide)
  · exact .short (by decide)
  · exact .short (by decide)
  · next hquote hslash =>
    split
    · exact .codePoint c
    · exact .plain hquote hslash

theorem shortEscapes_inj : ∀ first ∈ shortEscapes, ∀ second ∈ shortEscapes,
    first.2 = second.2 → first.1 = second.1 := by
  decide

theorem shortEscapes_ne : ∀ escape ∈ shortEscapes, escape.2 ≠ 'u' := by decide

theorem QuotedAs.inj {c d : Char} {code other rest others : List Char}
    (hcode : QuotedAs c code) (hother : QuotedAs d other)
    (hsame : code ++ rest = other ++ others) : c = d ∧ rest = others := by
  cases hcode with
  | @short mark hshort =>
      cases hother with
      | @short otherMark hotherShort =>
          simp only [List.cons_append, List.nil_append, List.cons.injEq, true_and] at hsame
          exact ⟨shortEscapes_inj _ hshort _ hotherShort hsame.1, hsame.2⟩
      | codePoint =>
          simp only [List.cons_append, List.nil_append, List.cons.injEq, true_and] at hsame
          exact absurd hsame.1 (shortEscapes_ne _ hshort)
      | plain hquote hslash => exact absurd (List.cons.inj hsame).1.symm hslash
  | codePoint =>
      cases hother with
      | short hotherShort =>
          simp only [List.cons_append, List.nil_append, List.cons.injEq, true_and] at hsame
          exact absurd hsame.1.symm (shortEscapes_ne _ hotherShort)
      | codePoint =>
          simp only [List.cons_append, List.append_assoc, List.nil_append, List.cons.injEq,
            true_and] at hsame
          obtain ⟨hnumber, hrest⟩ := append_mark_inj (brace_not_mem_hexadecimal c.toNat)
            (brace_not_mem_hexadecimal d.toNat) hsame
          exact ⟨Char.toNat_inj.mp (hexadecimal_injective hnumber), hrest⟩
      | plain hquote hslash => exact absurd (List.cons.inj hsame).1.symm hslash
  | plain hquote hslash =>
      cases hother with
      | short hotherShort => exact absurd (List.cons.inj hsame).1 hslash
      | codePoint => exact absurd (List.cons.inj hsame).1 hslash
      | plain => exact List.cons.inj hsame

theorem QuotedAs.ne_quote {c : Char} {code rest others : List Char} (hcode : QuotedAs c code) :
    '"' :: rest ≠ code ++ others := by
  cases hcode with
  | short => simp
  | codePoint => simp
  | plain hquote => simp [Ne.symm hquote]

/-! ## Texts -/

theorem flatMap_quoteChar_inj {first second rest others : List Char}
    (hsame : first.flatMap quoteChar ++ '"' :: rest = second.flatMap quoteChar ++ '"' :: others) :
    first = second ∧ rest = others := by
  induction first generalizing second with
  | nil =>
      cases second with
      | nil => exact ⟨rfl, (List.cons.inj hsame).2⟩
      | cons d chars =>
          rw [List.flatMap_cons, List.append_assoc] at hsame
          exact absurd hsame (quotedAs_quoteChar d).ne_quote
  | cons c chars ih =>
      cases second with
      | nil =>
          rw [List.flatMap_cons, List.append_assoc] at hsame
          exact absurd hsame.symm (quotedAs_quoteChar c).ne_quote
      | cons d others =>
          rw [List.flatMap_cons, List.flatMap_cons, List.append_assoc, List.append_assoc] at hsame
          obtain ⟨rfl, hbehind⟩ := (quotedAs_quoteChar c).inj (quotedAs_quoteChar d) hsame
          obtain ⟨rfl, hrest⟩ := ih hbehind
          exact ⟨rfl, hrest⟩

theorem quoted_inj {first second : String} {rest others : List Char}
    (hsame : (quoted first).toList ++ rest = (quoted second).toList ++ others) :
    first = second ∧ rest = others := by
  simp only [quoted, String.toList_ofList, List.cons_append, List.append_assoc, List.nil_append,
    List.cons.injEq, true_and] at hsame
  obtain ⟨hchars, hrest⟩ := flatMap_quoteChar_inj hsame
  exact ⟨String.toList_inj.mp hchars, hrest⟩

end EdgeRouting.Text
