import EdgeRouting.Json.Reader
import EdgeRouting.Text.Bytes
import EdgeRouting.Text.Hexadecimal

/-!
# Texts in quotation marks

The characters of a JSON string and its escapes.  `characters` reads them and asks that surrogates
come in pairs; `skipCharacters` only checks their grammar, and lets a lone surrogate pass.
-/

namespace EdgeRouting.Json

/-- Four hexadecimal digits.  The text is truncated if fewer than four bytes are left, whatever
they are. -/
def fourDigits : Reader Nat
  | a :: b :: c :: d :: _ =>
      match Text.hexValue? a, Text.hexValue? b, Text.hexValue? c, Text.hexValue? d with
      | some a, some b, some c, some d =>
          .ok (((a * 16 + b) * 16 + c) * 16 + d,
            Shorter.tail.after (Shorter.tail.after (Shorter.tail.after Shorter.tail)))
      | _, _, _, _ => .error .malformed
  | short =>
      if Text.byteCount short < 4 then .error .truncated else .error .malformed

/-- The second half of a surrogate pair, as an escape of its own. -/
def lowSurrogate : Reader Nat
  | [] => .error .truncated
  | ['\\'] => .error .truncated
  | '\\' :: 'u' :: rest =>
      match fourDigits rest with
      | .error fault => .error fault
      | .ok (low, after) =>
          if 0xDC00 ≤ low ∧ low ≤ 0xDFFF then
            .ok (low, Shorter.tail.after (Shorter.tail.after after))
          else
            .error .malformed
  | _ => .error .malformed

/-- The character that a one-letter escape stands for. -/
def letterEscape? : Char → Option Char
  | '"' => some '"'
  | '\\' => some '\\'
  | '/' => some '/'
  | 'b' => some '\x08'
  | 'f' => some '\x0c'
  | 'n' => some '\n'
  | 'r' => some '\r'
  | 't' => some '\t'
  | _ => none

/-- The character of an escape, after its backslash.  Surrogates must come in pairs. -/
def escaped : Reader Char
  | [] => .error .truncated
  | 'u' :: rest =>
      match fourDigits rest with
      | .error fault => .error fault
      | .ok (code, after) =>
          if 0xDC00 ≤ code ∧ code ≤ 0xDFFF then
            .error .malformed
          else if 0xD800 ≤ code ∧ code ≤ 0xDBFF then
            match lowSurrogate after.val with
            | .error fault => .error fault
            | .ok (low, last) =>
                .ok (Char.ofNat ((code - 0xD800) * 0x400 + (low - 0xDC00) + 0x10000),
                  Shorter.tail.after (after.after last))
          else
            .ok (Char.ofNat code, Shorter.tail.after after)
  | letter :: _ =>
      match letterEscape? letter with
      | some c => .ok (c, Shorter.tail)
      | none => .error .malformed

/-- An escape whose code point is not looked at, after its backslash. -/
def skipEscaped : Reader Unit
  | [] => .error .truncated
  | 'u' :: rest =>
      match fourDigits rest with
      | .error fault => .error fault
      | .ok (_, after) => .ok ((), Shorter.tail.after after)
  | letter :: _ =>
      match letterEscape? letter with
      | some _ => .ok ((), Shorter.tail)
      | none => .error .malformed

/-- The characters up to the closing quotation mark, where `text` ends `whole` and the characters
so far are given in reverse. -/
def charactersIn {whole : List Char} (seen text : List Char)
    (hle : text.length ≤ whole.length) : Except Fault (List Char × Shorter whole) :=
  match text, hle with
  | [], _ => .error .truncated
  | c :: rest, hle =>
      if c = '"' then
        .ok (seen.reverse, ⟨rest, hle⟩)
      else if c = '\\' then
        match escaped rest with
        | .error fault => .error fault
        | .ok (meaning, after) =>
            charactersIn (meaning :: seen) after.val
              (Shorter.length_tail_le_within after hle)
      else if c.toNat < 0x20 then
        .error .malformed
      else
        charactersIn (c :: seen) rest (Shorter.length_tail_le hle)
termination_by text.length
decreasing_by
  · exact Shorter.length_after Shorter.tail after
  · exact Shorter.length_tail c rest

/-- The rest of a text in quotation marks, after the first of them. -/
def characters : Reader String := fun text =>
  match charactersIn [] text (Shorter.length_le_self text) with
  | .error fault => .error fault
  | .ok (all, rest) => .ok (String.ofList all, rest)

/-- The rest of a text in quotation marks, only checked, where `text` ends `whole`. -/
def skipCharactersIn {whole : List Char} (text : List Char)
    (hle : text.length ≤ whole.length) : Except Fault (Unit × Shorter whole) :=
  match text, hle with
  | [], _ => .error .truncated
  | c :: rest, hle =>
      if c = '"' then
        .ok ((), ⟨rest, hle⟩)
      else if c = '\\' then
        match skipEscaped rest with
        | .error fault => .error fault
        | .ok (_, after) =>
            skipCharactersIn after.val
              (Shorter.length_tail_le_within after hle)
      else if c.toNat < 0x20 then
        .error .malformed
      else
        skipCharactersIn rest (Shorter.length_tail_le hle)
termination_by text.length
decreasing_by
  · exact Shorter.length_after Shorter.tail after
  · exact Shorter.length_tail c rest

/-- The rest of a text in quotation marks, only checked. -/
def skipCharacters : Reader Unit := fun text =>
  skipCharactersIn text (Shorter.length_le_self text)

end EdgeRouting.Json
