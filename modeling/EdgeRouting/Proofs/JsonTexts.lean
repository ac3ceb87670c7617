import EdgeRouting.Json.Record
import EdgeRouting.Json.Writer

/-!
# Reading JSON texts that were written

What is written of a value is taken by its reader in front of any other text, and the reading leaves
that text.  `Reader.Takes` says so.  It is shown for characters first, then for texts in quotation
marks, and passed on to lists and records, whose readers know only the brackets.
-/

namespace EdgeRouting.Json

variable {α κ σ : Type}

/-- In front of any other text, the reader takes these characters as the value. -/
def Reader.Takes (reader : Reader α) (text : List Char) (value : α) : Prop :=
  ∀ input rest, input = text ++ rest →
    ∃ left : Shorter input, left.val = rest ∧ reader input = .ok (value, left)

theorem next?_cons {c : Char} (hspace : isSpace c = false) (rest : List Char) :
    next? (c :: rest) = some (c, Shorter.tail) := by
  unfold next? nextIn
  rw [if_neg (by simp [hspace])]
  rfl

/-- Nothing may follow a whole text, and nothing does. -/
theorem whole_of_takes {reader : Reader α} {text : List Char} {value : α}
    (htakes : reader.Takes text value) : whole reader text = .ok value := by
  obtain ⟨⟨_, hshorter⟩, rfl, hread⟩ := htakes text [] (List.append_nil text).symm
  unfold whole
  rw [hread]
  rfl

/-! ## Texts in quotation marks -/

theorem hexValue?_hexDigit {value : Nat} (hvalue : value < 16) :
    Text.hexValue? (hexDigit value) = some value := by
  revert value
  decide

theorem fourDigits_takes {code : Nat} (hcode : code < 0x20) :
    Reader.Takes fourDigits ['0', '0', hexDigit (code / 16), hexDigit (code % 16)] code := by
  intro input rest hinput
  have hshape :
      input = '0' :: '0' :: hexDigit (code / 16) :: hexDigit (code % 16) :: rest := hinput
  subst hshape
  have hzero : Text.hexValue? '0' = some 0 := by decide
  have hhigh : Text.hexValue? (hexDigit (code / 16)) = some (code / 16) :=
    hexValue?_hexDigit (by omega)
  have hlow : Text.hexValue? (hexDigit (code % 16)) = some (code % 16) :=
    hexValue?_hexDigit (by omega)
  have hvalue : ((0 * 16 + 0) * 16 + code / 16) * 16 + code % 16 = code := by omega
  refine ⟨Shorter.tail.after (Shorter.tail.after (Shorter.tail.after Shorter.tail)), rfl, ?_⟩
  simp only [fourDigits, hzero, hhigh, hlow, hvalue]

theorem escaped_takes_letter {letter c : Char} (hletter : letterEscape? letter = some c) :
    Reader.Takes escaped [letter] c := by
  intro input rest hinput
  have hshape : input = letter :: rest := hinput
  subst hshape
  have hne : letter ≠ 'u' := by
    rintro rfl
    simp [letterEscape?] at hletter
  refine ⟨Shorter.tail, rfl, ?_⟩
  rw [escaped.eq_3 _ _ hne, hletter]

theorem escaped_takes_code {c : Char} (hcontrol : c.toNat < 0x20) :
    Reader.Takes escaped ['u', '0', '0', hexDigit (c.toNat / 16), hexDigit (c.toNat % 16)] c := by
  intro input rest hinput
  obtain ⟨left, hleft, hdigits⟩ := fourDigits_takes hcontrol _ rest rfl
  have hshape : input =
      'u' :: (['0', '0', hexDigit (c.toNat / 16), hexDigit (c.toNat % 16)] ++ rest) := hinput
  subst hshape
  have hlow : ¬ (0xDC00 ≤ c.toNat ∧ c.toNat ≤ 0xDFFF) := by omega
  have hhigh : ¬ (0xD800 ≤ c.toNat ∧ c.toNat ≤ 0xDBFF) := by omega
  refine ⟨Shorter.tail.after left, (Shorter.val_after _ _).trans hleft, ?_⟩
  rw [escaped, hdigits]
  simp only [hlow, hhigh, if_false, Char.ofNat_toNat]

/-- A character is written as itself or as an escape that is read as the character. -/
theorem escape_cases (c : Char) :
    (escape c = [c] ∧ c ≠ '"' ∧ c ≠ '\\' ∧ ¬ c.toNat < 0x20) ∨
      ∃ tail, escape c = '\\' :: tail ∧ Reader.Takes escaped tail c := by
  have hletters (letter : Char) (hletter : letterEscape? letter = some c)
      (hescape : escape c = ['\\', letter]) :
      ∃ tail, escape c = '\\' :: tail ∧ Reader.Takes escaped tail c :=
    ⟨[letter], hescape, escaped_takes_letter hletter⟩
  by_cases hquote : c = '"'
  · subst c
    exact .inr (hletters '"' rfl rfl)
  by_cases hbackslash : c = '\\'
  · subst c
    exact .inr (hletters '\\' rfl rfl)
  by_cases hbackspace : c = '\x08'
  · subst c
    exact .inr (hletters 'b' rfl rfl)
  by_cases hfeed : c = '\x0c'
  · subst c
    exact .inr (hletters 'f' rfl rfl)
  by_cases hnewline : c = '\n'
  · subst c
    exact .inr (hletters 'n' rfl rfl)
  by_cases hreturn : c = '\r'
  · subst c
    exact .inr (hletters 'r' rfl rfl)
  by_cases htab : c = '\t'
  · subst c
    exact .inr (hletters 't' rfl rfl)
  have hescape : escape c =
      if c.toNat < 0x20 then
        ['\\', 'u', '0', '0', hexDigit (c.toNat / 16), hexDigit (c.toNat % 16)]
      else [c] := by
    simp only [escape, hquote, hbackslash, hbackspace, hfeed, hnewline, hreturn, htab, if_false]
  by_cases hcontrol : c.toNat < 0x20
  · rw [if_pos hcontrol] at hescape
    exact .inr ⟨_, hescape, escaped_takes_code hcontrol⟩
  · rw [if_neg hcontrol] at hescape
    exact .inl ⟨hescape, hquote, hbackslash, hcontrol⟩

theorem exists_charactersIn_escape {whole : List Char} (seen chars rest text : List Char)
    (hle : text.length ≤ whole.length)
    (htext : text = chars.flatMap escape ++ '"' :: rest) :
    ∃ left : Shorter whole, left.val = rest ∧
      charactersIn seen text hle = .ok (seen.reverse ++ chars, left) := by
  induction chars generalizing seen text with
  | nil =>
      rw [List.flatMap_nil, List.nil_append] at htext
      subst htext
      refine ⟨⟨rest, hle⟩, rfl, ?_⟩
      rw [charactersIn, if_pos rfl, List.append_nil]
  | cons c chars ih =>
      rw [List.flatMap_cons, List.append_assoc] at htext
      rcases escape_cases c with ⟨hescape, hquote, hbackslash, hcontrol⟩ | ⟨tail, hescape, htakes⟩
      · rw [hescape, List.singleton_append] at htext
        subst htext
        obtain ⟨left, hleft, hread⟩ := ih (c :: seen) _ (Shorter.length_tail_le hle) rfl
        refine ⟨left, hleft, ?_⟩
        rw [charactersIn, if_neg hquote, if_neg hbackslash, if_neg hcontrol, hread]
        simp
      · rw [hescape, List.cons_append] at htext
        subst htext
        obtain ⟨⟨_, hshorter⟩, rfl, hescaped⟩ := htakes _ _ rfl
        obtain ⟨left, hleft, hread⟩ := ih (c :: seen) _
          (Shorter.length_tail_le_within ⟨_, hshorter⟩ hle) rfl
        refine ⟨left, hleft, ?_⟩
        rw [charactersIn, if_neg (by decide), if_pos rfl, hescaped]
        simp only [hread]
        simp

theorem characters_takes (value : String) :
    Reader.Takes characters (value.toList.flatMap escape ++ ['"']) value := by
  intro input rest hinput
  rw [List.append_assoc, List.singleton_append] at hinput
  obtain ⟨left, hleft, hread⟩ := exists_charactersIn_escape [] value.toList rest input
    (Shorter.length_le_self input) hinput
  refine ⟨left, hleft, ?_⟩
  unfold characters
  rw [hread]
  simp

theorem quotedText_takes (value : String) :
    Reader.Takes quotedText (renderString value) value := by
  intro input rest hinput
  have hshape : input = '"' :: (value.toList.flatMap escape ++ ['"'] ++ rest) := by
    rw [hinput, renderString, List.cons_append, List.cons_append]
  subst hshape
  obtain ⟨left, hleft, hread⟩ := characters_takes value _ rest rfl
  refine ⟨Shorter.tail.after left, (Shorter.val_after _ _).trans hleft, ?_⟩
  unfold quotedText
  rw [next?_cons (by decide)]
  simp only [Shorter.tail, if_true, hread]

/-! ## Lists -/

/-- The text begins with a character that is neither white space nor the end of a list. -/
def OpensItem (text : List Char) : Prop :=
  ∃ c rest, text = c :: rest ∧ isSpace c = false ∧ c ≠ ']'

theorem OpensItem.exists_next? {text : List Char} (hopens : OpensItem text)
    (rest : List Char) : ∃ c left, next? (text ++ rest) = some (c, left) ∧ c ≠ ']' := by
  obtain ⟨c, others, rfl, hspace, hclose⟩ := hopens
  exact ⟨c, Shorter.tail, next?_cons hspace (others ++ rest), hclose⟩

theorem exists_itemsIn_renderItems {whole : List Char} {item : Reader α} {write : α → Json}
    (hitem : ∀ value, item.Takes (write value).render value) (seen values : List α)
    (rest text : List Char) (hle : text.length ≤ whole.length)
    (htext : text = renderItems (values.map write) ++ rest) :
    ∃ left : Shorter whole, left.val = rest ∧
      itemsIn item seen text hle = .ok (seen.reverse ++ values, left) := by
  induction values generalizing seen text with
  | nil =>
      have hshape : text = ']' :: rest := htext
      subst hshape
      refine ⟨⟨rest, hle⟩, rfl, ?_⟩
      rw [itemsIn, next?_cons (by decide), List.append_nil]
      rfl
  | cons value values ih =>
      have hshape : text =
          ',' :: ((write value).render ++ (renderItems (values.map write) ++ rest)) := by
        rw [htext, List.map_cons, renderItems, List.cons_append, List.cons_append,
          List.append_assoc]
      subst hshape
      obtain ⟨⟨_, hshorter⟩, rfl, hread⟩ := hitem value _ _ rfl
      have hlater : (renderItems (values.map write) ++ rest).length ≤ whole.length :=
        Shorter.length_tail_le_within ⟨_, hshorter⟩ hle
      obtain ⟨left, hleft, hitems⟩ := ih (value :: seen) _ hlater rfl
      refine ⟨left, hleft, ?_⟩
      rw [itemsIn, next?_cons (by decide)]
      simp [Shorter.tail, hread, hitems]

theorem list_takes {item : Reader α} {write : α → Json}
    (hitem : ∀ value, item.Takes (write value).render value)
    (hopens : ∀ value, OpensItem (write value).render) (values : List α) :
    Reader.Takes (list item) (array (values.map write)).render values := by
  intro input rest hinput
  cases values with
  | nil =>
      have hshape : input = '[' :: ']' :: rest := hinput
      subst hshape
      refine ⟨Shorter.tail.after Shorter.tail, rfl, ?_⟩
      rw [list, next?_cons (by decide)]
      simp only [Shorter.tail, if_true, items]
      rw [next?_cons (by decide)]
      rfl
  | cons value values =>
      have hshape : input =
          '[' :: ((write value).render ++ (renderItems (values.map write) ++ rest)) := by
        rw [hinput, List.map_cons, render, List.cons_append, List.cons_append,
          List.append_assoc]
      subst hshape
      obtain ⟨⟨_, hshorter⟩, rfl, hread⟩ := hitem value _ _ rfl
      obtain ⟨left, hleft, hitems⟩ := exists_itemsIn_renderItems hitem [value] values rest _
        (Nat.le_of_lt hshorter) rfl
      obtain ⟨c, behind, hnext, hclose⟩ := (hopens value).exists_next?
        (renderItems (values.map write) ++ rest)
      refine ⟨Shorter.tail.after left, (Shorter.val_after _ _).trans hleft, ?_⟩
      rw [list, next?_cons (by decide)]
      simp [Shorter.tail, items, hnext, hclose, hread, hitems]

/-! ## Records -/

section Members

variable {key : Reader κ} {member : σ → κ → Except Fault (Reader σ)} {state next : σ} {name : κ}
  {keyText text : List Char} {value : Reader σ}

theorem oneMember_takes
    (hkey : key.Takes keyText name) (hmember : member state name = .ok value)
    (hvalue : value.Takes text next) :
    Reader.Takes (oneMember key member state) ('"' :: (keyText ++ ':' :: text)) next := by
  intro input rest hinput
  have hshape : input = '"' :: (keyText ++ ':' :: (text ++ rest)) := by
    rw [hinput, List.cons_append, List.append_assoc, List.cons_append]
  subst hshape
  obtain ⟨⟨_, hshorter⟩, rfl, hread⟩ := hkey _ _ rfl
  obtain ⟨left, hleft, hlast⟩ := hvalue _ rest rfl
  refine ⟨Shorter.tail.after (Shorter.after ⟨_, hshorter⟩ (Shorter.tail.after left)), hleft, ?_⟩
  rw [oneMember, next?_cons (by decide)]
  simp only [Shorter.tail, hread, hmember]
  simp only [ne_eq, not_true_eq_false, if_false]
  rw [next?_cons (by decide)]
  simp [Shorter.tail, hlast]

/-- A record with one member. -/
theorem members_takes_one
    (hkey : key.Takes keyText name) (hmember : member state name = .ok value)
    (hvalue : value.Takes text next) :
    Reader.Takes (members key member state) ('"' :: (keyText ++ ':' :: text) ++ ['\x7d'])
      next := by
  intro input rest hinput
  rw [List.append_assoc, List.singleton_append] at hinput
  obtain ⟨⟨_, hshorter⟩, rfl, hread⟩ :=
    oneMember_takes hkey hmember hvalue input _ hinput
  rw [List.cons_append] at hinput
  subst hinput
  refine ⟨Shorter.after ⟨_, hshorter⟩ Shorter.tail, rfl, ?_⟩
  rw [members, next?_cons (by decide)]
  simp only [hread]
  rw [if_neg (by decide), membersIn, next?_cons (by decide)]
  rfl

end Members

theorem exists_fieldMember_takes {field : Reader α} {text : List Char} {value : α}
    (name : String) (hfield : field.Takes text value) :
    ∃ reader : Reader (Option α), fieldMember name field none name = .ok reader ∧
      reader.Takes text (some value) := by
  refine ⟨_, if_neg (not_not_intro rfl), ?_⟩
  intro input rest hinput
  obtain ⟨left, hleft, hread⟩ := hfield input rest hinput
  refine ⟨left, hleft, ?_⟩
  simp only [hread]

theorem record_takes {name : String} {field : Reader α} {text : List Char} {value : α}
    (hfield : field.Takes text value) (missing : Except Fault α) :
    Reader.Takes (record name field missing)
      ('\x7b' :: (renderString name ++ ':' :: text ++ ['\x7d'])) value := by
  intro input rest hinput
  obtain ⟨reader, hmember, hvalue⟩ := exists_fieldMember_takes name hfield
  obtain ⟨left, hleft, hread⟩ :=
    members_takes_one (characters_takes name) hmember hvalue _ rest rfl
  have hshape : input = '\x7b' :: ('"' :: (name.toList.flatMap escape ++ ['"'] ++ ':' :: text) ++
      ['\x7d'] ++ rest) := by
    rw [hinput, renderString]
    simp
  subst hshape
  refine ⟨Shorter.tail.after left, (Shorter.val_after _ _).trans hleft, ?_⟩
  rw [record, next?_cons (by decide)]
  simp only [Shorter.tail, hread]
  rfl

end EdgeRouting.Json
