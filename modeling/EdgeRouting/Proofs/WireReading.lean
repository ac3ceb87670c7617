import Mathlib.Algebra.Group.Nat.Defs
import EdgeRouting.Proxy.TlsContext

/-!
# Reading what was written

A number or a field that stands in front of any other bytes is read back, and the reading leaves
those bytes.  So the content of a message can be followed field by field: `Turns` says which message
comes of another one when some content is merged into it, and it is closed under putting contents
behind each other.  Numbers have at most 64 bits, and so have the sizes of texts and messages.
-/

namespace EdgeRouting.Wire

/-! ## Numbers -/

-- The induction is on the number of bytes that may follow; the last one has room for a single bit.
theorem exists_readVarintWithin_varint
    {count value : Nat} (hvalue : value < 2 * 128 ^ count) (rest : Bytes) :
    ∃ left : Shorter (varint value ++ rest), left.val = rest ∧
      readVarintWithin (count + 1) (varint value ++ rest) = some (value, left) := by
  induction count generalizing value with
  | zero =>
      have hbyte : (UInt8.ofNat value).toNat = value :=
        UInt8.toNat_ofNat_of_lt' (by simp only [UInt8.size]; omega)
      rw [varint, if_pos (by omega), List.singleton_append]
      refine ⟨Shorter.tail, rfl, ?_⟩
      simp only [readVarintWithin, hbyte]
      rw [if_pos (by omega), if_neg (by omega)]
  | succ count ih =>
      by_cases hsmall : value < 128
      · have hbyte : (UInt8.ofNat value).toNat = value :=
          UInt8.toNat_ofNat_of_lt' (by simp only [UInt8.size]; omega)
        rw [varint, if_pos hsmall, List.singleton_append]
        refine ⟨Shorter.tail, rfl, ?_⟩
        rw [readVarintWithin, hbyte, if_pos hsmall, if_neg (by omega)]
      · have hbyte : (UInt8.ofNat (value % 128 + 128)).toNat = value % 128 + 128 :=
          UInt8.toNat_ofNat_of_lt' (by simp only [UInt8.size]; omega)
        have hhigh : value / 128 < 2 * 128 ^ count := by
          rw [Nat.pow_succ] at hvalue
          omega
        obtain ⟨left, hleft, hread⟩ := ih hhigh
        rw [varint, if_neg hsmall, List.cons_append]
        refine ⟨Shorter.tail.after left, hleft, ?_⟩
        rw [readVarintWithin, hbyte, if_neg (by omega), hread]
        have hvalue : value % 128 + 128 - 128 + 128 * (value / 128) = value := by omega
        simp only [hvalue]

theorem exists_readVarint_varint
    {value : Nat} (hvalue : value < 2 ^ 64) (rest : Bytes) :
    ∃ left : Shorter (varint value ++ rest), left.val = rest ∧
      readVarint (varint value ++ rest) = some (value, left) :=
  exists_readVarintWithin_varint (by omega) rest

theorem toInt32_ofInt32 (value : Int32) : toInt32 (ofInt32 value) = value := by
  have hlow : -2 ^ 31 ≤ value.toInt := value.le_toInt
  have hhigh : value.toInt < 2 ^ 31 := value.toInt_lt
  have hsize : (Int32.size : Int) = 2 ^ 32 := rfl
  have hnumber : ((ofInt32 value : Nat) : Int) = value.toInt % 0x10000000000000000 := by
    unfold ofInt32
    omega
  unfold toInt32
  rw [UInt32.toInt32_ofNat', ← Int32.toInt_inj, Int32.toInt_ofNat', hnumber, Int.bmod_def, hsize]
  split <;> omega

theorem ofInt32_lt (value : Int32) : ofInt32 value < 2 ^ 64 := by
  unfold ofInt32
  omega

theorem ofInt32_eq_zero_iff (value : Int32) : ofInt32 value = 0 ↔ value = 0 := by
  constructor
  · intro hzero
    rw [← toInt32_ofInt32 value, hzero]
    rfl
  · intro hzero
    subst value
    rfl

theorem toText?_ofText (text : String) : toText? (ofText text) = some text := by
  have hbytes : (⟨(ofText text).toArray⟩ : ByteArray) = text.toByteArray := rfl
  unfold toText?
  rw [hbytes, String.fromUTF8?, dif_pos text.isValidUTF8]
  rfl

/-! ## Fields -/

/-- Keys of fields have 32 bits, three of which tell the form of the field. -/
def IsFieldNumber (number : Nat) : Prop := 0 < number ∧ number < 2 ^ 29

instance (number : Nat) : Decidable (IsFieldNumber number) :=
  inferInstanceAs (Decidable (0 < number ∧ number < 2 ^ 29))

theorem exists_readField_varintField
    {number value : Nat} (hnumber : IsFieldNumber number) (hvalue : value < 2 ^ 64)
    (rest : Bytes) :
    ∃ left : Shorter (varintField number value ++ rest), left.val = rest ∧
      readField (varintField number value ++ rest) = some (⟨number, .varint value⟩, left) := by
  obtain ⟨hpositive, hsmall⟩ := hnumber
  unfold varintField
  rw [List.append_assoc]
  have hkeySize : number * 8 < 2 ^ 64 := by omega
  obtain ⟨behindKey, hbehindKey, hkey⟩ :=
    exists_readVarint_varint hkeySize (varint value ++ rest)
  -- What is left behind the key is an element of a type that depends on the input, so that the
  -- equation for it cannot be rewritten with before it is taken apart.
  obtain ⟨middle, hmiddle⟩ := behindKey
  subst hbehindKey
  obtain ⟨last, hlast, hread⟩ := exists_readVarint_varint hvalue rest
  have hform : number * 8 % 8 = 0 := by omega
  have hkeyNumber : number * 8 / 8 = number := by omega
  refine ⟨Shorter.after ⟨_, hmiddle⟩ last, hlast, ?_⟩
  unfold readField
  rw [hkey]
  simp only [hform, hkeyNumber, hread, Option.map_some]
  rw [if_neg (by omega)]

theorem exists_readField_bytesField
    {number : Nat} (hnumber : IsFieldNumber number) {content : Bytes}
    (hsize : content.length < 2 ^ 64) (rest : Bytes) :
    ∃ left : Shorter (bytesField number content ++ rest), left.val = rest ∧
      readField (bytesField number content ++ rest) =
        some (⟨number, .bytes content⟩, left) := by
  obtain ⟨hpositive, hsmall⟩ := hnumber
  unfold bytesField
  rw [List.append_assoc, List.append_assoc]
  have hkeySize : number * 8 + 2 < 2 ^ 64 := by omega
  obtain ⟨behindKey, hbehindKey, hkey⟩ :=
    exists_readVarint_varint hkeySize (varint content.length ++ (content ++ rest))
  obtain ⟨middle, hmiddle⟩ := behindKey
  subst hbehindKey
  obtain ⟨last, hlast, hread⟩ := exists_readVarint_varint hsize (content ++ rest)
  have hform : (number * 8 + 2) % 8 = 2 := by omega
  have hkeyNumber : (number * 8 + 2) / 8 = number := by omega
  have hfits : content.length ≤ last.val.length := by
    rw [hlast, List.length_append]
    omega
  have htake : last.val.take content.length = content := by
    rw [hlast, List.take_left]
  have hdrop : last.val.drop content.length = rest := by
    rw [hlast, List.drop_left]
  refine ⟨(Shorter.after ⟨_, hmiddle⟩ last).drop content.length, hdrop, ?_⟩
  unfold readField
  rw [hkey]
  simp only [hform, hkeyNumber, hread, hfits, htake, if_true]
  rw [if_neg (by omega)]

/-- A field outside all groups is the first one of its message. -/
theorem fields_of_readField
    {input : Bytes} {field : Field} {left : Shorter input}
    (hread : readField input = some (field, left))
    (hstart : field.token ≠ .groupStart) (hend : field.token ≠ .groupEnd) (depth : Nat) :
    fields depth input = (fields depth left.val).map (field :: ·) := by
  have hnonempty : input.isEmpty = false := by
    cases input with
    | nil => simp [readField, readVarint, readVarintWithin] at hread
    | cons first rest => rfl
  unfold fields
  rw [fieldsIn, hnonempty]
  simp only [Bool.false_eq_true, if_false, hread]

theorem length_le_length_bytesField (number : Nat) (content : Bytes) :
    content.length ≤ (bytesField number content).length := by
  unfold bytesField
  rw [List.length_append]
  omega

/-! ## Messages -/

section Turns

variable {α β : Type} {step : α → Field → Option α} {start middle finish : α}

/-- In front of any other content, the bytes turn one message into another. -/
def Turns (step : α → Field → Option α) (content : Bytes) (start finish : α) : Prop :=
  ∀ (depth : Nat) (rest : Bytes),
    mergeMessage depth step start (content ++ rest) = mergeMessage depth step finish rest

theorem mergeMessage_nil (depth : Nat) (step : α → Field → Option α) (start : α) :
    mergeMessage depth step start [] = some start := by
  unfold mergeMessage fields
  rw [fieldsIn]
  rfl

theorem Turns.mergeMessage
    {content : Bytes} (hturns : Turns step content start finish) (depth : Nat) :
    Wire.mergeMessage depth step start content = some finish := by
  have hall := hturns depth []
  rwa [List.append_nil, mergeMessage_nil] at hall

theorem Turns.nil (step : α → Field → Option α) (start : α) : Turns step [] start start :=
  fun _ _ => rfl

theorem Turns.append
    {first second : Bytes} (hfirst : Turns step first start middle)
    (hsecond : Turns step second middle finish) : Turns step (first ++ second) start finish := by
  intro depth rest
  rw [List.append_assoc, hfirst, hsecond]

theorem turns_of_readField
    {content : Bytes} {field : Field}
    (hread : ∀ rest, ∃ left : Shorter (content ++ rest), left.val = rest ∧
      readField (content ++ rest) = some (field, left))
    (hstart : field.token ≠ .groupStart) (hend : field.token ≠ .groupEnd)
    (hstep : step start field = some finish) : Turns step content start finish := by
  intro depth rest
  obtain ⟨left, hleft, hfield⟩ := hread rest
  unfold Wire.mergeMessage
  rw [fields_of_readField hfield hstart hend, hleft]
  cases fields depth rest with
  | none => rfl
  | some others => exact congrArg (Option.bind · fun next => others.foldlM step next) hstep

theorem turns_bytesField
    {number : Nat} {content : Bytes} (hnumber : IsFieldNumber number)
    (hsize : (bytesField number content).length < 2 ^ 64)
    (hstep : step start ⟨number, .bytes content⟩ = some finish) :
    Turns step (bytesField number content) start finish := by
  have hcontent : content.length < 2 ^ 64 :=
    Nat.lt_of_le_of_lt (length_le_length_bytesField number content) hsize
  exact turns_of_readField (exists_readField_bytesField hnumber hcontent) Token.noConfusion
    Token.noConfusion hstep

theorem turns_bytesField_ofText
    {number : Nat} {text : String} (put : String → α) (hnumber : IsFieldNumber number)
    (hsize : (bytesField number (ofText text)).length < 2 ^ 64)
    (hstep : step start ⟨number, .bytes (ofText text)⟩ = (toText? (ofText text)).map put) :
    Turns step (bytesField number (ofText text)) start (put text) := by
  refine turns_bytesField hnumber hsize ?_
  rw [hstep, toText?_ofText, Option.map_some]

/-- A number that is left out is the one that the message has already. -/
theorem turns_numberField
    {number value : Nat} (hnumber : IsFieldNumber number) (hvalue : value < 2 ^ 64)
    (hdefault : value = 0 → start = finish)
    (hstep : step start ⟨number, .varint value⟩ = some finish) :
    Turns step (numberField number value) start finish := by
  unfold numberField
  by_cases hzero : value = 0
  · rw [if_pos hzero, hdefault hzero]
    exact .nil step finish
  · rw [if_neg hzero]
    exact turns_of_readField (exists_readField_varintField hnumber hvalue) Token.noConfusion
      Token.noConfusion hstep

theorem turns_textField
    {number : Nat} {text : String} (put : String → α) (hnumber : IsFieldNumber number)
    (hsize : (textField number text).length < 2 ^ 64) (hdefault : start = put "")
    (hstep : step start ⟨number, .bytes (ofText text)⟩ = (toText? (ofText text)).map put) :
    Turns step (textField number text) start (put text) := by
  unfold textField at hsize ⊢
  by_cases hempty : text = ""
  · rw [if_pos hempty, hdefault, hempty]
    exact .nil step (put "")
  · rw [if_neg hempty] at hsize ⊢
    exact turns_bytesField_ofText put hnumber hsize hstep

theorem turns_messageField
    {number : Nat} {encode : β → Bytes} {message : Option β} (hnumber : IsFieldNumber number)
    (hsize : (messageField number encode message).length < 2 ^ 64)
    (hnone : message = none → start = finish)
    (hstep : ∀ present, message = some present → (encode present).length < 2 ^ 64 →
      step start ⟨number, .bytes (encode present)⟩ = some finish) :
    Turns step (messageField number encode message) start finish := by
  cases message with
  | none =>
      rw [hnone rfl]
      exact .nil step finish
  | some present =>
      have hpresent : (encode present).length < 2 ^ 64 :=
        Nat.lt_of_le_of_lt (length_le_length_bytesField number (encode present)) hsize
      exact turns_bytesField hnumber hsize (hstep present rfl hpresent)

/-- Fields of the same number are collected in order, behind those that the message has. -/
theorem turns_repeatedField
    {number : Nat} {encode : β → Bytes} {list : List β} (put : List β → α)
    (hnumber : IsFieldNumber number)
    (hsize : (list.flatMap fun element => bytesField number (encode element)).length < 2 ^ 64)
    (hstep : ∀ before, ∀ element ∈ list, (encode element).length < 2 ^ 64 →
      step (put before) ⟨number, .bytes (encode element)⟩ = some (put (before ++ [element])))
    (before : List β) :
    Turns step (list.flatMap fun element => bytesField number (encode element)) (put before)
      (put (before ++ list)) := by
  induction list generalizing before with
  | nil =>
      rw [List.append_nil]
      exact .nil step (put before)
  | cons first rest ih =>
      rw [List.flatMap_cons, List.length_append] at hsize
      have hfirst : (bytesField number (encode first)).length < 2 ^ 64 := by omega
      have hcontent : (encode first).length < 2 ^ 64 :=
        Nat.lt_of_le_of_lt (length_le_length_bytesField number (encode first)) hfirst
      have hrest := ih (by omega)
        (fun earlier element hmem => hstep earlier element (List.mem_cons_of_mem _ hmem))
        (before ++ [first])
      rw [List.append_assoc, List.singleton_append] at hrest
      rw [List.flatMap_cons]
      exact (turns_bytesField hnumber hfirst
        (hstep before first List.mem_cons_self hcontent)).append hrest

end Turns

end EdgeRouting.Wire
