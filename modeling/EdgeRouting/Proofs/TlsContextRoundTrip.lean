import EdgeRouting.Proofs.WireReading
import EdgeRouting.Proxy.Cluster

/-!
# TLS contexts survive the wire

Every message of a TLS context is read back as it was written, whatever is set, unset or present
with its default value: `turns_encode` of each message says that its encoding turns the unset
message into it.  So a transport socket holds exactly the context that it was made of, and different
contexts have different encodings.
-/

namespace EdgeRouting

open Wire

/-! ## The messages within a context -/

theorem TlsParameters.turns_encode (parameters : TlsParameters) :
    Turns mergeField parameters.encode unset parameters := by
  obtain ⟨minimum, maximum⟩ := parameters
  have hminimum : Turns mergeField (numberField 1 (ofInt32 minimum)) unset ⟨minimum, 0⟩ := by
    refine turns_numberField (by decide) (ofInt32_lt minimum) ?_ ?_
    · intro hzero
      rw [(ofInt32_eq_zero_iff minimum).mp hzero]
      rfl
    · simp only [mergeField, toInt32_ofInt32]
      rfl
  have hmaximum : Turns mergeField (numberField 2 (ofInt32 maximum)) ⟨minimum, 0⟩
      ⟨minimum, maximum⟩ := by
    refine turns_numberField (by decide) (ofInt32_lt maximum) ?_ ?_
    · intro hzero
      rw [(ofInt32_eq_zero_iff maximum).mp hzero]
    · simp only [mergeField, toInt32_ofInt32]
  exact hminimum.append hmaximum

theorem DataSource.turns_encode
    (source : DataSource) (hsize : source.encode.length < 2 ^ 64) :
    Turns mergeField source.encode unset source := by
  obtain ⟨specifier⟩ := source
  cases specifier with
  | none => exact .nil mergeField unset
  | some specifier =>
      cases specifier with
      | filename name =>
          exact turns_bytesField_ofText (fun name => DataSource.mk (some (.filename name)))
            (by decide) hsize rfl
      | inlineBytes content => exact turns_bytesField (by decide) hsize rfl
      | inlineString content =>
          exact turns_bytesField_ofText (fun text => DataSource.mk (some (.inlineString text)))
            (by decide) hsize rfl

theorem StringMatcher.turns_pattern
    (pattern : Option MatchPattern)
    (hsize : (encode ⟨pattern, false⟩).length < 2 ^ 64) :
    Turns mergeField (encode ⟨pattern, false⟩) unset ⟨pattern, false⟩ := by
  unfold encode at hsize ⊢
  rw [show numberField 6 false.toNat = [] from rfl, List.append_nil] at hsize ⊢
  cases pattern with
  | none => exact .nil mergeField unset
  | some pattern =>
      cases pattern with
      | exactly text =>
          exact turns_bytesField_ofText (fun text => StringMatcher.mk (some (.exactly text)) false)
            (by decide) hsize rfl
      | startsWith text =>
          exact turns_bytesField_ofText
            (fun text => StringMatcher.mk (some (.startsWith text)) false) (by decide) hsize rfl
      | endsWith text =>
          exact turns_bytesField_ofText (fun text => StringMatcher.mk (some (.endsWith text)) false)
            (by decide) hsize rfl

theorem StringMatcher.turns_encode
    (matcher : StringMatcher) (hsize : matcher.encode.length < 2 ^ 64) :
    Turns mergeField matcher.encode unset matcher := by
  obtain ⟨pattern, ignoreCase⟩ := matcher
  have hsplit : encode ⟨pattern, ignoreCase⟩ =
      encode ⟨pattern, false⟩ ++ numberField 6 ignoreCase.toNat := by
    unfold encode
    rw [show numberField 6 false.toNat = [] from rfl, List.append_nil]
  have hnumber : IsFieldNumber 6 := by decide
  rw [hsplit] at hsize ⊢
  rw [List.length_append] at hsize
  refine (turns_pattern pattern (by omega)).append
    (turns_numberField hnumber ?_ ?_ ?_)
  · cases ignoreCase <;> decide
  · cases ignoreCase <;> simp
  · cases ignoreCase <;> rfl

theorem ValidationContext.turns_encode
    (validation : ValidationContext) (hsize : validation.encode.length < 2 ^ 64) :
    Turns mergeField validation.encode unset validation := by
  obtain ⟨trustedCa, subjectAltNames⟩ := validation
  simp only [encode] at hsize ⊢
  rw [List.length_append] at hsize
  have hauthority : Turns mergeField (messageField 1 DataSource.encode trustedCa) unset
      ⟨trustedCa, []⟩ := by
    refine turns_messageField (by decide) (by omega) ?_ ?_
    · intro hnone
      rw [hnone]
      rfl
    · intro source hsource hfits
      have hmerge := (source.turns_encode hfits).mergeMessage (wireDepth - 3)
      rw [hsource]
      exact congrArg (Option.map fun found => (⟨some found, []⟩ : ValidationContext)) hmerge
  have hnames : Turns mergeField
      (subjectAltNames.flatMap fun matcher => bytesField 9 matcher.encode) ⟨trustedCa, []⟩
      ⟨trustedCa, subjectAltNames⟩ := by
    refine turns_repeatedField (fun names => ValidationContext.mk trustedCa names)
      (by decide) (by omega) ?_ []
    intro before matcher _ hfits
    have hmerge := (matcher.turns_encode hfits).mergeMessage (wireDepth - 3)
    exact congrArg
      (Option.map fun found => (⟨trustedCa, before ++ [found]⟩ : ValidationContext)) hmerge
  exact hauthority.append hnames

theorem CommonTlsContext.turns_encode
    (context : CommonTlsContext) (hsize : context.encode.length < 2 ^ 64) :
    Turns mergeField context.encode unset context := by
  obtain ⟨parameters, validation, alpnProtocols⟩ := context
  simp only [encode] at hsize ⊢
  rw [List.length_append, List.length_append] at hsize
  have hparameters : Turns mergeField (messageField 1 TlsParameters.encode parameters) unset
      ⟨parameters, none, []⟩ := by
    refine turns_messageField (by decide) (by omega) ?_ ?_
    · intro hnone
      rw [hnone]
      rfl
    · intro present hpresent _
      have hmerge := present.turns_encode.mergeMessage (wireDepth - 2)
      rw [hpresent]
      exact congrArg (Option.map fun found => (⟨some found, none, []⟩ : CommonTlsContext)) hmerge
  have hvalidation : Turns mergeField (messageField 3 ValidationContext.encode validation)
      ⟨parameters, none, []⟩ ⟨parameters, validation, []⟩ := by
    refine turns_messageField (by decide) (by omega) ?_ ?_
    · intro hnone
      rw [hnone]
    · intro present hpresent hfits
      have hmerge := (present.turns_encode hfits).mergeMessage (wireDepth - 2)
      rw [hpresent]
      exact congrArg
        (Option.map fun found => (⟨parameters, some found, []⟩ : CommonTlsContext)) hmerge
  have hprotocols : Turns mergeField
      (alpnProtocols.flatMap fun protocol => bytesField 4 (ofText protocol))
      ⟨parameters, validation, []⟩ ⟨parameters, validation, alpnProtocols⟩ := by
    refine turns_repeatedField
      (fun protocols => CommonTlsContext.mk parameters validation protocols) (by decide) (by omega)
      ?_ []
    intro before protocol _ _
    simp only [mergeField, toText?_ofText, Option.map_some]
  exact (hparameters.append hvalidation).append hprotocols

/-! ## Contexts -/

namespace TlsContext

theorem turns_encode (context : TlsContext) (hsize : context.encode.length < 2 ^ 64) :
    Turns mergeField context.encode unset context := by
  obtain ⟨common, sni⟩ := context
  simp only [encode] at hsize ⊢
  rw [List.length_append] at hsize
  have hcommon : Turns mergeField (messageField 1 CommonTlsContext.encode common) unset
      ⟨common, ""⟩ := by
    refine turns_messageField (by decide) (by omega) ?_ ?_
    · intro hnone
      rw [hnone]
      rfl
    · intro present hpresent hfits
      have hmerge := (present.turns_encode hfits).mergeMessage (wireDepth - 1)
      rw [hpresent]
      exact congrArg (Option.map fun found => (⟨some found, ""⟩ : TlsContext)) hmerge
  exact hcommon.append
    (turns_textField (fun name => TlsContext.mk common name) (by decide) (by omega) rfl rfl)

theorem decode?_encode {context : TlsContext} (hsize : context.encode.length < 2 ^ 64) :
    decode? context.encode = some context :=
  (context.turns_encode hsize).mergeMessage wireDepth

end TlsContext

/-! ## Sockets -/

theorem TlsContext.encodeWithin_of_fits
    {room : Nat} {context : TlsContext} (hfits : context.encode.length ≤ room) :
    context.encodeWithin room = .ok context.encode :=
  if_neg (Nat.not_lt.mpr hfits)

theorem TlsContext.encodeWithin_of_exceeds
    {room : Nat} {context : TlsContext} (hexceeds : room < context.encode.length) :
    context.encodeWithin room = .error ⟨context.encode.length, room⟩ :=
  if_pos hexceeds

namespace TransportSocket

theorem ofTls?_eq_ok
    {context : TlsContext} (hsize : context.encode.length < 2 ^ 63) :
    ofTls? context = .ok (ofTls context) := by
  have hfits : context.encode.length ≤ bufferRoom := Nat.le_sub_one_of_lt hsize
  unfold ofTls?
  rw [TlsContext.encodeWithin_of_fits hfits]
  rfl

/-- Only a context that outgrows every buffer has no socket. -/
theorem ofTls?_cases (context : TlsContext) :
    (context.encode.length < 2 ^ 63 ∧ ofTls? context = .ok (ofTls context)) ∨
      (2 ^ 63 ≤ context.encode.length ∧
        ofTls? context = .error ⟨context.encode.length, bufferRoom⟩) := by
  by_cases hsize : context.encode.length < 2 ^ 63
  · exact .inl ⟨hsize, ofTls?_eq_ok hsize⟩
  · have hlarge : 2 ^ 63 ≤ context.encode.length := Nat.not_lt.mp hsize
    have hroom : bufferRoom < 2 ^ 63 := by decide
    refine .inr ⟨hlarge, ?_⟩
    unfold ofTls?
    rw [TlsContext.encodeWithin_of_exceeds (Nat.lt_of_lt_of_le hroom hlarge)]
    rfl

theorem tlsContext?_of_ofTls?
    {context : TlsContext} {socket : TransportSocket} (hmade : ofTls? context = .ok socket) :
    socket.tlsContext? = some context := by
  rcases ofTls?_cases context with ⟨hsize, hok⟩ | ⟨_, herror⟩
  · rw [hok, Except.ok.injEq] at hmade
    subst socket
    exact TlsContext.decode?_encode (by omega)
  · rw [herror] at hmade
    contradiction

end TransportSocket

end EdgeRouting
