import EdgeRouting.Wire.Field

/-!
# The TLS context of a backend

How the proxy authenticates the servers to which it originates TLS: protocol versions, trusted
authorities, the names that a certificate must carry, and the application protocols on offer.

`TlsContext.encode` writes the fields of each message in the order of their numbers and
leaves out those of numbers, switches and texts that have their default.  Decoding takes fields in
any order, leaves out the unknown ones, lets the last of several values count, and merges messages
that come more than once.
-/

namespace EdgeRouting

structure TlsParameters where
  minimumVersion : Int32
  maximumVersion : Int32
  deriving DecidableEq, Repr

inductive DataSpecifier where
  | filename (name : String)
  | inlineBytes (content : Bytes)
  | inlineString (content : String)
  deriving DecidableEq, Repr

structure DataSource where
  specifier : Option DataSpecifier
  deriving DecidableEq, Repr

inductive MatchPattern where
  | exactly (text : String)
  | startsWith (text : String)
  | endsWith (text : String)
  deriving DecidableEq, Repr

structure StringMatcher where
  pattern : Option MatchPattern
  ignoreCase : Bool
  deriving DecidableEq, Repr

structure ValidationContext where
  trustedCa : Option DataSource
  subjectAltNames : List StringMatcher
  deriving DecidableEq, Repr

structure CommonTlsContext where
  parameters : Option TlsParameters
  validation : Option ValidationContext
  alpnProtocols : List String
  deriving DecidableEq, Repr

structure TlsContext where
  common : Option CommonTlsContext
  sni : String
  deriving DecidableEq, Repr

/-- The numbers of the protocol versions that are used. -/
def tlsVersionAuto : Int32 := 0

def tlsVersion12 : Int32 := 3

/-- The context that asks for TLS 1.2 at least, trusts one authority and expects one name. -/
def TlsContext.make (caCertificate : Bytes) (subjectAltName : String)
    (alpnProtocols : List String) : TlsContext where
  common := some {
    parameters := some ⟨tlsVersion12, tlsVersionAuto⟩
    validation := some {
      trustedCa := some ⟨some (.inlineBytes caCertificate)⟩
      subjectAltNames := [⟨some (.exactly subjectAltName), false⟩] }
    alpnProtocols }
  sni := ""

namespace Wire

/-- The field of a message, if there is one. -/
def messageField {α : Type} (number : Nat) (encode : α → Bytes) : Option α → Bytes
  | none => []
  | some message => bytesField number (encode message)

/-- The field of a number, unless it is zero. -/
def numberField (number value : Nat) : Bytes :=
  if value = 0 then [] else varintField number value

/-- The field of a text, unless it is empty. -/
def textField (number : Nat) (text : String) : Bytes :=
  if text = "" then [] else bytesField number (ofText text)

/-- Reads a message into one that may be there already. -/
def mergeMessage {α : Type} (depth : Nat) (step : α → Field → Option α) (start : α)
    (content : Bytes) : Option α := do
  (← fields depth content).foldlM step start

end Wire

open Wire

/-- How deep groups may be nested in a whole message; each message within takes one level. -/
def wireDepth : Nat := 100

namespace TlsParameters

def unset : TlsParameters := ⟨0, 0⟩

def encode (parameters : TlsParameters) : Bytes :=
  numberField 1 (ofInt32 parameters.minimumVersion) ++
    numberField 2 (ofInt32 parameters.maximumVersion)

def mergeField (parameters : TlsParameters) (field : Field) : Option TlsParameters :=
  match field.number, field.token with
  | 1, .varint value => some { parameters with minimumVersion := toInt32 value }
  | 2, .varint value => some { parameters with maximumVersion := toInt32 value }
  | 1, _ => none
  | 2, _ => none
  | _, _ => some parameters

end TlsParameters

namespace DataSource

def unset : DataSource := ⟨none⟩

def encode (source : DataSource) : Bytes :=
  match source.specifier with
  | none => []
  | some (.filename name) => bytesField 1 (ofText name)
  | some (.inlineBytes content) => bytesField 2 content
  | some (.inlineString content) => bytesField 3 (ofText content)

def mergeField (source : DataSource) (field : Field) : Option DataSource :=
  match field.number, field.token with
  | 1, .bytes content => (toText? content).map fun name => ⟨some (.filename name)⟩
  | 2, .bytes content => some ⟨some (.inlineBytes content)⟩
  | 3, .bytes content => (toText? content).map fun text => ⟨some (.inlineString text)⟩
  | 1, _ => none
  | 2, _ => none
  | 3, _ => none
  | _, _ => some source

end DataSource

namespace StringMatcher

def unset : StringMatcher := ⟨none, false⟩

def encode (matcher : StringMatcher) : Bytes :=
  (match matcher.pattern with
    | none => []
    | some (.exactly text) => bytesField 1 (ofText text)
    | some (.startsWith text) => bytesField 2 (ofText text)
    | some (.endsWith text) => bytesField 3 (ofText text)) ++
    numberField 6 matcher.ignoreCase.toNat

def mergeField (matcher : StringMatcher) (field : Field) : Option StringMatcher :=
  match field.number, field.token with
  | 1, .bytes content =>
      (toText? content).map fun text => { matcher with pattern := some (.exactly text) }
  | 2, .bytes content =>
      (toText? content).map fun text => { matcher with pattern := some (.startsWith text) }
  | 3, .bytes content =>
      (toText? content).map fun text => { matcher with pattern := some (.endsWith text) }
  | 6, .varint value => some { matcher with ignoreCase := value ≠ 0 }
  | 1, _ => none
  | 2, _ => none
  | 3, _ => none
  | 6, _ => none
  | _, _ => some matcher

end StringMatcher

namespace ValidationContext

def unset : ValidationContext := ⟨none, []⟩

def encode (validation : ValidationContext) : Bytes :=
  messageField 1 DataSource.encode validation.trustedCa ++
    validation.subjectAltNames.flatMap fun matcher => bytesField 9 matcher.encode

def mergeField (validation : ValidationContext) (field : Field) : Option ValidationContext :=
  match field.number, field.token with
  | 1, .bytes content =>
      (mergeMessage (wireDepth - 3) DataSource.mergeField
        (validation.trustedCa.getD .unset) content).map
        fun source => { validation with trustedCa := some source }
  | 9, .bytes content =>
      (mergeMessage (wireDepth - 3) StringMatcher.mergeField .unset content).map
        fun matcher =>
          { validation with subjectAltNames := validation.subjectAltNames ++ [matcher] }
  | 1, _ => none
  | 9, _ => none
  | _, _ => some validation

end ValidationContext

namespace CommonTlsContext

def unset : CommonTlsContext := ⟨none, none, []⟩

def encode (context : CommonTlsContext) : Bytes :=
  messageField 1 TlsParameters.encode context.parameters ++
    messageField 3 ValidationContext.encode context.validation ++
      context.alpnProtocols.flatMap fun protocol => bytesField 4 (ofText protocol)

def mergeField (context : CommonTlsContext) (field : Field) : Option CommonTlsContext :=
  match field.number, field.token with
  | 1, .bytes content =>
      (mergeMessage (wireDepth - 2) TlsParameters.mergeField
        (context.parameters.getD .unset) content).map
        fun parameters => { context with parameters := some parameters }
  | 3, .bytes content =>
      (mergeMessage (wireDepth - 2) ValidationContext.mergeField
        (context.validation.getD .unset) content).map
        fun validation => { context with validation := some validation }
  | 4, .bytes content =>
      (toText? content).map fun protocol =>
        { context with alpnProtocols := context.alpnProtocols ++ [protocol] }
  | 1, _ => none
  | 3, _ => none
  | 4, _ => none
  | _, _ => some context

end CommonTlsContext

namespace TlsContext

def unset : TlsContext := ⟨none, ""⟩

def encode (context : TlsContext) : Bytes :=
  messageField 1 CommonTlsContext.encode context.common ++ textField 2 context.sni

def mergeField (context : TlsContext) (field : Field) : Option TlsContext :=
  match field.number, field.token with
  | 1, .bytes content =>
      (mergeMessage (wireDepth - 1) CommonTlsContext.mergeField
        (context.common.getD .unset) content).map
        fun common => { context with common := some common }
  | 2, .bytes content =>
      (toText? content).map fun name => { context with sni := name }
  | 1, _ => none
  | 2, _ => none
  | _, _ => some context

def decode? (content : Bytes) : Option TlsContext :=
  mergeMessage wireDepth mergeField unset content

end TlsContext

end EdgeRouting
