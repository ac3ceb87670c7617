import EdgeRouting.Proofs.Base64Canonical
import EdgeRouting.Proofs.IngressRoundTrip
import EdgeRouting.Proofs.ListLoading
import EdgeRouting.Proofs.ReadyResolution
import EdgeRouting.Resource.FieldTables

/-!
# Certificates from secrets to the proxy

The proxy presents for each binding of an ingress the certificate of the secret that the binding
names: the bytes that were written last under this name, and no others.  The JSON form of a secret
holds its bytes in base64, which leaves them as they are.
-/

namespace EdgeRouting

/-! ## Secrets in JSON -/

theorem RecordType.fieldsOfKind?_of_members [FieldTypes]
    {type : RecordType} {kind : String} {members : List (String × Json)}
    (hkind : KeyMap.findEntry "kind" members = some (.string kind))
    (hversion : ∀ version,
      KeyMap.findEntry "apiVersion" members = some version → version = .string "v1")
    (hothers : type.admitsAll members = true) :
    type.fieldsOfKind? kind (.object members) =
      some fun name => KeyMap.findEntry name members := by
  have hfields : type.fields? (.object members) =
      some fun name => KeyMap.findEntry name members :=
    fields?_eq_some_iff.mpr ⟨members, rfl, hothers, rfl⟩
  cases hgiven : KeyMap.findEntry "apiVersion" members with
  | none => simp [fieldsOfKind?, hfields, hkind, hgiven]
  | some version =>
      rw [hversion version hgiven] at hgiven
      simp [fieldsOfKind?, hfields, hkind, hgiven]

theorem Json.unlessNull_of_read {α : Type} {item : Json → Option α} {part : Json} {value : α}
    (fallback : α) (hnull : item .null = none) (hread : item part = some value) :
    unlessNull fallback item (some part) = some value := by
  cases part with
  | null =>
      rw [hnull] at hread
      cases hread
  | bool _ | integer _ | fractional _ | string _ | array _ | object _ => exact hread

namespace Secret

/-- Bytes are written in base64, and null stands for none. -/
inductive Encodes : Json → Bytes → Prop
  | null : Encodes .null []
  | base64 (bytes : Bytes) : Encodes (.string (String.ofList (Base64.encode bytes))) bytes

theorem valueOfJson?_eq_some_iff {json : Json} {bytes : Bytes} :
    valueOfJson? json = some bytes ↔ Encodes json bytes := by
  constructor
  · intro hread
    cases json with
    | null =>
        cases hread
        exact .null
    | string text =>
        have htext : text.toList = Base64.encode bytes := Base64.decode?_eq_some_iff.mp hread
        have hsame : text = String.ofList (Base64.encode bytes) := by
          rw [← htext, String.ofList_toList]
        rw [hsame]
        exact .base64 bytes
    | bool _ | integer _ | fractional _ | array _ | object _ => cases hread
  · intro hencodes
    cases hencodes with
    | null => rfl
    | base64 =>
        rw [valueOfJson?, String.toList_ofList]
        exact Base64.decode?_encode bytes

/-- The members hold these bytes under these keys. -/
def EncodesAll (members : List (String × Json)) (entries : List (String × Bytes)) : Prop :=
  List.Forall₂ (fun member entry => member.1 = entry.1 ∧ Encodes member.2 entry.2) members entries

theorem mapM_of_encodesAll
    {members : List (String × Json)} {entries : List (String × Bytes)}
    (hmembers : EncodesAll members entries) :
    (members.mapM fun member => (valueOfJson? member.2).map fun value => (member.1, value)) =
      some entries := by
  induction hmembers with
  | nil => rfl
  | cons hfirst _ ih =>
      have hvalue := valueOfJson?_eq_some_iff.mpr hfirst.2
      rw [List.mapM_cons, hvalue, ih, hfirst.1]
      rfl

theorem map?_of_encodesAll {members : List (String × Json)} {data : KeyMap String Bytes}
    (hmembers : EncodesAll members data.entries) :
    Json.map? valueOfJson? (.object members) = some data := by
  rw [Json.map?, mapM_of_encodesAll hmembers, Option.map_some, KeyMap.ofList_entries]

end Secret

/-- The object is a secret with this name and these bytes.  Its other fields, and those of its
metadata, may hold whatever their types admit. -/
structure Json.IsSecret [FieldTypes] (json : Json) (name : ObjectName)
    (data : KeyMap String Bytes) : Prop where
  kind : json.member? "kind" = some (.string "Secret")
  version : ∀ version, json.member? "apiVersion" = some version → version = .string "v1"
  metadata : ∃ part metadata, json.member? "metadata" = some part ∧
    Metadata.ofJson? part = some metadata ∧
    metadata.name = some name.name ∧ metadata.ns = some name.ns
  data : ∃ members, json.member? "data" = some (.object members) ∧
    Secret.EncodesAll members data.entries
  others : ∀ members, json = .object members → RecordType.secret.admitsAll members = true

theorem Json.IsSecret.exists_of_read [FieldTypes]
    {json : Json} {name : ObjectName} {data : KeyMap String Bytes}
    (hjson : json.IsSecret name data) :
    ∃ secret, Resource.ofJson? json = .ok (.secret secret) ∧
      (Resource.secret secret).query? = some (.secret name) ∧ secret.data = data := by
  obtain ⟨part, metadata, hpart, hmetadata, hname, hns⟩ := hjson.metadata
  obtain ⟨members, hmembers, hencodes⟩ := hjson.data
  have hkind := hjson.kind
  have hversion := hjson.version
  have hsecret : Secret.ofJson? json = some ⟨metadata, data⟩ := by
    cases json with
    | object fields =>
        simp only [member?] at hpart hmembers hkind hversion
        have hothers : RecordType.secret.admitsAll fields = true := hjson.others fields rfl
        have hfields := RecordType.fieldsOfKind?_of_members hkind hversion hothers
        have hown := unlessNull_of_read .unset rfl hmetadata
        have hbytes := unlessNull_of_read .empty rfl (Secret.map?_of_encodesAll hencodes)
        simp [Secret.ofJson?, hfields, hpart, hmembers, hown, hbytes]
    | null | bool _ | integer _ | fractional _ | string _ | array _ => cases hkind
  have hfull : metadata.fullName? = some name := Metadata.fullName?_eq_some_iff.mpr ⟨hname, hns⟩
  refine ⟨⟨metadata, data⟩, Resource.readFrom_iff.mp (.secret hkind hsecret), ?_, rfl⟩
  rw [Resource.query?, hfull, Option.map_some]

/-! ## Certificates -/

/-- The certificate is that of the secret which the binding names, as it was written last. -/
structure TlsBinding.Presents (changes : List Index.Change) (binding : TlsBinding)
    (sni : SniMatch) : Prop where
  hosts : sni.hosts = binding.hosts
  certSource : sni.certSource = ⟨binding.secretNamespace, binding.secretName⟩
  material : ∃ secret : Secret,
    Index.LastWritten changes (.secret ⟨binding.secretNamespace, binding.secretName⟩) secret ∧
    sni.certificateChain = (secret.data.get? "tls.crt").getD [] ∧
    sni.privateKey = (secret.data.get? "tls.key").getD []

theorem Plan.exists_secret_of_certificate
    {lookup : Lookup} {binding : TlsBinding} {sni : SniMatch}
    (hvalue : (Plan.certificate binding).value? lookup = some sni) :
    ∃ secret : Secret, lookup (.secret binding.secret) = .ok secret ∧
      sni = binding.sniMatch secret := by
  simp only [certificate, follow, bind_eq, pure_eq, value?_bind_eq_some_iff, value?_done,
    Option.some.injEq] at hvalue
  obtain ⟨_, _, secret, hsecret, hsni⟩ := hvalue
  exact ⟨secret, value?_need_eq_some_iff.mp hsecret, hsni.symm⟩

theorem Plan.presents_of_certificate
    {changes : List Index.Change} {binding : TlsBinding} {sni : SniMatch}
    (hvalue : (Plan.certificate binding).value? (Index.empty.changeAll changes).lookup =
      some sni) :
    binding.Presents changes sni := by
  obtain ⟨secret, hsecret, rfl⟩ := exists_secret_of_certificate hvalue
  have hlast : Index.LastWritten changes (.secret binding.secret) secret :=
    Index.find?_changeAll_eq_some_iff.mp (Index.lookup_eq_ok_iff.mp hsecret)
  exact ⟨rfl, rfl, secret, hlast, rfl, rfl⟩

theorem TlsBinding.Presents.material_eq
    {changes : List Index.Change} {binding : TlsBinding} {sni : SniMatch} {secret : Secret}
    (hsni : binding.Presents changes sni)
    (hsecret : Index.LastWritten changes (.secret sni.certSource) secret) :
    sni.certificateChain = (secret.data.get? "tls.crt").getD [] ∧
      sni.privateKey = (secret.data.get? "tls.key").getD [] := by
  obtain ⟨last, hlast, hchain, hkey⟩ := hsni.material
  rw [← hsni.certSource] at hlast
  rw [hchain, hkey, hlast.unique hsecret]
  exact ⟨rfl, rfl⟩

/-- Changes of other objects make no difference. -/
theorem TlsBinding.Presents.eq_of_append
    {changes later : List Index.Change} {binding : TlsBinding} {sni other : SniMatch}
    (hsni : binding.Presents changes sni) (hother : binding.Presents (changes ++ later) other)
    (hlater : ∀ change ∈ later, change.query? ≠ some (.secret sni.certSource)) :
    other = sni := by
  obtain ⟨secret, hsecret, hchain, hkey⟩ := hsni.material
  have hsource : other.certSource = sni.certSource := hother.certSource.trans hsni.certSource.symm
  have hlast : Index.LastWritten (changes ++ later) (.secret other.certSource) secret := by
    rw [hsource, Index.lastWritten_append_iff hlater, hsni.certSource]
    exact hsecret
  obtain ⟨hotherChain, hotherKey⟩ := hother.material_eq hlast
  have hhosts : other.hosts = sni.hosts := hother.hosts.trans hsni.hosts.symm
  cases sni
  cases other
  rw [SniMatch.mk.injEq]
  exact ⟨hhosts, hsource, hotherChain.trans hchain.symm, hotherKey.trans hkey.symm⟩

theorem sniMatches_of_ready
    {config : Config} {changes : List Index.Change} {registrar : Registrar} {ingress : Ingress}
    {value : ProxyConfig}
    (hready : (resolve config (Index.empty.changeAll changes).lookup registrar ingress).result =
      .ok (.ready value)) :
    List.Forall₂ (TlsBinding.Presents changes) ingress.tls value.sniMatches := by
  obtain ⟨hcertificates, _⟩ := exists_parts_of_ready hready
  exact (Plan.value?_each_eq_some_iff.mp hcertificates).imp
    fun _ _ hvalue => Plan.presents_of_certificate hvalue

/-- A proxy that is configured from an index presents, binding by binding, what was written last
under the name of the binding's secret.  Bindings of one secret present the same, bindings of other
secrets have no part in it, and bytes come through as they were before they were put into base64. -/
theorem certificates_presented [FieldTypes]
    {config : Config} {changes : List Index.Change} {registrar : Registrar} {ingress : Ingress}
    {value : ProxyConfig}
    (hready : (resolve config (Index.empty.changeAll changes).lookup registrar ingress).result =
      .ok (.ready value)) :
    List.Forall₂ (TlsBinding.Presents changes) ingress.tls value.sniMatches ∧
    (∀ sni ∈ value.sniMatches, ∀ other ∈ value.sniMatches, sni.certSource = other.certSource →
      sni.certificateChain = other.certificateChain ∧ sni.privateKey = other.privateKey) ∧
    (∀ (later : List Index.Change) (nextConfig : Config) (nextRegistrar : Registrar)
        (next : ProxyConfig),
      (resolve nextConfig (Index.empty.changeAll (changes ++ later)).lookup nextRegistrar
        ingress).result = .ok (.ready next) →
      List.Forall₂
        (fun sni other =>
          (∀ change ∈ later, change.query? ≠ some (.secret sni.certSource)) → other = sni)
        value.sniMatches next.sniMatches) ∧
    ∀ (json : Json) (name : ObjectName) (data : KeyMap String Bytes),
      json.IsSecret name data →
      ∃ resource, Resource.ofJson? json = .ok resource ∧
        ∀ earlier later, changes = earlier ++ .apply resource :: later →
          (∀ change ∈ later, change.query? ≠ some (.secret name)) →
          ∀ sni ∈ value.sniMatches, sni.certSource = name →
            sni.certificateChain = (data.get? "tls.crt").getD [] ∧
            sni.privateKey = (data.get? "tls.key").getD [] := by
  have hpresents := sniMatches_of_ready hready
  have hmember : ∀ sni ∈ value.sniMatches, ∃ binding ∈ ingress.tls,
      binding.Presents changes sni := by
    have hflipped : List.Forall₂
        (fun sni (binding : TlsBinding) => binding.Presents changes sni)
        value.sniMatches ingress.tls := hpresents.flip
    intro sni hsni
    exact exists_mem_of_forall₂ hflipped hsni
  refine ⟨hpresents, ?_, ?_, ?_⟩
  · intro sni hsni other hother hsource
    obtain ⟨binding, _, hown⟩ := hmember sni hsni
    obtain ⟨otherBinding, _, hotherOwn⟩ := hmember other hother
    obtain ⟨secret, hsecret, hchain, hkey⟩ := hown.material
    rw [← hown.certSource, hsource] at hsecret
    obtain ⟨hotherChain, hotherKey⟩ := hotherOwn.material_eq hsecret
    exact ⟨hchain.trans hotherChain.symm, hkey.trans hotherKey.symm⟩
  · intro later nextConfig nextRegistrar next hnext
    refine forall₂_of_common ?_ hpresents (sniMatches_of_ready hnext)
    intro binding sni other hsni hother hlater
    exact hsni.eq_of_append hother hlater
  · intro json name data hjson
    obtain ⟨secret, hread, hplace, rfl⟩ := hjson.exists_of_read
    refine ⟨.secret secret, hread, ?_⟩
    rintro earlier later rfl hlater sni hsni rfl
    obtain ⟨binding, _, hown⟩ := hmember sni hsni
    exact hown.material_eq (Index.lastWritten_of_applied hplace hlater)

/-! ### A shop whose certificate is renewed -/

/-- The wildcard certificate is used twice, and a host is bound twice. -/
def certifiedShop : Ingress where
  metadata := ⟨some "web", some "shop", none, none⟩
  tls :=
    [⟨["shop.example", "shop.example"], "wildcard", "certs"⟩, ⟨["shop.example"], "own", "shop"⟩,
      ⟨["pay.example"], "wildcard", "certs"⟩]
  rules :=
    [⟨["shop.example"], .externalIP,
      [⟨"/", .empty, none, .empty, [⟨"shop", "front", .number 80, 100, .empty⟩]⟩]⟩]
  httpOption := .enabled

/-- A secret as it is listed, with fields that routing does not read and an authority that has no
bytes. -/
def wildcardJson : Json :=
  .object
    [("data",
        .object [("ca.crt", .null), ("tls.crt", .string "AP8="), ("tls.key", .string "Lg==")]),
      ("kind", .string "Secret"),
      ("metadata",
        .object
          [("creationTimestamp", .string "2025-02-28T12:30:00Z"), ("generation", .integer 7),
            ("name", .string "wildcard"), ("namespace", .string "certs"),
            ("uid", .string "5f1a0c9e")]),
      ("type", .string "kubernetes.io/tls")]

def wildcardData : KeyMap String Bytes :=
  ((KeyMap.empty.insert "ca.crt" []).insert "tls.crt" [0, 255]).insert "tls.key" [46]

theorem wildcardJson_isSecret :
    wildcardJson.IsSecret ⟨"certs", "wildcard"⟩ wildcardData where
  kind := rfl
  version := by
    intro version hversion
    cases hversion
  metadata := ⟨_, _, rfl, rfl, rfl, rfl⟩
  data := ⟨_, rfl, .cons ⟨rfl, .null⟩ (.cons ⟨rfl, .base64 [0, 255]⟩
    (.cons ⟨rfl, .base64 [46]⟩ .nil))⟩
  others := by
    rintro members ⟨⟩
    decide

/-- Before the wildcard certificate is applied, another one was, and it was deleted. -/
def beforeRenewal : List Index.Change :=
  [.apply (.service ⟨⟨some "front", some "shop", none, none⟩,
      some ⟨some "ExternalName", some "front.example", []⟩⟩),
    .apply (.secret ⟨⟨some "wildcard", some "certs", none, none⟩,
      KeyMap.empty.insert "tls.crt" [1]⟩),
    .delete (.secret ⟨"certs", "wildcard"⟩)]

def afterRenewal : List Index.Change :=
  [.apply (.secret ⟨⟨some "own", some "shop", none, none⟩, KeyMap.empty.insert "tls.crt" [2]⟩),
    .apply (.secret ⟨⟨some "wildcard", some "shop", none, none⟩,
      KeyMap.empty.insert "tls.key" [3]⟩)]

def wildcardSecret : Secret := ⟨⟨some "wildcard", some "certs", none, none⟩, wildcardData⟩

theorem renewed_certificate_presented :
    wildcardJson.IsSecret ⟨"certs", "wildcard"⟩ wildcardData ∧
    Resource.ofJson? wildcardJson = .ok (.secret wildcardSecret) ∧
    ∃ value,
      (resolve .standard
        (Index.empty.changeAll
          (beforeRenewal ++ .apply (.secret wildcardSecret) :: afterRenewal)).lookup
        .accepting certifiedShop).result = .ok (.ready value) ∧
      List.Forall₂
        (TlsBinding.Presents (beforeRenewal ++ .apply (.secret wildcardSecret) :: afterRenewal))
        certifiedShop.tls value.sniMatches ∧
      ∀ sni ∈ value.sniMatches, sni.certSource = ⟨"certs", "wildcard"⟩ →
        sni.certificateChain = [0, 255] ∧ sni.privateKey = [46] := by
  have hresource : Resource.ofJson? wildcardJson = .ok (.secret wildcardSecret) := rfl
  obtain ⟨value, hready⟩ : ∃ value,
      (resolve .standard
        (Index.empty.changeAll
          (beforeRenewal ++ .apply (.secret wildcardSecret) :: afterRenewal)).lookup
        .accepting certifiedShop).result = .ok (.ready value) :=
    exists_ready_of_isReady (by decide +kernel)
  obtain ⟨hpresents, _, _, hverbatim⟩ := certificates_presented hready
  obtain ⟨resource, hread, hlast⟩ := hverbatim _ _ _ wildcardJson_isSecret
  cases hresource.symm.trans hread
  refine ⟨wildcardJson_isSecret, hresource, value, hready, hpresents, ?_⟩
  have hlater : ∀ change ∈ afterRenewal,
      change.query? ≠ some (.secret ⟨"certs", "wildcard"⟩) := by
    simp [afterRenewal, Index.Change.query?, Resource.query?, Metadata.fullName?]
  exact hlast beforeRenewal afterRenewal rfl hlater

end EdgeRouting
