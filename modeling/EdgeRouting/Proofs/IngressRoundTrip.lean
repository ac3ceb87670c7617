import EdgeRouting.Ingress.Json

/-!
# Ingresses and their JSON form

An ingress that is written and read again is the same ingress.  Writing leaves a part out only
where reading supplies exactly this part again, and every other part is read from the member that
was written for it, so that unset, empty and default parts stay apart.
-/

namespace EdgeRouting

/-! ## The members of a written object -/

namespace Json

@[simp] theorem isRecord_ofMembers (size : Nat) (members : List (String × Json)) :
    (ofMembers members).isRecord size = true := rfl

/-- Members are looked up from behind, since the later one of two counts. -/
@[simp] theorem field?_ofMembers (place : Nat) (name : String) (members : List (String × Json)) :
    (ofMembers members).field? place name = KeyMap.findEntry name members.reverse :=
  KeyMap.get?_ofList members name

end Json

section Members

variable {wanted name : String} {absent : Bool} {json : Json} {part : Option Json}

theorem memberIfSet_eq (name : String) (text : Option String) :
    memberIfSet name text = ((text.map Json.string).map fun json => (name, json)).toList := by
  cases text <;> rfl

@[simp] theorem reverse_memberUnless :
    (memberUnless absent name json).reverse = memberUnless absent name json := by
  cases absent <;> rfl

@[simp] theorem findEntry_memberUnless_of_ne (hother : wanted ≠ name) :
    KeyMap.findEntry wanted (memberUnless absent name json) = none := by
  cases absent <;> simp [memberUnless, KeyMap.findEntry, hother]

theorem reverse_toList_member :
    (part.map fun json => (name, json)).toList.reverse =
      (part.map fun json => (name, json)).toList := by
  cases part <;> rfl

theorem findEntry_toList_member :
    KeyMap.findEntry wanted (part.map fun json => (name, json)).toList =
      if wanted = name then part else none := by
  cases part <;> simp [KeyMap.findEntry]

@[simp] theorem reverse_memberIfSet {text : Option String} :
    (memberIfSet name text).reverse = memberIfSet name text := by
  rw [memberIfSet_eq, reverse_toList_member]

@[simp] theorem findEntry_memberIfSet {text : Option String} :
    KeyMap.findEntry wanted (memberIfSet name text) =
      if wanted = name then text.map Json.string else none := by
  rw [memberIfSet_eq, findEntry_toList_member]

end Members

/-! ## Reading what was written -/

/-- Nothing but the fields that are read has been written. -/
theorem RecordType.fields?_ofMembers [FieldTypes] {type : RecordType}
    {members : List (String × Json)}
    (hmembers : ∀ member ∈ members, member.1 ∈ type.readFields) :
    type.fields? (.ofMembers members) =
      some fun name => KeyMap.findEntry name members.reverse := by
  have hall : type.admitsAll (KeyMap.ofList members).entries = true := by
    rw [admitsAll, List.all_eq_true]
    intro member hmember
    have hread := hmembers member (KeyMap.mem_of_mem_ofList hmember)
    rw [List.contains_iff_mem.mpr hread, Bool.true_or]
  have hfound : ∀ name, KeyMap.findEntry name (KeyMap.ofList members).entries =
      KeyMap.findEntry name members.reverse := KeyMap.get?_ofList members
  simp only [fields?, Json.ofMembers, hall, if_true, hfound]

namespace Json

variable {α β : Type} {item : Json → Option α}

/-- A part that is left out only where it is the default is read as it was. -/
theorem withDefault_memberUnless
    {fallback part : α} {absent : Bool} {json : Json} (name : String)
    (hdefault : absent = true → part = fallback) (hitem : item json = some part) :
    withDefault fallback item (KeyMap.findEntry name (memberUnless absent name json)) =
      some part := by
  cases habsent : absent with
  | true => simp [memberUnless, KeyMap.findEntry, withDefault, hdefault habsent]
  | false => simp [memberUnless, KeyMap.findEntry, withDefault, hitem]

theorem optional_map_string (text : Option String) :
    optional string? (text.map string) = some text := by
  cases text <;> rfl

theorem mapM_map_write
    (read : β → Option α) (write : α → β) (hread : ∀ part, read (write part) = some part)
    (parts : List α) : (parts.map write).mapM read = some parts := by
  induction parts with
  | nil => rfl
  | cons first rest ih => simp [hread, ih]

theorem list?_map_write
    (write : α → Json) (hitem : ∀ part, item (write part) = some part) (parts : List α) :
    list? item (array (parts.map write)) = some parts :=
  mapM_map_write item write hitem parts

theorem map?_mapValues_write
    (write : α → Json) (hitem : ∀ part, item (write part) = some part)
    (table : KeyMap String α) :
    map? item (object (table.mapValues write).entries) = some table := by
  have hentry : ∀ entry : String × α,
      (item (write entry.2)).map (fun part => (entry.1, part)) = some entry := by
    intro entry
    rw [hitem, Option.map_some]
  have hentries := mapM_map_write
    (fun member : String × Json => (item member.2).map fun part => (member.1, part))
    (fun entry : String × α => (entry.1, write entry.2)) hentry table.entries
  rw [map?, KeyMap.mapValues, hentries, Option.map_some, KeyMap.ofList_entries]

theorem int32?_toInt (value : Int32) : int32? (integer value.toInt) = some value := by
  have hleast : -0x80000000 ≤ value.toInt := value.le_toInt
  have hgreatest : value.toInt < 0x80000000 := value.toInt_lt
  rw [int32?, if_pos ⟨hleast, hgreatest⟩, Int32.ofInt_toInt]

theorem uint32?_toNat (value : UInt32) : uint32? (integer value.toNat) = some value := by
  have hgreatest : value.toNat < 0x100000000 := value.toNat_lt
  have hrange : 0 ≤ (value.toNat : Int) ∧ (value.toNat : Int) < 0x100000000 := by omega
  rw [uint32?, if_pos hrange, Int.toNat_natCast, UInt32.ofNat_toNat]

end Json

/-! ## The parts of an ingress -/

theorem PortName.ofJson?_toJson (port : PortName) : ofJson? port.toJson = some port := by
  cases port with
  | number port =>
      have hnumber := Json.int32?_toInt port
      simp [toJson, ofJson?, hnumber]
  | named name => rfl

theorem TextMap.map?_toJson (texts : TextMap) :
    Json.map? Json.string? (TextMap.toJson texts) = some texts :=
  Json.map?_mapValues_write Json.string (fun _ => rfl) texts

theorem list?_textsToJson (texts : List String) :
    Json.list? Json.string? (textsToJson texts) = some texts :=
  Json.list?_map_write Json.string (fun _ => rfl) texts

theorem TlsBinding.ofJson?_toJson (binding : TlsBinding) :
    ofJson? binding.toJson = some binding := by
  have hhosts := list?_textsToJson binding.hosts
  simp [ofJson?, toJson, KeyMap.findEntry, Json.withDefault, Json.required, Json.string?, hhosts]

theorem HeaderMatch.ofJson?_toJson (header : HeaderMatch) :
    ofJson? header.toJson = some header := by
  have hexact := Json.optional_map_string header.exact
  simp [ofJson?, toJson, hexact]

theorem Split.ofJson?_toJson (split : Split) : ofJson? split.toJson = some split := by
  have hport := PortName.ofJson?_toJson split.servicePort
  have hpercent : Json.withDefault 0 Json.uint32? (some (.integer split.percent.toNat)) =
      some split.percent := by
    rw [Json.withDefault, Json.uint32?_toNat]
  have hheaders := Json.withDefault_memberUnless "appendHeaders"
    KeyMap.eq_empty_of_isEmpty (TextMap.map?_toJson split.appendHeaders)
  simp [ofJson?, toJson, KeyMap.findEntry, KeyMap.findEntry_append, Json.required, Json.string?,
    hport, hpercent, hheaders]

theorem HttpPath.ofJson?_toJson (path : HttpPath) : ofJson? path.toJson = some path := by
  have hpath : Json.withDefault "" Json.string?
      (KeyMap.findEntry "path" (memberUnless (path.path = "") "path" (.string path.path))) =
        some path.path :=
    Json.withDefault_memberUnless "path" of_decide_eq_true rfl
  have hheaders := Json.withDefault_memberUnless "headers" KeyMap.eq_empty_of_isEmpty
    (Json.map?_mapValues_write HeaderMatch.toJson HeaderMatch.ofJson?_toJson path.headers)
  have hrewrite := Json.optional_map_string path.rewriteHost
  have happend := Json.withDefault_memberUnless "appendHeaders"
    KeyMap.eq_empty_of_isEmpty (TextMap.map?_toJson path.appendHeaders)
  have hsplits : Json.withDefault [] (Json.list? Split.ofJson?)
      (some (.array (path.splits.map Split.toJson))) = some path.splits :=
    Json.list?_map_write Split.toJson Split.ofJson?_toJson path.splits
  simp [ofJson?, toJson, KeyMap.findEntry, KeyMap.findEntry_append, hpath, hheaders, hrewrite,
    happend, hsplits]

theorem Rule.ofJson?_toJson (rule : Rule) : ofJson? rule.toJson = some rule := by
  have hhosts := list?_textsToJson rule.hosts
  have hvisibility : Visibility.ofJson? (.string rule.visibility.label) = some rule.visibility := by
    cases rule.visibility <;> rfl
  have hpaths := Json.list?_map_write HttpPath.toJson HttpPath.ofJson?_toJson rule.paths
  simp [ofJson?, toJson, pathsOfJson?, KeyMap.findEntry, Json.withDefault, hhosts, hvisibility,
    hpaths]

theorem TextMap.optional_map_toJson (texts : Option TextMap) :
    Json.optional (Json.map? Json.string?) (texts.map TextMap.toJson) = some texts := by
  cases texts with
  | none => rfl
  | some map =>
      have hmap := TextMap.map?_toJson map
      rw [TextMap.toJson] at hmap
      simp [Json.optional, Json.unlessNull, TextMap.toJson, hmap]

theorem fst_eq_of_mem_toList {name : String} {part : Option Json} {member : String × Json}
    (hmember : member ∈ (part.map fun json => (name, json)).toList) : member.1 = name := by
  rw [Option.mem_toList, Option.map_eq_some_iff] at hmember
  obtain ⟨json, _, rfl⟩ := hmember
  rfl

theorem Metadata.ofJson?_toJson [FieldTypes] (metadata : Metadata) :
    ofJson? metadata.toJson = some metadata := by
  have hname := Json.optional_map_string metadata.name
  have hns := Json.optional_map_string metadata.ns
  have hlabels := TextMap.optional_map_toJson metadata.labels
  have hannotations := TextMap.optional_map_toJson metadata.annotations
  unfold TextMap.toJson at hlabels hannotations
  unfold ofJson? toJson
  rw [RecordType.fields?_ofMembers]
  · simp only [Option.bind_eq_bind, Option.bind_some, List.reverse_append, reverse_toList_member,
      KeyMap.findEntry_append, findEntry_toList_member, String.reduceEq, if_true, if_false,
      Option.none_or, Option.or_none]
    rw [hname, hns, hlabels, hannotations]
    rfl
  · intro member hmember
    simp only [List.mem_append] at hmember
    rcases hmember with ((hmember | hmember) | hmember) | hmember
    all_goals
      rw [fst_eq_of_mem_toList hmember]
      decide

theorem Ingress.specOfJson?_specToJson (ingress : Ingress) :
    specOfJson? ingress.metadata ingress.specToJson = some ingress := by
  have htls := Json.withDefault_memberUnless "tls" List.isEmpty_iff.1
    (Json.list?_map_write TlsBinding.toJson TlsBinding.ofJson?_toJson ingress.tls)
  have hrules : Json.withDefault [] (Json.list? Rule.ofJson?)
      (some (.array (ingress.rules.map Rule.toJson))) = some ingress.rules :=
    Json.list?_map_write Rule.toJson Rule.ofJson?_toJson ingress.rules
  have hoption : Json.withDefault .enabled HttpOption.ofJson?
      (some (.string ingress.httpOption.label)) = some ingress.httpOption := by
    cases ingress.httpOption <;> rfl
  simp [specOfJson?, specToJson, KeyMap.findEntry, htls, hrules, hoption]

theorem Ingress.ofJson?_toJson [FieldTypes] (ingress : Ingress) :
    ofJson? ingress.toJson = some ingress := by
  have hmetadata := Metadata.ofJson?_toJson ingress.metadata
  have hspec := Ingress.specOfJson?_specToJson ingress
  simp [ofJson?, toJson, KeyMap.findEntry, Json.required, hmetadata, hspec]

/-! ## Writing and reading again -/

/-- What is written of an ingress once it has been read. -/
def Ingress.rewrite? [FieldTypes] (json : Json) : Option Json := (ofJson? json).map toJson

/-- Every ingress is read back from what is written of it, so different ingresses are written
differently, and to read and write once more changes nothing. -/
theorem Ingress.survives_writing [FieldTypes] :
    (∀ ingress : Ingress, ofJson? ingress.toJson = some ingress) ∧
    Function.Injective Ingress.toJson ∧
    (∀ json : Json, (rewrite? json).bind rewrite? = rewrite? json) := by
  refine ⟨Ingress.ofJson?_toJson, ?_, ?_⟩
  · intro first second hsame
    have hread := congrArg ofJson? hsame
    rw [Ingress.ofJson?_toJson, Ingress.ofJson?_toJson] at hread
    exact Option.some.inj hread
  · intro json
    unfold rewrite?
    cases ofJson? json with
    | none => rfl
    | some ingress =>
        rw [Option.map_some, Option.bind_some, Ingress.ofJson?_toJson, Option.map_some]

end EdgeRouting
