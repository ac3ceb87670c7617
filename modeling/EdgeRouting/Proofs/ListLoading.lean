import EdgeRouting.Proofs.ResourceLoading
import EdgeRouting.Resource.FieldTables

/-!
# Loading a list

A list leads as far as its items do: those before the first one that is no resource are applied, and
nothing behind it is.  Thus it makes no difference whether items come in one list or in several, or
each in a file of its own.
-/

namespace EdgeRouting

/-! ## Fields that are not read -/

namespace RecordType

variable [FieldTypes] {type : RecordType} {kind : String} {json : Json}
  {field : String → Option Json}

theorem fields?_eq_some_iff :
    type.fields? json = some field ↔
      ∃ members, json = .object members ∧ type.admitsAll members = true ∧
        (fun name => KeyMap.findEntry name members) = field := by
  cases json with
  | object members => simp [fields?]
  | null | bool _ | integer _ | fractional _ | string _ | array _ => simp [fields?]

theorem eq_member?_of_fieldsOfKind? (hfield : type.fieldsOfKind? kind json = some field)
    (name : String) : field name = json.member? name := by
  unfold fieldsOfKind? at hfield
  cases hread : type.fields? json with
  | none => simp [hread] at hfield
  | some found =>
      obtain ⟨members, rfl, _, rfl⟩ := fields?_eq_some_iff.mp hread
      simp only [hread, Option.ite_none_right_eq_some, Option.some.injEq] at hfield
      rw [← hfield.2]
      rfl

/-- In a record that can be read, all fields that are not read hold what their types admit. -/
theorem admits_of_fields? {members : List (String × Json)} {name : String}
    (hfield : type.fields? (.object members) = some field) (hmember : (name, json) ∈ members)
    (hunread : name ∉ type.readFields) : type.admits name json = true := by
  obtain ⟨found, hfound, hall, _⟩ := fields?_eq_some_iff.mp hfield
  cases hfound
  have hadmitted := List.all_eq_true.mp hall _ hmember
  simpa [hunread] using hadmitted

end RecordType

/-! ## Resources -/

namespace Resource

theorem claimedKind_eq_iff {json : Json} {kind : String} (hsome : kind ≠ "") :
    claimedKind json = kind ↔ json.member? "kind" = some (.string kind) := by
  unfold claimedKind
  cases json.member? "kind" with
  | none => simp [hsome.symm]
  | some claimed => cases claimed <;> simp [Json.string?, hsome.symm]

/-- Reading an object of a kind is all that is left to do once the kind is known. -/
theorem exists_of_read {α : Type} {object? : Option α} {make : α → Resource} {resource : Resource}
    (hok : (match object?.map make with
      | some resource => Except.ok resource
      | none => Except.error ResourceError.unreadable) = .ok resource) :
    ∃ object, object? = some object ∧ make object = resource := by
  cases object? with
  | none => cases hok
  | some object =>
      cases hok
      exact ⟨object, rfl, rfl⟩

theorem eq_unreadable_of_refused {resource? : Option Resource} {cause : ResourceError}
    (hrefused : (match resource? with
      | some resource => Except.ok resource
      | none => Except.error ResourceError.unreadable) = .error cause) :
    cause = .unreadable := by
  cases resource? with
  | none =>
      cases hrefused
      rfl
  | some resource => cases hrefused

def kinds : List String := ["Secret", "Service", "Endpoints", "Namespace"]

theorem claimedKind_eq_iff_of_mem {json : Json} {kind : String} (hkind : kind ∈ kinds) :
    claimedKind json = kind ↔ json.member? "kind" = some (.string kind) := by
  apply claimedKind_eq_iff
  rintro rfl
  exact absurd hkind (by decide)

variable [FieldTypes]

/-- The value is an object of the kind that it claims to be. -/
inductive ReadFrom (json : Json) : Resource → Prop
  | secret {object : Secret} (hkind : json.member? "kind" = some (.string "Secret"))
      (hobject : Secret.ofJson? json = some object) : ReadFrom json (.secret object)
  | service {object : Service} (hkind : json.member? "kind" = some (.string "Service"))
      (hobject : Service.ofJson? json = some object) : ReadFrom json (.service object)
  | endpoints {object : Endpoints} (hkind : json.member? "kind" = some (.string "Endpoints"))
      (hobject : Endpoints.ofJson? json = some object) : ReadFrom json (.endpoints object)
  | nameSpace {object : Namespace} (hkind : json.member? "kind" = some (.string "Namespace"))
      (hobject : Namespace.ofJson? json = some object) : ReadFrom json (.nameSpace object)

/-- The value is no resource, and this is the reason. -/
inductive RefusedFor (json : Json) : ResourceError → Prop
  | unreadable {kind : String} (hkind : json.member? "kind" = some (.string kind))
      (hresource : kind ∈ kinds) (hrefused : ∀ resource, ¬ReadFrom json resource) :
      RefusedFor json .unreadable
  | unsupportedKind (hkind : ∀ kind ∈ kinds, json.member? "kind" ≠ some (.string kind)) :
      RefusedFor json (.unsupportedKind (claimedKind json))

theorem readFrom_iff {json : Json} {resource : Resource} :
    ReadFrom json resource ↔ ofJson? json = .ok resource := by
  constructor
  · intro hread
    cases hread with
    | secret hkind hobject | service hkind hobject | endpoints hkind hobject
    | nameSpace hkind hobject =>
        have hclaimed := (claimedKind_eq_iff (by decide)).mpr hkind
        simp [ofJson?, hclaimed, hobject]
  · intro hok
    simp only [ofJson?] at hok
    split_ifs at hok with hsecret hservice hendpoints hnameSpace
    · obtain ⟨object, hobject, rfl⟩ := exists_of_read hok
      exact .secret ((claimedKind_eq_iff (by decide)).mp hsecret) hobject
    · obtain ⟨object, hobject, rfl⟩ := exists_of_read hok
      exact .service ((claimedKind_eq_iff (by decide)).mp hservice) hobject
    · obtain ⟨object, hobject, rfl⟩ := exists_of_read hok
      exact .endpoints ((claimedKind_eq_iff (by decide)).mp hendpoints) hobject
    · obtain ⟨object, hobject, rfl⟩ := exists_of_read hok
      exact .nameSpace ((claimedKind_eq_iff (by decide)).mp hnameSpace) hobject

theorem eq_unreadable_of_mem_kinds {json : Json} {cause : ResourceError}
    (hkind : claimedKind json ∈ kinds) (herror : ofJson? json = .error cause) :
    cause = .unreadable := by
  simp only [ofJson?] at herror
  split_ifs at herror with hsecret hservice hendpoints hnameSpace
  · exact eq_unreadable_of_refused herror
  · exact eq_unreadable_of_refused herror
  · exact eq_unreadable_of_refused herror
  · exact eq_unreadable_of_refused herror
  · simp [kinds, hsecret, hservice, hendpoints, hnameSpace] at hkind

theorem ofJson?_of_not_mem_kinds {json : Json} (hkind : claimedKind json ∉ kinds) :
    ofJson? json = .error (.unsupportedKind (claimedKind json)) := by
  simp only [kinds, List.mem_cons, List.not_mem_nil, or_false, not_or] at hkind
  obtain ⟨hsecret, hservice, hendpoints, hnameSpace⟩ := hkind
  simp only [ofJson?, hsecret, hservice, hendpoints, hnameSpace, if_false]

theorem refusedFor_iff {json : Json} {cause : ResourceError} :
    RefusedFor json cause ↔ ofJson? json = .error cause := by
  constructor
  · intro hrefused
    cases hrefused with
    | @unreadable kind hkind hresource hrefused =>
        have hclaimed := (claimedKind_eq_iff_of_mem hresource).mpr hkind
        cases hread : ofJson? json with
        | ok resource => exact absurd (readFrom_iff.mpr hread) (hrefused resource)
        | error cause => rw [eq_unreadable_of_mem_kinds (hclaimed ▸ hresource) hread]
    | unsupportedKind hkind =>
        apply ofJson?_of_not_mem_kinds
        intro hmem
        exact hkind _ hmem ((claimedKind_eq_iff_of_mem hmem).mp rfl)
  · intro herror
    by_cases hmem : claimedKind json ∈ kinds
    · rw [eq_unreadable_of_mem_kinds hmem herror]
      refine .unreadable ((claimedKind_eq_iff_of_mem hmem).mp rfl) hmem fun resource => ?_
      rw [readFrom_iff, herror]
      nofun
    · rw [ofJson?_of_not_mem_kinds hmem] at herror
      cases herror
      refine .unsupportedKind fun kind hkind hclaimed => hmem ?_
      rwa [(claimedKind_eq_iff_of_mem hkind).mpr hclaimed]

theorem exists_refusedFor {json : Json} (hrefused : ∀ resource, ¬ReadFrom json resource) :
    ∃ cause, RefusedFor json cause := by
  cases hread : ofJson? json with
  | ok resource => exact absurd (readFrom_iff.mpr hread) (hrefused resource)
  | error cause => exact ⟨cause, refusedFor_iff.mpr hread⟩

/-- A list is no resource, so that it cannot be the item of another one. -/
theorem not_readFrom_of_list {json : Json} (hlist : json.member? "kind" = some (.string "List"))
    (resource : Resource) : ¬ReadFrom json resource := by
  intro hread
  cases hread with
  | secret hkind _ | service hkind _ | endpoints hkind _ | nameSpace hkind _ =>
      simp [hlist] at hkind

theorem ofJson?_metadata_of_part {type : RecordType} {kind : String} {json part : Json}
    {field : String → Option Json} {metadata : Metadata}
    (hfield : type.fieldsOfKind? kind json = some field)
    (hmetadata : json.member? "metadata" = some part) (hset : part ≠ .null)
    (hpart : Json.unlessNull .unset Metadata.ofJson? (field "metadata") = some metadata) :
    Metadata.ofJson? part = some metadata := by
  rw [RecordType.eq_member?_of_fieldsOfKind? hfield, hmetadata] at hpart
  cases part with
  | null => exact absurd rfl hset
  | bool _ | integer _ | fractional _ | string _ | array _ | object _ => exact hpart

/-- Metadata that are set can be read. -/
theorem exists_metadata_of_readFrom {json part : Json} {resource : Resource}
    (hread : ReadFrom json resource) (hmetadata : json.member? "metadata" = some part)
    (hset : part ≠ .null) : ∃ metadata, Metadata.ofJson? part = some metadata := by
  cases hread with
  | secret _ hobject =>
      simp only [Secret.ofJson?, bind, Option.bind_eq_some_iff] at hobject
      obtain ⟨field, hfield, metadata, hpart, _⟩ := hobject
      exact ⟨metadata, ofJson?_metadata_of_part hfield hmetadata hset hpart⟩
  | service _ hobject =>
      simp only [Service.ofJson?, bind, Option.bind_eq_some_iff] at hobject
      obtain ⟨field, hfield, metadata, hpart, _⟩ := hobject
      exact ⟨metadata, ofJson?_metadata_of_part hfield hmetadata hset hpart⟩
  | endpoints _ hobject =>
      simp only [Endpoints.ofJson?, bind, Option.bind_eq_some_iff] at hobject
      obtain ⟨field, hfield, metadata, hpart, _⟩ := hobject
      exact ⟨metadata, ofJson?_metadata_of_part hfield hmetadata hset hpart⟩
  | nameSpace _ hobject =>
      simp only [Namespace.ofJson?, bind, Option.bind_eq_some_iff] at hobject
      obtain ⟨field, hfield, metadata, hpart, _⟩ := hobject
      exact ⟨metadata, ofJson?_metadata_of_part hfield hmetadata hset hpart⟩

/-- Metadata that break the type of a field make an object unreadable, also if the field is not
read. -/
theorem not_readFrom_of_not_admits {json value : Json} {members : List (String × Json)}
    {name : String} (hmetadata : json.member? "metadata" = some (.object members))
    (hmember : (name, value) ∈ members) (hunread : name ∉ RecordType.metadata.readFields)
    (hbroken : RecordType.metadata.admits name value = false) (resource : Resource) :
    ¬ReadFrom json resource := by
  intro hread
  obtain ⟨metadata, hpart⟩ := exists_metadata_of_readFrom hread hmetadata Json.noConfusion
  simp only [Metadata.ofJson?, bind, Option.bind_eq_some_iff] at hpart
  obtain ⟨field, hfield, _⟩ := hpart
  rw [RecordType.admits_of_fields? hfield hmember hunread] at hbroken
  contradiction

end Resource

example : Resource.ofJson? (.object [("kind", .string "Secret"),
    ("metadata", .object [("name", .string "cert"), ("uid", .integer 7)])]) =
      .error .unreadable := by
  decide

namespace ResourceFile

/-! ## What loading comes to -/

section Loading

variable [FieldTypes]

/-- The objects are applied in order, up to the first one that is no resource. -/
inductive Applies (path : String) (index : Index) (objects : List Json) :
    Index × Except LoadError Nat → Prop
  | all {resources : List Resource} (hread : List.Forall₂ Resource.ReadFrom objects resources) :
      Applies path index objects (resources.foldl Index.apply index, .ok objects.length)
  | upTo {earlier later : List Json} {refused : Json} {resources : List Resource}
      {cause : ResourceError} (hobjects : objects = earlier ++ refused :: later)
      (hread : List.Forall₂ Resource.ReadFrom earlier resources)
      (hrefused : Resource.RefusedFor refused cause) :
      Applies path index objects
        (resources.foldl Index.apply index, .error (.invalidResource path cause))

/-- Loads files up to the first one that fails, and counts all their objects. -/
def loadInTurn (files : Files) (index : Index) : List String → Index × Except LoadError Nat
  | [] => (index, .ok 0)
  | path :: rest =>
      match load files index path with
      | (applied, .error error) => (applied, .error error)
      | (applied, .ok count) =>
          match loadInTurn files applied rest with
          | (final, .error error) => (final, .error error)
          | (final, .ok others) => (final, .ok (count + others))

/-- The program loads its resource files in this way. -/
theorem loadAll_eq_loadInTurn (files : Files) (index : Index) (paths : List String) :
    Program.loadAll files index paths =
      (loadInTurn files index paths).2.map fun _ => (loadInTurn files index paths).1 := by
  induction paths generalizing index with
  | nil => rfl
  | cons path rest ih =>
      rcases hload : load files index path with ⟨applied, error | count⟩
      · simp only [Program.loadAll, loadInTurn, hload]
        rfl
      · simp only [Program.loadAll, loadInTurn, hload, ih]
        rcases loadInTurn files applied rest with ⟨final, error | others⟩
        · rfl
        · rfl

/-- The final index, and the number of objects if nothing failed. -/
def effect (loaded : Index × Except LoadError Nat) : Index × Option Nat :=
  (loaded.1, loaded.2.toOption)

/-- How lists are loaded into an index, beside files that hold the same items. -/
structure LoadsLists (files : Files) (index : Index) : Prop where
  in_order : ∀ path json items, IsList files path json items →
    Applies path index items (load files index path)
  joined : ∀ whole first second json left right before after,
    IsList files whole json (before ++ after) →
    IsList files first left before → IsList files second right after →
    effect (load files index whole) = effect (loadInTurn files index [first, second])
  separate : ∀ whole json items parts, IsList files whole json items →
    List.Forall₂ (fun part item => readJson files part = .ok item ∧
      item.member? "kind" ≠ some (.string "List")) parts items →
    effect (load files index whole) = effect (loadInTurn files index parts)
  nested : ∀ (json : Json) resource, json.member? "kind" = some (.string "List") →
    ¬Resource.ReadFrom json resource
  no_items : ∀ path json, readJson files path = .ok json →
    json.member? "kind" = some (.string "List") →
    (∀ items, json.member? "items" ≠ some (.array items)) →
    load files index path = (index, .error (.listWithoutItems path))
  no_resource : ∀ path json, readJson files path = .ok json →
    json.member? "kind" ≠ some (.string "List") →
    (∀ resource, ¬Resource.ReadFrom json resource) →
    ∃ cause, Resource.RefusedFor json cause ∧
      load files index path = (index, .error (.invalidResource path cause))

/-! ## Objects in order -/

theorem applyAll_cases (index : Index) (objects : List Json) :
    (∃ resources, List.Forall₂ Resource.ReadFrom objects resources ∧
      applyAll index objects = (resources.foldl Index.apply index, none)) ∨
    ∃ earlier refused later resources cause, objects = earlier ++ refused :: later ∧
      List.Forall₂ Resource.ReadFrom earlier resources ∧
      Resource.RefusedFor refused cause ∧
      applyAll index objects = (resources.foldl Index.apply index, some cause) := by
  induction objects generalizing index with
  | nil => exact .inl ⟨[], .nil, rfl⟩
  | cons first rest ih =>
      cases hfirst : Resource.ofJson? first with
      | error cause =>
          refine .inr ⟨[], first, rest, [], cause, rfl, .nil,
            Resource.refusedFor_iff.mpr hfirst, ?_⟩
          simp only [applyAll, hfirst, List.foldl_nil]
      | ok resource =>
          have hread : Resource.ReadFrom first resource := Resource.readFrom_iff.mpr hfirst
          have hstep : applyAll index (first :: rest) = applyAll (index.apply resource) rest := by
            simp only [applyAll, hfirst]
          rw [hstep]
          rcases ih (index.apply resource) with ⟨resources, hrest, happlied⟩ |
            ⟨earlier, refused, later, resources, cause, rfl, hearlier, hrefused, happlied⟩
          · exact .inl ⟨resource :: resources, .cons hread hrest, happlied⟩
          · exact .inr ⟨first :: earlier, refused, later, resource :: resources, cause, rfl,
              .cons hread hearlier, hrefused, happlied⟩

theorem applyAll_append (index : Index) (earlier later : List Json) :
    applyAll index (earlier ++ later) =
      match applyAll index earlier with
      | (applied, none) => applyAll applied later
      | (applied, some cause) => (applied, some cause) := by
  induction earlier generalizing index with
  | nil => rfl
  | cons first rest ih =>
      simp only [List.cons_append, applyAll]
      cases Resource.ofJson? first with
      | error cause => rfl
      | ok resource => exact ih (index.apply resource)

section Files

variable {files : Files} {path : String} {found : List Json} {index applied : Index}
  {cause : ResourceError}

theorem load_of_applied (hfound : readJson files path >>= objects path = .ok found)
    (happlied : applyAll index found = (applied, none)) :
    load files index path = (applied, .ok found.length) := by
  unfold load
  simp only [hfound, happlied]

theorem load_of_refused (hfound : readJson files path >>= objects path = .ok found)
    (hrefused : applyAll index found = (applied, some cause)) :
    load files index path = (applied, .error (.invalidResource path cause)) := by
  unfold load
  simp only [hfound, hrefused]

theorem applies_load (hfound : readJson files path >>= objects path = .ok found) (index : Index) :
    Applies path index found (load files index path) := by
  rcases applyAll_cases index found with ⟨resources, hread, happlied⟩ |
    ⟨earlier, refused, later, resources, cause, hobjects, hread, hrefused, happlied⟩
  · rw [load_of_applied hfound happlied]
    exact .all hread
  · rw [load_of_refused hfound happlied]
    exact .upTo hobjects hread hrefused

section Parts

variable {parts : List String} {founds : List (List Json)}
  (hparts : List.Forall₂ (fun part found => readJson files part >>= objects part = .ok found)
    parts founds)

include hparts

theorem loadInTurn_of_applied (happlied : applyAll index founds.flatten = (applied, none)) :
    loadInTurn files index parts = (applied, .ok founds.flatten.length) := by
  induction hparts generalizing index with
  | nil =>
      cases happlied
      rfl
  | @cons part found parts founds hpart _ ih =>
      rw [List.flatten_cons, applyAll_append] at happlied
      rcases hfirst : applyAll index found with ⟨middle, _ | refused⟩
      · have hrest := ih (by simpa only [hfirst] using happlied)
        simp only [loadInTurn, load_of_applied hpart hfirst, hrest, List.flatten_cons,
          List.length_append]
      · simp [hfirst] at happlied

theorem loadInTurn_of_refused (hrefused : applyAll index founds.flatten = (applied, some cause)) :
    ∃ part, loadInTurn files index parts = (applied, .error (.invalidResource part cause)) := by
  induction hparts generalizing index with
  | nil => cases hrefused
  | @cons part found parts founds hpart _ ih =>
      rw [List.flatten_cons, applyAll_append] at hrefused
      rcases hfirst : applyAll index found with ⟨middle, _ | refused⟩
      · obtain ⟨later, hlater⟩ := ih (by simpa only [hfirst] using hrefused)
        exact ⟨later, by simp only [loadInTurn, load_of_applied hpart hfirst, hlater]⟩
      · simp only [hfirst, Prod.mk.injEq, Option.some.injEq] at hrefused
        obtain ⟨rfl, rfl⟩ := hrefused
        exact ⟨part, by simp only [loadInTurn, load_of_refused hpart hfirst]⟩

/-- Files in turn come to the same as one file with the objects of all of them. -/
theorem effect_load_eq (hwhole : readJson files path >>= objects path = .ok founds.flatten)
    (index : Index) :
    effect (load files index path) = effect (loadInTurn files index parts) := by
  rcases happlied : applyAll index founds.flatten with ⟨applied, _ | cause⟩
  · rw [load_of_applied hwhole happlied, loadInTurn_of_applied hparts happlied]
  · obtain ⟨part, hturn⟩ := loadInTurn_of_refused hparts happlied
    rw [load_of_refused hwhole happlied, hturn]
    rfl

end Parts

end Files

end Loading

/-! ## Lists and other files -/

section Lists

variable {files : Files} {path : String} {json : Json}

theorem read_objects_of_kind_ne (hread : readJson files path = .ok json)
    (hkind : json.member? "kind" ≠ some (.string "List")) :
    readJson files path >>= objects path = .ok [json] := by
  rw [bind_eq_ok_iff]
  refine ⟨json, hread, ?_⟩
  unfold objects
  rw [if_neg ((Resource.claimedKind_eq_iff (by decide)).not.mpr hkind)]

variable [FieldTypes]

theorem load_of_no_items (hread : readJson files path = .ok json)
    (hkind : json.member? "kind" = some (.string "List"))
    (hitems : ∀ items, json.member? "items" ≠ some (.array items)) (index : Index) :
    load files index path = (index, .error (.listWithoutItems path)) := by
  have hobjects : objects path json = .error (.listWithoutItems path) := by
    unfold objects
    rw [if_pos ((Resource.claimedKind_eq_iff (by decide)).mpr hkind)]
    split
    · next items hfound => exact absurd hfound (hitems items)
    · rfl
  have hfailed : readJson files path >>= objects path = .error (.listWithoutItems path) := by
    rw [hread]
    exact hobjects
  unfold load
  rw [hfailed]

theorem exists_load_of_no_resource (hread : readJson files path = .ok json)
    (hkind : json.member? "kind" ≠ some (.string "List"))
    (hrefused : ∀ resource, ¬Resource.ReadFrom json resource) (index : Index) :
    ∃ cause, Resource.RefusedFor json cause ∧
      load files index path = (index, .error (.invalidResource path cause)) := by
  have hfound := read_objects_of_kind_ne hread hkind
  obtain ⟨cause, hcause⟩ := Resource.exists_refusedFor hrefused
  refine ⟨cause, hcause, load_of_refused hfound ?_⟩
  simp only [applyAll, Resource.refusedFor_iff.mp hcause]

/-- A list comes to what its items come to, whatever the index. -/
theorem loads_lists (files : Files) (index : Index) : LoadsLists files index where
  in_order := fun _ _ _ hlist => applies_load hlist.read_objects index
  joined := by
    intro whole first second json left right before after hwhole hfirst hsecond
    have hparts : List.Forall₂
        (fun part found => readJson files part >>= objects part = .ok found)
        [first, second] [before, after] :=
      .cons hfirst.read_objects (.cons hsecond.read_objects .nil)
    refine effect_load_eq hparts ?_ index
    simpa using hwhole.read_objects
  separate := by
    intro whole json items parts hwhole hparts
    have hsingle : List.Forall₂
        (fun part found => readJson files part >>= objects part = .ok found)
        parts (items.map fun item => [item]) := by
      rw [List.forall₂_map_right_iff]
      exact hparts.imp fun _ _ hpart => read_objects_of_kind_ne hpart.1 hpart.2
    refine effect_load_eq hsingle ?_ index
    rw [← List.flatMap_def, List.flatMap_singleton']
    exact hwhole.read_objects
  nested := fun _ resource hlist => Resource.not_readFrom_of_list hlist resource
  no_items := fun _ _ hread hkind hitems => load_of_no_items hread hkind hitems index
  no_resource := fun _ _ hread hkind hrefused =>
    exists_load_of_no_resource hread hkind hrefused index

end Lists

/-! ### A list with a pod in it -/

def podList : Files := fun _ =>
  .ok ("\x7b\"kind\":\"List\",\"items\":[\x7b\"kind\":\"Namespace\"," ++
    "\"metadata\":\x7b\"name\":\"shop\"\x7d\x7d,\x7b\"kind\":\"Pod\"\x7d]\x7d")

def podItems : List Json :=
  [.object [("kind", .string "Namespace"), ("metadata", .object [("name", .string "shop")])],
    .object [("kind", .string "Pod")]]

theorem podList_loaded :
    IsList podList "pods.json" (.object [("items", .array podItems), ("kind", .string "List")])
      podItems ∧
    (load podList .empty "pods.json").1.namespaces.keys = ["shop"] ∧
    Applies "pods.json" .empty podItems (load podList .empty "pods.json") := by
  have hlist : IsList podList "pods.json"
      (.object [("items", .array podItems), ("kind", .string "List")]) podItems :=
    ⟨by cbv, rfl, rfl⟩
  have hrefused : applyAll .empty podItems =
      (Index.empty.apply (.nameSpace ⟨⟨some "shop", none, none, none⟩⟩),
        some (.unsupportedKind "Pod")) := rfl
  refine ⟨hlist, ?_, (loads_lists podList .empty).in_order _ _ _ hlist⟩
  rw [load_of_refused hlist.read_objects hrefused]
  rfl

end ResourceFile

end EdgeRouting
