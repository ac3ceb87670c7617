/-!
# Maps in key order

A map is the list of its entries, sorted strictly by key, so that two maps with the same
entries are the same value and a map that becomes a list always does so in key order.  For
text keys the order is that of code points, which is also the order of their UTF-8 bytes.

Every operation is described by its effect on `get?`.
-/

namespace EdgeRouting

/-- Entries sorted strictly by key. -/
structure KeyMap (κ : Type) (α : Type) [Ord κ] where
  entries : List (κ × α)
  sorted : entries.Pairwise fun earlier later => compare earlier.1 later.1 = .lt

/-- A set in key order. -/
abbrev KeySet (κ : Type) [Ord κ] := KeyMap κ Unit

namespace KeyMap

variable {κ α β : Type} [Ord κ]

theorem ext_entries {first second : KeyMap κ α}
    (hentries : first.entries = second.entries) : first = second := by
  cases first
  cases second
  cases hentries
  rfl

instance [DecidableEq κ] [DecidableEq α] : DecidableEq (KeyMap κ α) :=
  fun first second =>
    if hentries : first.entries = second.entries then
      isTrue (ext_entries hentries)
    else
      isFalse fun heq => hentries (congrArg entries heq)

def empty : KeyMap κ α := ⟨[], .nil⟩

instance : EmptyCollection (KeyMap κ α) := ⟨empty⟩

instance : Inhabited (KeyMap κ α) := ⟨empty⟩

def isEmpty (table : KeyMap κ α) : Bool := table.entries.isEmpty

theorem eq_empty_of_isEmpty {table : KeyMap κ α} (hempty : table.isEmpty = true) :
    table = empty :=
  ext_entries (List.isEmpty_iff.1 hempty)

def keys (table : KeyMap κ α) : List κ := table.entries.map Prod.fst

theorem sorted_keys (table : KeyMap κ α) :
    table.keys.Pairwise fun earlier later => compare earlier later = .lt :=
  List.pairwise_map.2 table.sorted

/-- The same keys with their values replaced. -/
def mapValues (change : α → β) (table : KeyMap κ α) : KeyMap κ β :=
  ⟨table.entries.map fun entry => (entry.1, change entry.2),
    List.pairwise_map.2 table.sorted⟩

/-- The value of the first entry with this key. -/
def findEntry [DecidableEq κ] (key : κ) : List (κ × α) → Option α
  | [] => none
  | (other, value) :: rest =>
      if key = other then some value else findEntry key rest

def get? [DecidableEq κ] (table : KeyMap κ α) (key : κ) : Option α :=
  findEntry key table.entries

def contains [DecidableEq κ] (table : KeyMap κ α) (key : κ) : Bool :=
  (table.get? key).isSome

def erase [DecidableEq κ] (table : KeyMap κ α) (key : κ) : KeyMap κ α :=
  ⟨table.entries.filter fun entry => decide (entry.1 ≠ key), table.sorted.filter _⟩

/-- Puts an entry at its place in a sorted list, in exchange for one with the same key. -/
def insertEntry (key : κ) (value : α) : List (κ × α) → List (κ × α)
  | [] => [(key, value)]
  | (other, present) :: rest =>
      match compare key other with
      | .lt => (key, value) :: (other, present) :: rest
      | .eq => (key, value) :: rest
      | .gt => (other, present) :: insertEntry key value rest

theorem mem_insertEntry {key : κ} {value : α} {entry : κ × α}
    {list : List (κ × α)} (hmem : entry ∈ insertEntry key value list) :
    entry = (key, value) ∨ entry ∈ list := by
  induction list with
  | nil => simpa [insertEntry] using hmem
  | cons head rest ih =>
      obtain ⟨other, present⟩ := head
      simp only [insertEntry] at hmem
      split at hmem
      · simpa using hmem
      · rcases List.mem_cons.1 hmem with heq | hrest
        · exact .inl heq
        · exact .inr (List.mem_cons_of_mem _ hrest)
      · rcases List.mem_cons.1 hmem with heq | hrest
        · exact .inr (heq ▸ List.mem_cons_self)
        · exact (ih hrest).imp_right (List.mem_cons_of_mem _)

section Ordered

variable [Std.TransOrd κ] [Std.LawfulEqOrd κ]

theorem sorted_insertEntry (key : κ) (value : α) {list : List (κ × α)}
    (hsorted : list.Pairwise fun earlier later => compare earlier.1 later.1 = .lt) :
    (insertEntry key value list).Pairwise
      fun earlier later => compare earlier.1 later.1 = .lt := by
  induction list with
  | nil => simp [insertEntry]
  | cons head rest ih =>
      obtain ⟨other, present⟩ := head
      obtain ⟨hhead, hrest⟩ := List.pairwise_cons.1 hsorted
      simp only [insertEntry]
      split
      · next hlt =>
        refine List.pairwise_cons.2 ⟨fun entry hmem => ?_, hsorted⟩
        rcases List.mem_cons.1 hmem with heq | hmem
        · exact heq ▸ hlt
        · exact Std.TransCmp.lt_trans hlt (hhead entry hmem)
      · next heq =>
        have hkey : key = other := Std.LawfulEqOrd.eq_of_compare heq
        exact List.pairwise_cons.2 ⟨fun entry hmem => hkey ▸ hhead entry hmem, hrest⟩
      · next hgt =>
        refine List.pairwise_cons.2 ⟨fun entry hmem => ?_, ih hrest⟩
        rcases mem_insertEntry hmem with heq | hmem
        · exact heq ▸ Std.OrientedCmp.lt_of_gt hgt
        · exact hhead entry hmem

/-- The map with this value under this key, in place of an earlier one. -/
def insert (table : KeyMap κ α) (key : κ) (value : α) : KeyMap κ α :=
  ⟨insertEntry key value table.entries, sorted_insertEntry key value table.sorted⟩

/-- The map of a list of entries; of two with the same key the later one counts. -/
def ofList (list : List (κ × α)) : KeyMap κ α :=
  list.foldl (fun table entry => table.insert entry.1 entry.2) empty

theorem mem_of_mem_foldl_insert {entry : κ × α} {list : List (κ × α)} {table : KeyMap κ α}
    (hmem : entry ∈
      (list.foldl (fun table entry => table.insert entry.1 entry.2) table).entries) :
    entry ∈ list ∨ entry ∈ table.entries := by
  induction list generalizing table with
  | nil => exact .inr hmem
  | cons head rest ih =>
      rcases ih hmem with hrest | hinserted
      · exact .inl (List.mem_cons_of_mem head hrest)
      · rcases mem_insertEntry hinserted with rfl | htable
        · exact .inl List.mem_cons_self
        · exact .inr htable

/-- A map has no other entries than those that it was made of. -/
theorem mem_of_mem_ofList {entry : κ × α} {list : List (κ × α)}
    (hmem : entry ∈ (ofList list).entries) : entry ∈ list :=
  (mem_of_mem_foldl_insert hmem).resolve_right List.not_mem_nil

end Ordered

/-! ### What each operation does to `get?` -/

section Lookup

variable [DecidableEq κ]

@[simp] theorem get?_empty (key : κ) : (empty : KeyMap κ α).get? key = none := rfl

theorem get?_of_isEmpty {table : KeyMap κ α} (hempty : table.isEmpty = true) (key : κ) :
    table.get? key = none := by
  rw [eq_empty_of_isEmpty hempty, get?_empty]

theorem isEmpty_eq_false_of_get? {table : KeyMap κ α} {key : κ} {value : α}
    (hfound : table.get? key = some value) : table.isEmpty = false := by
  cases hempty : table.isEmpty with
  | false => rfl
  | true =>
      rw [get?_of_isEmpty hempty] at hfound
      contradiction

omit [Ord κ] in
theorem findEntry_filter (key wanted : κ) (list : List (κ × α)) :
    findEntry wanted (list.filter fun entry => decide (entry.1 ≠ key)) =
      if wanted = key then none else findEntry wanted list := by
  induction list with
  | nil => simp [findEntry]
  | cons head rest ih =>
      obtain ⟨other, present⟩ := head
      by_cases hother : other = key
      · subst hother
        by_cases hwanted : wanted = other <;> simp_all [findEntry]
      · by_cases hwanted : wanted = other
        · subst hwanted
          simp [findEntry, hother]
        · simp only [ne_eq, hother, not_false_eq_true, decide_true, List.filter_cons_of_pos,
            findEntry, hwanted, if_false]
          exact ih

theorem get?_erase (table : KeyMap κ α) (key wanted : κ) :
    (table.erase key).get? wanted =
      if wanted = key then none else table.get? wanted :=
  findEntry_filter key wanted table.entries

omit [Ord κ] in
theorem findEntry_map (change : α → β) (key : κ) (list : List (κ × α)) :
    findEntry key (list.map fun entry => (entry.1, change entry.2)) =
      (findEntry key list).map change := by
  induction list with
  | nil => rfl
  | cons head rest ih =>
      obtain ⟨other, present⟩ := head
      by_cases hkey : key = other
      · simp [findEntry, hkey]
      · simp [findEntry, hkey, ih]

theorem get?_mapValues (change : α → β) (table : KeyMap κ α) (key : κ) :
    (table.mapValues change).get? key = (table.get? key).map change :=
  findEntry_map change key table.entries

variable [Std.TransOrd κ] [Std.LawfulEqOrd κ]

omit [Std.TransOrd κ] in
theorem findEntry_insertEntry (key : κ) (value : α) (wanted : κ) (list : List (κ × α)) :
    findEntry wanted (insertEntry key value list) =
      if wanted = key then some value else findEntry wanted list := by
  induction list with
  | nil => simp [insertEntry, findEntry]
  | cons head rest ih =>
      obtain ⟨other, present⟩ := head
      simp only [insertEntry]
      split
      · simp [findEntry]
      · next heq =>
        have hkey : key = other := Std.LawfulEqOrd.eq_of_compare heq
        subst hkey
        by_cases hwanted : wanted = key <;> simp [findEntry, hwanted]
      · next hgt =>
        have hne : other ≠ key := by
          intro heq
          subst heq
          simp at hgt
        by_cases hwanted : wanted = other
        · simp [findEntry, hwanted, hne]
        · simp [findEntry, hwanted, ih]

theorem get?_insert (table : KeyMap κ α) (key : κ) (value : α) (wanted : κ) :
    (table.insert key value).get? wanted =
      if wanted = key then some value else table.get? wanted :=
  findEntry_insertEntry key value wanted table.entries

theorem contains_insert (table : KeyMap κ α) (key : κ) (value : α) (wanted : κ) :
    (table.insert key value).contains wanted = true ↔
      wanted = key ∨ table.contains wanted = true := by
  unfold contains
  rw [get?_insert]
  by_cases hwanted : wanted = key <;> simp [hwanted]

omit [Ord κ] [Std.TransOrd κ] [Std.LawfulEqOrd κ] in
/-- No entry hides another one if no two have the same key. -/
theorem findEntry_eq_some_iff {key : κ} {value : α} {list : List (κ × α)}
    (hdistinct : list.Pairwise fun earlier later => earlier.1 ≠ later.1) :
    findEntry key list = some value ↔ (key, value) ∈ list := by
  induction list with
  | nil => simp [findEntry]
  | cons head rest ih =>
      obtain ⟨other, present⟩ := head
      obtain ⟨hhead, hrest⟩ := List.pairwise_cons.1 hdistinct
      rw [findEntry, List.mem_cons, Prod.mk.injEq]
      by_cases hkey : key = other
      · subst hkey
        have hlater : (key, value) ∉ rest := fun hmem => hhead (key, value) hmem rfl
        simp [hlater, eq_comm]
      · simp [hkey, ih hrest]

omit [Ord κ] [Std.TransOrd κ] [Std.LawfulEqOrd κ] in
theorem findEntry_append (key : κ) (first second : List (κ × α)) :
    findEntry key (first ++ second) =
      (findEntry key first).or (findEntry key second) := by
  induction first with
  | nil => simp [findEntry]
  | cons head rest ih =>
      obtain ⟨other, present⟩ := head
      by_cases hkey : key = other <;> simp [findEntry, hkey, ih]

omit [DecidableEq κ] [Std.TransOrd κ] in
theorem distinct_entries (table : KeyMap κ α) :
    table.entries.Pairwise fun earlier later => earlier.1 ≠ later.1 := by
  refine table.sorted.imp fun {earlier later} hlt heq => ?_
  rw [heq] at hlt
  simp at hlt

omit [Std.TransOrd κ] in
theorem get?_eq_some_iff {table : KeyMap κ α} {key : κ} {value : α} :
    table.get? key = some value ↔ (key, value) ∈ table.entries :=
  findEntry_eq_some_iff table.distinct_entries

omit [Std.TransOrd κ] in
theorem mem_keys_iff {table : KeyMap κ α} {key : κ} :
    key ∈ table.keys ↔ table.contains key = true := by
  unfold keys contains
  rw [List.mem_map, Option.isSome_iff_exists]
  constructor
  · rintro ⟨⟨found, value⟩, hmem, hkey⟩
    have hfound : found = key := hkey
    subst found
    exact ⟨value, get?_eq_some_iff.2 hmem⟩
  · rintro ⟨value, hvalue⟩
    exact ⟨(key, value), get?_eq_some_iff.1 hvalue, rfl⟩

/-- A map is what its lookups say. -/
theorem eq_of_get?_eq {first second : KeyMap κ α}
    (hsame : ∀ key, first.get? key = second.get? key) : first = second := by
  have hnodup : ∀ table : KeyMap κ α, table.entries.Nodup := fun table =>
    table.distinct_entries.imp fun hne heq => hne (congrArg Prod.fst heq)
  have hmem : ∀ entry, entry ∈ first.entries ↔ entry ∈ second.entries := by
    intro entry
    obtain ⟨key, value⟩ := entry
    rw [← get?_eq_some_iff, ← get?_eq_some_iff, hsame]
  have hperm := (List.perm_ext_iff_of_nodup (hnodup first) (hnodup second)).2 hmem
  have hentries : first.entries = second.entries := by
    apply List.Perm.eq_of_pairwise _ first.sorted second.sorted hperm
    intro earlier later _ _ hlt hgt
    exact absurd hgt (Std.OrientedCmp.not_lt_of_lt hlt)
  exact ext_entries hentries

/-- A set is what its members say. -/
theorem eq_of_contains_iff {first second : KeySet κ}
    (hsame : ∀ key, first.contains key = true ↔ second.contains key = true) :
    first = second := by
  apply eq_of_get?_eq
  intro key
  have hkey := hsame key
  unfold contains at hkey
  cases hfirst : first.get? key <;> cases hsecond : second.get? key <;>
    simp [hfirst, hsecond] at hkey ⊢

theorem get?_foldl_insert (list : List (κ × α)) (table : KeyMap κ α) (key : κ) :
    (list.foldl (fun table entry => table.insert entry.1 entry.2) table).get? key =
      (findEntry key list.reverse).or (table.get? key) := by
  induction list generalizing table with
  | nil => rfl
  | cons head rest ih =>
      obtain ⟨other, present⟩ := head
      rw [List.foldl_cons, ih, get?_insert, List.reverse_cons, findEntry_append, Option.or_assoc]
      by_cases hkey : key = other <;> simp [findEntry, hkey]

theorem get?_ofList (list : List (κ × α)) (key : κ) :
    (ofList list).get? key = findEntry key list.reverse := by
  unfold ofList
  rw [get?_foldl_insert, get?_empty, Option.or_none]

theorem ofList_entries (table : KeyMap κ α) : ofList table.entries = table := by
  have hreversed : table.entries.reverse.Pairwise fun earlier later => earlier.1 ≠ later.1 :=
    List.pairwise_reverse.2 (table.distinct_entries.imp Ne.symm)
  apply eq_of_get?_eq
  intro key
  apply Option.ext
  intro value
  rw [get?_ofList, findEntry_eq_some_iff hreversed, List.mem_reverse, get?_eq_some_iff]

/-! ### Maps of maps -/

variable {ι : Type} [Ord ι] {table : KeyMap κ (KeyMap ι α)} {key : κ}

/-- No key is kept with an empty map. -/
def AllInhabited (table : KeyMap κ (KeyMap ι α)) : Prop :=
  ∀ (key : κ) (inner : KeyMap ι α), table.get? key = some inner → inner.isEmpty = false

omit [Std.TransOrd κ] [Std.LawfulEqOrd κ] in
theorem allInhabited_empty : (empty : KeyMap κ (KeyMap ι α)).AllInhabited := by
  intro key inner hinner
  simp at hinner

theorem AllInhabited.insert {added : KeyMap ι α}
    (hall : table.AllInhabited) (hadded : added.isEmpty = false) :
    (table.insert key added).AllInhabited := by
  intro wanted inner hinner
  rw [get?_insert] at hinner
  by_cases hwanted : wanted = key
  · rw [if_pos hwanted] at hinner
    exact Option.some.inj hinner ▸ hadded
  · rw [if_neg hwanted] at hinner
    exact hall wanted inner hinner

omit [Std.TransOrd κ] [Std.LawfulEqOrd κ] in
theorem AllInhabited.erase (hall : table.AllInhabited) : (table.erase key).AllInhabited := by
  intro wanted inner hinner
  rw [get?_erase] at hinner
  by_cases hwanted : wanted = key
  · simp [hwanted] at hinner
  · rw [if_neg hwanted] at hinner
    exact hall wanted inner hinner

/-- A map that something was put into is not empty. -/
theorem isEmpty_insert [DecidableEq ι] [Std.TransOrd ι] [Std.LawfulEqOrd ι]
    (inner : KeyMap ι α) (key : ι) (value : α) : (inner.insert key value).isEmpty = false := by
  apply isEmpty_eq_false_of_get?
  rw [get?_insert, if_pos rfl]

end Lookup

end KeyMap

end EdgeRouting
