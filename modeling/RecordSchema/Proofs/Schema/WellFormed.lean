import RecordSchema.Proofs.Schema.Written
import RecordSchema.Proofs.StringOrder

/-!
# Well-formed documents

The documents of built schemas are well formed: no object in them has two members with the same key,
and every schema in them says its type, lists its required names and its allowed strings in
ascending order, and has its properties in the order in which they were put.
-/

namespace RecordSchema

open Json

/-! ### Keys -/

/-- No object in the value has two members with the same key. -/
def Json.HasDistinctKeys (v : Json) : Prop :=
  ∀ members, (Json.object members).Inside v → (members.map (·.1)).Nodup

theorem Json.IsSorted.hasDistinctKeys {v : Json} (h : v.IsSorted) :
  v.HasDistinctKeys
  := by
  intro members hmembers
  apply nodup_keys_of_ascending (h.of_inside hmembers).1

namespace Schema

/-- The keys of the document of a schema differ. -/
theorem nodup_keys_document {s : Schema} {members : List (String × Json)}
    (h : s.document = .object members) :
  (members.map (·.1)).Nodup
  := by
  cases s with
  | simple kind a =>
      obtain rfl := Json.object.inj h
      apply nodup_keys_simple
  | string s =>
      obtain rfl := Json.object.inj h
      apply s.nodup_keys_members
  | object object =>
      obtain rfl := Json.object.inj h
      apply object.nodup_keys_members
  | array array =>
      rw [document_array] at h
      obtain rfl := Json.object.inj h
      apply nodup_keys_array
  | ref id =>
      obtain rfl := Json.object.inj h
      apply List.nodup_singleton
  | shared node object a =>
      obtain rfl := Json.object.inj h
      apply object.nodup_keys_members

/-- A step leads from a built schema to a built one. -/
theorem Built.of_leads {s t : Schema} (h : s.Built) {step : Step} (hstep : s.Leads step t) :
  t.Built
  := by
  cases step with
  | property name =>
      obtain ⟨object, p, hobject, hp, -, rfl⟩ := hstep
      apply (h.object? hobject).property hp
  | items =>
      obtain ⟨array, harray, hitems⟩ := hstep
      cases h with
      | array ha h =>
          obtain rfl := Option.some.inj harray
          apply h t hitems
      | _ => cases harray
  | alternative index =>
      obtain ⟨object, schemas, hobject, hschemas, ht⟩ := hstep
      apply (h.object? hobject).alternative hschemas t (List.mem_of_getElem? ht)

/-- The schemas that stand in a built schema are built. -/
theorem Built.of_at {s t : Schema} (h : s.Built) {path : List Step} (ht : s.At path t) :
  t.Built
  := by
  induction path generalizing s with
  | nil =>
      obtain rfl := at_nil.mp ht
      apply h
  | cons step path ih =>
      obtain ⟨u, hu, ht⟩ := ht
      apply ih (h.of_leads hu) ht

/-- The annotations that are written for a built schema have a default value as it is read. -/
theorem Built.shown?_isSorted {s : Schema} (h : s.Built) {a : Annotations}
    (ha : s.shown? = some a) :
  a.IsSorted
  := by
  cases h with
  | shared node h hown =>
      obtain rfl := Option.some.inj ha
      apply hown.orElse h.annotations_isSorted
  | simple kind hs => apply annotations?_isSorted (.simple kind hs) ha
  | string hs => apply annotations?_isSorted (.string hs) ha
  | object h => apply annotations?_isSorted (.object h) ha
  | array hs hitems => apply annotations?_isSorted (.array hs hitems) ha
  | ref id => cases ha

/-- In the document of a built schema no object has two members with the same key. -/
theorem Built.hasDistinctKeys {s : Schema} (h : s.Built) :
  s.document.HasDistinctKeys
  := by
  intro members hmembers
  generalize hw : Json.object members = w at hmembers
  cases s.writes_document w hmembers with
  | node ht => apply nodup_keys_document hw.symm
  | properties ht hobject =>
      obtain rfl := Json.object.inj hw
      rw [keys_propertyDocuments]
      apply ((h.of_at ht).object? hobject).nodup_names
  | default ht ha hvalue hinside =>
      have hsorted := (h.of_at ht).shown?_isSorted ha _ hvalue
      apply hsorted.hasDistinctKeys members
      rw [hw]
      apply hinside
  | string y => cases hw
  | bool b => cases hw
  | array items => cases hw

end Schema

/-! ### Schemas in documents -/

/-- Strings ascend in the order of their bytes in UTF-8. -/
def AscendingBytes (l : List String) : Prop := (l.map utf8).Pairwise (· < ·)

theorem StringSet.ascendingBytes (set : StringSet) :
  AscendingBytes set.toList
  := by
  rw [AscendingBytes, List.pairwise_map]
  apply set.ascending.imp
  intro s t h
  apply lt_iff_utf8_lt.mp h

/-- What is to hold of the members of an object in a document where a schema stands. -/
structure WellFormedMembers (s : Schema) (members : List (String × Json)) : Prop where
  /-- A reference is nothing else; every other schema says its type. -/
  type : (∃ id, s = .ref id ∧ members = [("$ref", .string id)])
    ∨ members.lookup "type" = some (.string s.kind.name)
  /-- Properties are there only if there are some. However they were put, they stand in the order
  in which their names were first put. -/
  properties : ∀ value, members.lookup "properties" = some value →
    ∃ object documents, s.object? = some object ∧ value = .object documents ∧ documents ≠ []
      ∧ documents.map (·.1) = object.names
      ∧ ∀ puts, object.properties = putAll puts [] →
        documents.map (·.1) = (puts.map (·.name)).eraseDups
  /-- Required names are there only if there are some, and are names of properties. -/
  required : ∀ value, members.lookup "required" = some value →
    ∃ names, value = .array (names.map .string) ∧ names ≠ [] ∧ AscendingBytes names
      ∧ ∃ documents, members.lookup "properties" = some (.object documents)
        ∧ ∀ name ∈ names, name ∈ documents.map (·.1)
  enum : ∀ value, members.lookup "enum" = some value →
    ∃ values, value = .array (values.map .string) ∧ AscendingBytes values
  /-- Only schemas of strings say anything about strings. -/
  strings : ∀ key ∈ ["enum", "pattern", "format"], members.lookup key ≠ none → s.kind = .string

/-- The document of a schema is well formed: no object in it has two members with the same key, and
where a schema stands in it is an object whose members are well formed. -/
structure Schema.WellFormed (s : Schema) : Prop where
  keys : s.document.HasDistinctKeys
  members : ∀ path d, Draft.At s.document path d →
    ∃ t members, s.At path t ∧ d = .object members ∧ WellFormedMembers t members

/-- Members without the keywords of properties and strings are well formed if the type is. -/
theorem wellFormedMembers_of_none {s : Schema} {members : List (String × Json)}
    (htype : (∃ id, s = .ref id ∧ members = [("$ref", .string id)])
      ∨ members.lookup "type" = some (.string s.kind.name))
    (hproperties : members.lookup "properties" = none)
    (hrequired : members.lookup "required" = none)
    (hstrings : ∀ key ∈ ["enum", "pattern", "format"], members.lookup key = none) :
  WellFormedMembers s members where
  type := htype
  properties := by
    intro value hvalue
    cases hproperties.symm.trans hvalue
  required := by
    intro value hvalue
    cases hrequired.symm.trans hvalue
  enum := by
    intro value hvalue
    cases (hstrings "enum" (by decide)).symm.trans hvalue
  strings := by
    intro key hkey hsome
    exact absurd (hstrings key hkey) hsome

namespace Schema

theorem wellFormedMembers_simple (kind : SimpleKind) (a : Annotations) :
  WellFormedMembers (.simple kind a) (("type", .string kind.kind.name) :: a.members)
  := by
  apply wellFormedMembers_of_none
  · right
    simp [Schema.kind]
  · simp [lookup_simple]
  · simp [lookup_simple]
  · simp [lookup_simple]

theorem wellFormedMembers_string (s : StringSchema) :
  WellFormedMembers (.string s) s.members where
  type := by
    right
    simp [s.lookup_members, Schema.kind]
  properties := by simp [s.lookup_members]
  required := by simp [s.lookup_members]
  enum := by
    intro value hvalue
    have hlookup : s.members.lookup "enum" = s.values.map StringSet.document := by
      simp [s.lookup_members]
    obtain ⟨set, -, rfl⟩ := Option.map_eq_some_iff.mp (hlookup.symm.trans hvalue)
    use set.toList, rfl, set.ascendingBytes
  strings := by
    intro key _ _
    rfl

theorem wellFormedMembers_array (array : ArraySchema) :
  WellFormedMembers (.array array) (("type", .string Kind.array.name)
    :: (array.annotations.members ++ member? "items" Schema.document array.items))
  := by
  apply wellFormedMembers_of_none
  · right
    simp [Schema.kind]
  · simp [lookup_array]
  · simp [lookup_array]
  · simp [lookup_array]

theorem wellFormedMembers_ref (id : String) :
  WellFormedMembers (.ref id) [("$ref", .string id)]
  := by
  apply wellFormedMembers_of_none
  · left
    use id
  · simp [lookup_cons_eq]
  · simp [lookup_cons_eq]
  · simp [lookup_cons_eq]

/-- The members of an object schema are well formed, with whatever annotations it is written. -/
theorem wellFormedMembers_object {s : Schema} {object : ObjectSchema} (a : Annotations)
    (hobject : s.object? = some object) :
  WellFormedMembers s (object.members a)
  := by
  have hkind : s.kind = .object := by
    cases s with
    | object object => rfl
    | shared node object a => rfl
    | _ => cases hobject
  constructor
  · right
    simp [object.lookup_members, hkind]
  · intro value hvalue
    rw [object.lookup_properties] at hvalue
    split at hvalue
    · cases hvalue
    · rename_i hne
      use object, propertyDocuments object.properties, hobject
      use (Option.some.inj hvalue).symm, hne, keys_propertyDocuments object.properties
      intro puts hputs
      rw [keys_propertyDocuments, hputs, names_putAll]
  · intro value hvalue
    rw [object.lookup_required] at hvalue
    split at hvalue
    · cases hvalue
    · rename_i hempty
      have hnames : ∀ name ∈ object.required, name ∈ object.names := by
        intro name hname
        obtain ⟨p, hp, -, rfl⟩ := ObjectSchema.mem_required_iff.mp hname
        apply List.mem_map_of_mem hp
      have hne : object.required.toList ≠ [] := by
        intro h
        apply hempty
        rw [StringSet.isEmpty, h]
        rfl
      use object.required.toList, (Option.some.inj hvalue).symm, hne, object.required.ascendingBytes
      use propertyDocuments object.properties
      constructor
      · rw [object.lookup_properties, if_neg]
        intro h
        obtain ⟨name, hname⟩ := List.exists_mem_of_ne_nil _ hne
        have hmem := hnames name hname
        rw [ObjectSchema.names, ← keys_propertyDocuments, h] at hmem
        cases hmem
      · rw [keys_propertyDocuments]
        apply hnames
  · simp [object.lookup_members]
  · simp [object.lookup_members]

/-- The document of a schema is an object whose members are well formed. -/
theorem exists_wellFormedMembers (s : Schema) :
  ∃ members, s.document = .object members ∧ WellFormedMembers s members
  := by
  cases s with
  | simple kind a => exact ⟨_, rfl, wellFormedMembers_simple kind a⟩
  | string s => exact ⟨_, rfl, wellFormedMembers_string s⟩
  | object object => exact ⟨_, rfl, wellFormedMembers_object object.annotations rfl⟩
  | array array => exact ⟨_, document_array array, wellFormedMembers_array array⟩
  | ref id => exact ⟨_, rfl, wellFormedMembers_ref id⟩
  | shared node object a =>
      exact ⟨_, rfl, wellFormedMembers_object (a.orElse object.annotations) rfl⟩

/-- The documents of built schemas are well formed. -/
theorem Built.wellFormed {s : Schema} (h : s.Built) :
  s.WellFormed
  := by
  constructor
  · apply h.hasDistinctKeys
  · intro path d hd
    obtain ⟨t, ht, rfl⟩ := at_document_iff.mp hd
    obtain ⟨members, hmembers, hwellFormed⟩ := t.exists_wellFormedMembers
    use t, members

end Schema

end RecordSchema
