import RecordSchema.Proofs.Literal.Read
import RecordSchema.Proofs.Schema.Built
import RecordSchema.Proofs.Schema.Document

/-!
# Reading back documents

The document of every schema that can be built is a literal. The schema that it gives differs
from the one that was written in what a literal does not say: the order of properties, the
identifier of the language, the alternatives, and which node a shared schema is. It is the
normal form of the schema.
-/

namespace RecordSchema

open Json

/-! ### Normal forms -/

/-- The properties in ascending order of their names. -/
def byName (properties : List Property) : List Property :=
  properties.insertionSort fun p q => p.name ≤ q.name

mutual

/-- The schema with all that a literal can say. A shared schema is an object schema with the
annotations of its use, completed by its own. -/
def Schema.normal : Schema → Schema
  | .simple kind a => .simple kind a
  | .string s => .string s
  | .object o => .object (o.normal o.annotations)
  | .array ⟨a, none⟩ => .array ⟨a, none⟩
  | .array ⟨a, some s⟩ => .array ⟨a, some s.normal⟩
  | .ref id => .ref id
  | .shared _ o a => .object (o.normal (a.orElse o.annotations))

/-- The object schema with the given annotations and with its properties in ascending order
of their names. -/
def ObjectSchema.normal (a : Annotations) : ObjectSchema → ObjectSchema
  | ⟨id, _, _, properties, _⟩ =>
    { id, annotations := a, properties := byName (normalProperties properties) }

/-- The properties, each with the normal form of its schema. -/
def normalProperties : List Property → List Property
  | [] => []
  | ⟨name, required, s⟩ :: rest => ⟨name, required, s.normal⟩ :: normalProperties rest

end

/-- The property with the normal form of its schema. -/
def Property.normal (p : Property) : Property := { p with schema := p.schema.normal }

theorem normalProperties_eq_map (properties : List Property) :
  normalProperties properties = properties.map Property.normal
  := by
  induction properties with
  | nil => rfl
  | cons p rest ih =>
      obtain ⟨name, required, s⟩ := p
      rw [normalProperties, ih, List.map_cons, Property.normal]

theorem Schema.normal_array (array : ArraySchema) :
  (Schema.array array).normal
    = .array { annotations := array.annotations, items := array.items.map Schema.normal }
  := by
  obtain ⟨a, items⟩ := array
  cases items with
  | none => rw [Schema.normal, Option.map_none]
  | some s => rw [Schema.normal, Option.map_some]

/-- The properties of the normal form, sorted before their schemas are made normal. -/
theorem ObjectSchema.normal_eq (object : ObjectSchema) (a : Annotations) :
  object.normal a
    = { id := object.id
        annotations := a
        properties := (byName object.properties).map Property.normal }
  := by
  obtain ⟨id, metaSchema, annotations, properties, oneOf⟩ := object
  rw [ObjectSchema.normal, normalProperties_eq_map]
  congr 1
  symm
  apply List.map_insertionSort
  intro p hp q hq
  rfl

/-! ### Reading the documents of object schemas -/

/-- Properties with different names are read in ascending order of their names. -/
theorem sortMembers_propertyDocuments {properties : List Property}
    (h : (properties.map (·.name)).Nodup) :
  sortMembers (sortedMembers (propertyDocuments properties))
    = (byName properties).map fun p => (p.name, p.schema.document.sorted)
  := by
  rw [propertyDocuments_eq_map, sortedMembers_eq_map, List.map_map]
  apply sortMembers_eq_of_perm
  · apply (List.perm_insertionSort _ properties).map
  · have hnames : ((byName properties).map (·.name)).Nodup :=
      ((List.perm_insertionSort _ properties).map _).nodup_iff.mpr h
    have hle : (byName properties).Pairwise fun p q => p.name ≤ q.name :=
      List.pairwise_insertionSort _ properties
    rw [List.Nodup, List.pairwise_map] at hnames
    rw [Ascending, List.pairwise_map]
    apply (hle.and hnames).imp
    intro p q hpq
    apply lt_of_le_of_ne hpq.1 hpq.2

/-- The required names in the members of a document are read back. -/
theorem strings?_required {object : ObjectSchema} {a : Annotations}
    {others : List (String × Json)}
    (h : ∀ key, others.lookup key = ((object.members a).lookup key).map sorted) :
  ∃ required, Literal.strings? "required" others = .ok required
    ∧ required.getD [] = object.required.toList
  := by
  cases hempty : object.required.isEmpty with
  | true =>
      use none
      constructor
      · apply Literal.strings?_of_lookup
        rw [h, object.lookup_members]
        simp [hempty]
      · symm
        apply List.isEmpty_iff.mp hempty
  | false =>
      use some object.required.toList
      constructor
      · apply Literal.strings?_of_lookup
        rw [h, object.lookup_members]
        simp [hempty, StringSet.document, sorted, sortedItems_eq_map]
      · rfl

/-- A property with a name that no other property has is required when its name is. -/
theorem contains_required {object : ObjectSchema} (hnames : object.names.Nodup) {p : Property}
    (hp : p ∈ object.properties) :
  object.required.toList.contains p.name = p.required
  := by
  have hfind : object.find? p.name = some p := (find?_key_eq_some_iff hnames).mpr ⟨hp, rfl⟩
  have hmem : p.name ∈ object.required ↔ p.required = true := by
    rw [ObjectSchema.mem_required_iff_find? hnames, hfind]
    simp
  rw [Bool.eq_iff_iff, List.contains_iff_mem, ← StringSet.mem_iff, hmem]

/-- The properties in the members of a document are read back in the order of their names, if
their documents give their normal forms. -/
theorem readProperties_of_sorted {whole : String} {object : ObjectSchema} {a : Annotations}
    {others : List (String × Json)}
    (h : ∀ key, others.lookup key = ((object.members a).lookup key).map sorted)
    (hnames : object.names.Nodup)
    (hproperties : ∀ p ∈ object.properties,
      Literal.read whole p.schema.document.sorted = .ok p.schema.normal) :
  Literal.readProperties whole object.required.toList others
    = .ok ((byName object.properties).map Property.normal)
  := by
  have hperm : (byName object.properties).Perm object.properties :=
    List.perm_insertionSort _ object.properties
  have hread : Literal.readMembers whole object.required.toList []
        (sortMembers (sortedMembers (propertyDocuments object.properties)))
      = .ok ((byName object.properties).map Property.normal) := by
    have hnormal : (byName object.properties).map
          (fun p => ⟨p.name, object.required.toList.contains p.name, p.schema.normal⟩)
        = (byName object.properties).map Property.normal := by
      apply List.map_congr_left
      intro p hp
      rw [contains_required hnames (hperm.mem_iff.mp hp)]
      rfl
    rw [sortMembers_propertyDocuments hnames, Literal.readMembers_map, hnormal]
    · congr 1
      apply putAll_of_nodup
      rw [List.nil_append, List.map_map]
      apply ((hperm.map _).nodup_iff).mpr hnames
    · intro p hp
      apply hproperties p (hperm.mem_iff.mp hp)
  rw [Literal.readProperties_eq, h, object.lookup_members]
  by_cases hempty : propertyDocuments object.properties = []
  · rw [hempty] at hread
    simpa [hempty, sortMembers, sortedMembers, Literal.readMembers] using hread
  · simpa [hempty, sorted, ofMembers] using hread

/-- The default value of annotations is read as it is. -/
theorem Annotations.IsSorted.map_sorted {a : Annotations} (ha : a.IsSorted) :
  a.defaultValue.map sorted = a.defaultValue
  := by
  cases h : a.defaultValue with
  | none => rfl
  | some value => rw [Option.map_some, sorted_eq_self (ha value h)]

/-- The annotations in the members of a document are read back. -/
theorem annotations_of_sorted {members others : List (String × Json)} {a : Annotations}
    (ha : a.IsSorted) (hothers : ∀ key, others.lookup key = (members.lookup key).map sorted)
    (htitle : members.lookup "title" = a.title.map .string)
    (hdefault : members.lookup "default" = a.defaultValue)
    (hreadonly : members.lookup "readonly" = a.readonly.map .bool) :
  Literal.annotations others = .ok a
  := by
  apply Literal.annotations_of_lookup
  · rw [hothers, htitle, Option.map_map]
    rfl
  · rw [hothers, hdefault, ha.map_sorted]
  · rw [hothers, hreadonly, Option.map_map]
    rfl

/-- The document of an object schema, written with some annotations, gives the normal form
with these annotations, if the documents of its properties give their normal forms. -/
theorem read_sorted_members {whole : String} {object : ObjectSchema} {a : Annotations}
    (hnames : object.names.Nodup) (ha : a.IsSorted)
    (hproperties : ∀ p ∈ object.properties,
      Literal.read whole p.schema.document.sorted = .ok p.schema.normal) :
  Literal.read whole (Json.object (object.members a)).sorted = .ok (.object (object.normal a))
  := by
  obtain ⟨others, hothers, hlookup⟩ := exists_sorted_object (object.nodup_keys_members a)
  obtain ⟨required, hrequired, hnone⟩ := strings?_required hlookup
  rw [hothers, object.normal_eq]
  apply Literal.read_object _ _ _ _ hrequired
  · rw [hnone]
    apply readProperties_of_sorted hlookup hnames hproperties
  · rw [hlookup, object.lookup_members]
    simp
  · rw [hlookup, object.lookup_members]
    simp [sorted]
  · apply annotations_of_sorted ha hlookup
    · simp [object.lookup_members]
    · simp [object.lookup_members]
    · simp [object.lookup_members]
  · apply Literal.string?_of_lookup
    rw [hlookup, object.lookup_members]
    simp [Function.comp_def, sorted]

/-! ### Reading the documents of all schemas -/

/-- The document of a built schema gives its normal form. -/
theorem read_sorted_document {s : Schema} (h : s.Built) (whole : String) :
  Literal.read whole s.document.sorted = .ok s.normal
  := by
  induction s using Schema.treeInduction with
  | simple kind a =>
      cases h with
      | simple _ ha =>
      obtain ⟨others, hothers, hlookup⟩ :=
        exists_sorted_object (nodup_keys_simple (.string kind.kind.name) a)
      rw [Schema.document, hothers, Schema.normal]
      apply Literal.read_simple
      · simp [hlookup, lookup_simple]
      · simp [hlookup, sorted]
      · apply annotations_of_sorted ha hlookup
        · simp [lookup_simple]
        · simp [lookup_simple]
        · simp [lookup_simple]
  | string s =>
      cases h with
      | string ha =>
      obtain ⟨others, hothers, hlookup⟩ := exists_sorted_object s.nodup_keys_members
      rw [Schema.document, hothers, Schema.normal]
      apply Literal.read_string
      · simp [hlookup, s.lookup_members]
      · simp [hlookup, s.lookup_members, sorted]
      · apply annotations_of_sorted ha hlookup
        · simp [s.lookup_members]
        · simp [s.lookup_members]
        · simp [s.lookup_members]
      · simp [hlookup, s.lookup_members, Function.comp_def, sorted]
      · simp [hlookup, s.lookup_members, Function.comp_def, sorted]
      · simp [hlookup, s.lookup_members, Function.comp_def, StringSet.document, sorted,
          sortedItems_eq_map]
  | object object ih ihOneOf =>
      cases h with
      | object h =>
      rw [Schema.document, Schema.normal]
      apply read_sorted_members h.nodup_names h.annotations_isSorted
      intro p hp
      apply ih p hp (h.property hp)
  | array array ih =>
      cases h with
      | array ha hitems =>
      rw [Schema.document_array, Schema.normal_array]
      obtain ⟨others, hothers, hlookup⟩ := exists_sorted_object
        (nodup_keys_array (.string Kind.array.name) array.annotations array.items)
      rw [hothers]
      apply Literal.read_array
      · simp [hlookup, lookup_array]
      · simp [hlookup, sorted]
      · apply annotations_of_sorted ha hlookup
        · simp [lookup_array]
        · simp [lookup_array]
        · simp [lookup_array]
      · rw [Literal.readItems_eq, hlookup, lookup_array]
        cases h : array.items with
        | none => simp
        | some items =>
            have hread := ih items h (hitems items h)
            simp [hread, Except.map]
  | ref id => rfl
  | shared node object a ih ihOneOf =>
      cases h with
      | shared _ h ha =>
      rw [Schema.document, Schema.normal]
      apply read_sorted_members h.nodup_names (ha.orElse h.annotations_isSorted)
      intro p hp
      apply ih p hp (h.property hp)

/-- Reading the document of a built schema succeeds, whatever name it goes by, and gives the
normal form of the schema. -/
theorem ofLiteral_sorted_document {s : Schema} (h : s.Built) (name : String) :
  Schema.ofLiteral name s.document.sorted = .ok s.normal
  := by
  rw [Schema.ofLiteral, read_sorted_document h]

/-- A shared object schema with a title, which the uses of it may replace. -/
def titledPlace : ObjectSchema :=
  ({ annotations := { title := some "Place", readonly := some true } } : ObjectSchema).putOptional
    "city" (.ofKind .string)

/-- An object schema whose properties have the names of keywords. -/
def keywordObject : ObjectSchema :=
  let empty : ObjectSchema := { id := some "urn:keywords", metaSchema := some "urn:draft" }
  (empty.putRequired "type"
      (.string { annotations := { defaultValue := some .null }, values := some ∅ })).putOptional
    "$ref" (.listOf (.shared 0 titledPlace { title := some "Home" }))

/-- Properties with the names of keywords are read back, sorted by their names. -/
theorem ofLiteral_sorted_document_keywords :
  (Schema.object keywordObject).Built
    ∧ Schema.ofLiteral "Keywords" (Schema.object keywordObject).document.sorted
      = .ok (.object {
          id := some "urn:keywords"
          properties := [
            ⟨"$ref", false, .listOf (.object {
              annotations := { title := some "Home", readonly := some true }
              properties := [⟨"city", false, .ofKind .string⟩] })⟩,
            ⟨"type", true, .string {
              annotations := { defaultValue := some .null }
              values := some ∅ }⟩] })
  := by
  have hplace : titledPlace.Built := by
    apply ObjectSchema.Built.putOptional "city"
    · apply (ObjectSchema.Built.empty).annotate
      intro value hvalue
      cases hvalue
    · apply Schema.Built.string
      intro value hvalue
      cases hvalue
  have hkeywords : (Schema.object keywordObject).Built := by
    apply Schema.Built.object
    apply ObjectSchema.Built.putOptional "$ref"
    · apply ObjectSchema.Built.putRequired "type"
      · apply (ObjectSchema.Built.empty.setId _).setMetaSchema
      · apply Schema.Built.string
        intro value hvalue
        cases hvalue
        trivial
    · apply Schema.Built.array
      · intro value hvalue
        cases hvalue
      · intro items hitems
        cases hitems
        apply Schema.Built.shared 0 hplace
        intro value hvalue
        cases hvalue
  use hkeywords
  rw [ofLiteral_sorted_document hkeywords]
  rfl

end RecordSchema
