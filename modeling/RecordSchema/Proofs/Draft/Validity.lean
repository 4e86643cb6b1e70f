import RecordSchema.Schema.Set
import RecordSchema.Proofs.Schema.Document

/-!
# Validity

The meaning of documents in draft 4 of the language: which JSON values are instances of a
schema. The keywords that say something are `type`, `properties`, `required`, `enum`,
`pattern`, `items`, `oneOf` and `$ref`; all others are for display. When a string matches a
pattern, and which numbers are of the numeric types, is left open.

For each kind of schema there is a statement that says which values are valid for its document.
-/

namespace RecordSchema

open Json

namespace Draft

/-! ### Keywords -/

/-- What the language leaves to those who read it. -/
structure Reading where
  /-- Whether a pattern, the first string, matches the second. -/
  pattern : String → String → Prop
  /-- The numbers of the type `integer`. -/
  integer : Number → Prop
  /-- The numbers of the type `number`. -/
  number : Number → Prop

/-- A value is of the type with a name. -/
def HasType (reading : Reading) (name : String) : Json → Prop
  | .null => name = "null"
  | .bool _ => name = "boolean"
  | .number n => name = "integer" ∧ reading.integer n ∨ name = "number" ∧ reading.number n
  | .string _ => name = "string"
  | .array _ => name = "array"
  | .object _ => name = "object"

/-- A value agrees with a keyword that has no schemas in it. -/
def Agrees (reading : Reading) (key : String) (content v : Json) : Prop :=
  if key = "type" then ∀ name, content = .string name → HasType reading name v
  else if key = "required" then
    ∀ names, content = .array names → ∀ members, v = .object members →
      ∀ name, .string name ∈ names → ∃ value, (name, value) ∈ members
  else if key = "enum" then
    ∀ values, content = .array values → ∃ value ∈ values, value.equal v = true
  else if key = "pattern" then
    ∀ pattern, content = .string pattern → ∀ s, v = .string s → reading.pattern pattern s
  else True

mutual

/-- A value is valid for the schema that a document gives, where `refs` says which values are
valid for the schema that a reference stands for. Beside a reference nothing else counts. -/
def Valid (reading : Reading) (refs : String → Json → Prop) : Json → Json → Prop
  | .object members, v =>
    match members.lookup "$ref" with
    | some (.string id) => refs id v
    | _ => ValidMembers reading refs members v
  | _, _ => False

/-- A value agrees with all keywords of a schema. -/
def ValidMembers (reading : Reading) (refs : String → Json → Prop) :
    List (String × Json) → Json → Prop
  | [], _ => True
  | (key, content) :: rest, v =>
    (if key = "properties" then
      match content with
      | .object properties =>
        ∀ members, v = .object members → ValidProperties reading refs properties members
      | _ => True
    else if key = "items" then
      ∀ items, v = .array items → ∀ item ∈ items, Valid reading refs content item
    else if key = "oneOf" then
      match content with
      | .array schemas => ValidOnce reading refs schemas v
      | _ => True
    else Agrees reading key content v)
      ∧ ValidMembers reading refs rest v

/-- Each member of an object is valid for the schema of the property with its name, if there
is one. -/
def ValidProperties (reading : Reading) (refs : String → Json → Prop) :
    List (String × Json) → List (String × Json) → Prop
  | [], _ => True
  | (name, schema) :: rest, members =>
    (∀ value, (name, value) ∈ members → Valid reading refs schema value)
      ∧ ValidProperties reading refs rest members

/-- A value is valid for exactly one of the schemas. -/
def ValidOnce (reading : Reading) (refs : String → Json → Prop) : List Json → Json → Prop
  | [], _ => False
  | schema :: rest, v =>
    Valid reading refs schema v ∧ ValidNever reading refs rest v
      ∨ ¬ Valid reading refs schema v ∧ ValidOnce reading refs rest v

/-- A value is valid for none of the schemas. -/
def ValidNever (reading : Reading) (refs : String → Json → Prop) : List Json → Json → Prop
  | [], _ => True
  | schema :: rest, v => ¬ Valid reading refs schema v ∧ ValidNever reading refs rest v

end

/-- A value is valid for the member of a set that has an identifier, where at most the given
number of references is followed one after the other. -/
def Resolves (reading : Reading) (set : SchemaSet) : Nat → String → Json → Prop
  | 0, _, _ => False
  | hops + 1, id, v =>
    ∃ schema, set.get? id = some schema
      ∧ Valid reading (Resolves reading set hops) schema.document v

/-- A value is valid for a schema whose references stand for the members of a set. References
that lead through more schemas than the set has go in a circle and admit no value. -/
def ValidIn (reading : Reading) (set : SchemaSet) (schema : Schema) (v : Json) : Prop :=
  Valid reading (Resolves reading set set.members.length) schema.document v

/-! ### Keywords of schemas -/

variable (reading : Reading) (refs : String → Json → Prop)

/-- A value agrees with one keyword of a schema. -/
def AgreesWith (key : String) (content v : Json) : Prop :=
  if key = "properties" then
    ∀ properties, content = .object properties →
      ∀ members, v = .object members → ValidProperties reading refs properties members
  else if key = "items" then
    ∀ items, v = .array items → ∀ item ∈ items, Valid reading refs content item
  else if key = "oneOf" then
    ∀ schemas, content = .array schemas → ValidOnce reading refs schemas v
  else Agrees reading key content v

/-- An object without a reference is read by its keywords. -/
theorem valid_object_iff {members : List (String × Json)} (h : members.lookup "$ref" = none)
    (v : Json) :
  Valid reading refs (.object members) v ↔ ValidMembers reading refs members v
  := by
  rw [Valid, h]

@[simp]
theorem validMembers_nil (v : Json) :
  ValidMembers reading refs [] v
  := by
  rw [ValidMembers]
  trivial

@[simp]
theorem validMembers_cons (key : String) (content : Json) (rest : List (String × Json))
    (v : Json) :
  ValidMembers reading refs ((key, content) :: rest) v
    ↔ AgreesWith reading refs key content v ∧ ValidMembers reading refs rest v
  := by
  cases content <;> simp [ValidMembers, AgreesWith]

@[simp]
theorem validMembers_append (members more : List (String × Json)) (v : Json) :
  ValidMembers reading refs (members ++ more) v
    ↔ ValidMembers reading refs members v ∧ ValidMembers reading refs more v
  := by
  induction members with
  | nil => simp
  | cons m rest ih =>
      obtain ⟨key, content⟩ := m
      rw [List.cons_append, validMembers_cons, validMembers_cons, ih, and_assoc]

/-- An optional member says what its content says, if there is one. -/
@[simp]
theorem validMembers_member? {α : Type} (key : String) (value : α → Json)
    (content : Option α) (v : Json) :
  ValidMembers reading refs (member? key value content) v
    ↔ ∀ c, content = some c → AgreesWith reading refs key (value c) v
  := by
  cases content with
  | none => simp [member?]
  | some c => simp [member?]

/-- Annotations say nothing about values. -/
@[simp]
theorem validMembers_annotations (a : Annotations) (v : Json) :
  ValidMembers reading refs a.members v
  := by
  simp [Annotations.members, AgreesWith, Agrees]

/-- Each member of an object is valid for the schemas of the properties with its name. -/
theorem validProperties_iff (properties : List Property) (members : List (String × Json)) :
  ValidProperties reading refs (propertyDocuments properties) members
    ↔ ∀ p ∈ properties, ∀ value, (p.name, value) ∈ members →
      Valid reading refs p.schema.document value
  := by
  induction properties with
  | nil => simp [propertyDocuments, ValidProperties]
  | cons p rest ih =>
      obtain ⟨name, required, schema⟩ := p
      rw [propertyDocuments, ValidProperties, ih, List.forall_mem_cons]

/-! ### Single keywords -/

theorem agreesWith_type (name : String) (v : Json) :
  AgreesWith reading refs "type" (.string name) v ↔ HasType reading name v
  := by
  unfold AgreesWith Agrees
  simp

theorem agreesWith_enum (values : StringSet) (s : String) :
  AgreesWith reading refs "enum" values.document (.string s) ↔ s ∈ values
  := by
  unfold AgreesWith Agrees StringSet.document
  simp [StringSet.mem_iff, equal]

theorem agreesWith_pattern (pattern s : String) :
  AgreesWith reading refs "pattern" (.string pattern) (.string s) ↔ reading.pattern pattern s
  := by
  unfold AgreesWith Agrees
  simp

theorem agreesWith_items (schema : Schema) (items : List Json) :
  AgreesWith reading refs "items" schema.document (.array items)
    ↔ ∀ item ∈ items, Valid reading refs schema.document item
  := by
  unfold AgreesWith
  simp

theorem agreesWith_properties (properties : List Property) (members : List (String × Json)) :
  AgreesWith reading refs "properties" (.object (propertyDocuments properties))
      (.object members)
    ↔ ∀ p ∈ properties, ∀ value, (p.name, value) ∈ members →
      Valid reading refs p.schema.document value
  := by
  unfold AgreesWith
  simp [validProperties_iff]

theorem agreesWith_required (names : StringSet) (members : List (String × Json)) :
  AgreesWith reading refs "required" names.document (.object members)
    ↔ ∀ name ∈ names, ∃ value, (name, value) ∈ members
  := by
  unfold AgreesWith Agrees StringSet.document
  simp [StringSet.mem_iff]

theorem agreesWith_oneOf (schemas : List Schema) (v : Json) :
  AgreesWith reading refs "oneOf" (.array (schemaDocuments schemas)) v
    ↔ ValidOnce reading refs (schemaDocuments schemas) v
  := by
  unfold AgreesWith
  simp

/-- The keywords for display say nothing about values. -/
theorem agreesWith_display {key : String} (h : key ∈ ["$schema", "id", "format"])
    (content v : Json) :
  AgreesWith reading refs key content v
  := by
  simp only [List.mem_cons, List.not_mem_nil, or_false] at h
  unfold AgreesWith Agrees
  rcases h with rfl | rfl | rfl
  · simp
  · simp
  · simp

/-- The properties are said where there are any. -/
theorem validMembers_propertiesMember (properties : List Property)
    (members : List (String × Json)) :
  ValidMembers reading refs (propertiesMember (propertyDocuments properties)) (.object members)
    ↔ ∀ p ∈ properties, ∀ value, (p.name, value) ∈ members →
      Valid reading refs p.schema.document value
  := by
  cases properties with
  | nil => simp [propertyDocuments, propertiesMember]
  | cons p rest =>
      obtain ⟨name, required, schema⟩ := p
      rw [← agreesWith_properties, propertiesMember, if_neg (by simp [propertyDocuments])]
      simp

/-- The required names are said where there are any. -/
theorem validMembers_requiredMember (object : ObjectSchema) (members : List (String × Json)) :
  ValidMembers reading refs (requiredMember object.properties) (.object members)
    ↔ ∀ name ∈ object.required, ∃ value, (name, value) ∈ members
  := by
  have hrequired : (ObjectSchema.required { properties := object.properties }) = object.required :=
    rfl
  rw [requiredMember, hrequired]
  cases h : object.required.isEmpty with
  | true =>
      have hnone := StringSet.isEmpty_iff.mp h
      simp [hnone]
  | false =>
      rw [← agreesWith_required reading refs]
      simp

/-! ### Types -/

@[simp]
theorem hasType_string (v : Json) :
  HasType reading "string" v ↔ ∃ s, v = .string s
  := by
  cases v <;> simp [HasType]

@[simp]
theorem hasType_array (v : Json) :
  HasType reading "array" v ↔ ∃ items, v = .array items
  := by
  cases v <;> simp [HasType]

@[simp]
theorem hasType_object (v : Json) :
  HasType reading "object" v ↔ ∃ members, v = .object members
  := by
  cases v <;> simp [HasType]

/-! ### Values of the schemas of each kind -/

/-- A reference admits the values of what it stands for. -/
theorem valid_ref (id : String) (v : Json) :
  Valid reading refs (Schema.ref id).document v ↔ refs id v
  := by
  simp [Schema.document, Valid]

/-- A schema of a simple type admits the values of the type. -/
theorem valid_simple (kind : SimpleKind) (a : Annotations) (v : Json) :
  Valid reading refs (Schema.simple kind a).document v ↔ HasType reading kind.kind.name v
  := by
  have href : (("type", Json.string kind.kind.name) :: a.members).lookup "$ref" = none := by
    simp [lookup_simple]
  rw [Schema.document, valid_object_iff reading refs href, validMembers_cons, agreesWith_type]
  simp

/-- A string schema admits the strings that are among its values and match its pattern. -/
theorem valid_string (schema : StringSchema) (v : Json) :
  Valid reading refs (Schema.string schema).document v
    ↔ ∃ s, v = .string s
      ∧ (∀ values, schema.values = some values → s ∈ values)
      ∧ ∀ pattern, schema.pattern = some pattern → reading.pattern pattern s
  := by
  have href : schema.members.lookup "$ref" = none := by
    simp [schema.lookup_members]
  rw [Schema.document, valid_object_iff reading refs href, StringSchema.members,
    validMembers_cons, agreesWith_type, Kind.name, hasType_string]
  simp only [validMembers_append, validMembers_member?, validMembers_annotations, true_and]
  constructor
  · rintro ⟨⟨s, rfl⟩, -, hvalues, hpattern⟩
    use s, rfl
    constructor
    · intro values h
      apply (agreesWith_enum reading refs values s).mp (hvalues values h)
    · intro pattern h
      apply (agreesWith_pattern reading refs pattern s).mp (hpattern pattern h)
  · rintro ⟨s, rfl, hvalues, hpattern⟩
    use ⟨s, rfl⟩
    refine ⟨?_, ?_, ?_⟩
    · intro format h
      apply agreesWith_display
      simp
    · intro values h
      apply (agreesWith_enum reading refs values s).mpr (hvalues values h)
    · intro pattern h
      apply (agreesWith_pattern reading refs pattern s).mpr (hpattern pattern h)

/-- An array schema admits the arrays whose items are valid for the schema of the items. -/
theorem valid_array (array : ArraySchema) (v : Json) :
  Valid reading refs (Schema.array array).document v
    ↔ ∃ items, v = .array items
      ∧ ∀ schema, array.items = some schema →
        ∀ item ∈ items, Valid reading refs schema.document item
  := by
  have href := lookup_array (.string Kind.array.name) array.annotations array.items "$ref"
  rw [Annotations.lookup_members] at href
  rw [Schema.document_array, valid_object_iff reading refs (href.trans (by simp)),
    validMembers_cons, agreesWith_type, Kind.name, hasType_array]
  simp only [validMembers_append, validMembers_member?, validMembers_annotations, true_and]
  constructor
  · rintro ⟨⟨items, rfl⟩, hitems⟩
    use items, rfl
    intro schema h
    apply (agreesWith_items reading refs schema items).mp (hitems schema h)
  · rintro ⟨items, rfl, hitems⟩
    use ⟨items, rfl⟩
    intro schema h
    apply (agreesWith_items reading refs schema items).mpr (hitems schema h)

/-- An object schema, with whatever annotations it is written, admits the objects with all
required members and with members that are valid for the schemas of their properties, if they
are valid for exactly one of the alternatives. -/
theorem valid_members (object : ObjectSchema) (a : Annotations) (v : Json) :
  Valid reading refs (.object (object.members a)) v
    ↔ ∃ members, v = .object members
      ∧ (∀ name ∈ object.required, ∃ value, (name, value) ∈ members)
      ∧ (∀ p ∈ object.properties, ∀ value, (p.name, value) ∈ members →
        Valid reading refs p.schema.document value)
      ∧ ∀ schemas, object.oneOf = some schemas →
        ValidOnce reading refs (schemaDocuments schemas) v
  := by
  have href : (object.members a).lookup "$ref" = none := by
    simp [object.lookup_members]
  rw [valid_object_iff reading refs href, object.members_eq, validMembers_cons,
    agreesWith_type, Kind.name, hasType_object]
  simp only [validMembers_append, validMembers_member?, validMembers_annotations, true_and,
    agreesWith_oneOf]
  constructor
  · rintro ⟨⟨members, rfl⟩, -, -, hproperties, hrequired, honeOf⟩
    use members, rfl
    rw [validMembers_propertiesMember] at hproperties
    rw [validMembers_requiredMember] at hrequired
    use hrequired, hproperties
  · rintro ⟨members, rfl, hrequired, hproperties, honeOf⟩
    use ⟨members, rfl⟩
    rw [validMembers_propertiesMember, validMembers_requiredMember]
    refine ⟨?_, ?_, hproperties, hrequired, honeOf⟩
    · intro metaSchema h
      apply agreesWith_display
      simp
    · intro id h
      apply agreesWith_display
      simp

/-- What is said for display does not change which values are valid. -/
theorem valid_annotate (schema : Schema) (change : Annotations → Annotations) (v : Json) :
  Valid reading refs (schema.annotate change).document v
    ↔ Valid reading refs schema.document v
  := by
  cases schema with
  | simple kind a => rw [Schema.annotate, valid_simple, valid_simple]
  | string schema => rw [Schema.annotate, valid_string, valid_string]
  | object object =>
      rw [Schema.annotate, Schema.document, Schema.document, valid_members, valid_members]
      rfl
  | array array => rw [Schema.annotate, valid_array, valid_array]
  | ref id => rfl
  | shared node object a =>
      rw [Schema.annotate, Schema.document, Schema.document, valid_members, valid_members]

end Draft

end RecordSchema
