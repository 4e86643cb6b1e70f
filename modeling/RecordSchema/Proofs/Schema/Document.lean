import RecordSchema.Schema.Document
import RecordSchema.Proofs.Json.Sorted
import RecordSchema.Proofs.Object.Puts

/-!
# Members of documents

The document of a schema is an object whose members have different keys. What stands under a
key is known from the schema, whatever else the schema says: so a reader of documents need not
know in which order the members are written.
-/

namespace RecordSchema

open Json

/-! ### Optional members -/

/-- What stands under a key stands in the first member or in one behind it. -/
theorem lookup_cons_eq (key : String) (value : Json) (rest : List (String × Json))
    (k : String) :
  ((key, value) :: rest).lookup k = if k = key then some value else rest.lookup k
  := by
  rw [List.lookup_cons]
  by_cases h : k = key
  · simp [h]
  · have h' : (k == key) = false := by simpa using h
    simp [h, h']

@[simp]
theorem lookup_member? {α : Type} (key : String) (value : α → Json) (content : Option α)
    (k : String) :
  (member? key value content).lookup k = if k = key then content.map value else none
  := by
  cases content with
  | none => simp [member?]
  | some content => simp [member?, lookup_cons_eq]

/-- An optional member has its key, or is not there. -/
theorem keys_member?_sublist {α : Type} (key : String) (value : α → Json)
    (content : Option α) :
  ((member? key value content).map (·.1)).Sublist [key]
  := by
  cases content with
  | none => apply List.nil_sublist
  | some content => apply List.Sublist.refl

namespace Annotations

@[simp]
theorem lookup_members (a : Annotations) (key : String) :
  a.members.lookup key
    = if key = "title" then a.title.map .string
      else if key = "default" then a.defaultValue
      else if key = "readonly" then a.readonly.map .bool
      else none
  := by
  simp only [members, List.lookup_append, lookup_member?]
  split
  · rename_i h
    simp [h]
  · split
    · rename_i h
      simp [h]
    · simp

theorem keys_members_sublist (a : Annotations) :
  (a.members.map (·.1)).Sublist ["title", "default", "readonly"]
  := by
  simp only [members, List.map_append]
  apply (keys_member?_sublist "title" _ _).append
  apply (keys_member?_sublist "default" _ _).append
  apply keys_member?_sublist "readonly"

end Annotations

/-! ### Documents without other schemas in them -/

/-- The keys of the document of a schema of a simple type differ. -/
theorem nodup_keys_simple (type : Json) (a : Annotations) :
  ((("type", type) :: a.members).map (·.1)).Nodup
  := by
  apply (a.keys_members_sublist.cons_cons "type").nodup
  decide

/-- What stands under a key of the document of a schema of a simple type. -/
theorem lookup_simple (type : Json) (a : Annotations) (key : String) :
  (("type", type) :: a.members).lookup key
    = if key = "type" then some type else a.members.lookup key
  := lookup_cons_eq "type" type a.members key

/-- What stands under a key of the document of a string schema. -/
theorem StringSchema.lookup_members (s : StringSchema) (key : String) :
  s.members.lookup key
    = if key = "type" then some (.string Kind.string.name)
      else if key = "format" then s.format.map fun format => .string format.name
      else if key = "enum" then s.values.map StringSet.document
      else if key = "pattern" then s.pattern.map .string
      else s.annotations.members.lookup key
  := by
  simp only [members, lookup_cons_eq, List.lookup_append, lookup_member?,
    Annotations.lookup_members]
  by_cases hformat : key = "format"
  · simp [hformat]
  · by_cases henum : key = "enum"
    · simp [henum]
    · by_cases hpattern : key = "pattern"
      · simp [hpattern]
      · simp [hformat, henum, hpattern]

/-- The keys of the document of a string schema differ. -/
theorem StringSchema.nodup_keys_members (s : StringSchema) :
  (s.members.map (·.1)).Nodup
  := by
  have h : (s.members.map (·.1)).Sublist
      ["type", "title", "default", "readonly", "format", "enum", "pattern"] := by
    simp only [members, List.map_cons, List.map_append]
    apply List.Sublist.cons_cons
    apply s.annotations.keys_members_sublist.append
    apply (keys_member?_sublist "format" _ _).append
    apply (keys_member?_sublist "enum" _ _).append
    apply keys_member?_sublist "pattern"
  apply h.nodup
  decide

/-! ### Documents of arrays -/

/-- The document of an array schema, whether it says something about the items or not. -/
theorem Schema.document_array (array : ArraySchema) :
  (Schema.array array).document
    = .object (("type", .string Kind.array.name)
        :: (array.annotations.members ++ member? "items" Schema.document array.items))
  := by
  obtain ⟨a, items⟩ := array
  cases items with
  | none => simp [Schema.document, member?]
  | some s => simp [Schema.document, member?]

/-- What stands under a key of the document of an array schema. -/
theorem lookup_array (type : Json) (a : Annotations) (items : Option Schema) (key : String) :
  (("type", type) :: (a.members ++ member? "items" Schema.document items)).lookup key
    = if key = "type" then some type
      else if key = "items" then items.map Schema.document
      else a.members.lookup key
  := by
  simp only [lookup_cons_eq, List.lookup_append, lookup_member?, Annotations.lookup_members]
  by_cases hitems : key = "items"
  · simp [hitems]
  · simp [hitems]

/-- The keys of the document of an array schema differ. -/
theorem nodup_keys_array (type : Json) (a : Annotations) (items : Option Schema) :
  ((("type", type) :: (a.members ++ member? "items" Schema.document items)).map (·.1)).Nodup
  := by
  have h : ((("type", type) :: (a.members ++ member? "items" Schema.document items)).map
      (·.1)).Sublist ["type", "title", "default", "readonly", "items"] := by
    rw [List.map_cons, List.map_append]
    apply List.Sublist.cons_cons
    apply a.keys_members_sublist.append
    apply keys_member?_sublist "items"
  apply h.nodup
  decide

/-! ### Documents of objects -/

theorem propertyDocuments_eq_map (properties : List Property) :
  propertyDocuments properties = properties.map fun p => (p.name, p.schema.document)
  := by
  induction properties with
  | nil => rfl
  | cons p rest ih =>
      obtain ⟨name, required, schema⟩ := p
      rw [propertyDocuments, ih, List.map_cons]

/-- The documents of properties stand under the names of the properties, in the same order. -/
theorem keys_propertyDocuments (properties : List Property) :
  (propertyDocuments properties).map (·.1) = properties.map (·.name)
  := by
  rw [propertyDocuments_eq_map, List.map_map]
  rfl

theorem schemaDocuments_eq_map (schemas : List Schema) :
  schemaDocuments schemas = schemas.map Schema.document
  := by
  induction schemas with
  | nil => rfl
  | cons s rest ih => rw [schemaDocuments, ih, List.map_cons]

@[simp]
theorem lookup_propertiesMember (documents : List (String × Json)) (key : String) :
  (propertiesMember documents).lookup key
    = if key = "properties" then (if documents = [] then none else some (.object documents))
      else none
  := by
  cases documents with
  | nil => simp [propertiesMember]
  | cons m rest => simp [propertiesMember, lookup_cons_eq]

theorem keys_propertiesMember_sublist (documents : List (String × Json)) :
  ((propertiesMember documents).map (·.1)).Sublist ["properties"]
  := by
  rw [propertiesMember]
  split
  · apply List.nil_sublist
  · apply List.Sublist.refl

@[simp]
theorem lookup_requiredMember (properties : List Property) (key : String) :
  (requiredMember properties).lookup key
    = if key = "required"
      then (if (ObjectSchema.required { properties }).isEmpty = true then none
        else some (ObjectSchema.required { properties }).document)
      else none
  := by
  simp only [requiredMember]
  split
  · simp
  · simp [lookup_cons_eq]

theorem keys_requiredMember_sublist (properties : List Property) :
  ((requiredMember properties).map (·.1)).Sublist ["required"]
  := by
  simp only [requiredMember]
  split
  · apply List.nil_sublist
  · apply List.Sublist.refl

namespace ObjectSchema

/-- The members of an object schema, whether it has alternatives or not. -/
theorem members_eq (object : ObjectSchema) (a : Annotations) :
  object.members a
    = ("type", .string Kind.object.name)
      :: (member? "$schema" .string object.metaSchema
      ++ (member? "id" .string object.id
      ++ (a.members
      ++ (propertiesMember (propertyDocuments object.properties)
      ++ (requiredMember object.properties
      ++ member? "oneOf" (fun schemas => .array (schemaDocuments schemas)) object.oneOf)))))
  := by
  obtain ⟨id, metaSchema, annotations, properties, oneOf⟩ := object
  cases oneOf with
  | none => simp [members, member?]
  | some schemas => simp [members, member?]

/-- What stands under a key of the document of an object schema. -/
theorem lookup_members (object : ObjectSchema) (a : Annotations) (key : String) :
  (object.members a).lookup key
    = if key = "type" then some (.string Kind.object.name)
      else if key = "$schema" then object.metaSchema.map .string
      else if key = "id" then object.id.map .string
      else if key = "properties" then
        (if propertyDocuments object.properties = [] then none
          else some (.object (propertyDocuments object.properties)))
      else if key = "required" then
        (if object.required.isEmpty = true then none else some object.required.document)
      else if key = "oneOf" then object.oneOf.map fun schemas => .array (schemaDocuments schemas)
      else a.members.lookup key
  := by
  have hnames : ObjectSchema.required { properties := object.properties } = object.required := rfl
  rw [members_eq]
  simp only [lookup_cons_eq, List.lookup_append, lookup_member?, lookup_propertiesMember,
    lookup_requiredMember, hnames, Annotations.lookup_members]
  by_cases hproperties : key = "properties"
  · simp [hproperties]
  · by_cases hrequired : key = "required"
    · simp [hrequired]
    · by_cases honeOf : key = "oneOf"
      · simp [honeOf]
      · by_cases hmeta : key = "$schema"
        · simp [hmeta]
        · by_cases hid : key = "id"
          · simp [hid]
          · simp [hproperties, hrequired, honeOf, hmeta, hid]

theorem lookup_properties (object : ObjectSchema) (a : Annotations) :
  (object.members a).lookup "properties"
    = if propertyDocuments object.properties = [] then none
      else some (.object (propertyDocuments object.properties))
  := by
  simp [lookup_members]

theorem lookup_required (object : ObjectSchema) (a : Annotations) :
  (object.members a).lookup "required"
    = if object.required.isEmpty = true then none else some object.required.document
  := by
  simp [lookup_members]

/-- The keys of the document of an object schema differ. -/
theorem nodup_keys_members (object : ObjectSchema) (a : Annotations) :
  ((object.members a).map (·.1)).Nodup
  := by
  have h : ((object.members a).map (·.1)).Sublist ["type", "$schema", "id", "title",
      "default", "readonly", "properties", "required", "oneOf"] := by
    simp only [members_eq, List.map_cons, List.map_append]
    apply List.Sublist.cons_cons
    apply (keys_member?_sublist "$schema" _ _).append
    apply (keys_member?_sublist "id" _ _).append
    apply a.keys_members_sublist.append
    apply (keys_propertiesMember_sublist _).append
    apply (keys_requiredMember_sublist _).append
    apply keys_member?_sublist "oneOf"
  apply h.nodup
  decide

end ObjectSchema

end RecordSchema
