import RecordSchema.Proofs.Schema.Document
import RecordSchema.Proofs.Schema.Representative

/-!
# Documents of representatives

The representative of a schema has the document that represents the document of the schema: where
zeros in default values have lost their sign. How representatives are made is said here entry by
entry.
-/

namespace RecordSchema

/-! ### Representatives entry by entry -/

namespace Json

theorem itemRepresentatives_eq_map (items : List Json) :
  itemRepresentatives items = items.map representative
  := by
  induction items with
  | nil => rfl
  | cons item rest ih => rw [itemRepresentatives, ih, List.map_cons]

theorem memberRepresentatives_eq_map (members : List (String × Json)) :
  memberRepresentatives members = members.map fun m => (m.1, m.2.representative)
  := by
  induction members with
  | nil => rfl
  | cons m rest ih => rw [memberRepresentatives, ih, List.map_cons]

theorem lookup_memberRepresentatives (members : List (String × Json)) (key : String) :
  (memberRepresentatives members).lookup key = (members.lookup key).map representative
  := by
  induction members with
  | nil => rfl
  | cons m rest ih =>
      rw [memberRepresentatives, lookup_cons_eq, ih, lookup_cons_eq]
      split <;> rfl

/-- Objects that are equal in value have values that are equal under each key. -/
theorem lookup_eq_of_representative {xs ys : List (String × Json)}
    (h : (Json.object xs).representative = (Json.object ys).representative) (key : String) :
  (xs.lookup key).map representative = (ys.lookup key).map representative
  := by
  rw [representative, representative] at h
  rw [← lookup_memberRepresentatives, Json.object.inj h, lookup_memberRepresentatives]

end Json

theorem propertyRepresentatives_eq_map (properties : List Property) :
  propertyRepresentatives properties
    = properties.map fun p => { p with schema := p.schema.representative }
  := by
  induction properties with
  | nil => rfl
  | cons p rest ih => rw [propertyRepresentatives_cons, ih, List.map_cons]

theorem schemaRepresentatives_eq_map (schemas : List Schema) :
  schemaRepresentatives schemas = schemas.map Schema.representative
  := by
  induction schemas with
  | nil => rfl
  | cons s rest ih => rw [schemaRepresentatives, ih, List.map_cons]

theorem ObjectSchema.representative_eq (object : ObjectSchema) :
  object.representative
    = { object with
        annotations := object.annotations.representative
        properties := object.properties.map fun p => { p with schema := p.schema.representative }
        oneOf := object.oneOf.map fun schemas => schemas.map Schema.representative }
  := by
  obtain ⟨id, metaSchema, a, properties, oneOf⟩ := object
  cases oneOf <;> simp [representative, propertyRepresentatives_eq_map,
    schemaRepresentatives_eq_map]

theorem ObjectSchema.properties_representative (object : ObjectSchema) :
  object.representative.properties
    = object.properties.map fun p => { p with schema := p.schema.representative }
  := by
  rw [representative_eq]

theorem ObjectSchema.oneOf_representative (object : ObjectSchema) :
  object.representative.oneOf
    = object.oneOf.map fun schemas => schemas.map Schema.representative
  := by
  rw [representative_eq]

/-- Optional contents that one function maps to the same are mapped to the same by another one, if
that tells no more about them. -/
theorem optionMap_eq_of_optionMap_eq {α β γ : Type} {f : α → β} {g : α → γ} {x y : Option α}
    (h : x.map f = y.map f) (hg : ∀ a b, x = some a → y = some b → f a = f b → g a = g b) :
  x.map g = y.map g
  := by
  cases x with
  | none => rw [Option.map_eq_none_iff.mp h.symm]
  | some a =>
      rw [Option.map_some] at h
      obtain ⟨b, rfl, hb⟩ := Option.map_eq_some_iff.mp h.symm
      rw [Option.map_some, Option.map_some, hg a b rfl rfl hb.symm]

/-- Lists that one function maps to the same list are mapped to the same list by another one, if
that tells no more about the entries at each index. -/
theorem map_eq_map_of_map_eq {α β γ : Type} {f : α → β} {g : α → γ} {xs ys : List α}
    (h : xs.map f = ys.map f)
    (hg : ∀ (i : Nat) (x y : α), xs[i]? = some x → ys[i]? = some y → f x = f y → g x = g y) :
  xs.map g = ys.map g
  := by
  apply List.ext_getElem?
  intro i
  have hi : (xs.map f)[i]? = (ys.map f)[i]? := by rw [h]
  rw [List.getElem?_map, List.getElem?_map] at hi ⊢
  apply optionMap_eq_of_optionMap_eq hi (hg i)

/-! ### Documents -/

theorem Json.memberRepresentatives_append (xs ys : List (String × Json)) :
  memberRepresentatives (xs ++ ys) = memberRepresentatives xs ++ memberRepresentatives ys
  := by
  rw [memberRepresentatives_eq_map, List.map_append, ← memberRepresentatives_eq_map,
    ← memberRepresentatives_eq_map]

theorem memberRepresentatives_member? {α : Type} (key : String) (value : α → Json)
    (content : Option α) :
  Json.memberRepresentatives (member? key value content)
    = member? key (fun a => (value a).representative) content
  := by
  cases content <;> rfl

theorem Annotations.members_representative (a : Annotations) :
  a.representative.members = Json.memberRepresentatives a.members
  := by
  obtain ⟨title, defaultValue, readonly⟩ := a
  rw [members, members, Json.memberRepresentatives_append, Json.memberRepresentatives_append,
    memberRepresentatives_member?, memberRepresentatives_member?, memberRepresentatives_member?]
  cases defaultValue <;> simp [representative, member?, Json.representative]

theorem Annotations.representative_orElse (own base : Annotations) :
  (own.orElse base).representative = own.representative.orElse base.representative
  := by
  obtain ⟨title, defaultValue, readonly⟩ := own
  cases defaultValue <;> rfl

theorem StringSet.representative_document (s : StringSet) :
  s.document.representative = s.document
  := by
  rw [document, Json.representative, Json.itemRepresentatives_eq_map, List.map_map]
  rfl

theorem StringSchema.members_representative (s : StringSchema) :
  s.representative.members = Json.memberRepresentatives s.members
  := by
  rw [members, members, Json.memberRepresentatives, Json.memberRepresentatives_append,
    Json.memberRepresentatives_append, Json.memberRepresentatives_append,
    memberRepresentatives_member?, memberRepresentatives_member?, memberRepresentatives_member?,
    ← Annotations.members_representative]
  simp [representative, Json.representative, StringSet.representative_document]

/-- Which properties are required does not depend on the schemas of the properties. -/
theorem required_map_schema (f : Schema → Schema) (properties : List Property) :
  ObjectSchema.required { properties := properties.map fun p => { p with schema := f p.schema } }
    = ObjectSchema.required { properties }
  := by
  rw [ObjectSchema.required, ObjectSchema.required, List.filter_map, List.map_map]
  rfl

/-- The members of the representative of an object schema represent its members, if that holds of
the documents of the schemas in it. -/
theorem ObjectSchema.members_representative {object : ObjectSchema} (a : Annotations)
    (hproperties : ∀ p ∈ object.properties,
      p.schema.representative.document = p.schema.document.representative)
    (honeOf : ∀ schemas, object.oneOf = some schemas → ∀ s ∈ schemas,
      s.representative.document = s.document.representative) :
  object.representative.members a.representative = Json.memberRepresentatives (object.members a)
  := by
  have hdocuments : propertyDocuments
        (object.properties.map fun p => { p with schema := p.schema.representative })
      = Json.memberRepresentatives (propertyDocuments object.properties) := by
    rw [propertyDocuments_eq_map, propertyDocuments_eq_map, Json.memberRepresentatives_eq_map,
      List.map_map, List.map_map]
    apply List.map_congr_left
    intro p hp
    exact congrArg (p.name, ·) (hproperties p hp)
  have hpropertiesMember : propertiesMember
        (Json.memberRepresentatives (propertyDocuments object.properties))
      = Json.memberRepresentatives (propertiesMember (propertyDocuments object.properties)) := by
    cases propertyDocuments object.properties with
    | nil => rfl
    | cons m rest => simp [propertiesMember, Json.memberRepresentatives, Json.representative]
  have hrequiredMember : requiredMember
        (object.properties.map fun p => { p with schema := p.schema.representative })
      = Json.memberRepresentatives (requiredMember object.properties) := by
    rw [requiredMember, requiredMember, required_map_schema]
    split
    · rfl
    · rw [Json.memberRepresentatives, StringSet.representative_document]
      rfl
  have honeOfMember : member? "oneOf" (fun schemas => Json.array (schemaDocuments schemas))
        (object.oneOf.map fun schemas => schemas.map Schema.representative)
      = Json.memberRepresentatives
        (member? "oneOf" (fun schemas => .array (schemaDocuments schemas)) object.oneOf) := by
    rw [memberRepresentatives_member?]
    cases hone : object.oneOf with
    | none => rfl
    | some schemas =>
        have hdocuments : schemas.map (Schema.document ∘ Schema.representative)
            = schemas.map (Json.representative ∘ Schema.document) := by
          apply List.map_congr_left
          intro s hs
          apply honeOf schemas hone s hs
        simp only [Option.map_some, member?, Json.representative, schemaDocuments_eq_map,
          Json.itemRepresentatives_eq_map, List.map_map, hdocuments]
  rw [members_eq, members_eq, object.representative_eq]
  simp only [hdocuments, hpropertiesMember, hrequiredMember, honeOfMember,
    Annotations.members_representative, Json.memberRepresentatives,
    Json.memberRepresentatives_append, memberRepresentatives_member?, Json.representative]

namespace Schema

/-- The document of the representative represents the document. -/
theorem document_representative (s : Schema) :
  s.representative.document = s.document.representative
  := by
  induction s using treeInduction with
  | simple k a =>
      simp only [Schema.representative, document, Annotations.members_representative,
        Json.representative, Json.memberRepresentatives]
  | string x =>
      simp only [Schema.representative, document, StringSchema.members_representative,
        Json.representative]
  | object object hproperties honeOf =>
      have hmembers :=
        ObjectSchema.members_representative object.annotations hproperties honeOf
      have ha : object.representative.annotations = object.annotations.representative := by
        rw [object.representative_eq]
      simp only [Schema.representative, document, ha, hmembers, Json.representative]
  | array array ih =>
      rw [representative_array, document_array, document_array]
      have hitems : member? "items" document (array.items.map Schema.representative)
          = Json.memberRepresentatives (member? "items" document array.items) := by
        rw [memberRepresentatives_member?]
        cases hitem : array.items with
        | none => rfl
        | some u => simp only [Option.map_some, member?, ih u hitem]
      simp only [hitems, Annotations.members_representative, Json.representative,
        Json.memberRepresentatives, Json.memberRepresentatives_append]
  | ref id => rfl
  | shared node object a hproperties honeOf =>
      have hmembers :=
        ObjectSchema.members_representative (a.orElse object.annotations) hproperties honeOf
      have ha : object.representative.annotations = object.annotations.representative := by
        rw [object.representative_eq]
      rw [Annotations.representative_orElse] at hmembers
      simp only [Schema.representative, document, ha, hmembers, Json.representative]

end Schema

end RecordSchema
