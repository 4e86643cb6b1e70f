import RecordSchema.Proofs.Schema.Positions
import RecordSchema.Proofs.Schema.Valued

/-!
# What documents tell

The document of a schema tells its type, and then, key by key, what schemas of this type can say. So
it is found what two schemas have in common whose documents are equal in value.
-/

namespace RecordSchema

/-! ### Contents -/

/-- Optional contents that are written as equal values are the same, if that holds of contents. -/
theorem eq_of_map_representative {α : Type} {value : α → Json}
    (hvalue : ∀ a b, (value a).representative = (value b).representative → a = b) {x y : Option α}
    (h : (x.map value).map Json.representative = (y.map value).map Json.representative) :
  x = y
  := by
  cases x with
  | none =>
      cases y with
      | none => rfl
      | some b => cases h
  | some a =>
      cases y with
      | none => cases h
      | some b => rw [hvalue a b (Option.some.inj h)]

theorem string_eq_of_representative (x y : String)
    (h : (Json.string x).representative = (Json.string y).representative) :
  x = y
  := Json.string.inj h

theorem bool_eq_of_representative (x y : Bool)
    (h : (Json.bool x).representative = (Json.bool y).representative) :
  x = y
  := Json.bool.inj h

/-- The members of annotations tell the annotations. -/
theorem Annotations.representative_eq_of_lookup {a b : Annotations}
    (htitle : (a.title.map Json.string).map Json.representative
      = (b.title.map Json.string).map Json.representative)
    (hdefault : a.defaultValue.map Json.representative = b.defaultValue.map Json.representative)
    (hreadonly : (a.readonly.map Json.bool).map Json.representative
      = (b.readonly.map Json.bool).map Json.representative) :
  a.representative = b.representative
  := by
  rw [Annotations.representative, Annotations.representative, hdefault,
    eq_of_map_representative string_eq_of_representative htitle,
    eq_of_map_representative bool_eq_of_representative hreadonly]

theorem Kind.name_injective (k l : Kind) (h : k.name = l.name) :
  k = l
  := by
  cases k <;> cases l <;> simp [Kind.name] at h ⊢

theorem SimpleKind.kind_injective (k l : SimpleKind) (h : k.kind = l.kind) :
  k = l
  := by
  cases k <;> cases l <;> simp [SimpleKind.kind] at h ⊢

theorem StringSet.document_injective (s t : StringSet)
    (h : s.document.representative = t.document.representative) :
  s = t
  := by
  rw [document, document, Json.representative, Json.representative, Json.itemRepresentatives_eq_map,
    Json.itemRepresentatives_eq_map, List.map_map, List.map_map] at h
  apply StringSet.ext
  have hstring : Function.Injective (Json.representative ∘ Json.string) := by
    intro x y hxy
    apply Json.string.inj hxy
  exact List.map_injective_iff.mpr hstring (Json.array.inj h)

namespace Schema

/-- The type that the document of a schema names. The document of a reference names none. -/
def type? : Schema → Option Kind
  | .ref _ => none
  | s => some s.kind

theorem lookup_type (s : Schema) :
  ∃ members, s.document = .object members
    ∧ members.lookup "type" = s.type?.map fun kind => .string kind.name
  := by
  cases s with
  | simple k a =>
      use ("type", .string k.kind.name) :: a.members, rfl
      simp [type?, Schema.kind]
  | string s =>
      use s.members, rfl
      simp [s.lookup_members, type?, Schema.kind]
  | object object =>
      use object.members object.annotations, rfl
      simp [object.lookup_members, type?, Schema.kind]
  | array array =>
      refine ⟨_, document_array array, ?_⟩
      simp [type?, Schema.kind]
  | ref id =>
      use [("$ref", .string id)], rfl
      simp [lookup_cons_eq, type?]
  | shared node object a =>
      use object.members (a.orElse object.annotations), rfl
      simp [object.lookup_members, type?, Schema.kind]

/-- Schemas with the same document are of the same type. -/
theorem type?_eq_of_document {s t : Schema}
    (h : s.document.representative = t.document.representative) :
  s.type? = t.type?
  := by
  obtain ⟨members, hs, htype⟩ := s.lookup_type
  obtain ⟨members', ht, htype'⟩ := t.lookup_type
  rw [hs, ht] at h
  have hsame := Json.lookup_eq_of_representative h "type"
  rw [htype, htype'] at hsame
  apply eq_of_map_representative _ hsame
  intro k l hkl
  apply Kind.name_injective k l (string_eq_of_representative _ _ hkl)

end Schema

/-! ### Objects -/

/-- What the members of an object schema tell about it. -/
structure ObjectSchema.Told (object other : ObjectSchema) : Prop where
  id : object.id = other.id
  metaSchema : object.metaSchema = other.metaSchema
  required : object.required = other.required
  properties : object.properties.map (fun p => (p.name, p.schema.document.representative))
    = other.properties.map (fun p => (p.name, p.schema.document.representative))
  oneOf : object.oneOf.map (fun schemas => schemas.map fun s => s.document.representative)
    = other.oneOf.map (fun schemas => schemas.map fun s => s.document.representative)

/-- The objects of properties tell the names of the properties and the documents of their
schemas. -/
theorem propertyDocuments_eq_of_lookup {ps qs : List Property}
    (h : (if propertyDocuments ps = [] then none
        else some (Json.object (propertyDocuments ps))).map Json.representative
      = (if propertyDocuments qs = [] then none
        else some (Json.object (propertyDocuments qs))).map Json.representative) :
  ps.map (fun p => (p.name, p.schema.document.representative))
    = qs.map (fun p => (p.name, p.schema.document.representative))
  := by
  have hmap (ps : List Property) : Json.memberRepresentatives (propertyDocuments ps)
      = ps.map (fun p => (p.name, p.schema.document.representative)) := by
    rw [Json.memberRepresentatives_eq_map, propertyDocuments_eq_map, List.map_map]
    rfl
  have hnil {ps : List Property} (hps : propertyDocuments ps = []) : ps = [] := by
    rw [propertyDocuments_eq_map] at hps
    apply List.map_eq_nil_iff.mp hps
  by_cases hps : propertyDocuments ps = []
  · by_cases hqs : propertyDocuments qs = []
    · rw [hnil hps, hnil hqs]
    · rw [if_pos hps, if_neg hqs] at h
      cases h
  · by_cases hqs : propertyDocuments qs = []
    · rw [if_neg hps, if_pos hqs] at h
      cases h
    · rw [if_neg hps, if_neg hqs] at h
      rw [← hmap, ← hmap]
      apply Json.object.inj (Option.some.inj h)

/-- What is written of required names tells the names. -/
theorem required_eq_of_lookup {s t : StringSet}
    (h : (if s.isEmpty = true then none else some s.document).map Json.representative
      = (if t.isEmpty = true then none else some t.document).map Json.representative) :
  s = t
  := by
  have hempty {s : StringSet} (hs : s.isEmpty = true) : s = ∅ := by
    apply StringSet.ext
    apply List.isEmpty_iff.mp hs
  by_cases hs : s.isEmpty = true
  · by_cases ht : t.isEmpty = true
    · rw [hempty hs, hempty ht]
    · rw [if_pos hs, if_neg ht] at h
      cases h
  · by_cases ht : t.isEmpty = true
    · rw [if_neg hs, if_pos ht] at h
      cases h
    · rw [if_neg hs, if_neg ht] at h
      apply StringSet.document_injective s t (Option.some.inj h)

/-- What is written of alternatives tells the documents of the alternatives. -/
theorem oneOf_eq_of_lookup {x y : Option (List Schema)}
    (h : (x.map fun schemas => Json.array (schemaDocuments schemas)).map Json.representative
      = (y.map fun schemas => Json.array (schemaDocuments schemas)).map Json.representative) :
  x.map (fun schemas => schemas.map fun s => s.document.representative)
    = y.map (fun schemas => schemas.map fun s => s.document.representative)
  := by
  have hmap (schemas : List Schema) : (Json.array (schemaDocuments schemas)).representative
      = .array (schemas.map fun s => s.document.representative) := by
    rw [Json.representative, Json.itemRepresentatives_eq_map, schemaDocuments_eq_map, List.map_map]
    rfl
  cases x with
  | none =>
      cases y with
      | none => rfl
      | some schemas => cases h
  | some schemas =>
      cases y with
      | none => cases h
      | some schemas' =>
          have hsame := Option.some.inj h
          rw [hmap, hmap] at hsame
          rw [Option.map_some, Option.map_some, Json.array.inj hsame]

/-- The members of an object schema tell all about it, and with which annotations it is written. -/
theorem ObjectSchema.told_of_members {object other : ObjectSchema} {a b : Annotations}
    (h : (Json.object (object.members a)).representative
      = (Json.object (other.members b)).representative) :
  a.representative = b.representative ∧ object.Told other
  := by
  have hsame (key : String) := Json.lookup_eq_of_representative h key
  simp only [lookup_members] at hsame
  constructor
  · apply Annotations.representative_eq_of_lookup
    · simpa using hsame "title"
    · simpa using hsame "default"
    · simpa using hsame "readonly"
  · constructor
    case id => exact eq_of_map_representative string_eq_of_representative (hsame "id")
    case metaSchema => exact eq_of_map_representative string_eq_of_representative (hsame "$schema")
    case required => exact required_eq_of_lookup (hsame "required")
    case properties => exact propertyDocuments_eq_of_lookup (hsame "properties")
    case oneOf => exact oneOf_eq_of_lookup (hsame "oneOf")

end RecordSchema
