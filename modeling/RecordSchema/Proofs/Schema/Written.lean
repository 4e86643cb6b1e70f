import RecordSchema.Proofs.Schema.Built
import RecordSchema.Proofs.Schema.Positions

/-!
# What is written in documents

All that stands inside the document of a schema, at any depth: the documents of the schemas in it,
the objects of their properties, their default values and what stands inside those, and otherwise
strings, booleans and arrays. What is to be shown of everything in a document is shown case by case.
-/

namespace RecordSchema

open Json

namespace Schema

/-- The annotations of a schema as they are written: a use of a shared schema says itself what it
can, and leaves the rest to the shared schema. -/
def shown? : Schema → Option Annotations
  | .shared _ o a => some (a.orElse o.annotations)
  | s => s.annotations?

/-- The default value that is written for a schema stands under its key. -/
theorem lookup_default (s : Schema) :
  ∃ members, s.document = .object members
    ∧ members.lookup "default" = s.shown?.bind (·.defaultValue)
  := by
  cases s with
  | simple kind a =>
      use ("type", .string kind.kind.name) :: a.members, rfl
      simp [lookup_simple, shown?, annotations?]
  | string s =>
      use s.members, rfl
      simp [s.lookup_members, shown?, annotations?]
  | object object =>
      use object.members object.annotations, rfl
      simp [object.lookup_members, shown?, annotations?]
  | array array =>
      refine ⟨_, document_array array, ?_⟩
      simp [lookup_array, shown?, annotations?]
  | ref id =>
      use [("$ref", .string id)], rfl
      simp [lookup_cons_eq, shown?, annotations?]
  | shared node object a =>
      use object.members (a.orElse object.annotations), rfl
      simp [object.lookup_members, shown?]

/-- What is written in the document of a schema. -/
inductive Written (s : Schema) : Json → Prop
  | node {path : List Step} {t : Schema} (ht : s.At path t) : Written s t.document
  | properties {path : List Step} {t : Schema} {object : ObjectSchema} (ht : s.At path t)
    (hobject : t.object? = some object) :
    Written s (.object (propertyDocuments object.properties))
  | default {path : List Step} {t : Schema} {a : Annotations} {value w : Json} (ht : s.At path t)
    (ha : t.shown? = some a) (hvalue : a.defaultValue = some value) (hw : w.Inside value) :
    Written s w
  | string (x : String) : Written s (.string x)
  | bool (b : Bool) : Written s (.bool b)
  | array (items : List Json) : Written s (.array items)

theorem written_document (s : Schema) :
  s.Written s.document
  := .node (at_nil.mpr rfl)

/-- What is written for a schema is written for each schema from which a step leads to it. -/
theorem Written.of_leads {s t : Schema} {step : Step} (hstep : s.Leads step t) {w : Json}
    (h : t.Written w) :
  s.Written w
  := by
  have hat {path : List Step} {u : Schema} (hu : t.At path u) : s.At (step :: path) u :=
    ⟨t, hstep, hu⟩
  cases h with
  | node ht => exact .node (hat ht)
  | properties ht hobject => exact .properties (hat ht) hobject
  | default ht ha hvalue hw => exact .default (hat ht) ha hvalue hw
  | string x => exact .string x
  | bool b => exact .bool b
  | array items => exact .array items

/-- All that stands inside a value is written in the document of a schema. -/
def Writes (s : Schema) (v : Json) : Prop := ∀ w, w.Inside v → s.Written w

variable {s : Schema}

theorem Writes.of_leads {t : Schema} {step : Step} (hstep : s.Leads step t) {v : Json}
    (h : t.Writes v) :
  s.Writes v
  := by
  intro w hw
  apply (h w hw).of_leads hstep

theorem writes_string (x : String) :
  s.Writes (.string x)
  := by
  intro w hw
  cases hw with
  | self => exact .string x

theorem writes_bool (b : Bool) :
  s.Writes (.bool b)
  := by
  intro w hw
  cases hw with
  | self => exact .bool b

theorem writes_array {items : List Json} (h : ∀ item ∈ items, s.Writes item) :
  s.Writes (.array items)
  := by
  intro w hw
  rcases inside_array_iff.mp hw with rfl | ⟨item, hitem, hw⟩
  · exact .array items
  · apply h item hitem w hw

theorem writes_object {members : List (String × Json)} (hself : s.Written (.object members))
    (h : ∀ m ∈ members, s.Writes m.2) :
  s.Writes (.object members)
  := by
  intro w hw
  rcases inside_object_iff.mp hw with rfl | ⟨m, hm, hw⟩
  · apply hself
  · apply h m hm w hw

theorem writes_strings (set : StringSet) :
  s.Writes set.document
  := by
  apply writes_array
  rw [List.forall_mem_map]
  intro x _
  apply writes_string

theorem writes_member? {α : Type} {key : String} {value : α → Json} {content : Option α}
    (h : ∀ a, content = some a → s.Writes (value a)) :
  ∀ m ∈ member? key value content, s.Writes m.2
  := by
  cases content with
  | none => rintro m ⟨⟩
  | some a =>
      rw [member?, List.forall_mem_singleton]
      apply h a rfl

theorem writes_annotations {a : Annotations} (ha : s.shown? = some a) :
  ∀ m ∈ a.members, s.Writes m.2
  := by
  rw [Annotations.members, List.forall_mem_append, List.forall_mem_append]
  refine ⟨writes_member? ?_, writes_member? ?_, writes_member? ?_⟩
  · intro title _
    apply writes_string
  · intro value hvalue w hw
    exact .default (at_nil.mpr rfl) ha hvalue hw
  · intro readonly _
    apply writes_bool

/-- What is written for an object schema, if that is known for the schemas in it. -/
theorem writes_members {object : ObjectSchema} {a : Annotations} (hobject : s.object? = some object)
    (ha : s.shown? = some a)
    (hproperties : ∀ p ∈ object.properties, p.schema.Writes p.schema.document)
    (honeOf : ∀ schemas, object.oneOf = some schemas → ∀ t ∈ schemas, t.Writes t.document) :
  ∀ m ∈ object.members a, s.Writes m.2
  := by
  rw [ObjectSchema.members_eq]
  simp only [List.forall_mem_cons, List.forall_mem_append]
  refine ⟨writes_string _, writes_member? ?_, writes_member? ?_, writes_annotations ha, ?_, ?_,
    writes_member? ?_⟩
  · intro metaSchema _
    apply writes_string
  · intro id _
    apply writes_string
  · rw [propertiesMember]
    split
    · rintro m ⟨⟩
    · rw [List.forall_mem_singleton]
      apply writes_object (.properties (at_nil.mpr rfl) hobject)
      rw [propertyDocuments_eq_map, List.forall_mem_map]
      intro p hp
      have hstep : s.Leads (.property p.name) p.schema := by use object, p, hobject, hp
      apply (hproperties p hp).of_leads hstep
  · rw [requiredMember]
    split
    · rintro m ⟨⟩
    · rw [List.forall_mem_singleton]
      apply writes_strings
  · intro schemas hschemas
    apply writes_array
    rw [schemaDocuments_eq_map, List.forall_mem_map]
    intro t ht
    obtain ⟨index, hindex⟩ := List.getElem?_of_mem ht
    have hstep : s.Leads (.alternative index) t := by use object, schemas, hobject, hschemas
    apply (honeOf schemas hschemas t ht).of_leads hstep

/-- All that stands inside the document of a schema is written in it. -/
theorem writes_document (s : Schema) :
  s.Writes s.document
  := by
  induction s using treeInduction with
  | simple kind a =>
      apply writes_object (written_document _)
      rw [List.forall_mem_cons]
      use writes_string _
      apply writes_annotations rfl
  | string s =>
      apply writes_object (written_document _)
      rw [StringSchema.members]
      simp only [List.forall_mem_cons, List.forall_mem_append]
      refine ⟨writes_string _, writes_annotations rfl, writes_member? ?_, writes_member? ?_,
        writes_member? ?_⟩
      · intro format _
        apply writes_string
      · intro values _
        apply writes_strings
      · intro pattern _
        apply writes_string
  | object object ih ihOneOf =>
      apply writes_object (written_document _)
      apply writes_members rfl rfl ih ihOneOf
  | array array ih =>
      have hself := written_document (.array array)
      rw [document_array] at hself ⊢
      apply writes_object hself
      rw [List.forall_mem_cons, List.forall_mem_append]
      refine ⟨writes_string _, writes_annotations rfl, writes_member? ?_⟩
      intro items hitems
      have hstep : (Schema.array array).Leads .items items := by use array, rfl
      apply (ih items hitems).of_leads hstep
  | ref id =>
      apply writes_object (written_document _)
      rw [List.forall_mem_singleton]
      apply writes_string
  | shared node object a ih ihOneOf =>
      apply writes_object (written_document _)
      apply writes_members rfl rfl ih ihOneOf

end Schema

end RecordSchema
