import RecordSchema.Schema.Set
import RecordSchema.Proofs.Json.Parts
import RecordSchema.Proofs.Schema.Document

/-!
# Positions

A position in a schema tree is a path of steps: to a property, to the items of an array, to an
alternative. The same paths lead through the document of the schema, and what stands in the
document at the end of a path is the document of the schema that stands there in the tree. So
what is said about all schemas in a tree can be said about its document.
-/

namespace RecordSchema

open Json

/-- A step from a schema to one in it. -/
inductive Step where
  | property (name : String)
  | items
  | alternative (index : Nat)
deriving DecidableEq

/-- What is reached by a path, where it is known to what a step leads. -/
def Along {α : Type} (leads : α → Step → α → Prop) : α → List Step → α → Prop
  | a, [], b => b = a
  | a, step :: path, c => ∃ b, leads a step b ∧ Along leads b path c

/-! ### In trees -/

namespace Schema

/-- A step leads from a schema to one in it. -/
def Leads (s : Schema) : Step → Schema → Prop
  | .property name, t => ∃ object p, s.object? = some object ∧ p ∈ object.properties
      ∧ p.name = name ∧ p.schema = t
  | .items, t => ∃ array, s.array? = some array ∧ array.items = some t
  | .alternative index, t => ∃ object schemas, s.object? = some object
      ∧ object.oneOf = some schemas ∧ schemas[index]? = some t

/-- A schema stands in another one at a position. -/
def At (s : Schema) (path : List Step) (t : Schema) : Prop := Along Leads s path t

@[simp]
theorem at_nil {s t : Schema} :
  s.At [] t ↔ t = s
  := .rfl

theorem at_cons {s t : Schema} {step : Step} {path : List Step} :
  s.At (step :: path) t ↔ ∃ u, s.Leads step u ∧ u.At path t
  := .rfl

/-- No two properties of an object schema that stands in the schema have the same name. -/
def HasDistinctNames (s : Schema) : Prop :=
  ∀ path t object, s.At path t → t.object? = some object → object.names.Nodup

/-- A step leads to one schema where the names of the properties differ. -/
theorem leads_unique {s t u : Schema}
    (h : ∀ object, s.object? = some object → object.names.Nodup) {step : Step}
    (ht : s.Leads step t) (hu : s.Leads step u) :
  t = u
  := by
  cases step with
  | property name =>
      obtain ⟨object, p, hobject, hp, hname, rfl⟩ := ht
      obtain ⟨other, q, hother, hq, rfl, rfl⟩ := hu
      obtain rfl := Option.some.inj (hobject.symm.trans hother)
      have hnames := h object hobject
      have hp' := (find?_key_eq_some_iff hnames).mpr ⟨hp, hname⟩
      have hq' := (find?_key_eq_some_iff hnames).mpr ⟨hq, rfl⟩
      obtain rfl := Option.some.inj (hp'.symm.trans hq')
      rfl
  | items =>
      obtain ⟨array, harray, ht⟩ := ht
      obtain ⟨other, hother, hu⟩ := hu
      obtain rfl := Option.some.inj (harray.symm.trans hother)
      apply Option.some.inj (ht.symm.trans hu)
  | alternative index =>
      obtain ⟨object, schemas, hobject, hschemas, ht⟩ := ht
      obtain ⟨other, others, hother, hothers, hu⟩ := hu
      obtain rfl := Option.some.inj (hobject.symm.trans hother)
      obtain rfl := Option.some.inj (hschemas.symm.trans hothers)
      apply Option.some.inj (ht.symm.trans hu)

/-- At a position stands one schema where the names of properties differ. -/
theorem at_unique {s t u : Schema} (h : s.HasDistinctNames) {path : List Step}
    (ht : s.At path t) (hu : s.At path u) :
  t = u
  := by
  induction path generalizing s with
  | nil => rw [at_nil.mp ht, at_nil.mp hu]
  | cons step path ih =>
      obtain ⟨v, hv, ht⟩ := ht
      obtain ⟨w, hw, hu⟩ := hu
      obtain rfl := leads_unique (fun object => h [] s object rfl) hv hw
      refine ih ?_ ht hu
      intro rest t object hrest
      apply h (step :: rest) t object
      use v, hv, hrest

/-- The schemas of strings and of simple types have no schemas in them, nor are they references
or have an identifier. -/
def isPlain : Schema → Bool
  | .simple _ _ | .string _ => true
  | _ => false

theorem isPlain_annotate (s : Schema) (change : Annotations → Annotations) :
  (s.annotate change).isPlain = s.isPlain
  := by
  cases s <;> rfl

theorem object?_of_isPlain {s : Schema} (h : s.isPlain = true) :
  s.object? = none
  := by
  cases s with
  | simple kind a => rfl
  | string s => rfl
  | object object => cases h
  | array array => cases h
  | ref id => cases h
  | shared node object a => cases h

theorem id?_of_isPlain {s : Schema} (h : s.isPlain = true) :
  s.id? = none
  := by
  rw [id?, object?_of_isPlain h]
  rfl

/-- In a plain schema there is only that schema itself. -/
theorem at_iff_of_isPlain {s : Schema} (h : s.isPlain = true) {path : List Step} {t : Schema} :
  s.At path t ↔ path = [] ∧ t = s
  := by
  have hleads (step : Step) (u : Schema) : ¬ s.Leads step u := by
    cases s with
    | simple kind a => cases step <;> simp [Leads, object?, array?]
    | string s => cases step <;> simp [Leads, object?, array?]
    | object object => cases h
    | array array => cases h
    | ref id => cases h
    | shared node object a => cases h
  cases path with
  | nil => simp
  | cons step path => simp [at_cons, hleads]

/-- From a schema of objects without alternatives, steps lead to its properties. -/
theorem leads_iff_of_object? {s : Schema} {object : ObjectSchema}
    (h : s.object? = some object) (honeOf : object.oneOf = none) {step : Step} {t : Schema} :
  s.Leads step t ↔ ∃ p ∈ object.properties, step = .property p.name ∧ t = p.schema
  := by
  cases step with
  | property name => simp [Leads, h, eq_comm]
  | items =>
      cases s with
      | array array => cases h
      | _ => simp [Leads, array?]
  | alternative index => simp [Leads, h, honeOf]

/-- In a schema of objects without alternatives stand that schema itself and what stands in the
schemas of its properties. -/
theorem at_iff_of_object? {s : Schema} {object : ObjectSchema}
    (h : s.object? = some object) (honeOf : object.oneOf = none) {path : List Step}
    {t : Schema} :
  s.At path t ↔ path = [] ∧ t = s
    ∨ ∃ p ∈ object.properties, ∃ rest, path = .property p.name :: rest ∧ p.schema.At rest t
  := by
  cases path with
  | nil => simp
  | cons step path =>
      simp only [at_cons, leads_iff_of_object? h honeOf]
      constructor
      · rintro ⟨u, ⟨p, hp, rfl, rfl⟩, hu⟩
        right
        use p, hp, path
      · rintro (⟨h, -⟩ | ⟨p, hp, rest, hpath, hrest⟩)
        · cases h
        · obtain ⟨rfl, rfl⟩ := List.cons.inj hpath
          use p.schema
          constructor
          · use p, hp
          · apply hrest

/-- In a reference there is only that reference itself. -/
theorem at_ref_iff {id : String} {path : List Step} {t : Schema} :
  (Schema.ref id).At path t ↔ path = [] ∧ t = .ref id
  := by
  have hleads (step : Step) (u : Schema) : ¬ (Schema.ref id).Leads step u := by
    cases step <;> simp [Leads, object?, array?]
  cases path with
  | nil => simp
  | cons step path => simp [at_cons, hleads]

/-- In a schema of arrays stand that schema itself and what stands in the schema of the items. -/
theorem at_listOf_iff {items : Schema} {path : List Step} {t : Schema} :
  (Schema.listOf items).At path t
    ↔ path = [] ∧ t = .listOf items ∨ ∃ rest, path = .items :: rest ∧ items.At rest t
  := by
  cases path with
  | nil => simp
  | cons step path =>
      have hleads (u : Schema) : (listOf items).Leads step u ↔ step = .items ∧ items = u := by
        cases step <;> simp [Leads, listOf, object?, array?]
      simp only [at_cons, hleads]
      constructor
      · rintro ⟨u, ⟨rfl, rfl⟩, hu⟩
        right
        use path
      · rintro (⟨h, -⟩ | ⟨rest, hpath, hrest⟩)
        · cases h
        · obtain ⟨rfl, rfl⟩ := List.cons.inj hpath
          use items

end Schema

/-! ### In documents -/

namespace Draft

/-- A step leads from the document of a schema to the document of one in it. -/
def Leads (document : Json) : Step → Json → Prop
  | .property name, d => ∃ members properties, document = .object members
      ∧ members.lookup "properties" = some (.object properties) ∧ (name, d) ∈ properties
  | .items, d => ∃ members, document = .object members ∧ members.lookup "items" = some d
  | .alternative index, d => ∃ members schemas, document = .object members
      ∧ members.lookup "oneOf" = some (.array schemas) ∧ schemas[index]? = some d

/-- The document of a schema stands in another one at a position. -/
def At (document : Json) (path : List Step) (d : Json) : Prop := Along Leads document path d

/-- That to which a step leads in a document stands inside it. -/
theorem inside_of_leads {document d : Json} {step : Step} (h : Leads document step d) :
  d.Inside document
  := by
  cases step with
  | property name =>
      obtain ⟨members, properties, rfl, hproperties, hd⟩ := h
      apply Inside.trans _ (inside_of_lookup hproperties)
      apply Inside.member hd .self
  | items =>
      obtain ⟨members, rfl, hitems⟩ := h
      apply inside_of_lookup hitems
  | alternative index =>
      obtain ⟨members, schemas, rfl, hschemas, hd⟩ := h
      apply Inside.trans _ (inside_of_lookup hschemas)
      apply Inside.item (List.mem_of_getElem? hd) .self

/-- What stands at a position of a document stands inside it. -/
theorem inside_of_at {document d : Json} {path : List Step} (h : At document path d) :
  d.Inside document
  := by
  induction path generalizing document with
  | nil =>
      obtain rfl : d = document := h
      apply Inside.self
  | cons step path ih =>
      obtain ⟨e, hstep, he⟩ := h
      apply (ih he).trans (inside_of_leads hstep)

/-- The identifier that a document gives. -/
def id? (document : Json) : Option String :=
  (document.members?.bind (·.lookup "id")).bind Json.string?

end Draft

namespace Schema

/-- What stands under the keys that have to do with schemas. -/
theorem lookup_document (s : Schema) :
  ∃ members, s.document = .object members
    ∧ members.lookup "properties" = (s.object?.bind fun object =>
        if propertyDocuments object.properties = [] then none
        else some (.object (propertyDocuments object.properties)))
    ∧ members.lookup "items" = (s.array?.bind (·.items)).map document
    ∧ members.lookup "oneOf"
      = (s.object?.bind (·.oneOf)).map (fun schemas => .array (schemaDocuments schemas))
    ∧ members.lookup "id" = s.id?.map .string
  := by
  cases s with
  | simple kind a =>
      use ("type", .string kind.kind.name) :: a.members, rfl
      simp [lookup_simple, object?, array?, id?]
  | string s =>
      use s.members, rfl
      simp [s.lookup_members, object?, array?, id?]
  | object object =>
      use object.members object.annotations, rfl
      simp [object.lookup_members, object?, array?, id?]
  | array array =>
      refine ⟨_, document_array array, ?_⟩
      simp only [lookup_array]
      simp [object?, array?, id?]
  | ref id =>
      use [("$ref", .string id)], rfl
      simp [lookup_cons_eq, object?, array?, id?]
  | shared node object a =>
      use object.members (a.orElse object.annotations), rfl
      simp [object.lookup_members, object?, array?, id?]

/-- The document of a schema gives the identifier of the schema. -/
theorem id?_document (s : Schema) :
  Draft.id? s.document = s.id?
  := by
  obtain ⟨members, hmembers, -, -, -, hid⟩ := s.lookup_document
  rw [Draft.id?, hmembers, members?, Option.bind_some, hid]
  cases s.id? with
  | none => rfl
  | some id => rfl

/-- A step leads from the document of a schema to the documents of the schemas to which it leads
from the schema. -/
theorem leads_document_iff {s : Schema} {step : Step} {d : Json} :
  Draft.Leads s.document step d ↔ ∃ t, s.Leads step t ∧ d = t.document
  := by
  obtain ⟨members, hmembers, hproperties, hitems, honeOf, -⟩ := s.lookup_document
  rw [hmembers]
  cases step with
  | property name =>
      constructor
      · rintro ⟨_, properties, hobject, hlookup, hd⟩
        obtain rfl := Json.object.inj hobject
        rw [hproperties] at hlookup
        obtain ⟨object, hobject, hlookup⟩ := Option.bind_eq_some_iff.mp hlookup
        split at hlookup
        · cases hlookup
        · obtain rfl := Json.object.inj (Option.some.inj hlookup)
          rw [propertyDocuments_eq_map] at hd
          obtain ⟨p, hp, heq⟩ := List.mem_map.mp hd
          obtain ⟨rfl, rfl⟩ := Prod.mk.inj heq
          use p.schema
          constructor
          · use object, p, hobject, hp
          · rfl
      · rintro ⟨t, ⟨object, p, hobject, hp, rfl, rfl⟩, rfl⟩
        have hd : (p.name, p.schema.document) ∈ propertyDocuments object.properties := by
          rw [propertyDocuments_eq_map]
          apply List.mem_map_of_mem hp
        use members, propertyDocuments object.properties, rfl
        constructor
        · rw [hproperties, hobject, Option.bind_some, if_neg (List.ne_nil_of_mem hd)]
        · apply hd
  | items =>
      constructor
      · rintro ⟨_, hobject, hlookup⟩
        obtain rfl := Json.object.inj hobject
        rw [hitems] at hlookup
        obtain ⟨t, ht, rfl⟩ := Option.map_eq_some_iff.mp hlookup
        obtain ⟨array, harray, ht⟩ := Option.bind_eq_some_iff.mp ht
        use t
        constructor
        · use array, harray
        · rfl
      · rintro ⟨t, ⟨array, harray, ht⟩, rfl⟩
        use members, rfl
        rw [hitems, harray, Option.bind_some, ht, Option.map_some]
  | alternative index =>
      constructor
      · rintro ⟨_, documents, hobject, hlookup, hd⟩
        obtain rfl := Json.object.inj hobject
        rw [honeOf] at hlookup
        obtain ⟨schemas, hschemas, heq⟩ := Option.map_eq_some_iff.mp hlookup
        obtain rfl := Json.array.inj heq
        obtain ⟨object, hobject, hschemas⟩ := Option.bind_eq_some_iff.mp hschemas
        rw [schemaDocuments_eq_map, List.getElem?_map] at hd
        obtain ⟨t, ht, rfl⟩ := Option.map_eq_some_iff.mp hd
        use t
        constructor
        · use object, schemas, hobject, hschemas
        · rfl
      · rintro ⟨t, ⟨object, schemas, hobject, hschemas, ht⟩, rfl⟩
        use members, schemaDocuments schemas, rfl
        constructor
        · rw [honeOf, hobject, Option.bind_some, hschemas, Option.map_some]
        · rw [schemaDocuments_eq_map, List.getElem?_map, ht, Option.map_some]

/-- What stands at a position of the document of a schema is the document of what stands there
in the schema. -/
theorem at_document_iff {s : Schema} {path : List Step} {d : Json} :
  Draft.At s.document path d ↔ ∃ t, s.At path t ∧ d = t.document
  := by
  induction path generalizing s with
  | nil => simp [Draft.At, Along]
  | cons step path ih =>
      constructor
      · rintro ⟨e, he, hd⟩
        obtain ⟨u, hu, rfl⟩ := leads_document_iff.mp he
        obtain ⟨t, ht, rfl⟩ := ih.mp hd
        use t
        constructor
        · use u, hu, ht
        · rfl
      · rintro ⟨t, ⟨u, hu, ht⟩, rfl⟩
        use u.document
        constructor
        · apply leads_document_iff.mpr
          use u, hu
        · apply ih.mpr
          use t, ht

end Schema

end RecordSchema
