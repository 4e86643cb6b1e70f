import RecordSchema.Proofs.Build.Generate
import RecordSchema.Proofs.Build.Sound
import RecordSchema.Proofs.Literal.Gives
import RecordSchema.Proofs.Schema.Built

/-!
# Operations give built schemas

What is read from a literal is built, so the schemas of the fixed shapes are; and so is what is made
in a sound session of the schemas of fields, objects and roots, where default values are values as
they are read.
-/

namespace RecordSchema

/-! ### Literals -/

namespace Literal

theorem GivesAnnotations.isSorted {members : List (String × Json)} {a : Annotations}
    (h : GivesAnnotations members a) (hsorted : (Json.object members).IsSorted) :
  a.IsSorted
  := by
  intro value hvalue
  apply hsorted.of_inside
  apply Json.inside_of_lookup (h.defaultValue.trans hvalue)

/-- An object schema with properties of different names, all of them built, is built. -/
theorem built_object {id : Option String} {a : Annotations} {properties : List Property}
    (ha : a.IsSorted) (hnames : (properties.map (·.name)).Nodup)
    (hproperties : ∀ p ∈ properties, p.schema.Built) :
  ObjectSchema.Built { id, annotations := a, properties }
  := by
  have h := (((ObjectSchema.Built.empty).setId id).annotate ha).putAll hproperties
  rw [putAll_of_nodup (by simpa using hnames)] at h
  apply h

/-- What is read from a sorted literal is built. -/
theorem built_of_read {whole : String} {literal : Json} {s : Schema} (hsorted : literal.IsSorted)
    (h : read whole literal = .ok s) :
  s.Built
  := by
  -- The induction follows the schema: properties are read two levels inside the literal.
  induction s using Schema.treeInduction generalizing literal with
  | simple kind a =>
      obtain ⟨members, rfl, hgives⟩ := exists_object_of_read h
      cases hgives with
      | simple href htype ha => apply Schema.Built.simple kind (ha.isSorted hsorted)
  | string s =>
      obtain ⟨members, rfl, hgives⟩ := exists_object_of_read h
      cases hgives with
      | string href htype ha => apply Schema.Built.string (ha.isSorted hsorted)
  | object object ih ihOneOf =>
      obtain ⟨members, rfl, hgives⟩ := exists_object_of_read h
      cases hgives with
      | object href htype ha hid hrequired hproperties =>
          obtain ⟨inner, -, hinner, hgives⟩ := forall₂_of_readProperties hsorted hproperties
          apply Schema.Built.object
          apply built_object (ha.isSorted hsorted)
          · rw [names_of_forall₂ hgives]
            apply Json.nodup_keys_of_ascending hinner.1
          · intro p hp
            obtain ⟨m, hm, hgives⟩ := exists_member_of_forall₂ hgives hp
            apply ih p hp (hinner.of_inside (.member hm .self)) hgives.schema
  | array array ih =>
      obtain ⟨members, rfl, hgives⟩ := exists_object_of_read h
      cases hgives with
      | array href htype ha hitems =>
          apply Schema.Built.array (ha.isSorted hsorted)
          rintro items rfl
          rw [readItems_eq] at hitems
          split at hitems
          · cases hitems
          · rename_i value hlookup
            obtain ⟨t, ht, heq⟩ := map_eq_ok_iff.mp hitems
            obtain rfl := Option.some.inj heq
            apply ih t rfl (hsorted.of_inside (Json.inside_of_lookup hlookup)) ht
  | ref id => apply Schema.Built.ref
  | shared node object a ih ihOneOf =>
      obtain ⟨members, rfl, hgives⟩ := exists_object_of_read h
      cases hgives

end Literal

theorem Schema.Built.ofLiteral {name : String} {literal : Json} {s : Schema}
    (hsorted : literal.IsSorted) (h : Schema.ofLiteral name literal = .ok s) :
  s.Built
  := Literal.built_of_read hsorted h

/-- The literals of the fixed shapes are sorted. -/
theorem Shape.isSorted_literal (shape : Shape) :
  shape.literal.IsSorted
  := by
  cases shape <;>
    simp only [Shape.literal, Shape.attributesLiteral, Shape.problemLiteral, Shape.objectLiteral,
      Shape.listOf, Shape.plain, Json.IsSorted, Json.MembersSorted] <;>
    decide

/-- The literals of the fixed shapes are read as their object schemas. -/
theorem Shape.ofLiteral_literal (shape : Shape) :
  Schema.ofLiteral shape.name shape.literal = .ok (.object shape.object)
  := by
  cases shape <;> rfl

/-- The schemas of the fixed shapes are built. -/
theorem Shape.built_object (shape : Shape) :
  shape.object.Built
  := by
  apply (Schema.Built.ofLiteral shape.isSorted_literal shape.ofLiteral_literal).object? rfl

/-! ### Fields -/

/-- The default value of the field, if there is one, is a value as it is read. -/
def Field.IsSorted (field : Field) : Prop :=
  ∀ value, field.defaultValue = some value → value.IsSorted

/-- The default values of the fields are values as they are read. -/
def Description.IsSorted (description : Description) : Prop :=
  ∀ field ∈ description.fields, field.IsSorted

/-- A built schema that is decorated for a field is built. -/
theorem Schema.Built.decorate {s : Schema} (h : s.Built) {field : Field} (hfield : field.IsSorted) :
  (field.decorate s).Built
  := by
  have hrestrict : (field.restrict s).Built := by
    rw [Field.restrict]
    split
    · constructor
      apply h.asString_isSorted
    · constructor
      apply h.asString_isSorted
    · apply h
  apply hrestrict.annotate
  intro a ha
  apply hfield

/-- In a sound session the shared schemas of compound values are built. -/
theorem Session.Sound.built_obtain {session : Session} (h : session.Sound) (compound : Compound) :
  (session.obtain compound).1.schema.Built
  := by
  rw [h.schema_obtain]
  apply compound.shape.built_object

/-- In a sound session the schemas of representations are built. -/
theorem Session.Sound.built_represent {session : Session} (h : session.Sound)
    (representation : Representation) :
  (session.represent representation).1.Built
  := by
  cases representation with
  | plain kind => apply Schema.Built.ofKind
  | dateTime => apply Schema.Built.string Annotations.isSorted_empty
  | compound compound =>
      apply Schema.Built.shared _ (h.built_obtain compound) Annotations.isSorted_empty

/-- In a sound session the schema of a field is built. -/
theorem Session.Sound.built_schema {session : Session} (h : session.Sound) {field : Field}
    (hfield : field.IsSorted) {s : Schema} (hs : (field.schema.runIn session).1 = .ok s) :
  s.Built
  := by
  cases htype : SoapType.ofTag? field.tag with
  | none =>
      rw [Field.runIn_schema_of_unsupported (by simp [Field.isUnsupported, htype])] at hs
      cases hs
  | some type =>
      rw [Field.runIn_schema_of_ofTag? htype] at hs
      obtain rfl := Except.ok.inj hs
      apply ((h.note _).built_represent type.representation).decorate hfield

/-! ### Objects and roots -/

/-- In a sound session the properties of fields are built. -/
theorem Session.Sound.built_fieldProperties {session : Session} (h : session.Sound)
    {fields : List Field} (hfields : ∀ field ∈ fields, field.IsSorted) :
  ∀ p ∈ fieldProperties session fields, p.schema.Built
  := by
  induction fields generalizing session with
  | nil => rintro p ⟨⟩
  | cons field rest ih =>
      obtain ⟨hfield, hrest⟩ := List.forall_mem_cons.mp hfields
      have hafter := h.runIn_schema field
      rw [fieldProperties]
      split
      · rename_i schema after hrun
        rw [hrun] at hafter
        rw [List.forall_mem_cons]
        constructor
        · apply h.built_schema hfield
          rw [hrun]
        · apply ih hafter hrest
      · rintro p ⟨⟩

/-- The schema of the records of an object is built. -/
theorem ObjectSchema.Built.record {settings : Settings} {description : Description}
    (hdescription : description.IsSorted) {session : Session} (hsession : session.Sound)
    {object : ObjectSchema}
    (h : ((recordSchema settings description).runIn session).1 = .ok object) :
  object.Built
  := by
  rw [(eq_of_recordSchema_eq_ok h).2]
  have htitle : Annotations.IsSorted { title := some description.label } := by
    rintro value ⟨⟩
  apply (((ObjectSchema.Built.empty).setId _).annotate htitle).putAll
  apply hsession.built_fieldProperties hdescription

/-- The schema of the query results is built. -/
theorem ObjectSchema.Built.queryObject (settings : Settings) (name : String)
    (object : ObjectSchema) :
  (queryObject settings name object).Built
  := by
  apply ObjectSchema.Built.putRequired
  · apply Shape.queryPage.built_object.setId
  · apply Schema.Built.array Annotations.isSorted_empty
    rintro items ⟨⟩
    apply Schema.Built.ref

theorem ObjectSchema.Built.query {settings : Settings} {name : String} {object page : ObjectSchema}
    {session : Session}
    (h : ((querySchema settings object name).runIn session).1 = .ok page) :
  page.Built
  := by
  rw [runIn_querySchema] at h
  obtain rfl := Except.ok.inj h
  apply ObjectSchema.Built.queryObject

/-- All members of the set are built. -/
def SchemaSet.Built (set : SchemaSet) : Prop := ∀ s ∈ set.members, s.Built

theorem SchemaSet.Built.insert {set : SchemaSet} (h : set.Built) {s : Schema} (hs : s.Built) :
  (set.insert s).Built
  := by
  rw [SchemaSet.insert, SchemaSet.insertNew]
  split
  · apply h
  · intro t ht
    rcases List.mem_append.mp ht with ht | ht
    · apply h t ht
    · obtain rfl := List.mem_singleton.mp ht
      apply hs

/-- The root of a set of built schemas is built. -/
theorem SchemaSet.Built.rootOf {set : SchemaSet} (h : set.Built) (id : String) :
  (rootOf set id).Built
  := by
  apply Schema.Built.object
  apply ((ObjectSchema.Built.empty.setId _).setMetaSchema _).setOneOf h

/-- The schemas of an object are built. -/
theorem SchemaSet.Built.generate {settings : Settings} {description : Description}
    (hdescription : description.IsSorted) {session : Session} {set : SchemaSet}
    (h : ((generate settings description).runIn session).1 = .ok set) :
  set.Built
  := by
  obtain ⟨object, hobject, rfl⟩ := exists_record_of_generate (Prod.ext h rfl)
  have hsession : (session.starting description).Sound := Session.sound_forget _
  have hrecord := ObjectSchema.Built.record hdescription hsession hobject
  intro s hs
  obtain ⟨index, hindex⟩ := List.getElem?_of_mem hs
  rcases getElem?_generatedSet_iff.mp hindex with ⟨-, rfl⟩ | ⟨-, -, rfl⟩
  · apply Schema.Built.object hrecord
  · apply Schema.Built.object
    apply ObjectSchema.Built.queryObject

theorem Schema.Built.objectRoot {settings : Settings} {description : Description}
    (hdescription : description.IsSorted) {session : Session} {root : Schema}
    (h : ((objectRoot settings description).runIn session).1 = .ok root) :
  root.Built
  := by
  obtain ⟨set, hset, rfl⟩ := exists_set_of_objectRoot (Prod.ext h rfl)
  have hset' : ((RecordSchema.generate settings description).runIn session).1 = .ok set := by
    rw [hset]
  apply (SchemaSet.Built.generate hdescription hset').rootOf

theorem Schema.Built.interfaceRoot {session : Session} {root : Schema}
    (h : (interfaceRoot.runIn session).1 = .ok root) :
  root.Built
  := by
  obtain ⟨after, hrun⟩ := exists_runIn_interfaceRoot session
  rw [hrun] at h
  obtain rfl := Except.ok.inj h
  have hset : publishedSet.Built := by
    rw [SchemaSet.Built, publishedSet, List.forall_mem_map]
    intro shape _
    apply Schema.Built.object shape.built_object
  apply hset.rootOf

end RecordSchema
