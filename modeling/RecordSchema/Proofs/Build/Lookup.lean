import RecordSchema.Proofs.Build.Outcome
import RecordSchema.Proofs.Description.Names

/-!
# Fields and properties

A field is looked up in a description up to the case of ASCII letters, and the first one is found.
A property is looked up in the schema of the records by its very name, and it comes from the last
field with that name. Where no two names are the same up to case, both lookups lead to the same
field.
-/

namespace RecordSchema

/-! ### Schemas of one field -/

/-- The schemas that a field gives in sound sessions are equal. -/
theorem Field.exists_equal_schema {field : Field} {session other : Session}
    (hsession : session.Sound) (hother : other.Sound) {schema : Schema}
    (h : (field.schema.runIn session).1 = .ok schema) :
  ∃ own, (field.schema.runIn other).1 = .ok own ∧ schema.equal own = true
  := by
  cases hmapping : field.mapping with
  | error failure =>
      obtain ⟨after, hrun⟩ := faithful_schema.failed hsession hmapping
      rw [hrun] at h
      cases h
  | ok representation =>
      obtain ⟨made, after, hrun, -, hmade⟩ := faithful_schema.made hsession hmapping
      obtain ⟨own, after, hrunOwn, -, hown⟩ := faithful_schema.made hother hmapping
      rw [hrun] at h
      obtain rfl := Except.ok.inj h
      use own
      constructor
      · rw [hrunOwn]
      · rw [← Schema.equal_unnumbered, hmade, hown]
        apply Schema.equal_iff.mpr rfl

/-! ### Different names -/

/-- No two fields have the same name, up to the case of ASCII letters. -/
def Description.NamesDiffer (description : Description) : Prop :=
  description.fields.Pairwise fun field other => ¬ SameName field.name other.name

instance (description : Description) : Decidable description.NamesDiffer :=
  inferInstanceAs (Decidable (List.Pairwise _ _))

theorem SameName.refl (name : String) : SameName name name :=
  Description.sameName_iff.mp (beq_self_eq_true _)

/-- Where names differ, no field behind another one has its name. -/
theorem Description.NamesDiffer.name_ne {description : Description} (h : description.NamesDiffer)
    {before rest : List Field} {field : Field}
    (hfields : description.fields = before ++ field :: rest) :
  ∀ other ∈ rest, other.name ≠ field.name
  := by
  rw [Description.NamesDiffer, hfields, List.pairwise_append, List.pairwise_cons] at h
  intro other hother hname
  apply h.2.1.1 other hother
  rw [hname]
  apply SameName.refl

/-! ### Both lookups -/

/-- What an object schema says about a field under its name. -/
structure ObjectSchema.Shows (object : ObjectSchema) (field : Field) : Prop where
  /-- The property is the schema of the field, whichever sound session that is made in. -/
  property : ∃ schema, object.property? field.name = some schema
    ∧ ∀ session : Session, session.Sound →
      ∃ own, (field.schema.runIn session).1 = .ok own ∧ schema.equal own = true
  /-- The name is required if the field may not be left empty. -/
  required : object.isRequired field.name = true ↔ field.nillable = false

/-- A field behind which there is no other with its name is shown under it. -/
theorem Represents.shows {settings : Settings} {description : Description} {session : Session}
    {object : ObjectSchema} (h : Represents settings description session object)
    (hsession : session.Sound) {before rest : List Field} {field : Field}
    (hfields : description.fields = before ++ field :: rest)
    (hrest : ∀ other ∈ rest, other.name ≠ field.name) :
  object.Shows field
  := by
  have hgoverning : description.governing? field.name = some field :=
    governing?_eq_some_iff.mpr ⟨rfl, before, rest, hfields, hrest⟩
  constructor
  case property =>
    obtain ⟨schema, hproperty, hschema⟩ := h.property before field rest hfields hrest
    use schema, hproperty
    intro other hother
    apply Field.exists_equal_schema (hsession.runIn_putFields _ _) hother hschema
  case required =>
    rw [ObjectSchema.isRequired_iff, h.required, hgoverning]
    simp

/-- Under a name that is that of no field there is no property. -/
theorem Represents.property?_eq_none {settings : Settings} {description : Description}
    {session : Session} {object : ObjectSchema}
    (h : Represents settings description session object) {name : String}
    (hname : ∀ field ∈ description.fields, field.name ≠ name) :
  object.property? name = none
  := by
  rw [ObjectSchema.property?, Option.map_eq_none_iff, ObjectSchema.find?, List.find?_eq_none]
  intro p hp hp'
  obtain ⟨field, hfield⟩ := (h.exists_property_iff name).mp ⟨p, hp, by simpa using hp'⟩
  obtain ⟨hfield, before, rest, hfields, -⟩ := governing?_eq_some_iff.mp hfield
  apply hname field _ hfield
  rw [hfields]
  apply List.mem_append_right _ List.mem_cons_self

/-- A name, in whatever case, is that of the first field with it. Where the names of the fields
differ, this is the field that the schema of the records shows, whichever sound session it is made
in, and under a name that is that of no field it has no property. All sessions that are reached are
sound. -/
theorem lookups_agree (description : Description) :
  (∀ name field, description.field? name = some field
      ↔ ∃ before rest, description.fields = before ++ field :: rest
        ∧ SameName field.name name ∧ ∀ other ∈ before, ¬ SameName other.name name)
    ∧ (∀ name, description.field? name = none
      ↔ ∀ field ∈ description.fields, ¬ SameName field.name name)
    ∧ (∀ name other, SameName name other → description.field? name = description.field? other)
    ∧ (description.NamesDiffer → ∀ (settings : Settings) (session : Session), session.Sound →
      ∀ object, ((recordSchema settings description).runIn session).1 = .ok object →
      ∀ name, (∀ field, description.field? name = some field → object.Shows field)
        ∧ (description.field? name = none → object.property? name = none))
  := by
  refine ⟨?_, ?_, ?_, ?_⟩
  · intro name field
    apply Description.field?_eq_some_iff
  · intro name
    apply Description.field?_eq_none_iff
  · intro name other h
    apply Description.field?_congr h
  · intro hdiffer settings session hsession object hobject name
    have hrepresents := represents_of_recordSchema_eq_ok hobject
    constructor
    · intro field hfield
      obtain ⟨before, rest, hfields, -⟩ := Description.field?_eq_some_iff.mp hfield
      apply hrepresents.shows hsession hfields (hdiffer.name_ne hfields)
    · intro hnone
      apply hrepresents.property?_eq_none
      rintro field hfield rfl
      apply Description.field?_eq_none_iff.mp hnone field hfield (SameName.refl _)

/-- A place with two names that differ in the case of a letter which is not an ASCII one. -/
def placeDescription : Description where
  name := "Place"
  fields := [
    { name := "Öde", tag := "xsd:boolean", nillable := false },
    { name := "öde", tag := "xsd:string" },
    { name := "Lage", tag := "urn:location", nillable := false }]

/-- The three names differ, each is found in any case of its ASCII letters, and what is found stands
in the schema of the records. -/
theorem lookups_agree_place :
  ∃ object, ((recordSchema {} placeDescription).runIn {}).1 = .ok object
    ∧ Session.Sound {} ∧ placeDescription.NamesDiffer
    ∧ SameName "ÖDE" "Öde" ∧ placeDescription.field? "ÖDE" = placeDescription.field? "Öde"
    ∧ ¬ SameName "ÖDE" "öde"
    ∧ (∃ field, placeDescription.field? "ÖDE" = some field ∧ field.name = "Öde"
      ∧ object.Shows field)
    ∧ (∃ field, placeDescription.field? "lAGE" = some field ∧ field.name = "Lage"
      ∧ object.Shows field)
    ∧ placeDescription.field? "Ode" = none ∧ object.property? "Ode" = none
  := by
  have hdiffer : placeDescription.NamesDiffer := by decide
  have hsound : Session.Sound {} := Session.sound_forget {}
  have hsame : SameName "ÖDE" "Öde" := by decide
  obtain ⟨-, -, hcase, h⟩ := lookups_agree placeDescription
  have hobject := h hdiffer {} {} hsound _ rfl
  exact ⟨_, rfl, hsound, hdiffer, hsame, hcase _ _ hsame, by decide,
    ⟨_, rfl, rfl, (hobject "ÖDE").1 _ rfl⟩, ⟨_, rfl, rfl, (hobject "lAGE").1 _ rfl⟩, rfl,
    (hobject "Ode").2 rfl⟩

end RecordSchema
