import RecordSchema.Proofs.Build.Generate
import RecordSchema.Proofs.Draft.Fields

/-!
# Records and query results

What the schemas of an object admit, said in terms of its description: a record is an object
that has all the members that may not be left empty, and whose members named like fields are
values of the fields that govern the names. A page of query results holds such records.
-/

namespace RecordSchema

open Json Draft

namespace Description

/-- The records of an object. -/
def Admits (reading : Reading) (description : Description) (v : Json) : Prop :=
  ∃ members, v = .object members
    ∧ (∀ name field, description.governing? name = some field → field.nillable = false →
      ∃ value, (name, value) ∈ members)
    ∧ ∀ name value, (name, value) ∈ members →
      ∀ field, description.governing? name = some field → field.Admits reading value

/-- The pages of query results of an object. -/
def AdmitsPage (reading : Reading) (description : Description) (v : Json) : Prop :=
  HasMembers reading
      [("done", "boolean"), ("nextRecordsUrl", "string"), ("totalSize", "integer")] v
    ∧ ∃ members, v = .object members
      ∧ (∃ value, ("records", value) ∈ members)
      ∧ ∀ value, ("records", value) ∈ members →
        ∃ items, value = .array items ∧ ∀ item ∈ items, description.Admits reading item

end Description

section

variable (reading : Reading) (refs : String → Json → Prop)

/-! ### Records -/

/-- The property with the name of a field admits the values of the field that governs the
name. -/
theorem Represents.valid_property {settings : Settings} {description : Description}
    {session : Session} {object : ObjectSchema}
    (h : Represents settings description session object) (hsession : session.Sound)
    (hsupported : ∀ field ∈ description.fields, field.isUnsupported = false)
    {p : Property} (hp : p ∈ object.properties) {field : Field}
    (hfield : description.governing? p.name = some field) (v : Json) :
  Valid reading refs p.schema.document v ↔ field.Admits reading v
  := by
  obtain ⟨hname, before, rest, hfields, hrest⟩ := governing?_eq_some_iff.mp hfield
  rw [← hname] at hrest
  obtain ⟨schema, hproperty, hschema⟩ := h.property before field rest hfields hrest
  have hfind : object.find? p.name = some p := (find?_key_eq_some_iff h.distinct).mpr ⟨hp, rfl⟩
  rw [ObjectSchema.property?, hname, hfind] at hproperty
  obtain rfl := Option.some.inj hproperty
  rw [recordSchema, runIn_putFields_of_supported] at hschema
  · apply valid_schema reading refs (hsession.afterFields before) hschema
  · intro other hother
    apply hsupported
    rw [hfields]
    apply List.mem_append_left _ hother

/-- The schema of the records admits the records of the object. -/
theorem valid_record {settings : Settings} {description : Description} {session : Session}
    {object : ObjectSchema} (hsession : session.Sound)
    (hobject : ((recordSchema settings description).runIn session).1 = .ok object) (v : Json) :
  Valid reading refs (Schema.object object).document v ↔ description.Admits reading v
  := by
  obtain ⟨hsupported, -⟩ := eq_of_recordSchema_eq_ok hobject
  have hrepresents := represents_of_recordSchema_eq_ok hobject
  have honeOf := oneOf_of_recordSchema_eq_ok hobject
  rw [Schema.document, valid_members, Description.Admits]
  constructor
  · rintro ⟨members, rfl, hrequired, hproperties, -⟩
    use members, rfl
    constructor
    · intro name field hfield hnillable
      apply hrequired
      apply (hrepresents.required name).mpr
      use field, hfield
    · intro name value hvalue field hfield
      obtain ⟨p, hp, rfl⟩ := (hrepresents.exists_property_iff name).mpr ⟨field, hfield⟩
      apply (hrepresents.valid_property reading refs hsession hsupported hp hfield value).mp
      apply hproperties p hp value hvalue
  · rintro ⟨members, rfl, hrequired, hmembers⟩
    use members, rfl
    refine ⟨?_, ?_, ?_⟩
    · intro name hname
      obtain ⟨field, hfield, hnillable⟩ := (hrepresents.required name).mp hname
      apply hrequired name field hfield hnillable
    · intro p hp value hvalue
      obtain ⟨field, hfield⟩ := (hrepresents.exists_property_iff p.name).mp ⟨p, hp, rfl⟩
      apply (hrepresents.valid_property reading refs hsession hsupported hp hfield value).mpr
      apply hmembers p.name value hvalue field hfield
    · intro schemas hschemas
      rw [honeOf] at hschemas
      cases hschemas

/-! ### Query results -/

/-- The properties of the schema of query results are those of a page, and the records. -/
theorem properties_queryObject (settings : Settings) (name : String) (object : ObjectSchema) :
  (queryObject settings name object).properties
    = ([("done", .boolean), ("nextRecordsUrl", .string), ("totalSize", .integer)]
        : List (String × Kind)).map (fun t => plainProperty t.1 t.2)
      ++ [⟨"records", true, .listOf (.ref (object.id.getD (settings.objectId name)))⟩]
  := rfl

/-- The schema of the query results admits pages of what the reference in it admits. -/
theorem valid_queryObject (settings : Settings) (name : String) (object : ObjectSchema)
    (v : Json) :
  Valid reading refs (Schema.object (queryObject settings name object)).document v
    ↔ HasMembers reading
        [("done", "boolean"), ("nextRecordsUrl", "string"), ("totalSize", "integer")] v
      ∧ ∃ members, v = .object members
        ∧ (∃ value, ("records", value) ∈ members)
        ∧ ∀ value, ("records", value) ∈ members →
          ∃ items, value = .array items
            ∧ ∀ item ∈ items, refs (object.id.getD (settings.objectId name)) item
  := by
  have hrequired (n : String) :
      n ∈ (queryObject settings name object).required ↔ n = "records" := by
    rw [ObjectSchema.mem_required_iff, properties_queryObject]
    constructor
    · rintro ⟨p, hp, hrequired, rfl⟩
      rcases List.mem_append.mp hp with hp | hp
      · obtain ⟨t, -, rfl⟩ := List.mem_map.mp hp
        cases hrequired
      · obtain rfl := List.mem_singleton.mp hp
        rfl
    · rintro rfl
      use ⟨"records", true, .listOf (.ref (object.id.getD (settings.objectId name)))⟩
      simp
  have honeOf : (queryObject settings name object).oneOf = none := rfl
  rw [Schema.document, valid_members, honeOf, properties_queryObject]
  simp only [hrequired, List.forall_mem_append, valid_plainProperties_iff, forall_eq]
  simp only [List.mem_singleton, forall_eq, Schema.listOf, valid_array, Option.some.injEq,
    forall_eq', valid_ref]
  constructor
  · rintro ⟨members, rfl, hrecords, ⟨hplain, hitems⟩, -⟩
    constructor
    · use members, rfl, hplain
    · use members, rfl, hrecords, hitems
  · rintro ⟨⟨members, rfl, hplain⟩, _, hv, hrecords, hitems⟩
    obtain rfl := Json.object.inj hv
    use members, rfl, hrecords, ⟨hplain, hitems⟩
    intro schemas hschemas
    cases hschemas

end

/-! ### Generated sets -/

section

variable (reading : Reading) {settings : Settings} {description : Description}
  {session : Session} {object : ObjectSchema} (hsession : session.Sound)
  (hobject : ((recordSchema settings description).runIn session).1 = .ok object)

include hsession hobject

/-- Among the schemas of an object, that of the records admits the records. -/
theorem validIn_record (v : Json) :
  ValidIn reading (generatedSet settings description.name object) (.object object) v
    ↔ description.Admits reading v
  := by
  apply valid_record reading _ hsession hobject

/-- Among the schemas of an object, that of the query results admits the pages of records. -/
theorem validIn_queryObject (hquery : settings.addQuery = true) (v : Json) :
  ValidIn reading (generatedSet settings description.name object)
      (.object (queryObject settings description.name object)) v
    ↔ description.AdmitsPage reading v
  := by
  have hid := id_of_recordSchema_eq_ok hobject
  have hlength : (generatedSet settings description.name object).members.length = 2 := by
    simp [generatedSet, hquery]
  have hrefs (item : Json) :
      Resolves reading (generatedSet settings description.name object) 2
          (settings.objectId description.name) item
        ↔ description.Admits reading item := by
    rw [Resolves, get?_objectId hid]
    simp [valid_record reading _ hsession hobject]
  rw [ValidIn, hlength, valid_queryObject, hid, Option.getD_some, Description.AdmitsPage]
  simp only [hrefs]

end

/-- In a set that generating the schemas of an object gives, the schema of the records admits
exactly the records of the object, and the schema of the query results, if it is there, exactly
the pages of them. -/
theorem validIn_generate_iff {settings : Settings} {description : Description}
    {session after : Session} {set : SchemaSet}
    (h : (generate settings description).runIn session = (.ok set, after))
    (reading : Reading) :
  ∃ object, set.get? (settings.objectId description.name) = some (.object object)
    ∧ (∀ v, ValidIn reading set (.object object) v ↔ description.Admits reading v)
    ∧ (settings.addQuery = true →
      ∃ query, set.get? (settings.queryId description.name) = some (.object query)
        ∧ ∀ v, ValidIn reading set (.object query) v ↔ description.AdmitsPage reading v)
  := by
  obtain ⟨object, hobject, rfl⟩ := exists_record_of_generate h
  have hsession : (session.starting description).Sound := Session.sound_forget _
  have hid := id_of_recordSchema_eq_ok hobject
  use object, get?_objectId hid
  constructor
  · intro v
    apply validIn_record reading hsession hobject
  · intro hquery
    use queryObject settings description.name object, get?_queryId hid hquery
    intro v
    apply validIn_queryObject reading hsession hobject hquery

/-- A field whose values are chosen from a list, and which may not be left empty. -/
def statusField : Field where
  name := "Status"
  tag := "xsd:string"
  typeName := "picklist"
  nillable := false
  choices := some [{ value := "open" }, { value := "closed" }]

/-- A field of a compound type. -/
def placeField : Field where
  name := "Place"
  tag := "urn:address"

/-- An object with two fields of the same name, of which the second one governs it. -/
def visitDescription : Description where
  name := "Visit"
  fields := [{ name := "Status", tag := "xsd:double" }, placeField, statusField]

/-- The fields that govern the names of a visit. -/
theorem governing?_visitDescription {name : String} {field : Field}
    (h : visitDescription.governing? name = some field) :
  name = "Place" ∧ field = placeField ∨ name = "Status" ∧ field = statusField
  := by
  obtain ⟨hname, before, rest, hfields, hrest⟩ := governing?_eq_some_iff.mp h
  have hfield : field ∈ visitDescription.fields := by simp [hfields]
  simp only [visitDescription, List.mem_cons, List.not_mem_nil, or_false] at hfield
  rcases hfield with rfl | rfl | rfl
  · obtain rfl := hname
    have hstatus : visitDescription.governing? "Status" = some statusField := rfl
    rw [hstatus] at h
    simp [statusField] at h
  · left
    use hname.symm
  · right
    use hname.symm

/-- A reading in which patterns match only themselves. -/
def literalReading : Reading where
  pattern p s := p = s
  integer n := ∃ k fits, n = .integer k fits
  number _ := True

/-- A visit is a record with a status, which is one of the two choices. -/
theorem validIn_generate_visit :
  ∃ set after object query, (generate {} visitDescription).runIn {} = (.ok set, after)
    ∧ set.get? (Settings.objectId {} "Visit") = some (.object object)
    ∧ ValidIn literalReading set (.object object) (.object [("Status", .string "open")])
    ∧ ¬ ValidIn literalReading set (.object object) (.object [("Status", .string "lost")])
    ∧ ¬ ValidIn literalReading set (.object object) (.object [])
    ∧ set.get? (Settings.queryId {} "Visit") = some (.object query)
    ∧ ValidIn literalReading set (.object query)
      (.object [("records", .array [.object [("Status", .string "open")]])])
  := by
  obtain ⟨set, after, h⟩ : ∃ set after,
      (generate {} visitDescription).runIn {} = (.ok set, after) := ⟨_, _, rfl⟩
  obtain ⟨object, hobject, hrecord, hquery⟩ := validIn_generate_iff h literalReading
  obtain ⟨query, hquery, hpage⟩ := hquery rfl
  have hstatus : visitDescription.governing? "Status" = some statusField := rfl
  have hopen : visitDescription.Admits literalReading (.object [("Status", .string "open")]) := by
    use [("Status", .string "open")], rfl
    constructor
    · intro name field hfield hnillable
      rcases governing?_visitDescription hfield with ⟨rfl, rfl⟩ | ⟨rfl, rfl⟩
      · cases hnillable
      · use .string "open"
        apply List.mem_singleton_self
    · intro name value hvalue field hfield
      obtain ⟨rfl, rfl⟩ := Prod.mk.inj (List.mem_singleton.mp hvalue)
      rw [hstatus] at hfield
      obtain rfl := Option.some.inj hfield
      use { value := "open" }
      use List.mem_cons_self
  use set, after, object, query, h, hobject, (hrecord _).mpr hopen
  refine ⟨?_, ?_, hquery, ?_⟩
  · rw [hrecord]
    rintro ⟨members, hmembers, -, hvalues⟩
    obtain rfl := Json.object.inj hmembers
    obtain ⟨choice, hchoice, hlost⟩ :=
      hvalues "Status" (.string "lost") (List.mem_singleton_self _) statusField hstatus
    have hchoices : choice.value = "open" ∨ choice.value = "closed" := by
      simp only [statusField, Option.getD_some, List.mem_cons, List.not_mem_nil, or_false]
        at hchoice
      rcases hchoice with rfl | rfl
      · exact .inl rfl
      · exact .inr rfl
    rw [← Json.string.inj hlost] at hchoices
    exact absurd hchoices (by decide)
  · rw [hrecord]
    rintro ⟨members, hmembers, hrequired, -⟩
    obtain rfl := Json.object.inj hmembers
    obtain ⟨value, hvalue⟩ := hrequired "Status" statusField hstatus rfl
    cases hvalue
  · rw [hpage]
    constructor
    · use [("records", .array [.object [("Status", .string "open")]])], rfl
      intro name type htype value hvalue
      obtain ⟨rfl, rfl⟩ := Prod.mk.inj (List.mem_singleton.mp hvalue)
      simp at htype
    · use [("records", .array [.object [("Status", .string "open")]])], rfl
      constructor
      · use .array [.object [("Status", .string "open")]]
        apply List.mem_singleton_self
      · intro value hvalue
        obtain ⟨-, rfl⟩ := Prod.mk.inj (List.mem_singleton.mp hvalue)
        use [.object [("Status", .string "open")]], rfl
        intro item hitem
        obtain rfl := List.mem_singleton.mp hitem
        apply hopen

end RecordSchema
