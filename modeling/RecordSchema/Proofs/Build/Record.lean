import RecordSchema.Proofs.Build.Run
import RecordSchema.Proofs.Object.Puts

/-!
# The schema of the records of an object

Making the schema of the records fails exactly when the tag of some field is that of no SOAP
type, and then with the first such tag. Otherwise there is a property for each name of a field,
in the order in which the names first occur. The field that governs a name is the last one
with it: from it come the schema of the property and whether it is required.
-/

namespace RecordSchema

/-! ### The properties of fields -/

/-- The properties that fields give one after the other, up to the first one that fails. -/
def fieldProperties (session : Session) : List Field → List Property
  | [] => []
  | field :: rest =>
    match field.schema.runIn session with
    | (.ok schema, after) =>
      ⟨field.name, !field.nillable, schema⟩ :: fieldProperties after rest
    | (.error _, _) => []

/-- The session after the schemas of fields have been made, up to the first one that fails. -/
def Session.afterFields (session : Session) : List Field → Session
  | [] => session
  | field :: rest =>
    match field.schema.runIn session with
    | (.ok _, after) => after.afterFields rest
    | (.error _, after) => after

/-- Fields that can all be represented put the properties they give. -/
theorem runIn_putFields_of_supported {fields : List Field}
    (h : ∀ field ∈ fields, field.isUnsupported = false) (object : ObjectSchema)
    (session : Session) :
  (putFields object fields).runIn session
    = (.ok { object with
          properties := putAll (fieldProperties session fields) object.properties },
        session.afterFields fields)
  := by
  induction fields generalizing object session with
  | nil =>
      cases object
      rfl
  | cons field rest ih =>
      obtain ⟨hfield, hrest⟩ := List.forall_mem_cons.mp h
      obtain ⟨schema, after, hrun⟩ := Field.exists_runIn_schema hfield session
      rw [putFields, Build.runIn_bind_ok session hrun, ih hrest]
      simp only [fieldProperties, Session.afterFields, hrun, putAll_cons]
      rfl

/-- Fields fail at the first one that cannot be represented. -/
theorem runIn_putFields_of_unsupported {before rest : List Field} {field : Field}
    (hbefore : ∀ other ∈ before, other.isUnsupported = false)
    (hfield : field.isUnsupported = true) (object : ObjectSchema) (session : Session) :
  ((putFields object (before ++ field :: rest)).runIn session).1
    = .error (.unsupportedTag field.tag)
  := by
  induction before generalizing object session with
  | nil =>
      rw [List.nil_append, putFields, Build.runIn_bind_error session
        (Field.runIn_schema_of_unsupported hfield session)]
  | cons other before ih =>
      obtain ⟨hother, hbefore⟩ := List.forall_mem_cons.mp hbefore
      obtain ⟨schema, after, hrun⟩ := Field.exists_runIn_schema hother session
      rw [List.cons_append, putFields, Build.runIn_bind_ok session hrun]
      apply ih hbefore

/-- Making the schema of the records ends with the first tag that is that of no SOAP type, or
with the properties of all fields. -/
theorem runIn_recordSchema (settings : Settings) (description : Description)
    (session : Session) :
  (∃ field, description.fields.find? (·.isUnsupported) = some field
      ∧ ((recordSchema settings description).runIn session).1
        = .error (.unsupportedTag field.tag))
    ∨ (description.fields.find? (·.isUnsupported) = none
      ∧ (recordSchema settings description).runIn session
        = (.ok {
            id := some (settings.objectId description.name)
            annotations := { title := some description.label }
            properties := putAll (fieldProperties session description.fields) [] },
          session.afterFields description.fields))
  := by
  cases h : description.fields.find? (·.isUnsupported) with
  | none =>
      right
      use rfl
      apply runIn_putFields_of_supported
      simpa using h
  | some field =>
      left
      use field, rfl
      obtain ⟨hfield, before, rest, hfields, hbefore⟩ := List.find?_eq_some_iff_append.mp h
      rw [recordSchema, hfields]
      apply runIn_putFields_of_unsupported _ hfield
      simpa using hbefore

/-- Where making the schema of the records has a result, all fields can be represented, and
the result has the properties that they give. -/
theorem eq_of_recordSchema_eq_ok {settings : Settings} {description : Description}
    {session : Session} {object : ObjectSchema}
    (h : ((recordSchema settings description).runIn session).1 = .ok object) :
  (∀ field ∈ description.fields, field.isUnsupported = false)
    ∧ object = {
        id := some (settings.objectId description.name)
        annotations := { title := some description.label }
        properties := putAll (fieldProperties session description.fields) [] }
  := by
  rcases runIn_recordSchema settings description session with
    ⟨field, -, hrun⟩ | ⟨hnone, hrun⟩
  · rw [hrun] at h
    cases h
  · rw [hrun] at h
    constructor
    · simpa using hnone
    · symm
      apply Except.ok.inj h

theorem id_of_recordSchema_eq_ok {settings : Settings} {description : Description}
    {session : Session} {object : ObjectSchema}
    (h : ((recordSchema settings description).runIn session).1 = .ok object) :
  object.id = some (settings.objectId description.name)
  := by
  rw [(eq_of_recordSchema_eq_ok h).2]

theorem oneOf_of_recordSchema_eq_ok {settings : Settings} {description : Description}
    {session : Session} {object : ObjectSchema}
    (h : ((recordSchema settings description).runIn session).1 = .ok object) :
  object.oneOf = none
  := by
  rw [(eq_of_recordSchema_eq_ok h).2]

/-! ### Governing fields -/

/-- The field that governs a name: the last one with it. -/
def Description.governing? (description : Description) (name : String) : Option Field :=
  description.fields.findRev? (·.name == name)

/-- The properties that fields give, of which the first ones can be represented. -/
theorem fieldProperties_append {before : List Field}
    (h : ∀ field ∈ before, field.isUnsupported = false) (rest : List Field)
    (session : Session) :
  fieldProperties session (before ++ rest)
    = fieldProperties session before ++ fieldProperties (session.afterFields before) rest
  := by
  induction before generalizing session with
  | nil => rfl
  | cons field before ih =>
      obtain ⟨hfield, hbefore⟩ := List.forall_mem_cons.mp h
      obtain ⟨schema, after, hrun⟩ := Field.exists_runIn_schema hfield session
      simp only [List.cons_append, fieldProperties, Session.afterFields, hrun, ih hbefore]

/-- The properties that fields give have the names of the fields, in their order. -/
theorem names_fieldProperties {fields : List Field}
    (h : ∀ field ∈ fields, field.isUnsupported = false) (session : Session) :
  (fieldProperties session fields).map (·.name) = fields.map (·.name)
  := by
  induction fields generalizing session with
  | nil => rfl
  | cons field rest ih =>
      obtain ⟨hfield, hrest⟩ := List.forall_mem_cons.mp h
      obtain ⟨schema, after, hrun⟩ := Field.exists_runIn_schema hfield session
      simp only [fieldProperties, hrun, List.map_cons, ih hrest]

/-- The last property with a name comes from the last field with it, whose schema is made in
the session that the fields before it leave. -/
theorem findRev?_fieldProperties {before rest : List Field} {field : Field}
    (h : ∀ other ∈ before ++ field :: rest, other.isUnsupported = false)
    (hrest : ∀ other ∈ rest, other.name ≠ field.name) (session : Session) :
  ∃ schema, (field.schema.runIn (session.afterFields before)).1 = .ok schema
    ∧ (fieldProperties session (before ++ field :: rest)).findRev? (·.name == field.name)
      = some ⟨field.name, !field.nillable, schema⟩
  := by
  rw [List.forall_mem_append, List.forall_mem_cons] at h
  obtain ⟨hbefore, hfield, hafter⟩ := h
  obtain ⟨schema, after, hrun⟩ := Field.exists_runIn_schema hfield (session.afterFields before)
  use schema
  constructor
  · rw [hrun]
  · have hnone : (fieldProperties after rest).reverse.find? (·.name == field.name) = none := by
      rw [List.find?_eq_none]
      intro p hp
      have hname : p.name ∈ rest.map (·.name) := by
        rw [← names_fieldProperties hafter after]
        apply List.mem_map_of_mem (List.mem_reverse.mp hp)
      obtain ⟨other, hother, hname⟩ := List.mem_map.mp hname
      rw [← hname]
      simpa using hrest other hother
    rw [fieldProperties_append hbefore, List.findRev?_eq_find?_reverse, List.reverse_append,
      fieldProperties, hrun, List.reverse_cons, List.find?_append, List.find?_append, hnone]
    simp

/-- A name is governed by the field with it behind which there is no other. -/
theorem governing?_eq_some_iff {description : Description} {name : String} {field : Field} :
  description.governing? name = some field
    ↔ field.name = name ∧ ∃ before rest, description.fields = before ++ field :: rest
      ∧ ∀ other ∈ rest, other.name ≠ name
  := by
  rw [Description.governing?, List.findRev?_eq_find?_reverse, List.find?_eq_some_iff_append]
  simp only [beq_iff_eq, Bool.not_eq_true', beq_eq_false_iff_ne]
  constructor
  · rintro ⟨hname, rest, before, hfields, hrest⟩
    use hname, before.reverse, rest.reverse
    constructor
    · rw [← List.reverse_reverse description.fields, hfields]
      simp
    · simpa using hrest
  · rintro ⟨hname, before, rest, hfields, hrest⟩
    use hname, rest.reverse, before.reverse
    constructor
    · rw [hfields]
      simp
    · simpa using hrest

/-- A name is governed by a field exactly when there is a field with it. -/
theorem isSome_governing?_iff {description : Description} {name : String} :
  (description.governing? name).isSome = true ↔ ∃ field ∈ description.fields, field.name = name
  := by
  simp [Description.governing?]

/-- Where all fields can be represented, the last property with a name comes from the field
that governs the name. -/
theorem findRev?_of_governing? {description : Description}
    (h : ∀ other ∈ description.fields, other.isUnsupported = false) {name : String}
    {field : Field} (hfield : description.governing? name = some field) (session : Session) :
  ∃ schema, (fieldProperties session description.fields).findRev? (·.name == name)
    = some ⟨name, !field.nillable, schema⟩
  := by
  obtain ⟨rfl, before, rest, hfields, hrest⟩ := governing?_eq_some_iff.mp hfield
  rw [hfields] at h ⊢
  obtain ⟨schema, -, hfind⟩ := findRev?_fieldProperties h hrest session
  use schema, hfind

/-- A name that governs no field is the name of no property. -/
theorem findRev?_of_governing?_eq_none {description : Description}
    (h : ∀ other ∈ description.fields, other.isUnsupported = false) {name : String}
    (hname : description.governing? name = none) (session : Session) :
  (fieldProperties session description.fields).findRev? (·.name == name) = none
  := by
  rw [List.findRev?_eq_find?_reverse, List.find?_eq_none]
  intro p hp hname'
  have hp' : p.name ∈ description.fields.map (·.name) := by
    rw [← names_fieldProperties h session]
    apply List.mem_map_of_mem (List.mem_reverse.mp hp)
  obtain ⟨field, hfield, hfield'⟩ := List.mem_map.mp hp'
  have := isSome_governing?_iff.mpr ⟨field, hfield, hfield'.trans (by simpa using hname')⟩
  rw [hname] at this
  cases this

/-! ### The record schema -/

/-- What the object schema of an object says that has been made in a session. -/
structure Represents (settings : Settings) (description : Description) (session : Session)
    (object : ObjectSchema) : Prop where
  /-- The identifier is the prefix and the name, with a colon between them. -/
  id : object.id = some (settings.idPrefix ++ ":" ++ description.name)
  /-- The title is the label. -/
  title : object.annotations.title = some description.label
  /-- The properties have the names of the fields, in the order of their first occurrence. -/
  names : object.names = (description.fields.map (·.name)).eraseDups
  /-- No two properties have the same name. -/
  distinct : object.names.Nodup
  /-- The property with the name of a field behind which there is no other with it has the
  schema of that field, made in the session that the fields before it leave. -/
  property : ∀ before field rest, description.fields = before ++ field :: rest →
    (∀ other ∈ rest, other.name ≠ field.name) →
    ∃ schema, object.property? field.name = some schema
      ∧ (field.schema.runIn
          ((recordSchema settings { description with fields := before }).runIn session).2).1
        = .ok schema
  /-- The required names are those whose governing field may not be left empty. -/
  required : ∀ name, name ∈ object.required
    ↔ ∃ field, description.governing? name = some field ∧ field.nillable = false
  /-- The optional names are those whose governing field may be left empty. -/
  optional : ∀ name, name ∈ object.optional
    ↔ ∃ field, description.governing? name = some field ∧ field.nillable = true

/-- The result of making the schema of the records is the object schema of the object. -/
theorem represents_of_recordSchema_eq_ok {settings : Settings} {description : Description}
    {session : Session} {object : ObjectSchema}
    (hobject : ((recordSchema settings description).runIn session).1 = .ok object) :
  Represents settings description session object
  := by
  obtain ⟨h, heq⟩ := eq_of_recordSchema_eq_ok hobject
  have hholds : object.Holds (fieldProperties session description.fields) := by
    apply ObjectSchema.holds_of_properties_eq
    rw [heq]
  have hrequired (name : String) : name ∈ object.required
      ↔ ∃ p, (fieldProperties session description.fields).findRev? (·.name == name) = some p
        ∧ p.required = true := by
    rw [hholds.required, mem_requiredAfter]
  constructor
  · rw [heq]
    rfl
  · rw [heq]
  · rw [hholds.ordered, names_fieldProperties h]
  · apply hholds.distinct
  · intro before field rest hfields hrest
    rw [hfields] at h
    obtain ⟨schema, hschema, hfind⟩ := findRev?_fieldProperties h hrest session
    use schema
    constructor
    · rw [hholds.found, hfields, hfind]
      rfl
    · rw [recordSchema, runIn_putFields_of_supported]
      · apply hschema
      · intro other hother
        apply h
        apply List.mem_append_left _ hother
  · intro name
    rw [hrequired]
    cases hname : description.governing? name with
    | none =>
        rw [findRev?_of_governing?_eq_none h hname]
        simp
    | some field =>
        obtain ⟨schema, hfind⟩ := findRev?_of_governing? h hname session
        rw [hfind]
        simp
  · intro name
    have hnames : name ∈ object.names ↔ (description.governing? name).isSome = true := by
      rw [hholds.ordered, names_fieldProperties h, List.mem_eraseDups, List.mem_map,
        isSome_governing?_iff]
    rw [hholds.optional, List.mem_filter, decide_eq_true_iff, hnames, hrequired]
    cases hname : description.governing? name with
    | none => simp
    | some field =>
        obtain ⟨schema, hfind⟩ := findRev?_of_governing? h hname session
        rw [hfind]
        simp

/-- There is a property with a name exactly when the name is governed by a field. -/
theorem Represents.exists_property_iff {settings : Settings} {description : Description}
    {session : Session} {object : ObjectSchema}
    (h : Represents settings description session object) (name : String) :
  (∃ p ∈ object.properties, p.name = name)
    ↔ ∃ field, description.governing? name = some field
  := by
  rw [← Option.isSome_iff_exists, isSome_governing?_iff, ← List.mem_map, ← List.mem_map]
  change name ∈ object.names ↔ _
  rw [h.names, List.mem_eraseDups]

/-- A property comes from the field that governs its name, whose schema is made in the session
that the fields before it leave. -/
theorem exists_field_of_mem_properties {settings : Settings} {description : Description}
    {session : Session} {object : ObjectSchema}
    (hobject : ((recordSchema settings description).runIn session).1 = .ok object)
    {p : Property} (hp : p ∈ object.properties) :
  ∃ before field rest, description.fields = before ++ field :: rest
    ∧ description.governing? p.name = some field
    ∧ (field.schema.runIn (session.afterFields before)).1 = .ok p.schema
    ∧ p.required = !field.nillable
  := by
  obtain ⟨h, heq⟩ := eq_of_recordSchema_eq_ok hobject
  have hproperties : object.properties
      = putAll (fieldProperties session description.fields) [] := by rw [heq]
  have hlast : (fieldProperties session description.fields).findRev? (·.name == p.name)
      = some p := by
    rw [← find?_putAll, find?_key_eq_some_iff (nodup_names_putAll _), ← hproperties]
    use hp
  cases hgoverning : description.governing? p.name with
  | none =>
      rw [findRev?_of_governing?_eq_none h hgoverning] at hlast
      cases hlast
  | some field =>
      obtain ⟨hname, before, rest, hfields, hrest⟩ := governing?_eq_some_iff.mp hgoverning
      rw [← hname] at hlast hrest
      rw [hfields] at h hlast
      obtain ⟨schema, hschema, hfind⟩ := findRev?_fieldProperties h hrest session
      rw [hlast] at hfind
      obtain rfl := Option.some.inj hfind
      use before, field, rest, hfields, rfl, hschema

/-- Making the schema of the records fails exactly when the tag of some field is that of no
SOAP type, and then with the first such tag; its result, if there is one, is the object schema
of the object. -/
theorem recordSchema_result (settings : Settings) (description : Description)
    (session : Session) :
  ((∃ failure, ((recordSchema settings description).runIn session).1 = .error failure)
      ↔ ∃ field ∈ description.fields, SoapType.ofTag? field.tag = none)
    ∧ (∀ failure, ((recordSchema settings description).runIn session).1 = .error failure
      ↔ ∃ field,
        description.fields.find? (fun field => (SoapType.ofTag? field.tag).isNone) = some field
          ∧ failure = .unsupportedTag field.tag)
    ∧ ∀ object, ((recordSchema settings description).runIn session).1 = .ok object →
      Represents settings description session object
  := by
  have hfailure (failure : Failure) :
      ((recordSchema settings description).runIn session).1 = .error failure
        ↔ ∃ field, description.fields.find? (·.isUnsupported) = some field
          ∧ failure = .unsupportedTag field.tag := by
    rcases runIn_recordSchema settings description session with
      ⟨field, hfield, hrun⟩ | ⟨hnone, hrun⟩
    · rw [hrun, hfield]
      simp [eq_comm]
    · rw [hrun, hnone]
      simp
  constructor
  · constructor
    · rintro ⟨failure, hrun⟩
      obtain ⟨field, hfield, -⟩ := (hfailure failure).mp hrun
      use field, List.mem_of_find?_eq_some hfield
      simpa [Field.isUnsupported] using List.find?_some hfield
    · rintro ⟨field, hfield, htag⟩
      have : (description.fields.find? (·.isUnsupported)).isSome = true := by
        apply List.find?_isSome.mpr
        use field, hfield
        simp [Field.isUnsupported, htag]
      obtain ⟨first, hfirst⟩ := Option.isSome_iff_exists.mp this
      use .unsupportedTag first.tag
      apply (hfailure _).mpr
      use first, hfirst
  · use hfailure
    intro object hobject
    apply represents_of_recordSchema_eq_ok hobject

end RecordSchema
