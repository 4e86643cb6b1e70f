import RecordSchema.Proofs.Build.Sound
import RecordSchema.Proofs.Draft.Validity

/-!
# Values of fields

Which values the schema of a field admits. With choices it is one of them or a selection of
them, whatever the type of the field; otherwise it is a value of its type. The values of the
compound types are objects, in which nothing is required.
-/

namespace RecordSchema

open Json Draft

/-! ### Values of fields -/

/-- An object whose members with given names are of given types. -/
def Draft.HasMembers (reading : Reading) (types : List (String × String)) (v : Json) : Prop :=
  ∃ members, v = .object members
    ∧ ∀ name type, (name, type) ∈ types → ∀ value, (name, value) ∈ members →
      HasType reading type value

/-- The values of a SOAP type. -/
def SoapType.Admits (reading : Reading) : SoapType → Json → Prop
  | .id | .string | .base64Binary | .anyType | .dateTime | .time | .date | .g =>
    HasType reading "string"
  | .integer | .int | .long | .short | .byte | .unsignedInt | .unsignedShort
  | .unsignedByte => HasType reading "integer"
  | .decimal | .float | .double => HasType reading "number"
  | .boolean => HasType reading "boolean"
  | .address => HasMembers reading [
      ("city", "string"), ("country", "string"), ("countryCode", "string"),
      ("geocodeAccuracy", "string"), ("latitude", "number"), ("longitude", "number"),
      ("postalCode", "string"), ("state", "string"), ("stateCode", "string"),
      ("street", "string")]
  | .location => HasMembers reading [("latitude", "number"), ("longitude", "number")]

/-- The values of a field: one of its choices, a selection of them, or any value of its
type. -/
def Field.Admits (reading : Reading) (field : Field) (v : Json) : Prop :=
  match field.selection with
  | .one => ∃ choice ∈ field.choices.getD [], v = .string choice.value
  | .many => ∃ s, v = .string s ∧ reading.pattern (selectionPattern field.choices) s
  | .free => ∃ type, SoapType.ofTag? field.tag = some type ∧ type.Admits reading v

/-! ### Plain members -/

section

variable (reading : Reading) (refs : String → Json → Prop)

/-- A property that is not required and that says of what type its values are. -/
def plainProperty (name : String) (kind : Kind) : Property := ⟨name, false, .ofKind kind⟩

/-- A schema that only says of what type its values are. -/
theorem valid_ofKind (kind : Kind) (v : Json) :
  Valid reading refs (Schema.ofKind kind).document v ↔ HasType reading kind.name v
  := by
  cases kind with
  | null => apply valid_simple
  | string =>
      rw [Schema.ofKind, valid_string]
      simp [Kind.name]
  | integer => apply valid_simple
  | number => apply valid_simple
  | boolean => apply valid_simple
  | object =>
      have hnone (name : String) : name ∉ ObjectSchema.required {} := by
        rw [ObjectSchema.mem_required_iff]
        simp
      rw [Schema.ofKind, Schema.document, valid_members]
      simp [Kind.name, hnone]
  | array =>
      rw [Schema.ofKind, valid_array]
      simp [Kind.name]

/-- What plain properties say about members. -/
theorem valid_plainProperties_iff (types : List (String × Kind))
    (members : List (String × Json)) :
  (∀ p ∈ types.map fun t => plainProperty t.1 t.2, ∀ value, (p.name, value) ∈ members →
      Valid reading refs p.schema.document value)
    ↔ ∀ name type, (name, type) ∈ types.map (fun t => (t.1, t.2.name)) →
      ∀ value, (name, value) ∈ members → HasType reading type value
  := by
  induction types with
  | nil => simp
  | cons t rest ih =>
      rw [List.map_cons, List.map_cons, List.forall_mem_cons, ih]
      simp only [plainProperty, valid_ofKind, List.mem_cons, or_imp, forall_and, Prod.mk.injEq,
        and_imp, forall_eq_apply_imp_iff, forall_eq]

/-- Objects whose properties are all plain admit objects with members of their types. -/
theorem valid_members_of_plain {object : ObjectSchema} {types : List (String × Kind)}
    (hproperties : object.properties = types.map fun t => plainProperty t.1 t.2)
    (honeOf : object.oneOf = none) (a : Annotations) (v : Json) :
  Valid reading refs (.object (object.members a)) v
    ↔ HasMembers reading (types.map fun t => (t.1, t.2.name)) v
  := by
  have hrequired : ∀ name, name ∉ object.required := by
    intro name hname
    obtain ⟨p, hp, hrequired, -⟩ := ObjectSchema.mem_required_iff.mp hname
    rw [hproperties] at hp
    obtain ⟨t, -, rfl⟩ := List.mem_map.mp hp
    cases hrequired
  rw [valid_members, hproperties, honeOf, HasMembers]
  simp only [valid_plainProperties_iff, hrequired]
  simp

/-! ### Schemas of fields -/

/-- The schema of a SOAP type, made in a sound session, admits the values of the type. -/
theorem valid_represent {session : Session} (h : session.Sound) (type : SoapType) (v : Json) :
  Valid reading refs (session.represent type.representation).1.document v
    ↔ type.Admits reading v
  := by
  cases type
  case id | string | base64Binary | anyType => apply valid_ofKind reading refs .string
  case integer | int | long | short | byte | unsignedInt | unsignedShort | unsignedByte =>
    apply valid_ofKind reading refs .integer
  case decimal | float | double => apply valid_ofKind reading refs .number
  case boolean => apply valid_ofKind reading refs .boolean
  case dateTime | time | date | g =>
    rw [SoapType.representation, Session.represent, valid_string]
    simp [SoapType.Admits]
  case address =>
    have hproperties : Shape.address.object.properties = ([
        ("city", .string), ("country", .string), ("countryCode", .string),
        ("geocodeAccuracy", .string), ("latitude", .number), ("longitude", .number),
        ("postalCode", .string), ("state", .string), ("stateCode", .string),
        ("street", .string)] : List (String × Kind)).map fun t => plainProperty t.1 t.2 := rfl
    rw [SoapType.representation, Session.represent, SharedObject.use, h.schema_obtain,
      Schema.document]
    apply valid_members_of_plain reading refs hproperties rfl
  case location =>
    have hproperties : Shape.geolocation.object.properties = ([
        ("latitude", .number), ("longitude", .number)] : List (String × Kind)).map
        fun t => plainProperty t.1 t.2 := rfl
    rw [SoapType.representation, Session.represent, SharedObject.use, h.schema_obtain,
      Schema.document]
    apply valid_members_of_plain reading refs hproperties rfl

/-- The string schema nearest to the schema of a representation has neither values nor a
pattern. -/
theorem asString_represent (session : Session) (representation : Representation) :
  (session.represent representation).1.asString.values = none
    ∧ (session.represent representation).1.asString.pattern = none
  := by
  cases representation with
  | plain kind => cases kind <;> exact ⟨rfl, rfl⟩
  | dateTime => exact ⟨rfl, rfl⟩
  | compound value => exact ⟨rfl, rfl⟩

/-- The schema of a field admits the values of the field. -/
theorem valid_decorate {field : Field} {type : SoapType}
    (htype : SoapType.ofTag? field.tag = some type) {session : Session} (h : session.Sound)
    (v : Json) :
  Valid reading refs (field.decorate (session.represent type.representation).1).document v
    ↔ field.Admits reading v
  := by
  obtain ⟨hvalues, hpattern⟩ := asString_represent session type.representation
  rw [Field.decorate, valid_annotate, Field.restrict, Field.Admits]
  cases field.selection with
  | one =>
      dsimp only
      rw [valid_string]
      simp only [hpattern, choiceSet, Option.some.injEq, forall_eq', StringSet.mem_ofList]
      constructor
      · rintro ⟨s, rfl, hs, -⟩
        obtain ⟨choice, hchoice, rfl⟩ := List.mem_map.mp hs
        use choice, hchoice
      · rintro ⟨choice, hchoice, rfl⟩
        use choice.value, rfl, List.mem_map_of_mem hchoice
        simp
  | many =>
      dsimp only
      rw [valid_string]
      simp [hvalues]
  | free =>
      dsimp only
      rw [valid_represent reading refs h, htype]
      simp

/-- What is made as the schema of a field in a sound session admits the values of the field. -/
theorem valid_schema {field : Field} {session : Session} (h : session.Sound) {schema : Schema}
    (hschema : (field.schema.runIn session).1 = .ok schema) (v : Json) :
  Valid reading refs schema.document v ↔ field.Admits reading v
  := by
  cases htype : SoapType.ofTag? field.tag with
  | none =>
      rw [Field.runIn_schema_of_unsupported (by simp [Field.isUnsupported, htype])] at hschema
      cases hschema
  | some type =>
      rw [Field.runIn_schema_of_ofTag? htype] at hschema
      obtain rfl := Except.ok.inj hschema
      apply valid_decorate reading refs htype (h.note _)

end

end RecordSchema
