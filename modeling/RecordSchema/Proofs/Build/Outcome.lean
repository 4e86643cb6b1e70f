import RecordSchema.Proofs.Build.Generate
import RecordSchema.Proofs.Build.Sharing
import RecordSchema.Proofs.Schema.Equality

/-!
# Outcomes

Up to the numbers of nodes, what a build gives is known from the settings and the description
alone, whatever a sound session remembers: each field gives a property, or fails with its tag,
and the properties are put into the object schema one by one. Documents do not show the numbers
of nodes, so the text of the schemas of an object is known altogether.
-/

namespace RecordSchema

/-! ### Fields -/

/-- The schema of a representation, whose node, if it is that of a compound value, has the
number zero. -/
def Representation.unnumbered : Representation → Schema
  | .plain kind => .ofKind kind
  | .dateTime => .string { format := some .dateTime }
  | .compound value => .shared 0 value.object {}

/-- A sound session represents values as any other one does, up to the numbers of nodes. -/
theorem Session.Sound.unnumbered_represent {session : Session} (h : session.Sound)
    (representation : Representation) :
  (session.represent representation).1.unnumbered = representation.unnumbered
  := by
  cases representation with
  | plain kind => cases kind <;> rfl
  | dateTime => rfl
  | compound value =>
      change Schema.shared 0 (session.obtain value).1.schema {} = _
      rw [h.schema_obtain]
      rfl

namespace Field

/-- How the values of the field are represented, unless its tag is that of no SOAP type. -/
def mapping (field : Field) : Except Failure Representation := Representation.ofTag field.tag

theorem mapping_eq_ok_iff {field : Field} {representation : Representation} :
  field.mapping = .ok representation
    ↔ ∃ type, SoapType.ofTag? field.tag = some type ∧ type.representation = representation
  := Representation.ofTag_eq_ok_iff

theorem mapping_eq_error_iff {field : Field} {failure : Failure} :
  field.mapping = .error failure
    ↔ field.isUnsupported = true ∧ .unsupportedTag field.tag = failure
  := by
  rw [mapping, Representation.ofTag_eq_error_iff, SoapType.ofTag_eq_error_iff, isUnsupported,
    Option.isNone_iff_eq_none]

/-- The property that the field gives, up to the number of its node. -/
def property (field : Field) : Except Failure Property :=
  field.mapping.map fun representation =>
    ⟨field.name, !field.nillable, field.decorate representation.unnumbered⟩

/-- What the field says does not depend on the number of a node. -/
theorem unnumbered_decorate (field : Field) (s : Schema) :
  (field.decorate s).unnumbered = field.decorate s.unnumbered
  := by
  rw [decorate, decorate, Schema.unnumbered_annotate, restrict, restrict]
  cases field.selection with
  | one => rw [Schema.asString_unnumbered]; rfl
  | many => rw [Schema.asString_unnumbered]; rfl
  | free => rfl

end Field

/-! ### Records -/

/-- The object schema of the records, up to the numbers of nodes. -/
def recordOutcome (settings : Settings) (description : Description) :
    Except Failure ObjectSchema :=
  (description.fields.mapM Field.property).map fun properties =>
    { id := some (settings.objectId description.name)
      annotations := { title := some description.label }
      properties := putAll properties [] }

/-- Two results that can be mapped to the same one are the same failure, or both are object
schemas. -/
theorem failed_or_made_of_map_eq {result other : Except Failure ObjectSchema}
    {f g : ObjectSchema → ObjectSchema} (h : result.map f = other.map g) :
  (∃ failure, result = .error failure ∧ other = .error failure)
    ∨ ∃ object same, result = .ok object ∧ other = .ok same ∧ f object = g same
  := by
  cases result with
  | error failure =>
      cases other with
      | error another =>
          obtain rfl := Except.error.inj h
          left
          use failure
      | ok same => cases h
  | ok object =>
      cases other with
      | error failure => cases h
      | ok same =>
          right
          use object, same, rfl, rfl, Except.ok.inj h

/-- The schemas of fields, made in some way, put into an object schema one by one. -/
def putFieldsBy (make : Field → Build Schema) (object : ObjectSchema) (fields : List Field) :
    Build ObjectSchema :=
  fields.foldlM (fun object field => return object.put ⟨field.name, !field.nillable, ← make field⟩)
    object

theorem putFields_eq_putFieldsBy (object : ObjectSchema) (fields : List Field) :
  putFields object fields = putFieldsBy Field.schema object fields
  := by
  induction fields generalizing object with
  | nil => rfl
  | cons field rest ih =>
      rw [putFields, putFieldsBy, List.foldlM_cons, bind_assoc]
      simp only [pure_bind, ih]
      rfl

/-- A way of making the schemas of fields is faithful in some sessions if it gives what the fields
say, up to the numbers of nodes, and leaves such a session, or fails where the field has no
representation. -/
structure Faithful (make : Field → Build Schema) (sessions : Session → Prop) : Prop where
  failed : ∀ {field failure session}, sessions session → field.mapping = .error failure →
    ∃ after, (make field).runIn session = (.error failure, after)
  made : ∀ {field representation session}, sessions session →
    field.mapping = .ok representation →
    ∃ schema after, (make field).runIn session = (.ok schema, after) ∧ sessions after
      ∧ schema.unnumbered = field.decorate representation.unnumbered

/-- Putting the schemas of fields, made in a faithful way, is putting the properties that the
fields give, up to the first one that gives none. -/
theorem Faithful.outcome {make : Field → Build Schema} {sessions : Session → Prop}
    (h : Faithful make sessions) {session : Session} (hsession : sessions session)
    (object : ObjectSchema) (fields : List Field) :
  ((putFieldsBy make object fields).runIn session).1.map (·.unnumbered)
    = (fields.mapM Field.property).map fun properties =>
      { object.unnumbered with properties := putAll properties object.unnumbered.properties }
  := by
  induction fields generalizing object session with
  | nil => rfl
  | cons field rest ih =>
      rw [putFieldsBy, List.foldlM_cons, List.mapM_cons, bind_assoc, Field.property]
      cases hmapping : field.mapping with
      | error failure =>
          obtain ⟨after, hrun⟩ := h.failed hsession hmapping
          rw [Build.runIn_bind_error session hrun]
          rfl
      | ok representation =>
          obtain ⟨schema, after, hrun, hafter, hschema⟩ := h.made hsession hmapping
          have hrest := ih hafter (object.put ⟨field.name, !field.nillable, schema⟩)
          rw [ObjectSchema.unnumbered_put, Property.unnumbered, hschema] at hrest
          rw [Build.runIn_bind_ok session hrun, pure_bind]
          apply hrest.trans
          cases rest.mapM Field.property with
          | error failure => rfl
          | ok properties => rfl

/-- Making the schemas of fields is faithful in sound sessions. -/
theorem faithful_schema :
  Faithful Field.schema Session.Sound
  := by
  constructor
  case failed =>
    intro field failure session _ hmapping
    obtain ⟨hfield, rfl⟩ := Field.mapping_eq_error_iff.mp hmapping
    exact ⟨_, Field.runIn_schema_of_unsupported hfield session⟩
  case made =>
    intro field representation session h hmapping
    obtain ⟨type, htype, rfl⟩ := Field.mapping_eq_ok_iff.mp hmapping
    have hnoted : (field.noted session).Sound := h.note _
    refine ⟨_, _, Field.runIn_schema_of_ofTag? htype session, hnoted.represent _, ?_⟩
    rw [Field.unnumbered_decorate, hnoted.unnumbered_represent]

/-- The object schema of the records, made in a sound session, up to the numbers of nodes. -/
theorem recordSchema_outcome {session : Session} (h : session.Sound) (settings : Settings)
    (description : Description) :
  ((recordSchema settings description).runIn session).1.map (·.unnumbered)
    = recordOutcome settings description
  := by
  rw [recordSchema, putFields_eq_putFieldsBy]
  apply faithful_schema.outcome h

/-! ### Roots -/

/-- The document of the root of a set shows the set only in the list of alternatives. -/
theorem document_rootOf (set : SchemaSet) (id : String) :
  (rootOf set id).document
    = .object [
        ("type", .string Kind.object.name),
        ("$schema", .string draft),
        ("id", .string id),
        ("oneOf", .array (schemaDocuments set.members))]
  := rfl

/-- The documents of the members of a generated set do not show the numbers of nodes. -/
theorem schemaDocuments_generatedSet_unnumbered (settings : Settings) (name : String)
    (object : ObjectSchema) :
  schemaDocuments (generatedSet settings name object.unnumbered).members
    = schemaDocuments (generatedSet settings name object).members
  := by
  have hrecord := object.document_unnumbered
  have hquery : queryObject settings name object.unnumbered = queryObject settings name object :=
    rfl
  rw [generatedSet, generatedSet]
  split
  · simp only [schemaDocuments, hrecord, hquery]
  · simp only [schemaDocuments, hrecord]

/-- The root of the schemas of an object, if there is one, has the generated set as its
alternatives. -/
theorem result_objectRoot (settings : Settings) (description : Description)
    (session : Session) :
  ((objectRoot settings description).runIn session).1
    = ((recordSchema settings description).runIn (session.starting description)).1.map
      fun object => rootOf (generatedSet settings description.name object) settings.idPrefix
  := by
  rw [objectRoot, Build.runIn_bind, runIn_generate]
  rcases (recordSchema settings description).runIn (session.starting description) with
    ⟨failure | object, after⟩
  · rfl
  · rfl

/-- The text of the schemas of an object is known from the settings and the description. -/
theorem objectText_outcome (settings : Settings) (description : Description)
    (session : Session) :
  ((objectText settings description).runIn session).1
    = (recordOutcome settings description).map fun object =>
      (rootOf (generatedSet settings description.name object) settings.idPrefix).text
        settings.layout
  := by
  have hroot := result_objectRoot settings description session
  have hsound : (session.starting description).Sound := Session.sound_forget _
  rw [← recordSchema_outcome hsound, objectText, Build.runIn_bind]
  rcases hrun : (objectRoot settings description).runIn session with ⟨result, after⟩
  rw [hrun] at hroot
  obtain rfl : result = _ := hroot
  rcases ((recordSchema settings description).runIn (session.starting description)).1 with
    failure | object
  · rfl
  · have hdocument := schemaDocuments_generatedSet_unnumbered settings description.name object
    simp only [Except.map, Build.runIn_pure, Schema.text, document_rootOf, hdocument]

end RecordSchema
