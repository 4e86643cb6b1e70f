import RecordSchema.Proofs.Build.Outcome
import RecordSchema.Proofs.Build.References

/-!
# Settings only format

Whether the schemas of an object are made, and what they say, does not depend on the settings. The
prefix shows in the identifiers and in the reference to the schema of the records, and nowhere
else. Where no schema of the query results is wanted, the document of the root lacks its second
alternative, and nothing else.
-/

namespace RecordSchema

/-! ### References of trees -/

mutual

/-- The schema in which all references go to other identifiers. -/
def Schema.mapRefs (f : String → String) : Schema → Schema
  | .simple kind a => .simple kind a
  | .string s => .string s
  | .object o => .object (o.mapRefs f)
  | .array ⟨a, none⟩ => .array ⟨a, none⟩
  | .array ⟨a, some s⟩ => .array ⟨a, some (s.mapRefs f)⟩
  | .ref id => .ref (f id)
  | .shared node o a => .shared node (o.mapRefs f) a

/-- The object schema in which all references go to other identifiers. -/
def ObjectSchema.mapRefs (f : String → String) : ObjectSchema → ObjectSchema
  | ⟨id, metaSchema, a, properties, none⟩ =>
    ⟨id, metaSchema, a, mapRefsInProperties f properties, none⟩
  | ⟨id, metaSchema, a, properties, some schemas⟩ =>
    ⟨id, metaSchema, a, mapRefsInProperties f properties, some (mapRefsInSchemas f schemas)⟩

/-- The properties in whose schemas all references go to other identifiers. -/
def mapRefsInProperties (f : String → String) : List Property → List Property
  | [] => []
  | ⟨name, required, s⟩ :: rest => ⟨name, required, s.mapRefs f⟩ :: mapRefsInProperties f rest

/-- The schemas in which all references go to other identifiers. -/
def mapRefsInSchemas (f : String → String) : List Schema → List Schema
  | [] => []
  | s :: rest => s.mapRefs f :: mapRefsInSchemas f rest

end

/-- The object schema without its identifier. -/
def ObjectSchema.withoutId (object : ObjectSchema) : ObjectSchema := { object with id := none }

/-- The object schema whose references are all the same. -/
def ObjectSchema.withoutRefs (object : ObjectSchema) : ObjectSchema := object.mapRefs fun _ => ""

/-- The schemas of which an instance matches exactly one. -/
def Schema.alternatives (s : Schema) : List Schema := (s.object?.bind (·.oneOf)).getD []

/-! ### Two settings -/

/-- What two roots have in common that are made from one description with different settings. -/
structure DifferInFormat (description : Description) (settings other : Settings)
    (root another : Schema) : Prop where
  /-- The schemas of the records differ only in their identifiers, which are the prefix of the
  settings and the name of the object, with a colon between them. -/
  records : ∃ object same : ObjectSchema,
    root.alternatives[0]? = some (.object object)
      ∧ another.alternatives[0]? = some (.object same)
      ∧ object.id = some (settings.idPrefix ++ ":" ++ description.name)
      ∧ same.id = some (other.idPrefix ++ ":" ++ description.name)
      ∧ object.withoutId.equal same.withoutId = true
      ∧ (Schema.object object.withoutId).document = (Schema.object same.withoutId).document
  /-- The schemas of the query results, if settings ask for them, differ only in their identifiers
  and in one reference, which goes to the schema of the records. -/
  pages : settings.addQuery = true → other.addQuery = true → ∃ query same : ObjectSchema,
    root.alternatives[1]? = some (.object query)
      ∧ another.alternatives[1]? = some (.object same)
      ∧ query.withoutRefs.withoutId = same.withoutRefs.withoutId
      ∧ ∀ path id, ((Schema.object query).At path (.ref id)
          ↔ path = [.property recordsProperty, .items]
            ∧ id = settings.idPrefix ++ ":" ++ description.name)
        ∧ ((Schema.object same).At path (.ref id)
          ↔ path = [.property recordsProperty, .items]
            ∧ id = other.idPrefix ++ ":" ++ description.name)
  /-- Where only one of two settings with the same prefix asks for query results, the other root
  has the same document without the second alternative. -/
  switched : settings.idPrefix = other.idPrefix → settings.addQuery = true →
    other.addQuery = false → ∃ members first second,
      root.document = .object (members ++ [("oneOf", .array [first, second])])
        ∧ another.document = .object (members ++ [("oneOf", .array [first])])

/-! ### Records -/

/-- Making the schema of the records with other settings and in another sound session changes the
identifier of that schema, up to the numbers of nodes. -/
theorem recordSchema_outcome_map {session another : Session} (hsession : session.Sound)
    (hanother : another.Sound) (settings other : Settings) (description : Description) :
  ((recordSchema settings description).runIn session).1.map (fun object =>
      { object.unnumbered with id := some (other.objectId description.name) })
    = ((recordSchema other description).runIn another).1.map (·.unnumbered)
  := by
  have hmap : recordOutcome other description
      = (recordOutcome settings description).map fun object =>
        { object with id := some (other.objectId description.name) } := by
    rw [recordOutcome, recordOutcome]
    cases description.fields.mapM Field.property with
    | error failure => rfl
    | ok properties => rfl
  rw [recordSchema_outcome hanother, hmap, ← recordSchema_outcome hsession]
  cases ((recordSchema settings description).runIn session).1 with
  | error failure => rfl
  | ok object => rfl

/-! ### Alternatives -/

/-- The schemas of the query results are the same but for identifiers and references. -/
theorem queryObject_withoutRefs (settings other : Settings) (name : String)
    (object same : ObjectSchema) :
  (queryObject settings name object).withoutRefs.withoutId
    = (queryObject other name same).withoutRefs.withoutId
  := rfl

/-- The first alternative of the root of a generated set is the schema of the records. -/
theorem records_mem_rootOf (settings : Settings) (name : String) (object : ObjectSchema) :
  (rootOf (generatedSet settings name object) settings.idPrefix).alternatives[0]?
    = some (.object object)
  := by
  apply getElem?_generatedSet_iff.mpr
  left
  use rfl

/-- The second alternative of the root of a generated set, if settings ask for it, is the schema
of the query results. -/
theorem pages_mem_rootOf {settings : Settings} (hquery : settings.addQuery = true) (name : String)
    (object : ObjectSchema) :
  (rootOf (generatedSet settings name object) settings.idPrefix).alternatives[1]?
    = some (.object (queryObject settings name object))
  := by
  apply getElem?_generatedSet_iff.mpr
  right
  use hquery, rfl

/-- The documents of the alternatives, where a schema of the query results is wanted. -/
theorem schemaDocuments_generatedSet_of_addQuery {settings : Settings}
    (hquery : settings.addQuery = true) (name : String) (object : ObjectSchema) :
  schemaDocuments (generatedSet settings name object).members
    = [(Schema.object object).document,
        (Schema.object (queryObject settings name object)).document]
  := by
  rw [generatedSet, if_pos hquery]
  rfl

/-- The document of the alternative, where no schema of the query results is wanted. -/
theorem schemaDocuments_generatedSet_of_not_addQuery {settings : Settings}
    (hquery : settings.addQuery = false) (name : String) (object : ObjectSchema) :
  schemaDocuments (generatedSet settings name object).members
    = [(Schema.object object).document]
  := by
  rw [generatedSet, hquery]
  rfl

/-- The only reference in the schema of the query results is that to the schema of the records,
which has an identifier. -/
theorem at_ref_queryObject_of_id {settings : Settings} {name : String} {object : ObjectSchema}
    (hid : object.id = some (settings.objectId name)) (path : List Step) (id : String) :
  (Schema.object (queryObject settings name object)).At path (.ref id)
    ↔ path = [.property recordsProperty, .items] ∧ id = settings.idPrefix ++ ":" ++ name
  := by
  rw [at_ref_queryObject_iff, hid]
  rfl

/-! ### Roots -/

/-- The roots of two generated sets differ in format if the schemas of the records differ only in
their identifiers and in the numbers of nodes. -/
theorem differInFormat_of_unnumbered_eq {description : Description} {settings other : Settings}
    {object same : ObjectSchema} (hid : object.id = some (settings.objectId description.name))
    (h : { object.unnumbered with id := some (other.objectId description.name) }
      = same.unnumbered) :
  DifferInFormat description settings other
    (rootOf (generatedSet settings description.name object) settings.idPrefix)
    (rootOf (generatedSet other description.name same) other.idPrefix)
  := by
  have hid' : same.id = some (other.objectId description.name) :=
    (congrArg ObjectSchema.id h).symm
  have hwithout : object.withoutId.unnumbered = same.withoutId.unnumbered :=
    congrArg ObjectSchema.withoutId h
  constructor
  case records =>
    use object, same, records_mem_rootOf settings description.name object,
      records_mem_rootOf other description.name same, hid, hid'
    use ObjectSchema.equal_of_unnumbered_eq hwithout
    apply ObjectSchema.document_of_unnumbered_eq hwithout
  case pages =>
    intro hquery hquery'
    use queryObject settings description.name object, queryObject other description.name same
    use pages_mem_rootOf hquery description.name object,
      pages_mem_rootOf hquery' description.name same
    use queryObject_withoutRefs settings other description.name object same
    intro path id
    use at_ref_queryObject_of_id hid path id
    apply at_ref_queryObject_of_id hid' path id
  case switched =>
    intro hprefix hquery hquery'
    -- With the same prefix, the schemas of the records have the same identifier, too.
    have hunnumbered : object.unnumbered = same.unnumbered := by
      rw [Settings.objectId] at hid
      rw [← h, Settings.objectId, ← hprefix, ← hid]
      rfl
    have hdocument := ObjectSchema.document_of_unnumbered_eq hunnumbered
    rw [document_rootOf, document_rootOf, ← hprefix,
      schemaDocuments_generatedSet_of_addQuery hquery,
      schemaDocuments_generatedSet_of_not_addQuery hquery', ← hdocument]
    use [("type", .string Kind.object.name), ("$schema", .string draft),
      ("id", .string settings.idPrefix)]
    use (Schema.object object).document,
      (Schema.object (queryObject settings description.name object)).document, rfl
    rfl

/-- With any two settings, the root of the schemas of an object is made with both or with neither,
and for the same reason, and the two roots differ only in format. -/
theorem settings_only_format (description : Description) (settings other : Settings)
    (session another : Session) :
  (∃ failure, ((objectRoot settings description).runIn session).1 = .error failure
      ∧ ((objectRoot other description).runIn another).1 = .error failure)
    ∨ ∃ root same, ((objectRoot settings description).runIn session).1 = .ok root
      ∧ ((objectRoot other description).runIn another).1 = .ok same
      ∧ DifferInFormat description settings other root same
  := by
  have hsession : (session.starting description).Sound := Session.sound_forget _
  have hanother : (another.starting description).Sound := Session.sound_forget _
  rw [result_objectRoot, result_objectRoot]
  rcases failed_or_made_of_map_eq
      (recordSchema_outcome_map hsession hanother settings other description) with
    ⟨failure, hfailed, hfailed'⟩ | ⟨object, same, hobject, hsame, hequal⟩
  · left
    rw [hfailed, hfailed']
    use failure, rfl
    rfl
  · right
    rw [hobject, hsame]
    refine ⟨_, _, rfl, rfl, ?_⟩
    apply differInFormat_of_unnumbered_eq (id_of_recordSchema_eq_ok hobject) hequal

end RecordSchema
