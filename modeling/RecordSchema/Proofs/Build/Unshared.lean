import RecordSchema.Proofs.Build.Outcome
import RecordSchema.Proofs.Build.Providers

/-!
# Sharing does not show

The schema of the records of an object can also be made without sharing anything, where the
schema of each compound value is derived anew and is a node of its own. The result is the same,
and it is the same whatever a provider has been asked before, be it by builds that failed midway.
What the provider has derived afterwards is what it had derived before, and what the fields map
to that stand before the first one of no SOAP type.
-/

namespace RecordSchema

/-! ### Builds that share nothing -/

/-- The object schema of a compound value, derived anew, as a node of its own. -/
def Build.own (compound : Compound) : Build SharedObject := do
  let schema ← shape compound.shape
  let session ← get
  set { session with nextNode := session.nextNode + 1 }
  return ⟨session.nextNode, schema⟩

/-- The schema of the values of a representation, which shares nothing. -/
def Representation.ownSchema : Representation → Build Schema
  | .plain kind => pure (.ofKind kind)
  | .dateTime => pure (.string { format := some .dateTime })
  | .compound value => return (← Build.own value).use

/-- The schema of a field, which shares nothing. -/
def Field.ownSchema (field : Field) : Build Schema := do
  Build.note (.mapping field.name field.tag)
  match SoapType.ofTag? field.tag with
  | none => throw (.unsupportedTag field.tag)
  | some type => return field.decorate (← type.representation.ownSchema)

/-- The schema of the records of an object, which shares nothing. -/
def ownRecordSchema (settings : Settings) (description : Description) : Build ObjectSchema :=
  putFieldsBy Field.ownSchema
    { id := some (settings.objectId description.name)
      annotations := { title := some description.label } }
    description.fields

/-- Making the schema of a representation without sharing does not fail. -/
theorem Representation.exists_runIn_ownSchema (representation : Representation)
    (session : Session) :
  ∃ schema after, Build.runIn session representation.ownSchema = (.ok schema, after)
    ∧ schema.unnumbered = representation.unnumbered
  := by
  cases representation with
  | plain kind =>
      refine ⟨_, _, rfl, ?_⟩
      cases kind <;> rfl
  | dateTime => exact ⟨_, _, rfl, rfl⟩
  | compound value =>
      rw [ownSchema, Build.own, bind_assoc,
        Build.runIn_bind_ok session (Build.runIn_shape session value.shape)]
      exact ⟨_, _, rfl, rfl⟩

/-- Making the schemas of fields without sharing is faithful in all sessions. -/
theorem faithful_ownSchema :
  Faithful Field.ownSchema fun _ => True
  := by
  constructor
  case failed =>
    intro field failure session _ hmapping
    obtain ⟨hfield, rfl⟩ := Field.mapping_eq_error_iff.mp hmapping
    rw [Field.isUnsupported, Option.isNone_iff_eq_none] at hfield
    rw [Field.ownSchema, Build.runIn_bind_ok session (Build.runIn_note session _), hfield]
    exact ⟨_, rfl⟩
  case made =>
    intro field representation session _ hmapping
    obtain ⟨type, htype, rfl⟩ := Field.mapping_eq_ok_iff.mp hmapping
    obtain ⟨schema, after, hrun, hschema⟩ :=
      type.representation.exists_runIn_ownSchema (field.noted session)
    rw [Field.ownSchema, Build.runIn_bind_ok session (Build.runIn_note session _), htype]
    refine ⟨_, _, Build.runIn_bind_ok _ hrun, trivial, ?_⟩
    rw [Field.unnumbered_decorate, hschema]

/-- What comes of making the schema of the records without sharing. -/
theorem ownRecordSchema_outcome (settings : Settings) (description : Description)
    (session : Session) :
  ((ownRecordSchema settings description).runIn session).1.map (·.unnumbered)
    = recordOutcome settings description
  := faithful_ownSchema.outcome trivial _ description.fields

/-! ### The same results -/

/-- Two results are the same: they are the same failure, or object schemas that are equal and
have the same text. -/
inductive SameResult : Except Failure ObjectSchema → Except Failure ObjectSchema → Prop
  | failed (failure : Failure) : SameResult (.error failure) (.error failure)
  | made {object other : ObjectSchema} (hequal : object.equal other = true)
    (htext : ∀ layout, (Schema.object object).text layout = (Schema.object other).text layout) :
    SameResult (.ok object) (.ok other)

/-- Results that differ only in the numbers of nodes are the same. -/
theorem sameResult_of_map_unnumbered_eq {result other : Except Failure ObjectSchema}
    (h : result.map (·.unnumbered) = other.map (·.unnumbered)) :
  SameResult result other
  := by
  rcases failed_or_made_of_map_eq h with ⟨failure, rfl, rfl⟩ | ⟨object, same, rfl, rfl, hsame⟩
  · apply SameResult.failed
  · apply SameResult.made
    · apply ObjectSchema.equal_of_unnumbered_eq hsame
    · intro layout
      rw [Schema.text, Schema.text, ObjectSchema.document_of_unnumbered_eq hsame]

/-! ### What has been derived -/

/-- Putting the schemas of fields visits the compound values to which the fields are mapped that
stand before the first one of no SOAP type. -/
theorem memory_runIn_putFields (object : ObjectSchema) (fields : List Field)
    (session : Session) :
  ((putFields object fields).runIn session).2.memory
    = session.memory.after Compound.object
      ((fields.takeWhile (!·.isUnsupported)).filterMap (·.compound?))
  := by
  induction fields generalizing object session with
  | nil => rfl
  | cons field rest ih =>
      have hafter := field.memory_runIn_schema session
      rw [putFields, Build.runIn_bind]
      cases hfield : field.isUnsupported with
      | true =>
          rw [Field.runIn_schema_of_unsupported hfield,
            List.takeWhile_cons_of_neg (by simp [hfield])]
          rfl
      | false =>
          obtain ⟨schema, after, hrun⟩ := Field.exists_runIn_schema hfield session
          rw [hrun] at hafter ⊢
          rw [List.takeWhile_cons_of_pos (by simp [hfield]), List.filterMap_cons]
          dsimp only
          rw [ih, hafter]
          cases field.compound? with
          | none => rfl
          | some compound => rfl

/-- After the schema of the records has been made, or making it has failed, the shared schema of a
compound value has been derived if it had been before, or if a field maps to the value that stands
before the first one of no SOAP type. -/
theorem isDerived_runIn_recordSchema (settings : Settings) (description : Description)
    (session : Session) (compound : Compound) :
  ((recordSchema settings description).runIn session).2.isDerived compound = true
    ↔ session.isDerived compound = true
      ∨ ∃ field ∈ description.fields.takeWhile (!·.isUnsupported),
        field.compound? = some compound
  := by
  have hafter := Memory.isSome_node?_after Compound.object session.memory
    ((description.fields.takeWhile (!·.isUnsupported)).filterMap (·.compound?)) compound
  rw [← memory_runIn_putFields, List.mem_filterMap, or_comm] at hafter
  apply hafter

/-! ### Histories -/

/-- What may happen before a provider is asked for the schema of the records of an object. -/
inductive Call where
  /-- The provider is asked for the schema of a compound value or of a field. -/
  | request (request : Request)
  /-- The provider is asked for the schema of the records of an object. -/
  | record (settings : Settings) (description : Description)
  /-- Other providers make nodes, and entries are added to the log. -/
  | elsewhere (nodes : Nat) (events : List Event)

namespace Session

/-- The session after a call, whether it fails or not. -/
def call (session : Session) : Call → Session
  | .request request => (request.schema.runIn session).2
  | .record settings description => ((recordSchema settings description).runIn session).2
  | .elsewhere nodes events =>
    { session with nextNode := session.nextNode + nodes, log := session.log ++ events }

/-- The session after calls, one after the other. -/
def calls (session : Session) (calls : List Call) : Session := calls.foldl call session

/-- A call leaves a sound session. -/
theorem Sound.call {session : Session} (h : session.Sound) (call : Call) :
  (session.call call).Sound
  := by
  cases call with
  | request request =>
      cases request with
      | shared compound =>
          rw [Session.call, Request.runIn_shared]
          apply h.obtain
      | field field => apply h.runIn_schema
  | record settings description => apply h.runIn_putFields
  | elsewhere nodes events =>
      intro compound shared hshared
      apply h compound
      cases compound with
      | address => apply hshared
      | geolocation => apply hshared

/-- Calls leave a sound session. -/
theorem Sound.calls {session : Session} (h : session.Sound) (calls : List Call) :
  (session.calls calls).Sound
  := by
  induction calls generalizing session with
  | nil => apply h
  | cons call calls ih => apply ih (h.call call)

end Session

/-- What a session remembers does not show in the schema of the records of an object. -/
structure Transparent (settings : Settings) (description : Description) (session : Session) :
    Prop where
  /-- The result is the same where nothing has been derived. -/
  fresh : ∀ nextNode log, SameResult ((recordSchema settings description).runIn session).1
    ((recordSchema settings description).runIn { nextNode, log }).1
  /-- The result is the same where nothing is shared. -/
  own : ∀ other, SameResult ((recordSchema settings description).runIn session).1
    ((ownRecordSchema settings description).runIn other).1
  /-- A shared schema has been derived afterwards if it had been before, or if a field maps to its
  compound value that stands before the first one of no SOAP type. -/
  derived : ∀ compound,
    ((recordSchema settings description).runIn session).2.isDerived compound = true
      ↔ session.isDerived compound = true
        ∨ ∃ field ∈ description.fields.takeWhile (!·.isUnsupported),
          field.compound? = some compound

/-- Whatever a provider has been asked for, what it remembers does not show. -/
theorem transparent_after_calls (settings : Settings) (description : Description)
    (nextNode : Nat) (log : List Event) (calls : List Call) :
  Transparent settings description (Session.calls { nextNode, log } calls)
  := by
  have hfresh (nextNode : Nat) (log : List Event) : Session.Sound { nextNode, log } :=
    Session.sound_forget { nextNode, log }
  have houtcome := recordSchema_outcome ((hfresh nextNode log).calls calls) settings description
  constructor
  case fresh =>
    intro nextNode log
    apply sameResult_of_map_unnumbered_eq
    rw [houtcome, recordSchema_outcome (hfresh nextNode log)]
  case own =>
    intro other
    apply sameResult_of_map_unnumbered_eq
    rw [houtcome, ownRecordSchema_outcome]
  case derived => apply isDerived_runIn_recordSchema

/-- A build that fails at its third field leaves what the first one maps to, and not what the
last one would have mapped to. -/
example :
  let after := Session.calls {} [.record {} {
    name := "Store"
    fields := [
      { name := "Place", tag := "urn:address" }, { name := "Name", tag := "string" },
      { name := "Weird", tag := "weird" }, { name := "Position", tag := "location" }] }]
  after.isDerived .address = true ∧ after.isDerived .geolocation = false
  := by
  constructor
  · rfl
  · rfl

end RecordSchema
