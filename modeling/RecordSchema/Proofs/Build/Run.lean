import RecordSchema.Build.Object

/-!
# Running builds

What a build does in a session, as an equation for each step: the result and the session after
it. A field fails exactly when its tag is that of no SOAP type. Nothing else can fail, as every
shape has a schema.
-/

namespace RecordSchema

/-! ### Sequences of builds -/

namespace Build

variable {α β : Type} (session : Session)

@[simp]
theorem runIn_pure (a : α) :
  runIn session (pure a) = (.ok a, session)
  := rfl

@[simp]
theorem runIn_get :
  runIn session get = (.ok session, session)
  := rfl

@[simp]
theorem runIn_modify (change : Session → Session) :
  runIn session (modify change) = (.ok ⟨⟩, change session)
  := rfl

@[simp]
theorem runIn_note (event : Event) :
  runIn session (note event) = (.ok ⟨⟩, session.note event)
  := rfl

/-- A result that does not depend on the session leaves it as it is. -/
@[simp]
theorem runIn_liftM (result : Except Failure α) :
  runIn session (liftM result) = (result, session)
  := rfl

/-- A sequence of two builds ends where the first fails, or goes on in the session after it. -/
theorem runIn_bind (build : Build α) (next : α → Build β) :
  runIn session (build >>= next)
    = match runIn session build with
      | (.ok a, after) => runIn after (next a)
      | (.error failure, after) => (.error failure, after)
  := by
  simp only [runIn, bind, ExceptT.bind, ExceptT.run, ExceptT.mk, StateT.run, StateT.bind]
  cases h : build session with
  | mk result after =>
      cases result with
      | ok a => rfl
      | error failure => rfl

/-- A sequence of builds whose first one has a result. -/
theorem runIn_bind_ok {build : Build α} {next : α → Build β} {a : α} {after : Session}
    (h : runIn session build = (.ok a, after)) :
  runIn session (build >>= next) = runIn after (next a)
  := by
  rw [runIn_bind, h]

/-- A sequence of builds whose first one fails. -/
theorem runIn_bind_error {build : Build α} {next : α → Build β} {failure : Failure}
    {after : Session} (h : runIn session build = (.error failure, after)) :
  runIn session (build >>= next) = (.error failure, after)
  := by
  rw [runIn_bind, h]

end Build

/-! ### Shapes and shared schemas -/

/-- The object schema of a shape. -/
def Shape.object (shape : Shape) : ObjectSchema :=
  match shape.schema with
  | .ok schema => schema
  | .error _ => {}

/-- Every shape has an object schema. -/
theorem Shape.schema_eq_ok (shape : Shape) :
  shape.schema = .ok shape.object
  := by
  cases shape with
  | address => rfl
  | geolocation => rfl
  | queryPage => rfl
  | attributes => rfl
  | choice => rfl
  | recentItem => rfl
  | creation => rfl
  | problem => rfl

/-- Deriving the schema of a shape does not fail. -/
theorem Build.runIn_shape (session : Session) (shape : Shape) :
  runIn session (Build.shape shape) = (.ok shape.object, session.note (.shaping shape))
  := by
  rw [Build.shape, runIn_bind_ok session (runIn_note session _), shape.schema_eq_ok]
  rfl

/-- The node of a compound value in a session, and the session in which it is there. -/
def Session.obtain (session : Session) (compound : Compound) : SharedObject × Session :=
  match session.shared? compound with
  | some shared => (shared, session)
  | none =>
    (⟨session.nextNode, compound.shape.object⟩,
      ((session.note (.sharing compound.shape)).note (.shaping compound.shape)).share compound
        compound.shape.object)

/-- Asking for the shared schema of a compound value does not fail. -/
theorem Build.runIn_shared (session : Session) (compound : Compound) :
  runIn session (Build.shared compound)
    = (.ok (session.obtain compound).1, (session.obtain compound).2)
  := by
  rw [Build.shared, runIn_bind_ok session (runIn_get session), Session.obtain]
  cases session.shared? compound with
  | some shared => rfl
  | none =>
      rw [runIn_bind_ok session (runIn_note session _),
        runIn_bind_ok _ (runIn_shape _ compound.shape)]
      rfl

/-! ### Tags -/

theorem SoapType.ofTag_eq_ok_iff {tag : String} {type : SoapType} :
  ofTag tag = .ok type ↔ ofTag? tag = some type
  := by
  rw [ofTag]
  cases ofTag? tag with
  | none => simp
  | some other => simp

/-- A tag of no SOAP type fails with the tag. -/
theorem SoapType.ofTag_eq_error_iff {tag : String} {failure : Failure} :
  ofTag tag = .error failure ↔ ofTag? tag = none ∧ .unsupportedTag tag = failure
  := by
  rw [ofTag]
  cases ofTag? tag with
  | none => simp
  | some other => simp

theorem Representation.ofTag_eq_ok_iff {tag : String} {representation : Representation} :
  ofTag tag = .ok representation
    ↔ ∃ type, SoapType.ofTag? tag = some type ∧ type.representation = representation
  := by
  simp only [← SoapType.ofTag_eq_ok_iff, ofTag]
  cases SoapType.ofTag tag with
  | error failure => simp [Except.map]
  | ok type => simp [Except.map]

/-- What has no SOAP type has no representation either. -/
theorem Representation.ofTag_eq_error_iff {tag : String} {failure : Failure} :
  ofTag tag = .error failure ↔ SoapType.ofTag tag = .error failure
  := by
  rw [ofTag]
  cases SoapType.ofTag tag with
  | error other => simp [Except.map]
  | ok type => simp [Except.map]

/-! ### Fields -/

/-- The schema of a representation in a session, and the session after it. -/
def Session.represent (session : Session) : Representation → Schema × Session
  | .plain kind => (.ofKind kind, session)
  | .dateTime => (.string { format := some .dateTime }, session)
  | .compound value => ((session.obtain value).1.use, (session.obtain value).2)

/-- Making the schema of a representation does not fail. -/
theorem Representation.runIn_schema (session : Session) (representation : Representation) :
  Build.runIn session representation.schema
    = (.ok (session.represent representation).1, (session.represent representation).2)
  := by
  cases representation with
  | plain kind => rfl
  | dateTime => rfl
  | compound value =>
      rw [Representation.schema, Build.runIn_bind_ok session (Build.runIn_shared session value)]
      rfl

namespace Field

/-- Whether the tag of the field is that of no SOAP type. -/
def isUnsupported (field : Field) : Bool := (SoapType.ofTag? field.tag).isNone

/-- The session in which the search for the schema of the field is noted. -/
def noted (field : Field) (session : Session) : Session :=
  session.note (.mapping field.name field.tag)

/-- A field whose tag is that of no SOAP type fails with its tag. -/
theorem runIn_schema_of_unsupported {field : Field} (h : field.isUnsupported = true)
    (session : Session) :
  Build.runIn session field.schema
    = (.error (.unsupportedTag field.tag), field.noted session)
  := by
  rw [isUnsupported, Option.isNone_iff_eq_none] at h
  have htag : Representation.ofTag field.tag = .error (.unsupportedTag field.tag) :=
    Representation.ofTag_eq_error_iff.mpr (SoapType.ofTag_eq_error_iff.mpr ⟨h, rfl⟩)
  rw [schema, Build.runIn_bind_ok session (Build.runIn_note session _), htag,
    Build.runIn_bind_error _ (Build.runIn_liftM _ _)]
  rfl

/-- A field whose tag is that of a SOAP type has the decorated schema of its representation. -/
theorem runIn_schema_of_ofTag? {field : Field} {type : SoapType}
    (h : SoapType.ofTag? field.tag = some type) (session : Session) :
  Build.runIn session field.schema
    = (.ok (field.decorate ((field.noted session).represent type.representation).1),
        ((field.noted session).represent type.representation).2)
  := by
  have htag : Representation.ofTag field.tag = .ok type.representation :=
    Representation.ofTag_eq_ok_iff.mpr ⟨type, h, rfl⟩
  rw [schema, Build.runIn_bind_ok session (Build.runIn_note session _), htag,
    Build.runIn_bind_ok _ (Build.runIn_liftM _ _),
    Build.runIn_bind_ok _ (type.representation.runIn_schema _)]
  rfl

/-- A field fails exactly as its tag does, whatever else it says. -/
theorem runIn_schema_eq_error_iff {field : Field} {session : Session} {failure : Failure} :
  (Build.runIn session field.schema).1 = .error failure
    ↔ Representation.ofTag field.tag = .error failure
  := by
  rw [Representation.ofTag_eq_error_iff, SoapType.ofTag_eq_error_iff]
  cases htype : SoapType.ofTag? field.tag with
  | none =>
      rw [runIn_schema_of_unsupported (by simp [isUnsupported, htype])]
      simp
  | some type =>
      rw [runIn_schema_of_ofTag? htype]
      simp

/-- A field whose tag is that of a SOAP type has a schema. -/
theorem exists_runIn_schema {field : Field} (h : field.isUnsupported = false)
    (session : Session) :
  ∃ schema after, Build.runIn session field.schema = (.ok schema, after)
  := by
  rw [isUnsupported, Option.isNone_eq_false_iff, Option.isSome_iff_exists] at h
  obtain ⟨type, htype⟩ := h
  exact ⟨_, _, runIn_schema_of_ofTag? htype session⟩

end Field

end RecordSchema
