import RecordSchema.Proofs.Build.Record

/-!
# Generated sets

The schemas of an object are made in a session without shared schemas. They fail exactly when
the schema of the records does. Otherwise that schema is the first member of the set, and the
schema of the query results is the second one if settings ask for it. The identifiers of the
two differ, so that each is found under its own.
-/

namespace RecordSchema

/-- Equal object schemas have the same identifier. -/
theorem ObjectSchema.id_eq_of_equal {object other : ObjectSchema}
    (h : object.equal other = true) :
  object.id = other.id
  := by
  obtain ⟨i, m, a, ps, ss⟩ := object
  obtain ⟨j, n, b, qs, ts⟩ := other
  cases ss with
  | none =>
      cases ts with
      | none =>
          simp only [ObjectSchema.equal, Bool.and_eq_true, beq_iff_eq] at h
          apply h.1.1.1
      | some ts => simp [ObjectSchema.equal] at h
  | some ss =>
      cases ts with
      | none => simp [ObjectSchema.equal] at h
      | some ts =>
          simp only [ObjectSchema.equal, Bool.and_eq_true, beq_iff_eq] at h
          apply h.1.1.1.1

/-- An object schema whose identifier no member of a set of object schemas has is new in the
set. -/
theorem SchemaSet.insert_object {objects : List ObjectSchema} {object : ObjectSchema}
    (h : ∀ other ∈ objects, other.id ≠ object.id) :
  SchemaSet.insert ⟨objects.map .object⟩ (.object object)
    = ⟨objects.map .object ++ [.object object]⟩
  := by
  have hnew : SchemaSet.contains ⟨objects.map .object⟩ (.object object) = false := by
    rw [SchemaSet.contains, List.any_eq_false]
    intro member hmember hequal
    obtain ⟨other, hother, rfl⟩ := List.mem_map.mp hmember
    rw [Schema.equal] at hequal
    apply h other hother
    apply ObjectSchema.id_eq_of_equal hequal
  rw [SchemaSet.insert, SchemaSet.insertNew_of_not_contains hnew]

/-- Object schemas with different identifiers are all members of their set. -/
theorem SchemaSet.ofList_objects {objects : List ObjectSchema}
    (h : (objects.map (·.id)).Nodup) :
  SchemaSet.ofList (objects.map .object) = ⟨objects.map .object⟩
  := by
  induction objects using List.reverseRecOn with
  | nil => rfl
  | append_singleton objects object ih =>
      rw [List.map_append, List.nodup_append] at h
      obtain ⟨hobjects, -, hne⟩ := h
      rw [SchemaSet.ofList, List.map_append, List.foldl_append]
      change SchemaSet.insert (SchemaSet.ofList (objects.map .object)) (.object object) = _
      rw [ih hobjects]
      apply SchemaSet.insert_object
      intro other hother
      apply hne other.id (List.mem_map_of_mem hother) object.id (List.mem_singleton_self _)

/-- No object has the same identifier for its records and for its query results. -/
theorem Settings.objectId_ne_queryId (settings : Settings) (name : String) :
  settings.objectId name ≠ settings.queryId name
  := by
  intro h
  have hlength := congrArg String.length h
  have hcolon : ":".length = ":QueryRecords".length := by
    simpa [Settings.objectId, Settings.queryId] using hlength
  exact absurd hcolon (by decide)

/-! ### Query results -/

/-- The object schema of the query results whose records are those of an object schema. -/
def queryObject (settings : Settings) (name : String) (object : ObjectSchema) : ObjectSchema :=
  { Shape.queryPage.object with id := some (settings.queryId name) }.putRequired recordsProperty
    (.listOf (.ref (object.id.getD (settings.objectId name))))

/-- Making the schema of query results does not fail. -/
theorem runIn_querySchema (settings : Settings) (object : ObjectSchema) (name : String)
    (session : Session) :
  (querySchema settings object name).runIn session
    = (.ok (queryObject settings name object), session.note (.shaping .queryPage))
  := by
  rw [querySchema, Build.runIn_bind_ok session (Build.runIn_shape session .queryPage)]
  rfl

/-! ### The set of an object -/

/-- The set of the schemas of an object, one of which is that of its records. -/
def generatedSet (settings : Settings) (name : String) (object : ObjectSchema) : SchemaSet where
  members :=
    if settings.addQuery then [.object object, .object (queryObject settings name object)]
    else [.object object]

/-- The first member of the set is the schema of the records, and the second one, if settings
ask for it, that of the query results. -/
theorem getElem?_generatedSet_iff {settings : Settings} {name : String} {object : ObjectSchema}
    {index : Nat} {member : Schema} :
  (generatedSet settings name object).members[index]? = some member
    ↔ index = 0 ∧ member = .object object
      ∨ settings.addQuery = true ∧ index = 1
        ∧ member = .object (queryObject settings name object)
  := by
  rw [generatedSet]
  split
  · rename_i hquery
    match index with
    | 0 => simp [eq_comm (a := member)]
    | 1 => simp [hquery, eq_comm (a := member)]
    | index + 2 => simp
  · rename_i hquery
    match index with
    | 0 => simp [eq_comm (a := member)]
    | index + 1 => simp [hquery]

/-- The session in which the schemas of an object are made. -/
def Session.starting (session : Session) (description : Description) : Session :=
  (session.note (.generating description.name description.fields.length)).forget

/-- The session in which the schemas of an object have been made with the given settings. -/
def Session.ending (session : Session) (settings : Settings) : Session :=
  if settings.addQuery then session.note (.shaping .queryPage) else session

/-- The schema of the query results is a new member of a set with the schema of the records. -/
theorem insert_queryObject {settings : Settings} {name : String} {object : ObjectSchema}
    (h : object.id = some (settings.objectId name)) :
  (SchemaSet.insert {} (.object object)).insert (.object (queryObject settings name object))
    = ⟨[.object object, .object (queryObject settings name object)]⟩
  := by
  have hnodup : ([object, queryObject settings name object].map (·.id)).Nodup := by
    have hid : (queryObject settings name object).id = some (settings.queryId name) := rfl
    simp [h, hid, settings.objectId_ne_queryId name]
  apply SchemaSet.ofList_objects hnodup

/-- Generating the schemas of an object ends as making the schema of the records does. -/
theorem runIn_generate (settings : Settings) (description : Description) (session : Session) :
  (generate settings description).runIn session
    = match (recordSchema settings description).runIn (session.starting description) with
      | (.ok object, after) =>
        (.ok (generatedSet settings description.name object), after.ending settings)
      | (.error failure, after) => (.error failure, after)
  := by
  rw [generate, Build.runIn_bind_ok session (Build.runIn_note session _),
    Build.runIn_bind_ok _ (Build.runIn_modify _ _)]
  change Build.runIn (session.starting description) _ = _
  rcases runIn_recordSchema settings description (session.starting description) with
    ⟨field, -, hrun⟩ | ⟨-, hrun⟩
  · cases hresult : (recordSchema settings description).runIn (session.starting description) with
    | mk result after =>
        rw [hresult] at hrun
        obtain rfl : result = .error (.unsupportedTag field.tag) := hrun
        rw [Build.runIn_bind_error _ hresult]
  · rw [Build.runIn_bind_ok _ hrun, hrun]
    dsimp only
    cases hquery : settings.addQuery with
    | true =>
        rw [if_pos rfl, Build.runIn_bind_ok _ (runIn_querySchema settings _ description.name _),
          Build.runIn_pure, insert_queryObject rfl]
        simp [generatedSet, Session.ending, hquery]
    | false =>
        simp [generatedSet, Session.ending, hquery, SchemaSet.insert, SchemaSet.insertNew,
          SchemaSet.contains]

/-- Generating the schemas of an object fails where making the schema of the records does, with the
first field of no SOAP type, or it succeeds where all fields can be represented. -/
theorem runIn_generate_cases (settings : Settings) (description : Description)
    (session : Session) :
  (∃ field after, description.fields.find? (·.isUnsupported) = some field
      ∧ (recordSchema settings description).runIn (session.starting description)
        = (.error (.unsupportedTag field.tag), after)
      ∧ (generate settings description).runIn session
        = (.error (.unsupportedTag field.tag), after))
    ∨ ∃ object after, description.fields.find? (·.isUnsupported) = none
      ∧ (recordSchema settings description).runIn (session.starting description)
        = (.ok object, after)
      ∧ (generate settings description).runIn session
        = (.ok (generatedSet settings description.name object), after.ending settings)
  := by
  rw [runIn_generate]
  rcases runIn_recordSchema settings description (session.starting description) with
    ⟨field, hfield, hresult⟩ | ⟨hnone, hresult⟩
  · left
    rcases hrun : (recordSchema settings description).runIn (session.starting description) with
      ⟨result, after⟩
    rw [hrun] at hresult
    obtain rfl : result = .error (.unsupportedTag field.tag) := hresult
    use field, after, hfield
  · right
    rw [hresult]
    exact ⟨_, _, hnone, rfl, rfl⟩

/-- A generated set is that of the object schema of the records. -/
theorem exists_record_of_generate {settings : Settings} {description : Description}
    {session after : Session} {set : SchemaSet}
    (h : (generate settings description).runIn session = (.ok set, after)) :
  ∃ object,
    ((recordSchema settings description).runIn (session.starting description)).1 = .ok object
      ∧ set = generatedSet settings description.name object
  := by
  rw [runIn_generate] at h
  split at h
  · rename_i object later hrun
    use object
    constructor
    · rw [hrun]
    · symm
      simpa using congrArg Prod.fst h
  · cases h

/-! ### Members by their identifiers -/

/-- The schema of the records is found under its identifier. -/
theorem get?_objectId {settings : Settings} {name : String} {object : ObjectSchema}
    (h : object.id = some (settings.objectId name)) :
  (generatedSet settings name object).get? (settings.objectId name) = some (.object object)
  := by
  rw [generatedSet, SchemaSet.get?]
  split
  · simp [Schema.id?, Schema.object?, h]
  · simp [Schema.id?, Schema.object?, h]

/-- The schema of the query results is found under its identifier. -/
theorem get?_queryId {settings : Settings} {name : String} {object : ObjectSchema}
    (h : object.id = some (settings.objectId name)) (hquery : settings.addQuery = true) :
  (generatedSet settings name object).get? (settings.queryId name)
    = some (.object (queryObject settings name object))
  := by
  have hid : (queryObject settings name object).id = some (settings.queryId name) := rfl
  have hne := settings.objectId_ne_queryId name
  rw [generatedSet, SchemaSet.get?]
  simp [Schema.id?, Schema.object?, h, hid, hne, hquery]

/-! ### Roots -/

/-- A root of the schemas of an object is that of the generated set. -/
theorem exists_set_of_objectRoot {settings : Settings} {description : Description}
    {session after : Session} {root : Schema}
    (h : (objectRoot settings description).runIn session = (.ok root, after)) :
  ∃ set, (generate settings description).runIn session = (.ok set, after)
    ∧ root = rootOf set settings.idPrefix
  := by
  rw [objectRoot, Build.runIn_bind] at h
  split at h
  · rename_i set later hrun
    obtain ⟨hroot, rfl⟩ := Prod.mk.inj h
    use set, hrun
    apply (Except.ok.inj hroot).symm
  · cases h

/-- The set of the shapes of the interface. -/
def publishedSet : SchemaSet := ⟨Shape.published.map fun shape => .object shape.object⟩

/-- Deriving the schemas of shapes does not fail. -/
theorem runIn_mapM_shape (shapes : List Shape) (session : Session) :
  (shapes.mapM fun shape => Schema.object <$> Build.shape shape).runIn session
    = (.ok (shapes.map fun shape => .object shape.object),
        shapes.foldl (fun session shape => session.note (.shaping shape)) session)
  := by
  induction shapes generalizing session with
  | nil => rfl
  | cons shape rest ih =>
      have hshape : (Schema.object <$> Build.shape shape).runIn session
          = (.ok (.object shape.object), session.note (.shaping shape)) := by
        rw [map_eq_pure_bind, Build.runIn_bind_ok session (Build.runIn_shape session shape)]
        rfl
      rw [List.mapM_cons, Build.runIn_bind_ok session hshape, Build.runIn_bind_ok _ (ih _)]
      rfl

/-- The root of the shapes of the interface is made without failure. It has all shapes as its
alternatives. -/
theorem exists_runIn_interfaceRoot (session : Session) :
  ∃ after, interfaceRoot.runIn session = (.ok (rootOf publishedSet interfaceId), after)
  := by
  have hset : SchemaSet.ofList (Shape.published.map fun shape => .object shape.object)
      = publishedSet := by
    have hids : ((Shape.published.map Shape.object).map (·.id)).Nodup := by decide
    have hall := SchemaSet.ofList_objects hids
    rw [List.map_map] at hall
    apply hall
  rw [interfaceRoot, Build.runIn_bind_ok session (runIn_mapM_shape Shape.published session),
    hset, Build.runIn_bind_ok _ (Build.runIn_note _ _)]
  refine ⟨_, rfl⟩

end RecordSchema
