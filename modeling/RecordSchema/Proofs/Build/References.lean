import RecordSchema.Proofs.Build.Nodes

/-!
# References

In the schemas that are generated for an object there is at most one reference: the items of the
list of records, in the schema of the query results, refer to the schema of the records. That
schema is found in the set under the identifier to which the reference refers, whatever the
prefix of the identifiers and the name of the object are.
-/

namespace RecordSchema

/-! ### Query results -/

/-- The property that lists the records, which are instances of the schema with an identifier. -/
def recordsOf (id : String) : Property := ⟨recordsProperty, true, .listOf (.ref id)⟩

/-- The properties of the schema of query results are those of a page, and the records. -/
theorem mem_properties_queryObject {settings : Settings} {name : String} {object : ObjectSchema}
    {p : Property} :
  p ∈ (queryObject settings name object).properties
    ↔ p ∈ Shape.queryPage.object.properties
      ∨ p = recordsOf (object.id.getD (settings.objectId name))
  := by
  rw [← List.mem_singleton, ← List.mem_append]
  rfl

theorem recordsOf_mem_queryObject (settings : Settings) (name : String) (object : ObjectSchema) :
  recordsOf (object.id.getD (settings.objectId name))
    ∈ (queryObject settings name object).properties
  := mem_properties_queryObject.mpr (.inr rfl)

/-- The properties of a page have plain schemas. -/
theorem isPlain_of_mem_queryPage {p : Property} (hp : p ∈ Shape.queryPage.object.properties) :
  p.schema.isPlain = true
  := by
  have hall : (Shape.queryPage.object.properties.all fun p => p.schema.isPlain) = true := rfl
  apply List.all_eq_true.mp hall p hp

/-- In the schema of query results stand that schema itself, plain schemas, the list of the
records and the reference to the schema of the records. -/
theorem at_queryObject_iff {settings : Settings} {name : String} {object : ObjectSchema}
    {path : List Step} {t : Schema} :
  (Schema.object (queryObject settings name object)).At path t
    ↔ path = [] ∧ t = .object (queryObject settings name object)
      ∨ (∃ p ∈ Shape.queryPage.object.properties, path = [.property p.name] ∧ t = p.schema)
      ∨ path = [.property recordsProperty]
        ∧ t = .listOf (.ref (object.id.getD (settings.objectId name)))
      ∨ path = [.property recordsProperty, .items]
        ∧ t = .ref (object.id.getD (settings.objectId name))
  := by
  have hpage {p : Property} (hp : p ∈ Shape.queryPage.object.properties) {rest : List Step} :
      p.schema.At rest t ↔ rest = [] ∧ t = p.schema :=
    Schema.at_iff_of_isPlain (isPlain_of_mem_queryPage hp)
  rw [Schema.at_iff_of_object? rfl rfl]
  constructor
  · rintro (h | ⟨p, hp, rest, rfl, hrest⟩)
    · left
      apply h
    · right
      rcases mem_properties_queryObject.mp hp with hp | rfl
      · left
        obtain ⟨rfl, rfl⟩ := (hpage hp).mp hrest
        use p
      · right
        rcases Schema.at_listOf_iff.mp hrest with ⟨rfl, rfl⟩ | ⟨rest, rfl, hitems⟩
        · left
          use rfl
        · right
          obtain ⟨rfl, rfl⟩ := Schema.at_ref_iff.mp hitems
          use rfl
  · rintro (h | ⟨p, hp, rfl, rfl⟩ | ⟨rfl, rfl⟩ | ⟨rfl, rfl⟩)
    · left
      apply h
    · right
      use p, mem_properties_queryObject.mpr (.inl hp), [], rfl
      apply (hpage hp).mpr
      use rfl
    · right
      refine ⟨_, recordsOf_mem_queryObject settings name object, [], rfl, ?_⟩
      apply Schema.at_listOf_iff.mpr
      left
      use rfl
    · right
      refine ⟨_, recordsOf_mem_queryObject settings name object, [.items], rfl, ?_⟩
      apply Schema.at_listOf_iff.mpr
      right
      use [], rfl
      rfl

/-- The only reference in the schema of query results is that of the items of the records. -/
theorem at_ref_queryObject_iff {settings : Settings} {name : String} {object : ObjectSchema}
    {path : List Step} {id : String} :
  (Schema.object (queryObject settings name object)).At path (.ref id)
    ↔ path = [.property recordsProperty, .items]
      ∧ id = object.id.getD (settings.objectId name)
  := by
  rw [at_queryObject_iff]
  constructor
  · rintro (⟨-, h⟩ | ⟨p, hp, -, h⟩ | ⟨-, h⟩ | ⟨hpath, h⟩)
    · cases h
    · have hplain := isPlain_of_mem_queryPage hp
      rw [← h] at hplain
      cases hplain
    · cases h
    · use hpath, Schema.ref.inj h
  · rintro ⟨rfl, rfl⟩
    right
    right
    right
    use rfl

/-! ### Records -/

/-- There are no references in the schema of the records. -/
theorem not_at_ref_record {settings : Settings} {description : Description} {session : Session}
    {object : ObjectSchema} (hsession : session.Sound)
    (hobject : ((recordSchema settings description).runIn session).1 = .ok object)
    (path : List Step) (id : String) :
  ¬ (Schema.object object).At path (.ref id)
  := by
  intro h
  rcases at_record_cases hsession hobject h with ⟨-, h⟩ | h | ⟨_, _, _, _, _, -, -, -, h⟩
  · cases h
  · cases h
  · cases h

/-! ### Sets -/

/-- What a set of schemas says whose first member is the schema of the records of an object. -/
structure Links (settings : Settings) (name : String) (object : ObjectSchema)
    (set : SchemaSet) : Prop where
  /-- The schema of the records is found under its identifier. -/
  record : object.id = some (settings.objectId name)
    ∧ set.get? (settings.objectId name) = some (.object object)
  /-- Without a schema of the query results, that of the records is the only member. -/
  alone : settings.addQuery = false →
    set.members = [.object object] ∧ set.get? (settings.queryId name) = none
  /-- With a schema of the query results, there are two members, each of which is found under an
  identifier of its own. -/
  paired : settings.addQuery = true → ∃ query : ObjectSchema,
    set.members = [.object object, .object query]
      ∧ (∀ session, ((querySchema settings object name).runIn session).1 = .ok query)
      ∧ query.id = some (settings.queryId name)
      ∧ settings.objectId name ≠ settings.queryId name
      ∧ set.get? (settings.queryId name) = some (.object query)
      ∧ recordsProperty ∈ query.required
  /-- The only reference is that of the items of the records, in the schema of the query
  results. It refers to the schema of the records. -/
  reference : ∀ (index : Nat) (member : Schema), set.members[index]? = some member →
    ∀ (path : List Step) (id : String), member.At path (.ref id)
      ↔ settings.addQuery = true ∧ index = 1 ∧ path = [.property recordsProperty, .items]
        ∧ id = settings.objectId name

/-- The references in the generated set are those of the items of the records. -/
theorem at_ref_generatedSet_iff {settings : Settings} {description : Description}
    {session : Session} {object : ObjectSchema} (hsession : session.Sound)
    (hobject : ((recordSchema settings description).runIn session).1 = .ok object)
    {index : Nat} {member : Schema}
    (hmember : (generatedSet settings description.name object).members[index]? = some member)
    {path : List Step} {id : String} :
  member.At path (.ref id)
    ↔ settings.addQuery = true ∧ index = 1 ∧ path = [.property recordsProperty, .items]
      ∧ id = settings.objectId description.name
  := by
  have hid := id_of_recordSchema_eq_ok hobject
  rcases getElem?_generatedSet_iff.mp hmember with ⟨rfl, rfl⟩ | ⟨hquery, rfl, rfl⟩
  · simp [not_at_ref_record hsession hobject path id]
  · rw [at_ref_queryObject_iff, hid]
    simp [hquery]

/-- The generated set links its members. -/
theorem generate_links {settings : Settings} {description : Description}
    {session after : Session} {set : SchemaSet}
    (h : (generate settings description).runIn session = (.ok set, after)) :
  ∃ object,
    ((recordSchema settings description).runIn (session.starting description)).1 = .ok object
      ∧ Links settings description.name object set
  := by
  obtain ⟨object, hobject, rfl⟩ := exists_record_of_generate h
  have hid := id_of_recordSchema_eq_ok hobject
  have hne := settings.objectId_ne_queryId description.name
  use object, hobject
  constructor
  case record => use hid, get?_objectId hid
  case alone =>
    intro hquery
    have hmembers : (generatedSet settings description.name object).members
        = [.object object] := by
      rw [generatedSet, hquery]
      rfl
    use hmembers
    rw [SchemaSet.get?, hmembers]
    simp [Schema.id?, Schema.object?, hid, hne]
  case paired =>
    intro hquery
    use queryObject settings description.name object
    refine ⟨?_, ?_, rfl, hne, get?_queryId hid hquery, ?_⟩
    · rw [generatedSet, hquery]
      rfl
    · intro session
      rw [runIn_querySchema]
    · apply ObjectSchema.mem_required_iff.mpr
      refine ⟨_, recordsOf_mem_queryObject settings description.name object, rfl, rfl⟩
  case reference =>
    intro index member hmember path id
    apply at_ref_generatedSet_iff (Session.sound_forget _) hobject hmember

/-- The members are linked also without a prefix, where the name of the object is the word with
which the identifiers of query results start. -/
theorem generate_links_without_prefix :
  ∃ set after object query,
    (generate { idPrefix := "" }
        { name := "QueryRecords", fields := [{ name := "Place", tag := "urn:address" }] }).runIn {}
      = (.ok set, after)
    ∧ set.members = [.object object, .object query]
    ∧ set.get? ":QueryRecords" = some (.object object)
    ∧ set.get? ":QueryRecordsQueryRecords" = some (.object query)
    ∧ (Schema.object query).At [.property "records", .items] (.ref ":QueryRecords")
    ∧ ∀ path id, ¬ (Schema.object object).At path (.ref id)
  := by
  obtain ⟨set, after, h⟩ : ∃ set after,
      (generate { idPrefix := "" }
          { name := "QueryRecords", fields := [{ name := "Place", tag := "urn:address" }] }).runIn
        {} = (.ok set, after) := ⟨_, _, rfl⟩
  obtain ⟨object, -, hlinks⟩ := generate_links h
  obtain ⟨query, hmembers, -, -, -, hquery, -⟩ := hlinks.paired rfl
  use set, after, object, query, h, hmembers, hlinks.record.2, hquery
  constructor
  · apply (hlinks.reference 1 _ (by rw [hmembers]; rfl) _ _).mpr
    use rfl, rfl, rfl
    rfl
  · intro path id hat
    obtain ⟨-, hindex, -⟩ := (hlinks.reference 0 _ (by rw [hmembers]; rfl) path id).mp hat
    cases hindex

end RecordSchema
