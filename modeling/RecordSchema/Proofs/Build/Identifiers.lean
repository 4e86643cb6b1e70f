import RecordSchema.Proofs.Build.References

/-!
# Identifiers

In the document of the root of an object, the schemas with an identifier are the root, its
alternatives, and the uses of shared schemas in the properties of the records. A shared schema is
written out wherever it is used. So an identifier stands only once in the document exactly when
each shared schema is used for at most one name, and those that are used have the identifier of
neither the root nor the records.
-/

namespace RecordSchema

open Json

/-! ### Identifiers that differ in any case -/

namespace Settings

variable (settings : Settings) (name : String)

/-- The identifier of the records is longer than its prefix. -/
theorem idPrefix_ne_objectId :
  settings.idPrefix ≠ settings.objectId name
  := by
  intro h
  have hlength := congrArg String.length h
  have hcolon : 0 < ":".length := by decide
  simp only [objectId, String.length_append] at hlength
  omega

/-- The identifier of the query results is longer than its prefix. -/
theorem idPrefix_ne_queryId :
  settings.idPrefix ≠ settings.queryId name
  := by
  intro h
  have hlength := congrArg String.length h
  have hword : 0 < ":QueryRecords".length := by decide
  simp only [queryId, String.length_append] at hlength
  omega

/-- No compound value has the identifier of the query results of an object. -/
theorem shapeId_ne_queryId (compound : Compound) :
  compound.shape.id ≠ settings.queryId name
  := by
  intro h
  have hq : 'Q' ∈ (settings.queryId name).toList := by
    simp [queryId]
  have hnone : 'Q' ∉ compound.shape.id.toList := by
    cases compound with
    | address => decide +kernel
    | geolocation => decide +kernel
  rw [h] at hnone
  exact hnone hq

end Settings

/-- Different compound values have different identifiers. -/
theorem Compound.shapeId_injective {compound other : Compound}
    (h : compound.shape.id = other.shape.id) :
  compound = other
  := by
  revert h
  cases compound <;> cases other <;> decide

/-! ### Schemas with an identifier -/

/-- There is a schema with an identifier at a position. -/
def Schema.HasIdAt (s : Schema) (path : List Step) (id : String) : Prop :=
  ∃ t, s.At path t ∧ t.id? = some id

/-- The schema with an identifier in the schema of query results is that schema itself. -/
theorem hasIdAt_queryObject_iff {settings : Settings} {name : String} {object : ObjectSchema}
    {path : List Step} {id : String} :
  (Schema.object (queryObject settings name object)).HasIdAt path id
    ↔ path = [] ∧ id = settings.queryId name
  := by
  constructor
  · rintro ⟨t, ht, hid⟩
    rcases at_queryObject_iff.mp ht with ⟨rfl, rfl⟩ | ⟨p, hp, -, rfl⟩ | ⟨-, rfl⟩ | ⟨-, rfl⟩
    · use rfl
      apply (Option.some.inj hid).symm
    · rw [Schema.id?_of_isPlain (isPlain_of_mem_queryPage hp)] at hid
      cases hid
    · cases hid
    · cases hid
  · rintro ⟨rfl, rfl⟩
    use .object (queryObject settings name object), rfl
    rfl

/-- The schemas with an identifier in the schema of the records are that schema itself and the
uses of shared schemas in the properties. -/
theorem hasIdAt_record_iff {settings : Settings} {description : Description} {session : Session}
    {object : ObjectSchema} (hsession : session.Sound)
    (hobject : ((recordSchema settings description).runIn session).1 = .ok object)
    {path : List Step} {id : String} :
  (Schema.object object).HasIdAt path id
    ↔ path = [] ∧ id = settings.objectId description.name
      ∨ ∃ name field compound, description.governing? name = some field
        ∧ field.uses? = some compound ∧ path = [.property name] ∧ id = compound.shape.id
  := by
  have hid := id_of_recordSchema_eq_ok hobject
  constructor
  · rintro ⟨t, ht, htid⟩
    rcases at_record_cases hsession hobject ht with
      ⟨rfl, rfl⟩ | hplain | ⟨name, field, compound, node, a, hfield, huses, rfl, rfl⟩
    · left
      use rfl
      apply Option.some.inj (htid.symm.trans hid)
    · rw [Schema.id?_of_isPlain hplain] at htid
      cases htid
    · right
      use name, field, compound, hfield, huses, rfl
      apply Option.some.inj (htid.symm.trans compound.id_object)
  · rintro (⟨rfl, rfl⟩ | ⟨name, field, compound, hfield, huses, rfl, rfl⟩)
    · use .object object, rfl
      apply hid
    · obtain ⟨node, a, hat⟩ := exists_at_record hsession hobject hfield huses
      use .shared node compound.object a, hat
      apply compound.id_object

/-! ### Identifiers in the root -/

/-- A schema in a root is the root itself, or it stands in an alternative. -/
theorem at_rootOf_iff {set : SchemaSet} {rootId : String} {path : List Step} {t : Schema} :
  (rootOf set rootId).At path t
    ↔ path = [] ∧ t = rootOf set rootId
      ∨ ∃ index member rest, path = .alternative index :: rest
        ∧ set.members[index]? = some member ∧ member.At rest t
  := by
  have hleads (step : Step) (u : Schema) : (rootOf set rootId).Leads step u
      ↔ ∃ index, step = .alternative index ∧ set.members[index]? = some u := by
    cases step <;> simp [Schema.Leads, rootOf, Schema.object?, Schema.array?]
  cases path with
  | nil => simp
  | cons step path =>
      simp only [Schema.at_cons, hleads]
      constructor
      · rintro ⟨member, ⟨index, rfl, hmember⟩, ht⟩
        right
        use index, member, path
      · rintro (⟨h, -⟩ | ⟨index, member, rest, hpath, hmember, ht⟩)
        · cases h
        · obtain ⟨rfl, rfl⟩ := List.cons.inj hpath
          use member
          constructor
          · use index
          · apply ht

/-- A schema with an identifier in a root is the root itself, or it stands in an alternative. -/
theorem hasIdAt_rootOf_iff {set : SchemaSet} {rootId : String} {path : List Step} {id : String} :
  (rootOf set rootId).HasIdAt path id
    ↔ path = [] ∧ id = rootId
      ∨ ∃ index member rest, path = .alternative index :: rest
        ∧ set.members[index]? = some member ∧ member.HasIdAt rest id
  := by
  constructor
  · rintro ⟨t, ht, hid⟩
    rcases at_rootOf_iff.mp ht with ⟨rfl, rfl⟩ | ⟨index, member, rest, rfl, hmember, ht⟩
    · left
      use rfl
      apply (Option.some.inj hid).symm
    · right
      use index, member, rest, rfl, hmember, t
  · rintro (⟨rfl, rfl⟩ | ⟨index, member, rest, rfl, hmember, t, ht, hid⟩)
    · use rootOf set id, rfl
      rfl
    · use t
      constructor
      · apply at_rootOf_iff.mpr
        right
        use index, member, rest
      · apply hid

/-- The positions of the schemas with an identifier in the root of an object. -/
inductive Identifies (settings : Settings) (description : Description) :
    List Step → String → Prop
  | root : Identifies settings description [] settings.idPrefix
  | record :
    Identifies settings description [.alternative 0] (settings.objectId description.name)
  | query (h : settings.addQuery = true) :
    Identifies settings description [.alternative 1] (settings.queryId description.name)
  | compound {name : String} {field : Field} {value : Compound}
    (hfield : description.governing? name = some field) (huses : field.uses? = some value) :
    Identifies settings description [.alternative 0, .property name] value.shape.id

/-- The schemas with an identifier in the root of an object. -/
theorem hasIdAt_objectRoot_iff {settings : Settings} {description : Description}
    {session : Session} {object : ObjectSchema} (hsession : session.Sound)
    (hobject : ((recordSchema settings description).runIn session).1 = .ok object)
    {path : List Step} {id : String} :
  (rootOf (generatedSet settings description.name object) settings.idPrefix).HasIdAt path id
    ↔ Identifies settings description path id
  := by
  simp only [hasIdAt_rootOf_iff, getElem?_generatedSet_iff]
  constructor
  · rintro (⟨rfl, rfl⟩ | ⟨index, member, rest, rfl, ⟨rfl, rfl⟩ | ⟨hquery, rfl, rfl⟩, hid⟩)
    · apply Identifies.root
    · rcases (hasIdAt_record_iff hsession hobject).mp hid with
        ⟨rfl, rfl⟩ | ⟨name, field, compound, hfield, huses, rfl, rfl⟩
      · apply Identifies.record
      · apply Identifies.compound hfield huses
    · obtain ⟨rfl, rfl⟩ := hasIdAt_queryObject_iff.mp hid
      apply Identifies.query hquery
  · intro h
    cases h with
    | root =>
        left
        use rfl
    | record =>
        right
        use 0, .object object, [], rfl, .inl ⟨rfl, rfl⟩
        apply (hasIdAt_record_iff hsession hobject).mpr
        left
        use rfl
    | query hquery =>
        right
        use 1, .object (queryObject settings description.name object), [], rfl
        constructor
        · right
          use hquery, rfl
        · apply hasIdAt_queryObject_iff.mpr
          use rfl
    | @compound name field value hfield huses =>
        right
        use 0, .object object, [.property name], rfl, .inl ⟨rfl, rfl⟩
        apply (hasIdAt_record_iff hsession hobject).mpr
        right
        use name, field, value, hfield, huses

/-- No two properties of an object schema in the schema of the records have the same name. -/
theorem hasDistinctNames_record {settings : Settings} {description : Description}
    {session : Session} {object : ObjectSchema} (hsession : session.Sound)
    (hobject : ((recordSchema settings description).runIn session).1 = .ok object) :
  (Schema.object object).HasDistinctNames
  := by
  intro path t other ht hother
  rcases at_record_cases hsession hobject ht with
    ⟨-, rfl⟩ | hplain | ⟨name, field, compound, node, a, -, -, -, rfl⟩
  · obtain rfl := Option.some.inj hother
    apply (represents_of_recordSchema_eq_ok hobject).distinct
  · rw [Schema.object?_of_isPlain hplain] at hother
    cases hother
  · obtain rfl := Option.some.inj hother
    apply compound.nodup_names_object

/-- No two properties of an object schema in the schema of query results have the same name. -/
theorem hasDistinctNames_queryObject (settings : Settings) (name : String)
    (object : ObjectSchema) :
  (Schema.object (queryObject settings name object)).HasDistinctNames
  := by
  intro path t other ht hother
  rcases at_queryObject_iff.mp ht with ⟨-, rfl⟩ | ⟨p, hp, -, rfl⟩ | ⟨-, rfl⟩ | ⟨-, rfl⟩
  · obtain rfl := Option.some.inj hother
    have hnames : (queryObject settings name object).names
        = ["done", "nextRecordsUrl", "totalSize", "records"] := rfl
    rw [hnames]
    decide
  · rw [Schema.object?_of_isPlain (isPlain_of_mem_queryPage hp)] at hother
    cases hother
  · cases hother
  · cases hother

/-- No two properties of an object schema in the root of an object have the same name. -/
theorem hasDistinctNames_objectRoot {settings : Settings} {description : Description}
    {session : Session} {object : ObjectSchema} (hsession : session.Sound)
    (hobject : ((recordSchema settings description).runIn session).1 = .ok object) :
  (rootOf (generatedSet settings description.name object) settings.idPrefix).HasDistinctNames
  := by
  intro path t other ht hother
  rcases at_rootOf_iff.mp ht with ⟨-, rfl⟩ | ⟨index, member, rest, -, hmember, ht⟩
  · obtain rfl := Option.some.inj hother
    apply List.nodup_nil
  · rcases getElem?_generatedSet_iff.mp hmember with ⟨-, rfl⟩ | ⟨-, -, rfl⟩
    · apply hasDistinctNames_record hsession hobject rest t other ht hother
    · apply hasDistinctNames_queryObject settings description.name object rest t other ht hother

/-! ### Unique identifiers -/

/-- No identifier is given to two schemas in a document. -/
def Draft.UniqueIds (document : Json) : Prop :=
  ∀ path other d e id, Draft.At document path d → Draft.At document other e →
    Draft.id? d = some id → Draft.id? e = some id → path = other ∧ d = e

/-- The schemas with an identifier in the document of a schema are those in the schema. -/
theorem Schema.exists_id?_document_iff {s : Schema} {path : List Step} {id : String} :
  (∃ d, Draft.At s.document path d ∧ Draft.id? d = some id) ↔ s.HasIdAt path id
  := by
  constructor
  · rintro ⟨d, hd, hid⟩
    obtain ⟨t, ht, rfl⟩ := Schema.at_document_iff.mp hd
    rw [t.id?_document] at hid
    use t, ht
  · rintro ⟨t, ht, hid⟩
    use t.document
    constructor
    · apply Schema.at_document_iff.mpr
      use t, ht
    · rw [t.id?_document, hid]

/-- The identifiers in the document of a schema are unique when each tells its position. -/
theorem Schema.uniqueIds_document_iff {s : Schema} (h : s.HasDistinctNames) :
  Draft.UniqueIds s.document
    ↔ ∀ path other id, s.HasIdAt path id → s.HasIdAt other id → path = other
  := by
  constructor
  · intro hunique path other id hpath hother
    obtain ⟨d, hd, hdid⟩ := Schema.exists_id?_document_iff.mpr hpath
    obtain ⟨e, he, heid⟩ := Schema.exists_id?_document_iff.mpr hother
    apply (hunique path other d e id hd he hdid heid).1
  · intro hunique path other d e id hd he hdid heid
    have hpath := Schema.exists_id?_document_iff.mp ⟨d, hd, hdid⟩
    have hother := Schema.exists_id?_document_iff.mp ⟨e, he, heid⟩
    obtain rfl := hunique path other id hpath hother
    obtain ⟨t, ht, rfl⟩ := Schema.at_document_iff.mp hd
    obtain ⟨u, hu, rfl⟩ := Schema.at_document_iff.mp he
    use rfl
    rw [Schema.at_unique h ht hu]

/-- Each shared schema is used for at most one name, and the ones that are used have the
identifier of neither the root nor the records. -/
structure Description.UsesOnce (settings : Settings) (description : Description) : Prop where
  once : ∀ name other field another compound,
    description.governing? name = some field → description.governing? other = some another →
    field.uses? = some compound → another.uses? = some compound → name = other
  fresh : ∀ name field compound,
    description.governing? name = some field → field.uses? = some compound →
    compound.shape.id ≠ settings.idPrefix
      ∧ compound.shape.id ≠ settings.objectId description.name

/-- Where each shared schema is used once, an identifier tells its position. -/
theorem Identifies.path_eq {settings : Settings} {description : Description}
    (hone : description.UsesOnce settings) {path other : List Step} {id same : String}
    (hpath : Identifies settings description path id)
    (hother : Identifies settings description other same) (h : id = same) :
  path = other
  := by
  have hrecord := settings.idPrefix_ne_objectId description.name
  have hquery := settings.idPrefix_ne_queryId description.name
  have hboth := settings.objectId_ne_queryId description.name
  cases hpath with
  | root =>
      cases hother with
      | root => rfl
      | record => exact absurd h hrecord
      | query => exact absurd h hquery
      | compound hfield huses => exact absurd h.symm (hone.fresh _ _ _ hfield huses).1
  | record =>
      cases hother with
      | root => exact absurd h.symm hrecord
      | record => rfl
      | query => exact absurd h hboth
      | compound hfield huses => exact absurd h.symm (hone.fresh _ _ _ hfield huses).2
  | query =>
      cases hother with
      | root => exact absurd h.symm hquery
      | record => exact absurd h.symm hboth
      | query => rfl
      | compound => exact absurd h.symm (settings.shapeId_ne_queryId description.name _)
  | compound hfield huses =>
      cases hother with
      | root => exact absurd h (hone.fresh _ _ _ hfield huses).1
      | record => exact absurd h (hone.fresh _ _ _ hfield huses).2
      | query => exact absurd h (settings.shapeId_ne_queryId description.name _)
      | compound hfield' huses' =>
          obtain rfl := Compound.shapeId_injective h
          rw [hone.once _ _ _ _ _ hfield hfield' huses huses']

/-- An identifier tells its position exactly when each shared schema is used once. -/
theorem identifies_unique_iff (settings : Settings) (description : Description) :
  (∀ path other id, Identifies settings description path id →
      Identifies settings description other id → path = other)
    ↔ description.UsesOnce settings
  := by
  constructor
  · intro hunique
    constructor
    · intro name other field another compound hfield hanother huses huses'
      have hpath := hunique _ _ _ (.compound hfield huses) (.compound hanother huses')
      simpa using hpath
    · intro name field compound hfield huses
      constructor
      · intro hid
        have hroot : Identifies settings description [] compound.shape.id := by
          rw [hid]
          apply Identifies.root
        have hpath := hunique _ _ _ (.compound hfield huses) hroot
        cases hpath
      · intro hid
        have hrecord : Identifies settings description [.alternative 0] compound.shape.id := by
          rw [hid]
          apply Identifies.record
        have hpath := hunique _ _ _ (.compound hfield huses) hrecord
        cases hpath
  · intro hone path other id hpath hother
    apply hpath.path_eq hone hother rfl

/-- The schemas with an identifier in the root of an object are the root, its alternatives and
the uses of shared schemas. No identifier is given to two schemas exactly when each shared schema
is used for at most one name, and those that are used have the identifier of neither the root nor
the records. -/
theorem objectRoot_uniqueIds_iff {settings : Settings} {description : Description}
    {session after : Session} {root : Schema}
    (h : (objectRoot settings description).runIn session = (.ok root, after)) :
  (∀ path id, (∃ d, Draft.At root.document path d ∧ Draft.id? d = some id)
      ↔ Identifies settings description path id)
    ∧ (Draft.UniqueIds root.document ↔ description.UsesOnce settings)
  := by
  obtain ⟨set, hset, rfl⟩ := exists_set_of_objectRoot h
  obtain ⟨object, hobject, rfl⟩ := exists_record_of_generate hset
  have hsession : (session.starting description).Sound := Session.sound_forget _
  constructor
  · intro path id
    rw [Schema.exists_id?_document_iff, hasIdAt_objectRoot_iff hsession hobject]
  · rw [Schema.uniqueIds_document_iff (hasDistinctNames_objectRoot hsession hobject),
      ← identifies_unique_iff]
    simp only [hasIdAt_objectRoot_iff hsession hobject]

/-- An object with an address and a location. -/
def storeDescription : Description where
  name := "Store"
  fields := [{ name := "Place", tag := "urn:address" }, { name := "Point", tag := "urn:location" }]

/-- The fields of a store use different shared schemas. -/
theorem governing?_storeDescription {name : String} {field : Field}
    (h : storeDescription.governing? name = some field) :
  name = "Place" ∧ field.uses? = some .address ∨ name = "Point" ∧ field.uses? = some .geolocation
  := by
  obtain ⟨rfl, before, rest, hfields, -⟩ := governing?_eq_some_iff.mp h
  have hfield : field ∈ storeDescription.fields := by simp [hfields]
  rcases List.mem_pair.mp hfield with rfl | rfl
  · left
    use rfl
    rfl
  · right
    use rfl
    rfl

/-- In the root of a store the identifier of addresses is given once, as all others. -/
theorem objectRoot_uniqueIds_store :
  ∃ root after d, (objectRoot {} storeDescription).runIn {} = (.ok root, after)
    ∧ Draft.At root.document [.alternative 0, .property "Place"] d
    ∧ Draft.id? d = some Shape.address.id
    ∧ Draft.UniqueIds root.document
  := by
  obtain ⟨root, after, h⟩ : ∃ root after,
      (objectRoot {} storeDescription).runIn {} = (.ok root, after) := ⟨_, _, rfl⟩
  obtain ⟨hids, hunique⟩ := objectRoot_uniqueIds_iff h
  have hplace : Identifies {} storeDescription [.alternative 0, .property "Place"]
      Compound.address.shape.id := by
    have hfield : storeDescription.governing? "Place"
        = some { name := "Place", tag := "urn:address" } := rfl
    apply Identifies.compound hfield rfl
  obtain ⟨d, hd, hid⟩ := (hids _ _).mpr hplace
  use root, after, d, h, hd, hid
  apply hunique.mpr
  constructor
  · intro name other field another compound hfield hanother huses huses'
    rcases governing?_storeDescription hfield with ⟨rfl, h⟩ | ⟨rfl, h⟩
    · obtain rfl := Option.some.inj (h.symm.trans huses)
      rcases governing?_storeDescription hanother with ⟨rfl, -⟩ | ⟨-, h'⟩
      · rfl
      · cases h'.symm.trans huses'
    · obtain rfl := Option.some.inj (h.symm.trans huses)
      rcases governing?_storeDescription hanother with ⟨-, h'⟩ | ⟨rfl, -⟩
      · cases h'.symm.trans huses'
      · rfl
  · intro name field compound _ _
    cases compound with
    | address => decide
    | geolocation => decide

/-- An object with two addresses. -/
def accountDescription : Description where
  name := "Account"
  fields := [
    { name := "Billing", tag := "urn:address" },
    { name := "Shipping", tag := "urn:address" }]

/-- In the root of an object with two addresses the identifier of addresses is given twice. -/
theorem not_uniqueIds_account :
  ∃ root after, (objectRoot {} accountDescription).runIn {} = (.ok root, after)
    ∧ (∃ d, Draft.At root.document [.alternative 0, .property "Billing"] d
      ∧ Draft.id? d = some Shape.address.id)
    ∧ (∃ d, Draft.At root.document [.alternative 0, .property "Shipping"] d
      ∧ Draft.id? d = some Shape.address.id)
    ∧ ¬ Draft.UniqueIds root.document
  := by
  obtain ⟨root, after, h⟩ : ∃ root after,
      (objectRoot {} accountDescription).runIn {} = (.ok root, after) := ⟨_, _, rfl⟩
  have hid {name : String} {field : Field}
      (hfield : accountDescription.governing? name = some field)
      (huses : field.uses? = some .address) :
      ∃ d, Draft.At root.document [.alternative 0, .property name] d
        ∧ Draft.id? d = some Shape.address.id := by
    obtain ⟨set, hset, rfl⟩ := exists_set_of_objectRoot h
    obtain ⟨object, hobject, rfl⟩ := exists_record_of_generate hset
    apply Schema.exists_id?_document_iff.mpr
    apply (hasIdAt_objectRoot_iff (Session.sound_forget _) hobject).mpr
    apply Identifies.compound hfield huses
  have hbilling : accountDescription.governing? "Billing"
      = some { name := "Billing", tag := "urn:address" } := rfl
  have hshipping : accountDescription.governing? "Shipping"
      = some { name := "Shipping", tag := "urn:address" } := rfl
  obtain ⟨d, hd, hdid⟩ := hid hbilling rfl
  obtain ⟨e, he, heid⟩ := hid hshipping rfl
  use root, after, h, ⟨d, hd, hdid⟩, ⟨e, he, heid⟩
  intro hunique
  have hpath := (hunique _ _ _ _ _ hd he hdid heid).1
  exact absurd hpath (by decide)

end RecordSchema
