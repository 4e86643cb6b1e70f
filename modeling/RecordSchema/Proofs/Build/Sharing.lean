import RecordSchema.Proofs.Build.Memory
import RecordSchema.Proofs.Build.Sound

/-!
# Sharing

A provider is what a session remembers: the shared schemas of the compound values. Each request
that maps to a compound value visits its place in the memory of the provider, also where the
choices of a field then make another schema of it. So all requests to one provider that map to
one compound value share a node, and no other requests do, in whatever order several providers
are asked.
-/

namespace RecordSchema

/-- The object schema of a compound value. -/
def Compound.object (compound : Compound) : ObjectSchema := compound.shape.object

/-- The compound value that is represented, if one is. -/
def Representation.compound? : Representation → Option Compound
  | .compound value => some value
  | _ => none

theorem Representation.compound?_eq_some_iff {representation : Representation}
    {value : Compound} :
  representation.compound? = some value ↔ representation = .compound value
  := by
  cases representation with
  | plain kind => simp [compound?]
  | dateTime => simp [compound?]
  | compound other => simp [compound?]

/-- The compound value to which the tag of the field is mapped, if it is mapped to one. -/
def Field.compound? (field : Field) : Option Compound :=
  (SoapType.ofTag? field.tag).bind (·.representation.compound?)

/-- The shared object schema that a schema uses, if it is the use of one. -/
def Schema.node? : Schema → Option SharedObject
  | .shared node schema _ => some ⟨node, schema⟩
  | _ => none

/-! ### The memory of a session -/

namespace Session

/-- The shared schemas that the session remembers. -/
def memory (session : Session) : Memory Compound := ⟨session.shared?, session.nextNode⟩

@[simp]
theorem memory_note (session : Session) (event : Event) :
  (session.note event).memory = session.memory
  := rfl

/-- The session that shares a schema remembers it as the next node. -/
theorem memory_share (session : Session) (compound : Compound) (schema : ObjectSchema) :
  (session.share compound schema).memory
    = ⟨Function.update session.memory.node? compound (some ⟨session.memory.nextNode, schema⟩),
        session.memory.nextNode + 1⟩
  := by
  cases compound with
  | address =>
      rw [memory]
      congr 1
      funext other
      cases other with
      | address => rfl
      | geolocation => rfl
  | geolocation =>
      rw [memory]
      congr 1
      funext other
      cases other with
      | address => rfl
      | geolocation => rfl

/-- Asking for the shared schema of a compound value is a visit. -/
theorem memory_obtain (session : Session) (compound : Compound) :
  (session.obtain compound).2.memory = session.memory.visit Compound.object compound
  := by
  rw [obtain]
  cases h : session.shared? compound with
  | some shared => rw [Memory.visit_of_some _ _ _ h]
  | none =>
      rw [Memory.visit_of_none _ _ _ h, memory_share, memory_note, memory_note]
      rfl

/-- What is given for a compound value is its node after the visit. -/
theorem node?_memory_obtain (session : Session) (compound : Compound) :
  (session.obtain compound).2.memory.node? compound = some (session.obtain compound).1
  := by
  cases h : session.shared? compound with
  | some shared =>
      rw [obtain, h]
      apply h
  | none =>
      rw [memory_obtain, Memory.visit_of_none _ _ _ h, obtain, h]
      apply Function.update_self

end Session

/-! ### Fields -/

/-- Annotations do not change which node a schema uses. -/
theorem Schema.node?_annotate (schema : Schema) (change : Annotations → Annotations) :
  (schema.annotate change).node? = schema.node?
  := by
  cases schema <;> rfl

namespace Field

/-- The choices of a field leave no use of a shared schema. -/
theorem node?_decorate (field : Field) (schema : Schema) :
  (field.decorate schema).node? = if field.selection = .free then schema.node? else none
  := by
  rw [decorate, Schema.node?_annotate, restrict]
  cases field.selection with
  | one => rfl
  | many => rfl
  | free => rfl

/-- Making the schema of a field visits the compound value to which its tag is mapped. -/
theorem memory_runIn_schema (field : Field) (session : Session) :
  (field.schema.runIn session).2.memory
    = session.memory.after Compound.object field.compound?.toList
  := by
  rw [compound?]
  cases htype : SoapType.ofTag? field.tag with
  | none =>
      rw [runIn_schema_of_unsupported (by simp [isUnsupported, htype])]
      apply Session.memory_note
  | some type =>
      rw [runIn_schema_of_ofTag? htype, Option.bind_some]
      cases type.representation with
      | plain kind => apply Session.memory_note
      | dateTime => apply Session.memory_note
      | compound compound =>
          rw [Session.represent, Session.memory_obtain, noted, Session.memory_note]
          rfl

/-- A field whose tag is mapped to a compound value has a schema. It uses the node of the value,
unless choices make another schema of it. -/
theorem exists_schema_of_compound? {field : Field} {compound : Compound}
    (h : field.compound? = some compound) (session : Session) :
  ∃ schema, (field.schema.runIn session).1 = .ok schema
    ∧ schema.node? = if field.selection = .free
      then (field.schema.runIn session).2.memory.node? compound else none
  := by
  obtain ⟨type, htype, hcompound⟩ := Option.bind_eq_some_iff.mp h
  rw [runIn_schema_of_ofTag? htype, Representation.compound?_eq_some_iff.mp hcompound]
  use field.decorate ((field.noted session).represent (.compound compound)).1, rfl
  rw [node?_decorate, Session.represent, Session.node?_memory_obtain]
  rfl

/-- A field whose tag is not mapped to a compound value uses no node. -/
theorem node?_of_compound?_eq_none {field : Field} (h : field.compound? = none)
    {session : Session} {schema : Schema}
    (hschema : (field.schema.runIn session).1 = .ok schema) :
  schema.node? = none
  := by
  cases htype : SoapType.ofTag? field.tag with
  | none =>
      rw [runIn_schema_of_unsupported (by simp [isUnsupported, htype])] at hschema
      cases hschema
  | some type =>
      rw [runIn_schema_of_ofTag? htype] at hschema
      obtain rfl := Except.ok.inj hschema
      rw [compound?, htype, Option.bind_some] at h
      rw [node?_decorate]
      cases hr : type.representation with
      | plain kind => cases kind <;> simp [Session.represent, Schema.ofKind, Schema.node?]
      | dateTime => simp [Session.represent, Schema.node?]
      | compound compound => simp [hr, Representation.compound?] at h

/-- A node that the schema of a field uses is the one of the compound value to which the tag of
the field is mapped. -/
theorem exists_compound?_of_node? {field : Field} {session : Session} {schema : Schema}
    {shared : SharedObject} (hschema : (field.schema.runIn session).1 = .ok schema)
    (hshared : schema.node? = some shared) :
  ∃ compound, field.compound? = some compound
    ∧ (field.schema.runIn session).2.memory.node? compound = some shared
  := by
  cases h : field.compound? with
  | none =>
      rw [node?_of_compound?_eq_none h hschema] at hshared
      cases hshared
  | some compound =>
      use compound, rfl
      obtain ⟨other, hother, hnode⟩ := exists_schema_of_compound? h session
      rw [hschema] at hother
      obtain rfl := Except.ok.inj hother
      rw [hshared] at hnode
      split at hnode
      · apply hnode.symm
      · cases hnode

end Field

/-- Making the schemas of fields visits the compound values to which their tags are mapped. -/
theorem Session.memory_afterFields {fields : List Field}
    (h : ∀ field ∈ fields, field.isUnsupported = false) (session : Session) :
  (session.afterFields fields).memory
    = session.memory.after Compound.object (fields.filterMap (·.compound?))
  := by
  induction fields generalizing session with
  | nil => rfl
  | cons field rest ih =>
      obtain ⟨hfield, hrest⟩ := List.forall_mem_cons.mp h
      obtain ⟨schema, after, hrun⟩ := Field.exists_runIn_schema hfield session
      have hafter := field.memory_runIn_schema session
      rw [hrun] at hafter
      rw [afterFields, hrun, ih hrest, hafter]
      cases hcompound : field.compound? with
      | none => rw [List.filterMap_cons_none hcompound]; rfl
      | some compound => rw [List.filterMap_cons_some hcompound]; rfl

/-! ### Properties of records -/

/-- The node that a property uses is the one that is remembered in the end for the compound
value to which the governing field maps. -/
theorem exists_compound?_of_mem_properties {settings : Settings} {description : Description}
    {session : Session} {object : ObjectSchema}
    (hobject : ((recordSchema settings description).runIn session).1 = .ok object)
    {p : Property} (hp : p ∈ object.properties) {shared : SharedObject}
    (hshared : p.schema.node? = some shared) :
  ∃ field compound, description.governing? p.name = some field
    ∧ field.compound? = some compound
    ∧ ((recordSchema settings description).runIn session).2.memory.node? compound = some shared
  := by
  obtain ⟨before, field, rest, hfields, hgoverning, hschema, -⟩ :=
    exists_field_of_mem_properties hobject hp
  obtain ⟨compound, hcompound, hnode⟩ := Field.exists_compound?_of_node? hschema hshared
  obtain ⟨h, -⟩ := eq_of_recordSchema_eq_ok hobject
  have hrun : ((recordSchema settings description).runIn session).2
      = session.afterFields description.fields := by
    rw [recordSchema, runIn_putFields_of_supported h]
  rw [hfields] at h
  have hbefore : ∀ other ∈ before, other.isUnsupported = false := by
    intro other hother
    apply h
    apply List.mem_append_left _ hother
  rw [field.memory_runIn_schema, hcompound] at hnode
  use field, compound, hgoverning, hcompound
  rw [hrun, hfields, Session.memory_afterFields h, List.filterMap_append, Memory.after_append,
    ← Session.memory_afterFields hbefore, List.filterMap_cons_some hcompound]
  apply Memory.node?_after_of_some _ hnode

/-- What the properties of an object schema say about nodes, if it has been made between two
sessions, in the first of which nothing had been derived. -/
structure SharesNodes (description : Description) (session after : Session)
    (object : ObjectSchema) : Prop where
  /-- The node that a property uses has been made for this object schema, and has the schema
  that is derived from the shape of the compound value to which the governing field maps. -/
  made : ∀ p ∈ object.properties, ∀ shared, p.schema.node? = some shared →
    session.nextNode ≤ shared.node ∧ shared.node < after.nextNode
      ∧ ∃ field compound, description.governing? p.name = some field
        ∧ field.compound? = some compound ∧ compound.shape.schema = .ok shared.schema
  /-- Two properties use the same node exactly when their governing fields map to the same
  compound value. -/
  same : ∀ p ∈ object.properties, ∀ q ∈ object.properties, ∀ shared same,
    p.schema.node? = some shared → q.schema.node? = some same →
    ∀ field other, description.governing? p.name = some field →
      description.governing? q.name = some other →
      (shared.node = same.node ↔ field.compound? = other.compound?)

/-- The properties of an object schema that is made where nothing had been derived share nodes
as their governing fields map to the same compound values. -/
theorem sharesNodes_of_recordSchema {settings : Settings} {description : Description}
    {session after : Session} {object : ObjectSchema}
    (hnew : ∀ compound, session.isDerived compound = false)
    (hrun : (recordSchema settings description).runIn session = (.ok object, after)) :
  SharesNodes description session after object
  := by
  have hobject : ((recordSchema settings description).runIn session).1 = .ok object := by
    rw [hrun]
  obtain ⟨h, -⟩ := eq_of_recordSchema_eq_ok hobject
  have hafter : after = session.afterFields description.fields := by
    have := congrArg Prod.snd hrun
    rw [recordSchema, runIn_putFields_of_supported h] at this
    apply this.symm
  have hnone (compound : Compound) : session.memory.node? compound = none := by
    have := hnew compound
    rw [Session.isDerived, Option.isSome_eq_false_iff, Option.isNone_iff_eq_none] at this
    apply this
  have hnumbered : after.memory.Numbered Compound.object session.nextNode := by
    rw [hafter, Session.memory_afterFields h]
    apply (Memory.numbered_of_none Compound.object hnone).after
  have hnode {p : Property} (hp : p ∈ object.properties) {shared : SharedObject}
      (hshared : p.schema.node? = some shared) :
      ∃ field compound, description.governing? p.name = some field
        ∧ field.compound? = some compound ∧ after.memory.node? compound = some shared := by
    have := exists_compound?_of_mem_properties hobject hp hshared
    rw [hrun] at this
    apply this
  constructor
  · intro p hp shared hshared
    obtain ⟨field, compound, hfield, hcompound, hmemory⟩ := hnode hp hshared
    use hnumbered.first_le hmemory, hnumbered.lt_nextNode hmemory
    use field, compound, hfield, hcompound
    rw [compound.shape.schema_eq_ok, hnumbered.schema_eq hmemory]
    rfl
  · intro p hp q hq shared same hshared hsame field other hfield hother
    obtain ⟨field', compound, hfield', hcompound, hmemory⟩ := hnode hp hshared
    obtain ⟨other', compound', hother', hcompound', hmemory'⟩ := hnode hq hsame
    obtain rfl := Option.some.inj (hfield.symm.trans hfield')
    obtain rfl := Option.some.inj (hother.symm.trans hother')
    rw [Memory.Numbered.node_eq_iff _ hnumbered hmemory hmemory', hcompound, hcompound',
      Option.some.injEq]

end RecordSchema
