import RecordSchema.Schema.Set
import RecordSchema.Proofs.Json.Sorted
import RecordSchema.Proofs.Object.Puts

/-!
# Built schemas

The schemas that can be built from outside: of each kind, with any annotations and any other
schemas in them, where the properties of an object schema are put one by one. Default values
are JSON values as they are read, with the members of all objects in ascending order. In a
built object schema no two properties have the same name, and every property is built.
-/

namespace RecordSchema

/-- The default value, if there is one, is a value as it is read. -/
def Annotations.IsSorted (a : Annotations) : Prop :=
  ∀ value, a.defaultValue = some value → value.IsSorted

mutual

/-- The schemas that can be built. -/
inductive Schema.Built : Schema → Prop
  | simple (kind : SimpleKind) {a : Annotations} (ha : a.IsSorted) :
    Schema.Built (.simple kind a)
  | string {s : StringSchema} (hs : s.annotations.IsSorted) : Schema.Built (.string s)
  | object {object : ObjectSchema} (h : object.Built) : Schema.Built (.object object)
  | array {array : ArraySchema} (ha : array.annotations.IsSorted)
    (hitems : ∀ items, array.items = some items → items.Built) : Schema.Built (.array array)
  | ref (id : String) : Schema.Built (.ref id)
  | shared (node : Nat) {object : ObjectSchema} {a : Annotations} (h : object.Built)
    (ha : a.IsSorted) : Schema.Built (.shared node object a)

/-- The object schemas that can be built. -/
inductive ObjectSchema.Built : ObjectSchema → Prop
  | empty : ObjectSchema.Built {}
  | putRequired {object : ObjectSchema} (name : String) {schema : Schema} (h : object.Built)
    (hs : schema.Built) : ObjectSchema.Built (object.putRequired name schema)
  | putOptional {object : ObjectSchema} (name : String) {schema : Schema} (h : object.Built)
    (hs : schema.Built) : ObjectSchema.Built (object.putOptional name schema)
  | setId {object : ObjectSchema} (id : Option String) (h : object.Built) :
    ObjectSchema.Built { object with id }
  | setMetaSchema {object : ObjectSchema} (metaSchema : Option String) (h : object.Built) :
    ObjectSchema.Built { object with metaSchema }
  | annotate {object : ObjectSchema} {annotations : Annotations} (h : object.Built)
    (ha : annotations.IsSorted) : ObjectSchema.Built { object with annotations }
  | setOneOf {object : ObjectSchema} {schemas : SchemaSet} (h : object.Built)
    (hs : ∀ schema ∈ schemas.members, schema.Built) :
    ObjectSchema.Built { object with oneOf := some schemas.members }

end

/-! ### Built object schemas -/

namespace ObjectSchema.Built

/-- No two properties of a built object schema have the same name. -/
theorem nodup_names :
    ∀ {object : ObjectSchema}, object.Built → object.names.Nodup
  | _, .empty => List.nodup_nil
  | _, .putRequired _ h _ => nodup_names_putProperty _ (nodup_names h)
  | _, .putOptional _ h _ => nodup_names_putProperty _ (nodup_names h)
  | _, .setId _ h => by apply nodup_names h
  | _, .setMetaSchema _ h => by apply nodup_names h
  | _, .annotate h _ => by apply nodup_names h
  | _, .setOneOf h _ => by apply nodup_names h

/-- The default value of a built object schema is a value as it is read. -/
theorem annotations_isSorted :
    ∀ {object : ObjectSchema}, object.Built → object.annotations.IsSorted
  | _, .empty => by
      intro value hvalue
      cases hvalue
  | _, .putRequired _ h _ => by apply annotations_isSorted h
  | _, .putOptional _ h _ => by apply annotations_isSorted h
  | _, .setId _ h => by apply annotations_isSorted h
  | _, .setMetaSchema _ h => by apply annotations_isSorted h
  | _, .annotate _ ha => ha
  | _, .setOneOf h _ => by apply annotations_isSorted h

/-- The schemas of the properties of a built object schema are built. -/
theorem property :
    ∀ {object : ObjectSchema}, object.Built → ∀ {p : Property}, p ∈ object.properties →
      p.schema.Built
  | _, .empty, _, hp => by cases hp
  | _, .putRequired _ h hs, _, hp => by
      rcases mem_of_mem_putProperty hp with rfl | hp
      · apply hs
      · apply property h hp
  | _, .putOptional _ h hs, _, hp => by
      rcases mem_of_mem_putProperty hp with rfl | hp
      · apply hs
      · apply property h hp
  | _, .setId _ h, _, hp => by apply property h hp
  | _, .setMetaSchema _ h, _, hp => by apply property h hp
  | _, .annotate h _, _, hp => by apply property h hp
  | _, .setOneOf h _, _, hp => by apply property h hp

/-- The alternatives of a built object schema are built. -/
theorem alternative :
    ∀ {object : ObjectSchema}, object.Built → ∀ {schemas : List Schema},
      object.oneOf = some schemas → ∀ s ∈ schemas, s.Built
  | _, .empty, _, hschemas => by cases hschemas
  | _, .putRequired _ h _, _, hschemas => by apply alternative h hschemas
  | _, .putOptional _ h _, _, hschemas => by apply alternative h hschemas
  | _, .setId _ h, _, hschemas => by apply alternative h hschemas
  | _, .setMetaSchema _ h, _, hschemas => by apply alternative h hschemas
  | _, .annotate h _, _, hschemas => by apply alternative h hschemas
  | _, .setOneOf _ hs, _, hschemas => by
      obtain rfl := Option.some.inj hschemas
      apply hs

/-- A property with a built schema, required or not, may be put. -/
theorem put {object : ObjectSchema} (h : object.Built) {p : Property} (hp : p.schema.Built) :
  (object.put p).Built
  := by
  obtain ⟨name, required, schema⟩ := p
  cases required with
  | true => apply h.putRequired name hp
  | false => apply h.putOptional name hp

theorem putAll {object : ObjectSchema} (h : object.Built) {puts : List Property}
    (hputs : ∀ p ∈ puts, p.schema.Built) :
  ObjectSchema.Built { object with properties := RecordSchema.putAll puts object.properties }
  := by
  induction puts generalizing object with
  | nil =>
      cases object
      apply h
  | cons p puts ih =>
      obtain ⟨hp, hputs⟩ := List.forall_mem_cons.mp hputs
      apply ih (h.put hp) hputs

end ObjectSchema.Built

/-- Annotations that fall back to others have a default value as it is read. -/
theorem Annotations.IsSorted.orElse {own base : Annotations} (hown : own.IsSorted)
    (hbase : base.IsSorted) :
  (own.orElse base).IsSorted
  := by
  intro value hvalue
  rcases Option.or_eq_some_iff.mp hvalue with h | ⟨-, h⟩
  · apply hown value h
  · apply hbase value h

/-! ### Built schemas of other kinds -/

theorem Annotations.isSorted_empty :
  Annotations.IsSorted {}
  := by
  rintro value ⟨⟩

namespace Schema.Built

/-- The schema of a type that says nothing else is built. -/
theorem ofKind (kind : Kind) :
  (Schema.ofKind kind).Built
  := by
  cases kind with
  | null => apply Schema.Built.simple .null Annotations.isSorted_empty
  | integer => apply Schema.Built.simple .integer Annotations.isSorted_empty
  | number => apply Schema.Built.simple .number Annotations.isSorted_empty
  | boolean => apply Schema.Built.simple .boolean Annotations.isSorted_empty
  | string => apply Schema.Built.string Annotations.isSorted_empty
  | object => apply Schema.Built.object .empty
  | array =>
      apply Schema.Built.array Annotations.isSorted_empty
      rintro items ⟨⟩

/-- The object schema of a built schema is built. -/
theorem object? {s : Schema} (h : s.Built) {object : ObjectSchema}
    (hobject : s.object? = some object) :
  object.Built
  := by
  cases h with
  | simple kind ha => cases hobject
  | string hs => cases hobject
  | object h =>
      obtain rfl := Option.some.inj hobject
      apply h
  | array ha hitems => cases hobject
  | ref id => cases hobject
  | shared node h ha =>
      obtain rfl := Option.some.inj hobject
      apply h

/-- The annotations of a built schema have a default value as it is read. -/
theorem annotations?_isSorted {s : Schema} (h : s.Built) {a : Annotations}
    (ha : s.annotations? = some a) :
  a.IsSorted
  := by
  cases h with
  | simple kind h =>
      obtain rfl := Option.some.inj ha
      apply h
  | string h =>
      obtain rfl := Option.some.inj ha
      apply h
  | object h =>
      obtain rfl := Option.some.inj ha
      apply h.annotations_isSorted
  | array h hitems =>
      obtain rfl := Option.some.inj ha
      apply h
  | ref id => cases ha
  | shared node h hown =>
      obtain rfl := Option.some.inj ha
      apply hown

/-- Annotations may be changed, as long as the default value is one as it is read. -/
theorem annotate {s : Schema} (h : s.Built) {change : Annotations → Annotations}
    (hchange : ∀ a, a.IsSorted → (change a).IsSorted) :
  (s.annotate change).Built
  := by
  cases h with
  | simple kind ha => apply Schema.Built.simple kind (hchange _ ha)
  | string ha => apply Schema.Built.string (hchange _ ha)
  | object h => apply Schema.Built.object (h.annotate (hchange _ h.annotations_isSorted))
  | array ha hitems =>
      rw [Schema.annotate]
      constructor
      · apply hchange _ ha
      · apply hitems
  | ref id => apply Schema.Built.ref
  | shared node h ha => apply Schema.Built.shared node h (hchange _ ha)

/-- The string schema nearest to a built schema is built. -/
theorem asString_isSorted {s : Schema} (h : s.Built) :
  s.asString.annotations.IsSorted
  := by
  have hget : (s.annotations?.getD {}).IsSorted := by
    cases ha : s.annotations? with
    | none => apply Annotations.isSorted_empty
    | some a => apply h.annotations?_isSorted ha
  cases s with
  | string s => apply h.annotations?_isSorted rfl
  | simple kind a => apply hget
  | object object => apply hget
  | array array => apply hget
  | ref id => apply hget
  | shared node object a => apply hget

end Schema.Built

/-! ### Induction on trees -/

theorem ObjectSchema.sizeOf_property_lt {object : ObjectSchema} {p : Property}
    (hp : p ∈ object.properties) :
  sizeOf p.schema < sizeOf object
  := by
  obtain ⟨id, metaSchema, annotations, properties, oneOf⟩ := object
  have hlt := List.sizeOf_lt_of_mem hp
  cases p
  simp only [Property.mk.sizeOf_spec, ObjectSchema.mk.sizeOf_spec] at hlt ⊢
  omega

theorem ObjectSchema.sizeOf_oneOf_lt {object : ObjectSchema} {schemas : List Schema}
    {s : Schema} (hschemas : object.oneOf = some schemas) (hs : s ∈ schemas) :
  sizeOf s < sizeOf object
  := by
  obtain ⟨id, metaSchema, annotations, properties, oneOf⟩ := object
  obtain rfl : oneOf = some schemas := hschemas
  have hlt := List.sizeOf_lt_of_mem hs
  simp only [ObjectSchema.mk.sizeOf_spec, Option.some.sizeOf_spec]
  omega

theorem ArraySchema.sizeOf_items_lt {array : ArraySchema} {items : Schema}
    (hitems : array.items = some items) :
  sizeOf items < sizeOf array
  := by
  obtain ⟨annotations, _⟩ := array
  obtain rfl := hitems
  simp only [ArraySchema.mk.sizeOf_spec, Option.some.sizeOf_spec]
  omega

/-- A statement holds of all schemas if it holds of each schema for which it holds of the
schemas of the properties, of the alternatives, and of the items. -/
@[elab_as_elim]
theorem Schema.treeInduction {motive : Schema → Prop}
    (simple : ∀ kind a, motive (.simple kind a))
    (string : ∀ s, motive (.string s))
    (object : ∀ object : ObjectSchema, (∀ p ∈ object.properties, motive p.schema) →
      (∀ schemas, object.oneOf = some schemas → ∀ s ∈ schemas, motive s) →
      motive (.object object))
    (array : ∀ array : ArraySchema, (∀ items, array.items = some items → motive items) →
      motive (.array array))
    (ref : ∀ id, motive (.ref id))
    (shared : ∀ (node : Nat) (object : ObjectSchema) (a : Annotations),
      (∀ p ∈ object.properties, motive p.schema) →
      (∀ schemas, object.oneOf = some schemas → ∀ s ∈ schemas, motive s) →
      motive (.shared node object a)) :
    ∀ s : Schema, motive s
  | .simple kind a => simple kind a
  | .string s => string s
  | .object o => object o
      (fun p _ => treeInduction simple string object array ref shared p.schema)
      (fun _ _ s _ => treeInduction simple string object array ref shared s)
  | .array a => array a
      (fun items _ => treeInduction simple string object array ref shared items)
  | .ref id => ref id
  | .shared node o a => shared node o a
      (fun p _ => treeInduction simple string object array ref shared p.schema)
      (fun _ _ s _ => treeInduction simple string object array ref shared s)
termination_by s => sizeOf s
decreasing_by
  all_goals simp only [Schema.object.sizeOf_spec, Schema.array.sizeOf_spec,
    Schema.shared.sizeOf_spec]
  · have := ObjectSchema.sizeOf_property_lt ‹_›
    omega
  · have := ObjectSchema.sizeOf_oneOf_lt ‹_› ‹_›
    omega
  · have := ArraySchema.sizeOf_items_lt ‹_›
    omega
  · have := ObjectSchema.sizeOf_property_lt ‹_›
    omega
  · have := ObjectSchema.sizeOf_oneOf_lt ‹_› ‹_›
    omega

end RecordSchema
