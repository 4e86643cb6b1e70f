import RecordSchema.Proofs.Build.Built
import RecordSchema.Proofs.Schema.WellFormed

/-!
# Reachable schemas

The schemas that are reached from outside by any mix of operations: building them up from parts,
reading literals, decorating and representing fields in a session, making the schemas of objects
and the roots of sets, and taking parts out again. All of them are built schemas, so their documents
are well formed.
-/

namespace RecordSchema

/-! ### Sessions -/

/-- The sessions that are reached: a new one, one without its shared schemas, and those in which a
shared schema has been asked for, or the schema of a field or of the records of an object. -/
inductive Session.Reachable : Session → Prop
  | new : Session.Reachable {}
  | forget {session : Session} (h : session.Reachable) : session.forget.Reachable
  | shared {session : Session} (compound : Compound) (h : session.Reachable) :
    ((Build.shared compound).runIn session).2.Reachable
  | field {session : Session} (field : Field) (h : session.Reachable) :
    (field.schema.runIn session).2.Reachable
  | record {session : Session} (settings : Settings) (description : Description)
    (h : session.Reachable) : ((recordSchema settings description).runIn session).2.Reachable

theorem Session.Reachable.sound {session : Session} (h : session.Reachable) :
  session.Sound
  := by
  induction h with
  | new => apply sound_forget {}
  | forget => apply sound_forget
  | shared compound _ ih =>
      rw [Build.runIn_shared]
      apply ih.obtain
  | field field _ ih => apply ih.runIn_schema
  | record settings description _ ih => apply ih.runIn_putFields

/-! ### Schemas -/

mutual

/-- The schemas that are reached. -/
inductive Schema.Reachable : Schema → Prop
  | simple (kind : SimpleKind) {a : Annotations} (ha : a.IsSorted) :
    Schema.Reachable (.simple kind a)
  | string {s : StringSchema} (hs : s.annotations.IsSorted) : Schema.Reachable (.string s)
  | object {object : ObjectSchema} (h : object.Reachable) : Schema.Reachable (.object object)
  | array {array : ArraySchema} (ha : array.annotations.IsSorted)
    (hitems : ∀ items, array.items = some items → items.Reachable) :
    Schema.Reachable (.array array)
  | ref (id : String) : Schema.Reachable (.ref id)
  | shared (node : Nat) {object : ObjectSchema} {a : Annotations} (h : object.Reachable)
    (ha : a.IsSorted) : Schema.Reachable (.shared node object a)
  /-- The schema of a type that says nothing else. -/
  | ofKind (kind : Kind) : Schema.Reachable (.ofKind kind)
  /-- A schema whose annotations are changed. -/
  | annotate {s : Schema} {change : Annotations → Annotations} (h : s.Reachable)
    (hchange : ∀ a, a.IsSorted → (change a).IsSorted) : Schema.Reachable (s.annotate change)
  /-- The string schema nearest to a schema. -/
  | asString {s : Schema} (h : s.Reachable) : Schema.Reachable (.string s.asString)
  /-- The schema that a literal gives. -/
  | ofLiteral {name : String} {literal : Json} {s : Schema} (hliteral : literal.IsSorted)
    (h : Schema.ofLiteral name literal = .ok s) : Schema.Reachable s
  /-- A schema that is decorated for a field. -/
  | decorate {field : Field} {s : Schema} (hfield : field.IsSorted) (h : s.Reachable) :
    Schema.Reachable (field.decorate s)
  /-- The schema of a field, made in a session. -/
  | field {field : Field} {session : Session} {s : Schema} (hfield : field.IsSorted)
    (hsession : session.Reachable) (h : (field.schema.runIn session).1 = .ok s) :
    Schema.Reachable s
  /-- The schema to which a step leads from another one. -/
  | part {s t : Schema} {step : Step} (h : s.Reachable) (hstep : s.Leads step t) :
    Schema.Reachable t
  /-- A member of a set. -/
  | member {set : SchemaSet} {s : Schema} (h : set.Reachable) (hs : s ∈ set.members) :
    Schema.Reachable s
  /-- The root of a set. -/
  | root {set : SchemaSet} (id : String) (h : set.Reachable) : Schema.Reachable (rootOf set id)
  /-- The root of the schemas of an object. -/
  | objectRoot {settings : Settings} {description : Description} {session : Session}
    {root : Schema} (hdescription : description.IsSorted)
    (h : ((objectRoot settings description).runIn session).1 = .ok root) : Schema.Reachable root
  /-- The root of the whole interface. -/
  | interfaceRoot {session : Session} {root : Schema}
    (h : (interfaceRoot.runIn session).1 = .ok root) : Schema.Reachable root

/-- The object schemas that are reached. -/
inductive ObjectSchema.Reachable : ObjectSchema → Prop
  | empty : ObjectSchema.Reachable {}
  | putRequired {object : ObjectSchema} (name : String) {schema : Schema} (h : object.Reachable)
    (hs : schema.Reachable) : ObjectSchema.Reachable (object.putRequired name schema)
  | putOptional {object : ObjectSchema} (name : String) {schema : Schema} (h : object.Reachable)
    (hs : schema.Reachable) : ObjectSchema.Reachable (object.putOptional name schema)
  | setId {object : ObjectSchema} (id : Option String) (h : object.Reachable) :
    ObjectSchema.Reachable { object with id }
  | setMetaSchema {object : ObjectSchema} (metaSchema : Option String) (h : object.Reachable) :
    ObjectSchema.Reachable { object with metaSchema }
  | annotate {object : ObjectSchema} {annotations : Annotations} (h : object.Reachable)
    (ha : annotations.IsSorted) : ObjectSchema.Reachable { object with annotations }
  | setOneOf {object : ObjectSchema} {schemas : SchemaSet} (h : object.Reachable)
    (hs : schemas.Reachable) : ObjectSchema.Reachable { object with oneOf := some schemas.members }
  /-- The object schema of a schema. -/
  | part {s : Schema} {object : ObjectSchema} (h : s.Reachable)
    (hobject : s.object? = some object) : ObjectSchema.Reachable object
  /-- The object schema of a fixed shape. -/
  | shape {shape : Shape} {object : ObjectSchema} (h : shape.schema = .ok object) :
    ObjectSchema.Reachable object
  /-- The shared object schema of a compound value, asked for in a session. -/
  | shared {compound : Compound} {session : Session} {shared : SharedObject}
    (hsession : session.Reachable) (h : ((Build.shared compound).runIn session).1 = .ok shared) :
    ObjectSchema.Reachable shared.schema
  /-- The schema of the records of an object, made in a session. -/
  | record {settings : Settings} {description : Description} {session : Session}
    {object : ObjectSchema} (hdescription : description.IsSorted) (hsession : session.Reachable)
    (h : ((recordSchema settings description).runIn session).1 = .ok object) :
    ObjectSchema.Reachable object
  /-- The schema of the query results whose records are those of an object schema. -/
  | query {settings : Settings} {name : String} {object page : ObjectSchema} {session : Session}
    (h : ((querySchema settings object name).runIn session).1 = .ok page) :
    ObjectSchema.Reachable page

/-- The sets of schemas that are reached. -/
inductive SchemaSet.Reachable : SchemaSet → Prop
  | empty : SchemaSet.Reachable {}
  | insert {set : SchemaSet} {s : Schema} (h : set.Reachable) (hs : s.Reachable) :
    SchemaSet.Reachable (set.insert s)
  /-- The alternatives of an object schema. -/
  | oneOf {object : ObjectSchema} {schemas : List Schema} (h : object.Reachable)
    (hschemas : object.oneOf = some schemas) : SchemaSet.Reachable ⟨schemas⟩
  /-- The schemas of an object. -/
  | generate {settings : Settings} {description : Description} {session : Session}
    {set : SchemaSet} (hdescription : description.IsSorted)
    (h : ((generate settings description).runIn session).1 = .ok set) : SchemaSet.Reachable set

end

mutual

/-- Reachable schemas are built. -/
theorem Schema.Reachable.built : ∀ {s : Schema}, s.Reachable → s.Built
  | _, .simple kind ha => .simple kind ha
  | _, .string hs => .string hs
  | _, .object h => .object h.built
  | _, .array ha hitems => .array ha fun items h => (hitems items h).built
  | _, .ref id => .ref id
  | _, .shared node h ha => .shared node h.built ha
  | _, .ofKind kind => .ofKind kind
  | _, .annotate h hchange => h.built.annotate hchange
  | _, .asString h => .string h.built.asString_isSorted
  | _, .ofLiteral hliteral h => .ofLiteral hliteral h
  | _, .decorate hfield h => h.built.decorate hfield
  | _, .field hfield hsession h => hsession.sound.built_schema hfield h
  | _, .part h hstep => h.built.of_leads hstep
  | _, .member h hs => h.built _ hs
  | _, .root id h => h.built.rootOf id
  | _, .objectRoot hdescription h => .objectRoot hdescription h
  | _, .interfaceRoot h => .interfaceRoot h

/-- Reachable object schemas are built. -/
theorem ObjectSchema.Reachable.built : ∀ {object : ObjectSchema}, object.Reachable → object.Built
  | _, .empty => .empty
  | _, .putRequired name h hs => h.built.putRequired name hs.built
  | _, .putOptional name h hs => h.built.putOptional name hs.built
  | _, .setId id h => h.built.setId id
  | _, .setMetaSchema metaSchema h => h.built.setMetaSchema metaSchema
  | _, .annotate h ha => h.built.annotate ha
  | _, .setOneOf h hs => h.built.setOneOf hs.built
  | _, .part h hobject => h.built.object? hobject
  | _, .shape h => by
      rw [Shape.schema_eq_ok] at h
      obtain rfl := Except.ok.inj h
      apply Shape.built_object
  | _, .shared hsession h => by
      rw [Build.runIn_shared] at h
      obtain rfl := Except.ok.inj h
      apply hsession.sound.built_obtain
  | _, .record hdescription hsession h => .record hdescription hsession.sound h
  | _, .query h => .query h

/-- The members of reachable sets are built. -/
theorem SchemaSet.Reachable.built : ∀ {set : SchemaSet}, set.Reachable → set.Built
  | _, .empty => by rintro s ⟨⟩
  | _, .insert h hs => h.built.insert hs.built
  | _, .oneOf h hschemas => h.built.alternative hschemas
  | _, .generate hdescription h => .generate hdescription h

end

/-- The documents of reachable schemas are well formed. -/
theorem wellFormed_of_reachable {s : Schema} (h : s.Reachable) :
  s.WellFormed
  := h.built.wellFormed

/-- A schema of orders with a shared place and a repeated property. -/
def orderSchema : ObjectSchema :=
  let empty : ObjectSchema := {}
  ((empty.putRequired "état" (.ref "urn:state")).putOptional "place"
    (.shared 0 Shape.geolocation.object { title := some "Place" })).putRequired "Zone"
      (.string { values := some (.ofList ["β", "a"]) }) |>.putRequired "état" (.ofKind .null)

/-- The root of the set of this schema alone. -/
def orderRoot : Schema := rootOf (SchemaSet.insert {} (.object orderSchema)) "urn:orders"

/-- In a reachable root the properties stand as they were first put, and the required names and the
allowed strings in ascending order. -/
theorem wellFormed_of_reachable_orders :
  orderRoot.Reachable ∧ orderRoot.WellFormed
    ∧ orderRoot.document = .object [
        ("type", .string "object"),
        ("$schema", .string draft),
        ("id", .string "urn:orders"),
        ("oneOf", .array [.object [
          ("type", .string "object"),
          ("properties", .object [
            ("état", .object [("type", .string "null")]),
            ("place", .object [
              ("type", .string "object"),
              ("id", .string Shape.geolocation.id),
              ("title", .string "Place"),
              ("properties", .object [
                ("latitude", Shape.plain .number),
                ("longitude", Shape.plain .number)])]),
            ("Zone", .object [
              ("type", .string "string"),
              ("enum", .array [.string "a", .string "β"])])]),
          ("required", .array [.string "Zone", .string "état"])]])]
  := by
  have hplace : (Schema.shared 0 Shape.geolocation.object { title := some "Place" }).Reachable := by
    apply Schema.Reachable.shared 0 (.shape Shape.geolocation.schema_eq_ok)
    rintro value ⟨⟩
  have hzone : (Schema.string { values := some (.ofList ["β", "a"]) }).Reachable :=
    .string Annotations.isSorted_empty
  have horder : orderSchema.Reachable :=
    (((ObjectSchema.Reachable.empty.putRequired "état" (.ref "urn:state")).putOptional "place"
      hplace).putRequired "Zone" hzone).putRequired "état" (.ofKind .null)
  have hroot : orderRoot.Reachable := .root "urn:orders" (.insert .empty (.object horder))
  use hroot, wellFormed_of_reachable hroot
  rfl

end RecordSchema
