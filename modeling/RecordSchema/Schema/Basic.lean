import RecordSchema.Json.Basic
import RecordSchema.StringSet

/-!
# Schema trees

The schemas of draft 4 that describe records: of strings, objects and arrays, of the simple
types, references to other schemas, and the schemas of compound values, of which one object
schema serves several fields. Such a shared object schema is a node that is told from others
by its number; each field that uses it has annotations of its own.

The properties of an object schema stand in the order in which they were first put there, and
each says whether it is required. So the required names are always names of properties.
-/

namespace RecordSchema

/-! ### Kinds and annotations -/

/-- The types of instances. -/
inductive Kind where
  | null
  | string
  | integer
  | number
  | boolean
  | object
  | array
deriving DecidableEq, Inhabited

namespace Kind

/-- All types of instances. -/
def all : List Kind := [.null, .string, .integer, .number, .boolean, .object, .array]

/-- The name of a type in a schema. -/
def name : Kind → String
  | .null => "null"
  | .string => "string"
  | .integer => "integer"
  | .number => "number"
  | .boolean => "boolean"
  | .object => "object"
  | .array => "array"

/-- The type with a name. -/
def ofName? (s : String) : Option Kind := all.find? (·.name == s)

end Kind

/-- The types of instances about which a schema says nothing but their type. -/
inductive SimpleKind where
  | null
  | integer
  | number
  | boolean
deriving DecidableEq, Inhabited

/-- The type as a type of instances. -/
def SimpleKind.kind : SimpleKind → Kind
  | .null => .null
  | .integer => .integer
  | .number => .number
  | .boolean => .boolean

/-- What is said about a value for display. -/
structure Annotations where
  title : Option String := none
  /-- The default value. It may be `null`, which is not the same as having none. -/
  defaultValue : Option Json := none
  readonly : Option Bool := none
deriving BEq, Inhabited

/-- The annotations, completed by those of another schema where they say nothing. -/
def Annotations.orElse (own base : Annotations) : Annotations where
  title := own.title.or base.title
  defaultValue := own.defaultValue.or base.defaultValue
  readonly := own.readonly.or base.readonly

/-! ### Strings -/

/-- The formats of strings. -/
inductive StringFormat where
  | dateTime
deriving DecidableEq, Inhabited

/-- The name of a format in a schema. -/
def StringFormat.name : StringFormat → String
  | .dateTime => "date-time"

/-- A schema of strings. -/
structure StringSchema where
  annotations : Annotations := {}
  format : Option StringFormat := none
  /-- The strings that are allowed, if not all are. -/
  values : Option StringSet := none
  pattern : Option String := none
deriving BEq, Inhabited

/-! ### Trees -/

mutual

/-- A schema. -/
inductive Schema where
  | simple (kind : SimpleKind) (annotations : Annotations)
  | string (schema : StringSchema)
  | object (schema : ObjectSchema)
  | array (schema : ArraySchema)
  /-- A reference to the schema with an identifier. -/
  | ref (id : String)
  /-- A use of the shared object schema of a node. -/
  | shared (node : Nat) (schema : ObjectSchema) (annotations : Annotations)

/-- A schema of objects. -/
structure ObjectSchema where
  id : Option String := none
  /-- The identifier of the language of schemas; only given at the root of a document. -/
  metaSchema : Option String := none
  annotations : Annotations := {}
  properties : List Property := []
  /-- Schemas of which an instance matches exactly one. -/
  oneOf : Option (List Schema) := none

/-- A named member of objects and its schema. -/
structure Property where
  name : String
  required : Bool
  schema : Schema

/-- A schema of arrays. -/
structure ArraySchema where
  annotations : Annotations := {}
  items : Option Schema := none

end

namespace Schema

instance : Inhabited Schema := ⟨.ref ""⟩

instance : Inhabited ObjectSchema := ⟨{}⟩

/-- The schema of a type that says nothing else. -/
def ofKind : Kind → Schema
  | .null => .simple .null {}
  | .string => .string {}
  | .integer => .simple .integer {}
  | .number => .simple .number {}
  | .boolean => .simple .boolean {}
  | .object => .object {}
  | .array => .array {}

/-- The type of the instances of a schema. A reference stands for an object schema. -/
def kind : Schema → Kind
  | .simple kind _ => kind.kind
  | .string _ => .string
  | .object _ | .ref _ | .shared _ _ _ => .object
  | .array _ => .array

/-- The object schema of a schema, also where it is shared. -/
def object? : Schema → Option ObjectSchema
  | .object schema | .shared _ schema _ => some schema
  | _ => none

/-- The string schema of a schema. -/
def string? : Schema → Option StringSchema
  | .string schema => some schema
  | _ => none

/-- The array schema of a schema. -/
def array? : Schema → Option ArraySchema
  | .array schema => some schema
  | _ => none

/-- The identifier of an object schema. -/
def id? (schema : Schema) : Option String := schema.object?.bind (·.id)

/-- The annotations of a schema. A reference has none. -/
def annotations? : Schema → Option Annotations
  | .simple _ annotations | .shared _ _ annotations => some annotations
  | .string schema => some schema.annotations
  | .object schema => some schema.annotations
  | .array schema => some schema.annotations
  | .ref _ => none

/-- The schema with its annotations changed. A reference stays as it is. -/
def annotate (change : Annotations → Annotations) : Schema → Schema
  | .simple kind annotations => .simple kind (change annotations)
  | .string schema => .string { schema with annotations := change schema.annotations }
  | .object schema => .object { schema with annotations := change schema.annotations }
  | .array schema => .array { schema with annotations := change schema.annotations }
  | .ref id => .ref id
  | .shared node schema annotations => .shared node schema (change annotations)

/-- The string schema nearest to a schema: a string schema itself, and otherwise one with its
annotations. -/
def asString : Schema → StringSchema
  | .string schema => schema
  | other => { annotations := other.annotations?.getD {} }

/-- The schema of arrays with items of a schema. -/
def listOf (items : Schema) : Schema := .array { items := some items }

end Schema

/-! ### Equality -/

mutual

/-- Equality of schemas. It does not matter which node a shared schema is. -/
def Schema.equal : Schema → Schema → Bool
  | .simple k a, .simple l b => k == l && a == b
  | .string s, .string t => s == t
  | .object o, .object p => o.equal p
  | .array ⟨a, none⟩, .array ⟨b, none⟩ => a == b
  | .array ⟨a, some s⟩, .array ⟨b, some t⟩ => a == b && s.equal t
  | .ref i, .ref j => i == j
  | .shared _ o a, .shared _ p b => o.equal p && a == b
  | _, _ => false

/-- Equality of object schemas: the properties are compared in the order in which they
stand. -/
def ObjectSchema.equal : ObjectSchema → ObjectSchema → Bool
  | ⟨i, m, a, ps, none⟩, ⟨j, n, b, qs, none⟩ =>
    i == j && m == n && a == b && equalProperties ps qs
  | ⟨i, m, a, ps, some ss⟩, ⟨j, n, b, qs, some ts⟩ =>
    i == j && m == n && a == b && equalProperties ps qs && equalSchemas ss ts
  | _, _ => false

/-- Equality of the properties of two object schemas. -/
def equalProperties : List Property → List Property → Bool
  | [], [] => true
  | ⟨m, r, s⟩ :: ps, ⟨n, q, t⟩ :: qs => m == n && r == q && s.equal t && equalProperties ps qs
  | _, _ => false

/-- Equality of two lists of schemas. -/
def equalSchemas : List Schema → List Schema → Bool
  | [], [] => true
  | s :: ss, t :: ts => s.equal t && equalSchemas ss ts
  | _, _ => false

end

instance : BEq Schema := ⟨Schema.equal⟩

instance : BEq ObjectSchema := ⟨ObjectSchema.equal⟩

end RecordSchema
