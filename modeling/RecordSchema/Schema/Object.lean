import RecordSchema.Schema.Basic

/-!
# Object schemas

Putting properties into an object schema and looking them up. A property that is put again
stays at its place and takes the new schema; whether it is required is decided anew each time.
-/

namespace RecordSchema

/-- Put a property in place of the one with its name, or behind all others. -/
def putProperty (p : Property) : List Property → List Property
  | [] => [p]
  | q :: rest => if q.name = p.name then p :: rest else q :: putProperty p rest

/-- Putting a property changes what is found under its name and nothing else. -/
theorem find?_putProperty (p : Property) (name : String) (properties : List Property) :
  (putProperty p properties).find? (·.name == name)
    = if p.name = name then some p else properties.find? (·.name == name)
  := by
  induction properties with
  | nil => by_cases h : p.name = name <;> simp [putProperty, h]
  | cons q rest ih =>
    by_cases hq : q.name = p.name
    · by_cases h : p.name = name <;> simp [putProperty, hq, h]
    · by_cases h : q.name = name
      · subst h
        simp [putProperty, hq, Ne.symm hq]
      · simp [putProperty, hq, h, ih]

namespace ObjectSchema

/-- The object schema with a property put into it. -/
def put (object : ObjectSchema) (p : Property) : ObjectSchema :=
  { object with properties := putProperty p object.properties }

/-- The object schema with a required property put into it. -/
def putRequired (object : ObjectSchema) (name : String) (schema : Schema) : ObjectSchema :=
  object.put ⟨name, true, schema⟩

/-- The object schema with an optional property put into it. -/
def putOptional (object : ObjectSchema) (name : String) (schema : Schema) : ObjectSchema :=
  object.put ⟨name, false, schema⟩

/-- The property with a name. -/
def find? (object : ObjectSchema) (name : String) : Option Property :=
  object.properties.find? (·.name == name)

/-- The schema of the property with a name. -/
def property? (object : ObjectSchema) (name : String) : Option Schema :=
  (object.find? name).map (·.schema)

/-- The property with a name is the one that was put last under it. -/
theorem find?_put (object : ObjectSchema) (p : Property) (name : String) :
  (object.put p).find? name = if p.name = name then some p else object.find? name
  := find?_putProperty p name object.properties

/-- The names of the properties, in their order. -/
def names (object : ObjectSchema) : List String := object.properties.map (·.name)

/-- The names of the required properties. -/
def required (object : ObjectSchema) : StringSet :=
  .ofList ((object.properties.filter (·.required)).map (·.name))

/-- The names of the properties that are not required, in their order. -/
def optional (object : ObjectSchema) : List String :=
  (object.properties.filter (!·.required)).map (·.name)

/-- Whether a name is that of a required property. -/
def isRequired (object : ObjectSchema) (name : String) : Bool :=
  object.properties.any fun p => p.required && p.name == name

end ObjectSchema

end RecordSchema
