import RecordSchema.Build.Field
import RecordSchema.Schema.Document
import RecordSchema.Settings

/-!
# Schemas of objects

The schema of the records of an object has a property for each field. The schema of its query
results is that of a page, with a list of references to the schema of the records. Both stand
as alternatives in one document, under a root that carries the identifier of the language.
-/

namespace RecordSchema

/-! ### Records and query results -/

/-- The schemas of fields put into an object schema one by one, the required ones being those
that may not be left empty. -/
def putFields (object : ObjectSchema) : List Field → Build ObjectSchema
  | [] => pure object
  | field :: rest => do
    let schema ← field.schema
    putFields (object.put ⟨field.name, !field.nillable, schema⟩) rest

/-- The schema of the records of an object. -/
def recordSchema (settings : Settings) (description : Description) : Build ObjectSchema :=
  putFields
    { id := some (settings.objectId description.name)
      annotations := { title := some description.label } }
    description.fields

/-- The name of the property that holds the records of a page. -/
def recordsProperty : String := "records"

/-- The schema of the query results whose records are instances of an object schema. -/
def querySchema (settings : Settings) (object : ObjectSchema) (name : String) :
    Build ObjectSchema := do
  let page ← Build.shape .queryPage
  let records := .listOf (.ref (object.id.getD (settings.objectId name)))
  return { page with id := some (settings.queryId name) }.putRequired recordsProperty records

/-- The schemas of an object. They share no nodes with those made before. -/
def generate (settings : Settings) (description : Description) : Build SchemaSet := do
  Build.note (.generating description.name description.fields.length)
  modify (·.forget)
  let object ← recordSchema settings description
  let records := SchemaSet.insert {} (.object object)
  if settings.addQuery then
    return records.insert (.object (← querySchema settings object description.name))
  else return records

/-! ### Roots -/

/-- The identifier of the language of the schemas. -/
def draft : String := "http://json-schema.org/draft-04/schema#"

/-- The schema of the instances of exactly one of the schemas of a set. -/
def rootOf (set : SchemaSet) (id : String) : Schema :=
  .object { id := some id, metaSchema := some draft, oneOf := some set.members }

/-- The root of the schemas of an object. -/
def objectRoot (settings : Settings) (description : Description) : Build Schema :=
  return rootOf (← generate settings description) settings.idPrefix

/-- The layout that settings ask for. -/
def Settings.layout (settings : Settings) : Json.Layout :=
  if settings.pretty then .pretty else .compact

/-- The text of the schemas of an object. -/
def objectText (settings : Settings) (description : Description) : Build String :=
  return (← objectRoot settings description).text settings.layout

/-! ### The whole interface -/

/-- The identifier of the root of the shapes of the interface. -/
def interfaceId : String :=
  "org:urn:jsonschema:org:apache:camel:component:salesforce:api:dto"

/-- The root of the shapes of the interface. -/
def interfaceRoot : Build Schema := do
  let schemas ← Shape.published.mapM fun shape => Schema.object <$> Build.shape shape
  let set := SchemaSet.ofList schemas
  Build.note (.composed set.members.length)
  return rootOf set interfaceId

/-- The text of the shapes of the interface. -/
def interfaceText (layout : Json.Layout) : Build String :=
  return (← interfaceRoot).text layout

end RecordSchema
