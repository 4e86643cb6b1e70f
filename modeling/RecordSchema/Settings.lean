import RecordSchema.Json.Reader.Record

/-!
# Settings

How the schemas of an object are identified and written, and how settings are read from JSON
and written to it.
-/

namespace RecordSchema

open Json

/-- How schemas are generated and written. -/
structure Settings where
  /-- The identifiers of all generated schemas start with this. -/
  idPrefix : String := "urn:jsonschema:org:apache:camel:component:salesforce:dto"
  /-- Whether a schema of query results is added to the schema of the object. -/
  addQuery : Bool := true
  /-- Whether the text is laid out in lines. -/
  pretty : Bool := true
deriving DecidableEq, Inhabited

namespace Settings

/-- How settings are read. -/
def format : RecordFormat Settings where
  name := "struct SchemaConfig"
  initial := {}
  slots := [
    .optional "idPrefix" readString fun idPrefix s => { s with idPrefix },
    .optional "addQuerySchema" readBool fun addQuery s => { s with addQuery },
    .optional "pretty" readBool fun pretty s => { s with pretty }]

/-- The settings that a text gives. -/
def parse (text : String) : Except ReadError Settings := readWhole format.read text

/-- The document of settings. -/
def document (s : Settings) : Json :=
  .object [
    ("idPrefix", .string s.idPrefix),
    ("addQuerySchema", .bool s.addQuery),
    ("pretty", .bool s.pretty)]

/-- The identifier of the schema of an object. -/
def objectId (s : Settings) (name : String) : String := s.idPrefix ++ ":" ++ name

/-- The identifier of the schema of the query results of an object. -/
def queryId (s : Settings) (name : String) : String := s.idPrefix ++ ":QueryRecords" ++ name

end Settings

end RecordSchema
