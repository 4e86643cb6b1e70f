import RecordSchema.Description.Basic
import RecordSchema.Json.Reader.Record
import RecordSchema.Json.Text

/-!
# Descriptions as JSON

How descriptions are read from JSON and written to it. They are written with all their
members, the missing ones as `null`.
-/

namespace RecordSchema

open Json

/-! ### Choices -/

namespace Choice

/-- How choices are read. -/
def format : RecordFormat Choice where
  name := "struct PickListValue"
  initial := { value := "" }
  slots := [
    .needed "value" readString fun value c => { c with value },
    .optional "label" (readOptional readString) fun label c => { c with label },
    .optional "active" (readOptional readBool) fun active c => { c with active },
    .optional "defaultValue" (readOptional readBool) fun isDefault c => { c with isDefault },
    .optional "validFor" (readOptional readString) fun validFor c => { c with validFor }]

/-- The choice that a text gives. -/
def parse (text : String) : Except ReadError Choice := readWhole format.read text

/-- The choices that a text gives, if it gives any. -/
def parseList (text : String) : Except ReadError (Option (List Choice)) :=
  readWhole (readOptional (readList format.read)) text

/-- The document of a choice. -/
def document (c : Choice) : Json :=
  .object [
    ("value", .string c.value),
    ("label", orNull .string c.label),
    ("active", orNull .bool c.active),
    ("defaultValue", orNull .bool c.isDefault),
    ("validFor", orNull .string c.validFor)]

end Choice

/-! ### Fields -/

namespace Field

/-- How fields are read. -/
def format : RecordFormat Field where
  name := "struct FieldDescriptor"
  initial := { name := "", tag := "", typeName := "", nillable := false }
  slots := [
    .needed "name" readString fun name f => { f with name },
    .optional "label" readString fun label f => { f with label },
    .needed "soapType" readString fun tag f => { f with tag },
    .optional "type" readString fun typeName f => { f with typeName },
    .optional "nillable" readBool fun nillable f => { f with nillable },
    .optional "updateable" (readOptional readBool) fun updateable f => { f with updateable },
    .optional "defaultValue" (readOptional readValue) fun defaultValue f =>
      { f with defaultValue },
    .optional "picklistValues" (readOptional (readList Choice.format.read)) fun choices f =>
      { f with choices }]

/-- The field that a text gives. -/
def parse (text : String) : Except ReadError Field := readWhole format.read text

/-- The document of a field. -/
def document (f : Field) : Json :=
  .object [
    ("name", .string f.name),
    ("label", .string f.label),
    ("soapType", .string f.tag),
    ("type", .string f.typeName),
    ("nillable", .bool f.nillable),
    ("updateable", orNull .bool f.updateable),
    ("defaultValue", orNull id f.defaultValue),
    ("picklistValues", orNull (fun choices => .array (choices.map Choice.document)) f.choices)]

end Field

/-! ### Descriptions -/

namespace Description

/-- How descriptions are read. -/
def format : RecordFormat Description where
  name := "struct ObjectDescription"
  initial := { name := "" }
  slots := [
    .needed "name" readString fun name d => { d with name },
    .optional "label" readString fun label d => { d with label },
    .optional "fields" (readList Field.format.read) fun fields d => { d with fields }]

/-- The description that a text gives. -/
def parse (text : String) : Except ReadError Description := readWhole format.read text

/-- The document of a description. -/
def document (d : Description) : Json :=
  .object [
    ("name", .string d.name),
    ("label", .string d.label),
    ("fields", .array (d.fields.map Field.document))]

end Description

end RecordSchema
