import RecordSchema.Json.Message
import RecordSchema.Schema.Basic

/-!
# Failures

The ways in which making a schema can fail, and what is wrong with a literal that is no schema.
-/

namespace RecordSchema

/-! ### Literals -/

/-- What is wrong with a literal. -/
inductive LiteralFault where
  | notObject (found : Json)
  | referenceNotString
  | typeMissing
  | unknownType (name : String)
  | notString (key : String)
  | notBoolean (key : String)
  | unknownFormat (name : String)
  | notArray (key : String)
  | entryNotString (key : String)
  | propertiesNotObject
  /-- A literal of the given type stands where one of an object is wanted. -/
  | otherKind (kind : Kind)

/-- What is wrong with a literal, in words. -/
def LiteralFault.message : LiteralFault → String
  | .notObject found => "schema literal must be an object, found " ++ found.compact
  | .referenceNotString => "$ref must be a string"
  | .typeMissing => "missing type"
  | .unknownType name => "unknown type '" ++ name ++ "'"
  | .notString key => key ++ " must be a string"
  | .notBoolean key => key ++ " must be a boolean"
  | .unknownFormat name => "unsupported format '" ++ name ++ "'"
  | .notArray key => key ++ " must be an array"
  | .entryNotString key => key ++ " entries must be strings"
  | .propertiesNotObject => "properties must be an object"
  | .otherKind kind => "expected an object schema, found " ++ kind.name

/-! ### Failures -/

/-- Why there is no schema. -/
inductive Failure where
  /-- A field has a tag of no SOAP type. -/
  | unsupportedTag (tag : String)
  /-- The literal that goes by the given name is no schema. -/
  | invalidLiteral (name : String) (fault : LiteralFault)
  /-- A text is no description. -/
  | invalidDescription (error : Json.ReadError)

/-- Why there is no schema, in words. -/
def Failure.message : Failure → String
  | .unsupportedTag tag => "Unsupported type " ++ tag
  | .invalidLiteral name fault => "Cannot derive schema for " ++ name ++ ": " ++ fault.message
  | .invalidDescription error => "Invalid object description: " ++ error.message

end RecordSchema
