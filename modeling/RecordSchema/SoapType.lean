import RecordSchema.Shape

/-!
# SOAP types

The types of the values of fields as they are tagged in descriptions, and how a schema
represents them. A tag is a local name, with or without a namespace and a colon before it.
-/

namespace RecordSchema

/-- The compound values, whose schema is shared by all fields that have them. -/
inductive Compound where
  | address
  | geolocation
deriving DecidableEq, Inhabited

/-- The shape of a compound value. -/
def Compound.shape : Compound → Shape
  | .address => .address
  | .geolocation => .geolocation

/-- How the values of a SOAP type are represented. -/
inductive Representation where
  | plain (kind : Kind)
  /-- A string in the format of a date and time. -/
  | dateTime
  | compound (compound : Compound)
deriving DecidableEq, Inhabited

/-- The types of the values of fields. -/
inductive SoapType where
  | id
  | string
  | base64Binary
  | anyType
  | integer
  | int
  | long
  | short
  | byte
  | unsignedInt
  | unsignedShort
  | unsignedByte
  | decimal
  | float
  | double
  | boolean
  | dateTime
  | time
  | date
  | g
  | address
  | location
deriving DecidableEq, Inhabited

namespace SoapType

/-- All SOAP types. -/
def all : List SoapType :=
  [.id, .string, .base64Binary, .anyType, .integer, .int, .long, .short, .byte, .unsignedInt,
    .unsignedShort, .unsignedByte, .decimal, .float, .double, .boolean, .dateTime, .time, .date,
    .g, .address, .location]

/-- The tag of a SOAP type without a namespace. -/
def localName : SoapType → String
  | .id => "ID"
  | .string => "string"
  | .base64Binary => "base64Binary"
  | .anyType => "anyType"
  | .integer => "integer"
  | .int => "int"
  | .long => "long"
  | .short => "short"
  | .byte => "byte"
  | .unsignedInt => "unsignedInt"
  | .unsignedShort => "unsignedShort"
  | .unsignedByte => "unsignedByte"
  | .decimal => "decimal"
  | .float => "float"
  | .double => "double"
  | .boolean => "boolean"
  | .dateTime => "dateTime"
  | .time => "time"
  | .date => "date"
  | .g => "g"
  | .address => "address"
  | .location => "location"

/-- The part of a tag behind its first colon, or all of it if there is none. -/
def localPart (tag : String) : String :=
  match tag.toList.dropWhile (· ≠ ':') with
  | [] => tag
  | _ :: rest => String.ofList rest

/-- The SOAP type with a tag. -/
def ofTag? (tag : String) : Option SoapType := all.find? (·.localName == localPart tag)

/-- How the values of a SOAP type are represented. -/
def representation : SoapType → Representation
  | .id | .string | .base64Binary | .anyType => .plain .string
  | .integer | .int | .long | .short | .byte | .unsignedInt | .unsignedShort
  | .unsignedByte => .plain .integer
  | .decimal | .float | .double => .plain .number
  | .boolean => .plain .boolean
  | .dateTime | .time | .date | .g => .dateTime
  | .address => .compound .address
  | .location => .compound .geolocation

end SoapType

end RecordSchema
