import RecordSchema.Schema.Literal

/-!
# Fixed shapes

The compound values and the responses whose layout is known beforehand. Each is given by a
literal, whose members stand in ascending order.
-/

namespace RecordSchema

/-- The fixed shapes. -/
inductive Shape where
  | address
  | geolocation
  /-- A page of query results, without the records. -/
  | queryPage
  | attributes
  | choice
  | recentItem
  /-- The outcome of creating a record. -/
  | creation
  /-- A reported error. -/
  | problem
deriving DecidableEq, Inhabited

namespace Shape

/-- All fixed shapes. -/
def all : List Shape :=
  [.address, .geolocation, .queryPage, .attributes, .choice, .recentItem, .creation, .problem]

/-- The shapes that have a schema of their own among those of the whole interface, in their
order there. -/
def published : List Shape :=
  [.address, .geolocation, .attributes, .choice, .recentItem, .creation, .problem]

/-- The name of a shape. -/
def name : Shape → String
  | .address => "Address"
  | .geolocation => "GeoLocation"
  | .queryPage => "AbstractQueryRecordsBase"
  | .attributes => "Attributes"
  | .choice => "PickListValue"
  | .recentItem => "RecentItem"
  | .creation => "CreateSObjectResult"
  | .problem => "RestError"

/-- The start of the identifiers of all shapes. -/
def idPrefix : String := "urn:jsonschema:org:apache:camel:component:salesforce:api:dto"

/-- The identifier of a shape. -/
def id (shape : Shape) : String := idPrefix ++ ":" ++ shape.name

/-! ### Literals -/

/-- The literal of a type that says nothing else. -/
def plain (kind : Kind) : Json := .object [("type", .string kind.name)]

/-- The literal of arrays with the given items. -/
def listOf (items : Json) : Json :=
  .object [("items", items), ("type", .string Kind.array.name)]

/-- The literal of a shape with the given properties. -/
def objectLiteral (shape : Shape) (properties : List (String × Json)) : Json :=
  .object [
    ("id", .string shape.id),
    ("properties", .object properties),
    ("type", .string Kind.object.name)]

/-- The literal of the attributes of a record. -/
def attributesLiteral : Json :=
  attributes.objectLiteral [("type", plain .string), ("url", plain .string)]

/-- The literal of a reported error. -/
def problemLiteral : Json :=
  problem.objectLiteral [
    ("errorCode", plain .string),
    ("fields", listOf (plain .string)),
    ("message", plain .string)]

/-- The literal of a shape. -/
def literal : Shape → Json
  | .address => address.objectLiteral [
      ("city", plain .string),
      ("country", plain .string),
      ("countryCode", plain .string),
      ("geocodeAccuracy", plain .string),
      ("latitude", plain .number),
      ("longitude", plain .number),
      ("postalCode", plain .string),
      ("state", plain .string),
      ("stateCode", plain .string),
      ("street", plain .string)]
  | .geolocation => geolocation.objectLiteral [
      ("latitude", plain .number),
      ("longitude", plain .number)]
  | .queryPage => queryPage.objectLiteral [
      ("done", plain .boolean),
      ("nextRecordsUrl", plain .string),
      ("totalSize", plain .integer)]
  | .attributes => attributesLiteral
  | .choice => choice.objectLiteral [
      ("active", plain .boolean),
      ("defaultValue", plain .boolean),
      ("label", plain .string),
      ("validFor", plain .string),
      ("value", plain .string)]
  | .recentItem => recentItem.objectLiteral [
      ("Id", plain .string),
      ("Name", plain .string),
      ("attributes", attributesLiteral)]
  | .creation => creation.objectLiteral [
      ("errors", listOf problemLiteral),
      ("id", plain .string),
      ("success", plain .boolean)]
  | .problem => problemLiteral

/-- The object schema that the literal of a shape gives. -/
def schema (shape : Shape) : Except Failure ObjectSchema :=
  match Schema.ofLiteral shape.name shape.literal with
  | .error failure => .error failure
  | .ok (.object schema) => .ok schema
  | .ok other => .error (.invalidLiteral shape.name (.otherKind other.kind))

end Shape

end RecordSchema
