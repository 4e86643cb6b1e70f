import RecordSchema.Json.Basic

/-!
# Object descriptions

An object is described by its name, its label and the list of its fields. A field has a
tag, which names the type of its values, and the name of its type as the description reports
it, which says whether its values are chosen from a list of entries.
-/

namespace RecordSchema

/-- An entry of a list of choices. -/
structure Choice where
  value : String
  label : Option String := none
  active : Option Bool := none
  isDefault : Option Bool := none
  validFor : Option String := none
deriving DecidableEq, Inhabited

/-- How the values of a field are chosen. -/
inductive Selection where
  /-- One of the listed choices. -/
  | one
  /-- Any number of the listed choices. -/
  | many
  /-- Any value of the type of the field. -/
  | free
deriving DecidableEq, Inhabited

/-- A field of an object. -/
structure Field where
  name : String
  label : String := name
  /-- The tag of the type of the values, such as `xsd:string`. -/
  tag : String
  /-- The name of the type of the field in the description, such as `picklist`. -/
  typeName : String := "string"
  nillable : Bool := true
  /-- Whether the field may be written, if that is known. -/
  updateable : Option Bool := none
  defaultValue : Option Json := none
  choices : Option (List Choice) := none
deriving BEq, Inhabited

namespace Field

/-- The way in which the values of the field are chosen. -/
def selection (field : Field) : Selection :=
  if field.typeName = "picklist" then .one
  else if field.typeName = "multipicklist" then .many
  else .free

/-- The field with a choice for each of some values. -/
def withValues (field : Field) (values : List String) : Field :=
  { field with choices := some (values.map fun value => { value }) }

end Field

/-- The description of an object. -/
structure Description where
  name : String
  label : String := name
  fields : List Field := []
deriving BEq, Inhabited

namespace Description

/-- The description with one more field. -/
def addField (description : Description) (field : Field) : Description :=
  { description with fields := description.fields ++ [field] }

/-- Equality of names up to the case of ASCII letters. -/
def sameName (a b : String) : Bool :=
  a.toList.map Char.toLower == b.toList.map Char.toLower

/-- The first field with a name, up to the case of ASCII letters. -/
def field? (description : Description) (name : String) : Option Field :=
  description.fields.find? fun field => sameName field.name name

end Description

end RecordSchema
