import RecordSchema.Build.Session
import RecordSchema.Description.Basic

/-!
# Schemas of fields

The schema of a field is that of its SOAP type, decorated with what the description says: the
choices, the label, the default value, and whether the field may be written. A field with a
single choice is a string from the set of choices. A field with many is a string in which one
of them occurs, behind a comma or not.
-/

namespace RecordSchema

/-! ### Representations -/

/-- The SOAP type with a tag. A tag of no SOAP type is a failure. -/
def SoapType.ofTag (tag : String) : Except Failure SoapType :=
  match ofTag? tag with
  | some type => .ok type
  | none => .error (.unsupportedTag tag)

/-- How the values with a tag are represented. -/
def Representation.ofTag (tag : String) : Except Failure Representation :=
  (SoapType.ofTag tag).map (·.representation)

/-- The schema of the values of a representation. -/
def Representation.schema : Representation → Build Schema
  | .plain kind => pure (.ofKind kind)
  | .dateTime => pure (.string { format := some .dateTime })
  | .compound value => return (← Build.shared value).use

/-! ### Choices -/

/-- The set of the values of choices. -/
def choiceSet (choices : Option (List Choice)) : StringSet :=
  .ofList ((choices.getD []).map (·.value))

/-- The alternative of a pattern that matches a value, behind a comma or not. -/
def alternative (value : String) : String := "(,?(" ++ value ++ "))"

/-- The alternatives for the values of choices, each of them once, in the order in which they first
occur. -/
def alternatives (choices : List Choice) : List String :=
  (choices.map fun choice => alternative choice.value).eraseDups

/-- The pattern of selections of choices: the alternatives for their values. Without a list of
choices it is empty. -/
def selectionPattern : Option (List Choice) → String
  | none => ""
  | some choices => "(" ++ "|".intercalate (alternatives choices) ++ ")"

namespace Field

/-! ### Decoration -/

/-- A schema with the choices of the field. -/
def restrict (field : Field) (schema : Schema) : Schema :=
  match field.selection with
  | .one => .string { schema.asString with values := some (choiceSet field.choices) }
  | .many => .string { schema.asString with pattern := some (selectionPattern field.choices) }
  | .free => schema

/-- Annotations with what the field says for display. -/
def annotate (field : Field) (annotations : Annotations) : Annotations where
  title := some field.label
  defaultValue := field.defaultValue
  readonly := (field.updateable.map (!·)).or annotations.readonly

/-- A schema with all that the field says. -/
def decorate (field : Field) (schema : Schema) : Schema :=
  (field.restrict schema).annotate field.annotate

/-! ### Schemas -/

/-- The schema of a field. -/
def schema (field : Field) : Build Schema := do
  Build.note (.mapping field.name field.tag)
  let representation ← Representation.ofTag field.tag
  return field.decorate (← representation.schema)

end Field

end RecordSchema
