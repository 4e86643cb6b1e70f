import RecordSchema.Failure
import RecordSchema.Schema.Object

/-!
# Literals

A literal is a JSON value that is read as a schema. What a schema of its type can say is taken
from the members of an object; other members do not matter. A member `$ref` makes a reference
of it, whatever else is there. Whatever is wrong inside a literal is reported for the literal as a
whole, by its name.
-/

namespace RecordSchema

namespace Literal

/-! ### Members -/

/-- The string under a key, if there is a member with it. -/
def string? (key : String) (members : List (String × Json)) :
    Except LiteralFault (Option String) :=
  match members.lookup key with
  | none => .ok none
  | some (.string s) => .ok (some s)
  | some _ => .error (.notString key)

/-- The boolean under a key, if there is a member with it. -/
def bool? (key : String) (members : List (String × Json)) :
    Except LiteralFault (Option Bool) :=
  match members.lookup key with
  | none => .ok none
  | some (.bool b) => .ok (some b)
  | some _ => .error (.notBoolean key)

/-- The strings among the items of an array, all of which must be strings. -/
def strings (key : String) : List Json → Except LiteralFault (List String)
  | [] => .ok []
  | .string s :: rest => (strings key rest).map (s :: ·)
  | _ :: _ => .error (.entryNotString key)

/-- The strings of the array under a key, if there is a member with it. -/
def strings? (key : String) (members : List (String × Json)) :
    Except LiteralFault (Option (List String)) :=
  match members.lookup key with
  | none => .ok none
  | some (.array items) => (strings key items).map some
  | some _ => .error (.notArray key)

/-- The annotations that members give. -/
def annotations (members : List (String × Json)) : Except LiteralFault Annotations := do
  let title ← string? "title" members
  let readonly ← bool? "readonly" members
  pure { title, defaultValue := members.lookup "default", readonly }

/-- The string format that members give. -/
def format? (members : List (String × Json)) : Except LiteralFault (Option StringFormat) := do
  match ← string? "format" members with
  | none => pure none
  | some name =>
    if name = StringFormat.dateTime.name then pure (some .dateTime)
    else throw (.unknownFormat name)

/-- The string schema that members give. -/
def stringSchema (annotations : Annotations) (members : List (String × Json)) :
    Except LiteralFault StringSchema := do
  let format ← format? members
  let pattern ← string? "pattern" members
  let values ← strings? "enum" members
  pure { annotations, format, pattern, values := values.map .ofList }

/-- The type that members give. -/
def kind (members : List (String × Json)) : Except LiteralFault Kind :=
  match members.lookup "type" with
  | some (.string name) =>
    match Kind.ofName? name with
    | some kind => .ok kind
    | none => .error (.unknownType name)
  | _ => .error .typeMissing

/-! ### Schemas -/

/-- A result of which a fault is reported for the literal that goes by the given name. -/
def blaming {α : Type} (whole : String) (result : Except LiteralFault α) : Except Failure α :=
  result.mapError (.invalidLiteral whole)

mutual

/-- The schema that a value gives, as a part of the literal that goes by the name `whole`. -/
def read (whole : String) : Json → Except Failure Schema
  | .object members =>
    match members.lookup "$ref" with
    | some (.string id) => .ok (.ref id)
    | some _ => .error (.invalidLiteral whole .referenceNotString)
    | none => do
      let kind ← blaming whole (kind members)
      let annotations ← blaming whole (annotations members)
      match kind with
      | .null => pure (.simple .null annotations)
      | .integer => pure (.simple .integer annotations)
      | .number => pure (.simple .number annotations)
      | .boolean => pure (.simple .boolean annotations)
      | .string => return .string (← blaming whole (stringSchema annotations members))
      | .object =>
        let id ← blaming whole (string? "id" members)
        let required ← blaming whole (strings? "required" members)
        let properties ← readProperties whole (required.getD []) members
        pure (.object { id, annotations, properties })
      | .array =>
        let items ← readItems whole members
        pure (.array { annotations, items })
  | found => .error (.invalidLiteral whole (.notObject found))

/-- The schema of the items of an array, if a member gives one. -/
def readItems (whole : String) : List (String × Json) → Except Failure (Option Schema)
  | [] => .ok none
  | (key, value) :: rest =>
    if key = "items" then (read whole value).map some else readItems whole rest

/-- The properties of an object, if a member gives any, of which some are required. -/
def readProperties (whole : String) (required : List String) :
    List (String × Json) → Except Failure (List Property)
  | [] => .ok []
  | (key, value) :: rest =>
    if key = "properties" then
      match value with
      | .object members => readMembers whole required [] members
      | _ => .error (.invalidLiteral whole .propertiesNotObject)
    else readProperties whole required rest

/-- The properties that members give one by one, put behind those before. -/
def readMembers (whole : String) (required : List String) (before : List Property) :
    List (String × Json) → Except Failure (List Property)
  | [] => .ok before
  | (name, value) :: rest =>
    match read whole value with
    | .error failure => .error failure
    | .ok schema =>
      readMembers whole required
        (putProperty ⟨name, required.contains name, schema⟩ before) rest

end

end Literal

/-- The schema of a literal that goes by a name. -/
def Schema.ofLiteral (name : String) (literal : Json) : Except Failure Schema :=
  Literal.read name literal

end RecordSchema
