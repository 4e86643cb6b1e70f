import RecordSchema.Json.Text
import RecordSchema.Schema.Object
import RecordSchema.Schema.Set

/-!
# Documents of schemas

The JSON document of a schema. Its members stand in a fixed order: the type, the identifiers,
the annotations, and what only schemas of the type can say. A shared object schema is written
where it is used, with the annotations of the field, completed by its own.
-/

namespace RecordSchema

open Json

/-- The member with a key, if there is a content. -/
def member? {α : Type} (key : String) (value : α → Json) (content : Option α) :
    List (String × Json) :=
  match content with
  | none => []
  | some content => [(key, value content)]

/-- The array of the strings of a set. -/
def StringSet.document (s : StringSet) : Json := .array (s.toList.map .string)

/-- The members of annotations. -/
def Annotations.members (a : Annotations) : List (String × Json) :=
  member? "title" .string a.title
    ++ (member? "default" id a.defaultValue ++ member? "readonly" .bool a.readonly)

/-- The members of a string schema. -/
def StringSchema.members (s : StringSchema) : List (String × Json) :=
  ("type", .string Kind.string.name) :: (s.annotations.members
    ++ (member? "format" (fun f => .string f.name) s.format
    ++ (member? "enum" StringSet.document s.values
    ++ member? "pattern" .string s.pattern)))

/-- The member that lists the required properties, unless there are none. -/
def requiredMember (properties : List Property) : List (String × Json) :=
  let names := ObjectSchema.required { properties }
  if names.isEmpty then [] else [("required", names.document)]

/-- The member that holds the properties, unless there are none. -/
def propertiesMember (documents : List (String × Json)) : List (String × Json) :=
  if documents.isEmpty then [] else [("properties", .object documents)]

mutual

/-- The document of a schema. -/
def Schema.document : Schema → Json
  | .simple kind a => .object (("type", .string kind.kind.name) :: a.members)
  | .string s => .object s.members
  | .object o => .object (o.members o.annotations)
  | .array ⟨a, none⟩ => .object (("type", .string Kind.array.name) :: a.members)
  | .array ⟨a, some s⟩ =>
    .object (("type", .string Kind.array.name) :: (a.members ++ [("items", s.document)]))
  | .ref id => .object [("$ref", .string id)]
  | .shared _ o a => .object (o.members (a.orElse o.annotations))

/-- The members of an object schema that is written with the given annotations. -/
def ObjectSchema.members (a : Annotations) : ObjectSchema → List (String × Json)
  | ⟨id, metaSchema, _, properties, none⟩ =>
    ("type", .string Kind.object.name)
      :: (member? "$schema" .string metaSchema
      ++ (member? "id" .string id
      ++ (a.members
      ++ (propertiesMember (propertyDocuments properties)
      ++ requiredMember properties))))
  | ⟨id, metaSchema, _, properties, some schemas⟩ =>
    ("type", .string Kind.object.name)
      :: (member? "$schema" .string metaSchema
      ++ (member? "id" .string id
      ++ (a.members
      ++ (propertiesMember (propertyDocuments properties)
      ++ (requiredMember properties
      ++ [("oneOf", .array (schemaDocuments schemas))])))))

/-- The documents of properties, each under its name. -/
def propertyDocuments : List Property → List (String × Json)
  | [] => []
  | ⟨name, _, s⟩ :: rest => (name, s.document) :: propertyDocuments rest

/-- The documents of schemas. -/
def schemaDocuments : List Schema → List Json
  | [] => []
  | s :: rest => s.document :: schemaDocuments rest

end

/-- The text of a schema in a layout. -/
def Schema.text (layout : Layout) (s : Schema) : String := s.document.text layout

/-- The document of a set of schemas. -/
def SchemaSet.document (set : SchemaSet) : Json := .array (schemaDocuments set.members)

end RecordSchema
