import RecordSchema.Schema.Literal
import RecordSchema.Proofs.Object.Puts

/-!
# Reading literals by their keys

A literal is read by what stands under its keys, not by the order of its members. For each
type there is a statement that says which keys give which schema.
-/

namespace RecordSchema

namespace Literal

/-! ### Members -/

theorem string?_of_lookup {key : String} {members : List (String × Json)}
    {content : Option String} (h : members.lookup key = content.map .string) :
  string? key members = .ok content
  := by
  rw [string?, h]
  cases content with
  | none => rfl
  | some s => rfl

theorem bool?_of_lookup {key : String} {members : List (String × Json)}
    {content : Option Bool} (h : members.lookup key = content.map .bool) :
  bool? key members = .ok content
  := by
  rw [bool?, h]
  cases content with
  | none => rfl
  | some b => rfl

/-- The strings of an array of strings are these. -/
theorem strings_map_string (key : String) (l : List String) :
  strings key (l.map .string) = .ok l
  := by
  induction l with
  | nil => rfl
  | cons s rest ih =>
      rw [List.map_cons, strings, ih]
      rfl

theorem strings?_of_lookup {key : String} {members : List (String × Json)}
    {content : Option (List String)}
    (h : members.lookup key = content.map fun l => .array (l.map .string)) :
  strings? key members = .ok content
  := by
  rw [strings?, h]
  cases content with
  | none => rfl
  | some l =>
      simp only [Option.map_some, strings_map_string]
      rfl

/-- Annotations are read from the title, the default value, and whether it is read only. -/
theorem annotations_of_lookup {members : List (String × Json)} {a : Annotations}
    (htitle : members.lookup "title" = a.title.map .string)
    (hdefault : members.lookup "default" = a.defaultValue)
    (hreadonly : members.lookup "readonly" = a.readonly.map .bool) :
  annotations members = .ok a
  := by
  rw [annotations, string?_of_lookup htitle, bool?_of_lookup hreadonly, hdefault]
  rfl

/-- A format is read from its name. -/
theorem format?_of_lookup {members : List (String × Json)} {content : Option StringFormat}
    (h : members.lookup "format" = content.map fun format => .string format.name) :
  format? members = .ok content
  := by
  have hname : string? "format" members = .ok (content.map StringFormat.name) := by
    apply string?_of_lookup
    rw [h, Option.map_map]
    rfl
  rw [format?, hname]
  cases content with
  | none => rfl
  | some format =>
      cases format
      rfl

/-! ### Parts of a literal -/

variable {whole : String}

@[simp]
theorem blaming_ok {α : Type} (a : α) :
  blaming whole (.ok a) = .ok a
  := rfl

theorem blaming_eq_ok_iff {α : Type} {result : Except LiteralFault α} {a : α} :
  blaming whole result = .ok a ↔ result = .ok a
  := by
  cases result with
  | error fault => simp [blaming, Except.mapError]
  | ok b => simp

/-- The schema of the items of an array is read from its key. -/
theorem readItems_eq (members : List (String × Json)) :
  readItems whole members = match members.lookup "items" with
    | none => .ok none
    | some value => (read whole value).map some
  := by
  induction members with
  | nil => rw [readItems, List.lookup_nil]
  | cons m rest ih =>
      obtain ⟨key, value⟩ := m
      rw [readItems, List.lookup_cons]
      by_cases h : key = "items"
      · simp [h]
      · have h' : ("items" == key) = false := by simpa using Ne.symm h
        rw [if_neg h, h', ih]

/-- The properties of an object are read from their key. -/
theorem readProperties_eq (required : List String) (members : List (String × Json)) :
  readProperties whole required members = match members.lookup "properties" with
    | none => .ok []
    | some (.object properties) => readMembers whole required [] properties
    | some _ => .error (.invalidLiteral whole .propertiesNotObject)
  := by
  induction members with
  | nil => rw [readProperties, List.lookup_nil]
  | cons m rest ih =>
      obtain ⟨key, value⟩ := m
      rw [List.lookup_cons]
      by_cases h : key = "properties"
      · subst h
        cases value <;> simp [readProperties]
      · have h' : ("properties" == key) = false := by simpa using Ne.symm h
        rw [h', ← ih]
        cases value <;> simp [readProperties, h]

/-- Members that can be read are put one by one, each as required as its name is listed. -/
theorem readMembers_map {properties : List Property} {value : Property → Json}
    {schema : Property → Schema}
    (h : ∀ p ∈ properties, read whole (value p) = .ok (schema p)) (required : List String)
    (before : List Property) :
  readMembers whole required before (properties.map fun p => (p.name, value p))
    = .ok (putAll
        (properties.map fun p => ⟨p.name, required.contains p.name, schema p⟩) before)
  := by
  induction properties generalizing before with
  | nil => rw [List.map_nil, readMembers, List.map_nil, putAll_nil]
  | cons p rest ih =>
      obtain ⟨hp, hrest⟩ := List.forall_mem_cons.mp h
      rw [List.map_cons, readMembers, hp]
      dsimp only
      rw [ih hrest, List.map_cons, putAll_cons]

/-! ### Types -/

theorem kind_of_lookup {members : List (String × Json)} {kind : Kind}
    (h : members.lookup "type" = some (.string kind.name)) :
  Literal.kind members = .ok kind
  := by
  rw [Literal.kind, h]
  cases kind with
  | null => rfl
  | string => rfl
  | integer => rfl
  | number => rfl
  | boolean => rfl
  | object => rfl
  | array => rfl

variable {members : List (String × Json)} {a : Annotations}

/-- A schema of a simple type is read from its type and its annotations. -/
theorem read_simple {kind : SimpleKind} (href : members.lookup "$ref" = none)
    (htype : members.lookup "type" = some (.string kind.kind.name))
    (ha : annotations members = .ok a) :
  read whole (.object members) = .ok (.simple kind a)
  := by
  rw [read, href]
  dsimp only
  rw [kind_of_lookup htype, ha]
  cases kind with
  | null => rfl
  | integer => rfl
  | number => rfl
  | boolean => rfl

/-- A string schema is read from its type, its annotations and what is read as the rest of it. -/
theorem read_of_stringSchema {s : StringSchema} (href : members.lookup "$ref" = none)
    (htype : members.lookup "type" = some (.string Kind.string.name))
    (ha : annotations members = .ok a) (hs : stringSchema a members = .ok s) :
  read whole (.object members) = .ok (.string s)
  := by
  rw [read, href]
  dsimp only
  rw [kind_of_lookup htype, ha]
  simp only [bind, Except.bind, blaming_ok, hs, pure, Except.pure]

/-- A string schema is read from its type, its annotations and what else it says. -/
theorem read_string {s : StringSchema} (href : members.lookup "$ref" = none)
    (htype : members.lookup "type" = some (.string Kind.string.name))
    (ha : annotations members = .ok s.annotations)
    (hformat : members.lookup "format" = s.format.map fun format => .string format.name)
    (hpattern : members.lookup "pattern" = s.pattern.map .string)
    (hvalues : members.lookup "enum"
      = s.values.map fun values => .array (values.toList.map .string)) :
  read whole (.object members) = .ok (.string s)
  := by
  have henum : strings? "enum" members = .ok (s.values.map (·.toList)) := by
    apply strings?_of_lookup
    rw [hvalues, Option.map_map]
    rfl
  have hset : (s.values.map (·.toList)).map .ofList = s.values := by
    cases h : s.values with
    | none => rfl
    | some values => simp
  have hschema : stringSchema s.annotations members = .ok s := by
    rw [stringSchema, format?_of_lookup hformat, string?_of_lookup hpattern, henum]
    simp only [bind, Except.bind, pure, Except.pure, hset]
  apply read_of_stringSchema href htype ha hschema

/-- An array schema is read from its type, its annotations and its items. -/
theorem read_array {items : Option Schema} (href : members.lookup "$ref" = none)
    (htype : members.lookup "type" = some (.string Kind.array.name))
    (ha : annotations members = .ok a) (hitems : readItems whole members = .ok items) :
  read whole (.object members) = .ok (.array { annotations := a, items })
  := by
  rw [read, href]
  dsimp only
  rw [kind_of_lookup htype, ha]
  simp only [bind, Except.bind, blaming_ok, hitems, pure, Except.pure]

/-- An object schema is read from its type, its annotations, its identifier, its required
names and its properties. -/
theorem read_object {id : Option String} {required : Option (List String)}
    {properties : List Property} (href : members.lookup "$ref" = none)
    (htype : members.lookup "type" = some (.string Kind.object.name))
    (ha : annotations members = .ok a) (hid : string? "id" members = .ok id)
    (hrequired : strings? "required" members = .ok required)
    (hproperties : readProperties whole (required.getD []) members = .ok properties) :
  read whole (.object members) = .ok (.object { id, annotations := a, properties })
  := by
  rw [read, href]
  dsimp only
  rw [kind_of_lookup htype, ha]
  simp only [bind, Except.bind, blaming_ok, hid, hrequired, hproperties, pure, Except.pure]

end Literal

end RecordSchema
