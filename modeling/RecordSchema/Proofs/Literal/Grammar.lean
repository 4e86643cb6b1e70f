import RecordSchema.Proofs.Literal.Gives
import RecordSchema.Proofs.Schema.Document

/-!
# The grammar of literals

Which values are literals of schemas: objects that refer to a schema, and objects with a type whose
members say, each in its own way, what a schema of that type can say. Members of other types are not
looked at, and beside a reference none is. A value is read as a schema exactly when it is in the
grammar, and every fault, however deep it lies, is reported under the name of the whole literal.
-/

namespace RecordSchema

namespace Literal

/-! ### The grammar -/

/-- A member with a key is as wanted, if there is one. -/
def IfThere (members : List (String × Json)) (key : String) (Wanted : Json → Prop) : Prop :=
  ∀ value, members.lookup key = some value → Wanted value

/-- The value is a string. -/
def IsString (value : Json) : Prop := ∃ s, value = .string s

/-- The value is an array of strings. -/
def IsStrings (value : Json) : Prop := ∃ items, value = .array items ∧ ∀ item ∈ items, IsString item

/-- Members say about a value for display only what annotations can say. -/
structure FitsDisplay (members : List (String × Json)) : Prop where
  title : IfThere members "title" IsString
  readonly : IfThere members "readonly" fun value => ∃ b, value = .bool b

/-- Members say about strings only what a string schema can say. -/
structure FitsString (members : List (String × Json)) : Prop where
  format : IfThere members "format" (· = .string "date-time")
  pattern : IfThere members "pattern" IsString
  values : IfThere members "enum" IsStrings

/-- Members say about objects only what an object schema can say, but for the properties one by
one. -/
structure FitsObject (members : List (String × Json)) : Prop where
  id : IfThere members "id" IsString
  required : IfThere members "required" IsStrings
  properties : IfThere members "properties" fun value => ∃ inner, value = .object inner

/-- A value is in the grammar of literals. -/
inductive IsSchema : Json → Prop
  /-- Whatever else is there, a reference is a schema. -/
  | ref {members : List (String × Json)} {id : String}
    (href : members.lookup "$ref" = some (.string id)) : IsSchema (.object members)
  | typed {members : List (String × Json)} {kind : Kind} (href : members.lookup "$ref" = none)
    (htype : members.lookup "type" = some (.string kind.name)) (hdisplay : FitsDisplay members)
    (hstring : kind = .string → FitsString members)
    (hobject : kind = .object → FitsObject members)
    (hproperties : kind = .object → ∀ properties,
      members.lookup "properties" = some (.object properties) → ∀ m ∈ properties, IsSchema m.2)
    (hitems : kind = .array → ∀ items, members.lookup "items" = some items → IsSchema items) :
    IsSchema (.object members)

variable {members : List (String × Json)} {whole : String}

/-! ### What is read is in the grammar -/

/-- A member whose content is known has a value of this form. -/
theorem ifThere_of_lookup {α : Type} {key : String} {value : α → Json} {content : Option α}
    {Wanted : Json → Prop} (h : members.lookup key = content.map value)
    (hvalue : ∀ a, Wanted (value a)) :
  IfThere members key Wanted
  := by
  intro found hfound
  obtain ⟨a, -, rfl⟩ := Option.map_eq_some_iff.mp (h.symm.trans hfound)
  apply hvalue

theorem ifThere_isString {key : String} {content : Option String}
    (h : members.lookup key = content.map .string) :
  IfThere members key IsString
  := ifThere_of_lookup h fun s => ⟨s, rfl⟩

theorem ifThere_isStrings {key : String} {content : Option (List String)}
    (h : members.lookup key = content.map fun l => .array (l.map .string)) :
  IfThere members key IsStrings
  := by
  refine ifThere_of_lookup h fun l => ?_
  use l.map .string, rfl
  simp [IsString]

theorem GivesAnnotations.fitsDisplay {a : Annotations} (h : GivesAnnotations members a) :
  FitsDisplay members
  where
  title := ifThere_isString h.title
  readonly := ifThere_of_lookup h.readonly fun b => ⟨b, rfl⟩

/-- All values that are read as properties are read as schemas. -/
theorem exists_read_of_readProperties {required : List String} {properties : List Property}
    {inner : List (String × Json)} (h : readProperties whole required members = .ok properties)
    (hinner : members.lookup "properties" = some (.object inner)) {m : String × Json}
    (hm : m ∈ inner) :
  ∃ s, read whole m.2 = .ok s
  := by
  rw [readProperties_eq, hinner] at h
  obtain ⟨puts, hputs, -⟩ := exists_of_readMembers h
  obtain ⟨p, -, hp⟩ := exists_property_of_forall₂ hputs hm
  exact ⟨p.schema, hp.schema⟩

/-- Only an object is read as properties. -/
theorem ifThere_of_readProperties {required : List String} {properties : List Property}
    (h : readProperties whole required members = .ok properties) :
  IfThere members "properties" fun value => ∃ inner, value = .object inner
  := by
  intro value hvalue
  rw [readProperties_eq, hvalue] at h
  cases value with
  | object inner => exact ⟨inner, rfl⟩
  | null => cases h
  | bool b => cases h
  | number n => cases h
  | string s => cases h
  | array items => cases h

/-- Members that give a schema are in the grammar when all that is read as a schema inside them
is. -/
theorem Gives.isSchema {s : Schema} (h : Gives whole members s)
    (hinside : ∀ m ∈ members, ∀ v, v.Inside m.2 → ∀ t, read whole v = .ok t → IsSchema v) :
  IsSchema (.object members)
  := by
  cases h with
  | ref href => apply IsSchema.ref href
  | @simple kind a href htype ha =>
      apply IsSchema.typed href htype ha.fitsDisplay <;>
      · intro hkind
        cases kind <;> cases hkind
  | string href htype ha hformat hpattern henum =>
      apply IsSchema.typed href htype ha.fitsDisplay
      · intro _
        refine ⟨ifThere_of_lookup hformat ?_, ifThere_isString hpattern, ifThere_isStrings henum⟩
        rintro ⟨⟩
        rfl
      · rintro ⟨⟩
      · rintro ⟨⟩
      · rintro ⟨⟩
  | object href htype ha hid hrequired hread =>
      apply IsSchema.typed href htype ha.fitsDisplay
      · rintro ⟨⟩
      · intro _
        exact ⟨ifThere_isString hid, ifThere_isStrings hrequired, ifThere_of_readProperties hread⟩
      · intro _ properties hproperties m hm
        obtain ⟨t, ht⟩ := exists_read_of_readProperties hread hproperties hm
        apply hinside _ (Json.mem_of_lookup hproperties) _ (.member hm .self) t ht
      · rintro ⟨⟩
  | array href htype ha hread =>
      apply IsSchema.typed href htype ha.fitsDisplay
      · rintro ⟨⟩
      · rintro ⟨⟩
      · rintro ⟨⟩
      · intro _ items hitems
        rw [readItems_eq, hitems] at hread
        obtain ⟨t, ht, -⟩ := map_eq_ok_iff.mp hread
        apply hinside _ (Json.mem_of_lookup hitems) _ .self t ht

/-- What is read as a schema is in the grammar. The properties of a schema stand two steps inside
it, so the induction is about all that is read inside a value. -/
theorem isSchema_of_read {literal : Json} {s : Schema} (h : read whole literal = .ok s) :
  IsSchema literal
  := by
  induction literal using Json.insideInduction generalizing s with
  | atom v hv =>
      obtain ⟨members, rfl, -⟩ := exists_object_of_read h
      cases hv
  | object members ih =>
      apply (gives_of_read h).isSchema
      intro m hm v hv t ht
      apply ih m hm v hv ht

/-! ### What is in the grammar is read -/

/-- A member that is as wanted has a content, if it is there, when wanted values have one. -/
theorem IfThere.exists_content {α : Type} {key : String} {value : α → Json}
    {Wanted : Json → Prop} (h : IfThere members key Wanted)
    (hvalue : ∀ found, Wanted found → ∃ a, found = value a) :
  ∃ content : Option α, members.lookup key = content.map value
  := by
  cases hlookup : members.lookup key with
  | none => exact ⟨none, rfl⟩
  | some found =>
      obtain ⟨a, rfl⟩ := hvalue found (h found hlookup)
      exact ⟨some a, rfl⟩

theorem exists_string? {key : String} (h : IfThere members key IsString) :
  ∃ content, string? key members = .ok content
  := by
  obtain ⟨content, hcontent⟩ := h.exists_content fun _ => id
  exact ⟨content, string?_of_lookup hcontent⟩

theorem exists_strings {items : List Json} (h : ∀ item ∈ items, IsString item) :
  ∃ l : List String, items = l.map .string
  := by
  induction items with
  | nil => exact ⟨[], rfl⟩
  | cons item rest ih =>
      obtain ⟨⟨s, rfl⟩, hrest⟩ := List.forall_mem_cons.mp h
      obtain ⟨l, rfl⟩ := ih hrest
      exact ⟨s :: l, rfl⟩

theorem exists_strings? {key : String} (h : IfThere members key IsStrings) :
  ∃ content, strings? key members = .ok content
  := by
  have hstrings : ∀ found, IsStrings found → ∃ l : List String, found = .array (l.map .string) := by
    rintro _ ⟨items, rfl, hitems⟩
    obtain ⟨l, rfl⟩ := exists_strings hitems
    exact ⟨l, rfl⟩
  obtain ⟨content, hcontent⟩ := h.exists_content hstrings
  exact ⟨content, strings?_of_lookup hcontent⟩

theorem FitsDisplay.exists_annotations (h : FitsDisplay members) :
  ∃ a, annotations members = .ok a
  := by
  obtain ⟨title, htitle⟩ := h.title.exists_content fun _ => id
  obtain ⟨readonly, hreadonly⟩ := h.readonly.exists_content fun _ => id
  exact ⟨⟨title, members.lookup "default", readonly⟩, annotations_of_lookup htitle rfl hreadonly⟩

theorem FitsString.exists_stringSchema (h : FitsString members) (a : Annotations) :
  ∃ s, stringSchema a members = .ok s
  := by
  have hdateTime : ∀ found : Json, found = .string "date-time" →
      ∃ format : StringFormat, found = .string format.name := by
    rintro _ rfl
    exact ⟨.dateTime, rfl⟩
  obtain ⟨format, hformat⟩ := h.format.exists_content hdateTime
  obtain ⟨pattern, hpattern⟩ := exists_string? h.pattern
  obtain ⟨values, hvalues⟩ := exists_strings? h.values
  rw [stringSchema, format?_of_lookup hformat, hpattern, hvalues]
  exact ⟨_, rfl⟩

/-- Members that can be read can be read one by one. -/
theorem exists_readMembers (h : ∀ m ∈ members, ∃ s, read whole m.2 = .ok s) (required : List String)
    (before : List Property) :
  ∃ properties, readMembers whole required before members = .ok properties
  := by
  induction members generalizing before with
  | nil => exact ⟨before, by rw [readMembers]⟩
  | cons m rest ih =>
      obtain ⟨name, value⟩ := m
      obtain ⟨⟨s, hs⟩, hrest⟩ := List.forall_mem_cons.mp h
      obtain ⟨properties, hproperties⟩ :=
        ih hrest (putProperty ⟨name, required.contains name, s⟩ before)
      use properties
      rw [readMembers, hs]
      exact hproperties

/-- Properties can be read when all the values in them can. -/
theorem exists_readProperties
    (hobject : IfThere members "properties" fun value => ∃ inner, value = .object inner)
    (hinner : ∀ properties, members.lookup "properties" = some (.object properties) →
      ∀ m ∈ properties, ∃ s, read whole m.2 = .ok s) (required : List String) :
  ∃ properties, readProperties whole required members = .ok properties
  := by
  rw [readProperties_eq]
  cases hlookup : members.lookup "properties" with
  | none => exact ⟨[], rfl⟩
  | some value =>
      obtain ⟨inner, rfl⟩ := hobject value hlookup
      apply exists_readMembers (hinner inner hlookup)

/-- Items can be read when their value can. -/
theorem exists_readItems
    (h : ∀ items, members.lookup "items" = some items → ∃ s, read whole items = .ok s) :
  ∃ items, readItems whole members = .ok items
  := by
  rw [readItems_eq]
  cases hlookup : members.lookup "items" with
  | none => exact ⟨none, rfl⟩
  | some value =>
      obtain ⟨s, hs⟩ := h value hlookup
      use some s
      simp only [hs, Except.map]

/-- What is in the grammar is read as a schema. -/
theorem IsSchema.exists_read {literal : Json} (h : IsSchema literal) :
  ∃ s, read whole literal = .ok s
  := by
  induction h with
  | @ref members id href =>
      use .ref id
      rw [read, href]
  | @typed members kind href htype hdisplay hstring hobject _ _ ihproperties ihitems =>
      obtain ⟨a, ha⟩ := hdisplay.exists_annotations
      cases kind with
      | null => exact ⟨.simple .null a, read_simple href htype ha⟩
      | integer => exact ⟨.simple .integer a, read_simple href htype ha⟩
      | number => exact ⟨.simple .number a, read_simple href htype ha⟩
      | boolean => exact ⟨.simple .boolean a, read_simple href htype ha⟩
      | string =>
          obtain ⟨s, hs⟩ := (hstring rfl).exists_stringSchema a
          exact ⟨_, read_of_stringSchema href htype ha hs⟩
      | object =>
          have hmembers := hobject rfl
          obtain ⟨id, hid⟩ := exists_string? hmembers.id
          obtain ⟨required, hrequired⟩ := exists_strings? hmembers.required
          obtain ⟨properties, hproperties⟩ :=
            exists_readProperties hmembers.properties (ihproperties rfl) (required.getD [])
          exact ⟨_, read_object href htype ha hid hrequired hproperties⟩
      | array =>
          obtain ⟨items, hitems⟩ := exists_readItems (ihitems rfl)
          exact ⟨_, read_array href htype ha hitems⟩

/-! ### Failures -/

/-- A result does not fail but with a fault of the literal that goes by the given name. -/
def Blames {α : Type} (whole : String) (result : Except Failure α) : Prop :=
  ∀ failure, result = .error failure → ∃ fault, failure = .invalidLiteral whole fault

section

variable {α β : Type}

theorem Blames.ok (a : α) :
  Blames whole (.ok a)
  := by
  rintro _ ⟨⟩

theorem Blames.error (fault : LiteralFault) :
  Blames whole (.error (.invalidLiteral whole fault) : Except Failure α)
  := by
  rintro _ ⟨⟩
  exact ⟨fault, rfl⟩

theorem Blames.blaming (result : Except LiteralFault α) :
  Blames whole (blaming whole result)
  := by
  cases result with
  | error fault => apply Blames.error
  | ok a => apply Blames.ok

theorem Blames.bind {first : Except Failure α} {next : α → Except Failure β}
    (hfirst : Blames whole first) (hnext : ∀ a, Blames whole (next a)) :
  Blames whole (first >>= next)
  := by
  cases first with
  | error failure =>
      obtain ⟨fault, rfl⟩ := hfirst failure rfl
      apply Blames.error
  | ok a => apply hnext

theorem Blames.map {result : Except Failure α} (h : Blames whole result) (f : α → β) :
  Blames whole (result.map f)
  := by
  cases result with
  | error failure =>
      obtain ⟨fault, rfl⟩ := h failure rfl
      apply Blames.error
  | ok a => apply Blames.ok

end

/-- The fault of a member is one of the whole literal, if that is so of its value. -/
theorem blames_readMembers (h : ∀ m ∈ members, Blames whole (read whole m.2))
    (required : List String) (before : List Property) :
  Blames whole (readMembers whole required before members)
  := by
  induction members generalizing before with
  | nil =>
      rw [readMembers]
      apply Blames.ok
  | cons m rest ih =>
      obtain ⟨name, value⟩ := m
      obtain ⟨hvalue, hrest⟩ := List.forall_mem_cons.mp h
      rw [readMembers]
      cases hread : read whole value with
      | error failure =>
          obtain ⟨fault, rfl⟩ := hvalue failure hread
          apply Blames.error
      | ok schema => apply ih hrest

theorem blames_readProperties (h : ∀ inner, members.lookup "properties" = some (.object inner) →
      ∀ m ∈ inner, Blames whole (read whole m.2)) (required : List String) :
  Blames whole (readProperties whole required members)
  := by
  rw [readProperties_eq]
  split
  · apply Blames.ok
  · rename_i inner hlookup
    apply blames_readMembers (h inner hlookup)
  · apply Blames.error

theorem blames_readItems
    (h : ∀ items, members.lookup "items" = some items → Blames whole (read whole items)) :
  Blames whole (readItems whole members)
  := by
  rw [readItems_eq]
  split
  · apply Blames.ok
  · rename_i items hlookup
    apply (h items hlookup).map

/-- However deep a fault lies, it is one of the whole literal: the name is handed down to all values
that are read inside it. -/
theorem blames_read (literal : Json) :
  Blames whole (read whole literal)
  := by
  induction literal using Json.insideInduction with
  | atom v hv =>
      cases v with
      | object members => cases hv
      | null => apply Blames.error
      | bool b => apply Blames.error
      | number n => apply Blames.error
      | string s => apply Blames.error
      | array items => apply Blames.error
  | object members ih =>
      rw [read]
      split
      · apply Blames.ok
      · apply Blames.error
      · apply Blames.bind (.blaming _)
        intro kind
        apply Blames.bind (.blaming _)
        intro a
        cases kind with
        | null => apply Blames.ok
        | integer => apply Blames.ok
        | number => apply Blames.ok
        | boolean => apply Blames.ok
        | string =>
            apply Blames.bind (.blaming _)
            intro s
            apply Blames.ok
        | object =>
            apply Blames.bind (.blaming _)
            intro id
            apply Blames.bind (.blaming _)
            intro required
            apply Blames.bind
            · apply blames_readProperties
              intro inner hinner m hm
              apply ih _ (Json.mem_of_lookup hinner) m.2 (.member hm .self)
            · intro properties
              apply Blames.ok
        | array =>
            apply Blames.bind
            · apply blames_readItems
              intro items hitems
              apply ih _ (Json.mem_of_lookup hitems) items .self
            · intro items
              apply Blames.ok

end Literal

/-! ### Acceptance -/

/-- A value is accepted exactly when it is in the grammar of literals. Otherwise the failure is that
of an invalid literal, and it names the literal as a whole. -/
theorem accepts_iff_isSchema (name : String) (literal : Json) :
  ((∃ s, Schema.ofLiteral name literal = .ok s) ↔ Literal.IsSchema literal)
    ∧ ∀ failure, Schema.ofLiteral name literal = .error failure →
      ∃ fault, failure = .invalidLiteral name fault
  := by
  constructor
  · constructor
    · rintro ⟨s, hs⟩
      apply Literal.isSchema_of_read hs
    · apply Literal.IsSchema.exists_read
  · apply Literal.blames_read

/-- A fault in the type of a property is reported for the whole literal. -/
example :
  Schema.ofLiteral "Part" (.object [
      ("properties", .object [("code", .object [("type", .string "widget")])]),
      ("type", .string "object")])
    = .error (.invalidLiteral "Part" (.unknownType "widget"))
  := rfl

end RecordSchema
