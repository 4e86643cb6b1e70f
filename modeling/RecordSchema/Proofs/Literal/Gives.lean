import RecordSchema.Proofs.Literal.Read
import RecordSchema.Proofs.Json.Parts
import RecordSchema.Proofs.Json.Sorted
import RecordSchema.Proofs.Results

/-!
# What an accepted literal says

A literal that is read without a fault says all that the schema read from it says, under the keys
for the type of that schema. Once this is known, nothing needs to follow the reader again.
-/

namespace RecordSchema

namespace Literal

/-! ### Members -/

variable {members : List (String × Json)}

theorem lookup_of_string? {key : String} {content : Option String}
    (h : string? key members = .ok content) :
  members.lookup key = content.map .string
  := by
  rw [string?] at h
  split at h
  · obtain rfl := Except.ok.inj h
    assumption
  · obtain rfl := Except.ok.inj h
    assumption
  · cases h

theorem lookup_of_bool? {key : String} {content : Option Bool}
    (h : bool? key members = .ok content) :
  members.lookup key = content.map .bool
  := by
  rw [bool?] at h
  split at h
  · obtain rfl := Except.ok.inj h
    assumption
  · obtain rfl := Except.ok.inj h
    assumption
  · cases h

/-- Items that are read as strings are these strings. -/
theorem eq_map_string_of_strings {key : String} {items : List Json} {l : List String}
    (h : strings key items = .ok l) :
  items = l.map .string
  := by
  induction items generalizing l with
  | nil =>
      obtain rfl := Except.ok.inj h
      rfl
  | cons item rest ih =>
      cases item with
      | string s =>
          rw [strings, map_eq_ok_iff] at h
          obtain ⟨tail, htail, rfl⟩ := h
          rw [ih htail, List.map_cons]
      | null => cases h
      | bool b => cases h
      | number n => cases h
      | array items => cases h
      | object members => cases h

theorem lookup_of_strings? {key : String} {content : Option (List String)}
    (h : strings? key members = .ok content) :
  members.lookup key = content.map fun l => .array (l.map .string)
  := by
  rw [strings?] at h
  split at h
  · obtain rfl := Except.ok.inj h
    assumption
  · rename_i items hlookup
    rw [map_eq_ok_iff] at h
    obtain ⟨l, hl, rfl⟩ := h
    rw [hlookup, eq_map_string_of_strings hl, Option.map_some]
  · cases h

/-- Members say about a value for display what annotations say. -/
structure GivesAnnotations (members : List (String × Json)) (a : Annotations) : Prop where
  title : members.lookup "title" = a.title.map .string
  defaultValue : members.lookup "default" = a.defaultValue
  readonly : members.lookup "readonly" = a.readonly.map .bool

theorem GivesAnnotations.of_annotations {a : Annotations} (h : annotations members = .ok a) :
  GivesAnnotations members a
  := by
  simp only [annotations, bind_eq_ok_iff] at h
  obtain ⟨title, htitle, readonly, hreadonly, h⟩ := h
  obtain rfl := Except.ok.inj h
  exact ⟨lookup_of_string? htitle, rfl, lookup_of_bool? hreadonly⟩

theorem lookup_of_format? {content : Option StringFormat} (h : format? members = .ok content) :
  members.lookup "format" = content.map fun format => .string format.name
  := by
  rw [format?, bind_eq_ok_iff] at h
  obtain ⟨name, hname, h⟩ := h
  rw [lookup_of_string? hname]
  cases name with
  | none =>
      obtain rfl := Except.ok.inj h
      rfl
  | some name =>
      dsimp only at h
      split at h
      · rename_i hdateTime
        obtain rfl := Except.ok.inj h
        rw [hdateTime]
        rfl
      · cases h

theorem lookup_of_kind {kind : Kind} (h : Literal.kind members = .ok kind) :
  members.lookup "type" = some (.string kind.name)
  := by
  rw [Literal.kind] at h
  split at h
  · rename_i name hname
    split at h
    · rename_i found hfound
      obtain rfl := Except.ok.inj h
      have hname' : found.name = name := by simpa using List.find?_some hfound
      rw [hname, hname']
    · cases h
  · cases h

/-! ### Properties -/

/-- A member of an object gives a property, which is required when its name is listed. -/
structure GivesProperty (whole : String) (required : List String) (m : String × Json)
    (p : Property) : Prop where
  name : p.name = m.1
  required : p.required = required.contains m.1
  schema : read whole m.2 = .ok p.schema

variable {whole : String}

/-- Members that are read one by one give properties that are put in the same order. -/
theorem exists_of_readMembers {required : List String} {before properties : List Property}
    (h : readMembers whole required before members = .ok properties) :
  ∃ puts, List.Forall₂ (GivesProperty whole required) members puts ∧ properties = putAll puts before
  := by
  induction members generalizing before with
  | nil =>
      rw [readMembers] at h
      obtain rfl := Except.ok.inj h
      use [], .nil
      rw [putAll_nil]
  | cons m rest ih =>
      obtain ⟨name, value⟩ := m
      rw [readMembers] at h
      split at h
      · cases h
      · rename_i schema hschema
        obtain ⟨puts, hputs, rfl⟩ := ih h
        use ⟨name, required.contains name, schema⟩ :: puts
        constructor
        · exact .cons ⟨rfl, rfl, hschema⟩ hputs
        · rw [putAll_cons]

variable {required : List String} {properties : List Property}

theorem names_of_forall₂ (h : List.Forall₂ (GivesProperty whole required) members properties) :
  properties.map (·.name) = members.map (·.1)
  := by
  induction h with
  | nil => rfl
  | cons hp _ ih => rw [List.map_cons, List.map_cons, hp.name, ih]

theorem exists_property_of_forall₂
    (h : List.Forall₂ (GivesProperty whole required) members properties) {m : String × Json}
    (hm : m ∈ members) :
  ∃ p ∈ properties, GivesProperty whole required m p
  := by
  induction h with
  | nil => cases hm
  | cons hp _ ih =>
      rcases List.mem_cons.mp hm with rfl | hm
      · exact ⟨_, List.mem_cons_self, hp⟩
      · obtain ⟨p, hmem, hp⟩ := ih hm
        use p, List.mem_cons_of_mem _ hmem

theorem exists_member_of_forall₂
    (h : List.Forall₂ (GivesProperty whole required) members properties) {p : Property}
    (hp : p ∈ properties) :
  ∃ m ∈ members, GivesProperty whole required m p
  := by
  induction h with
  | nil => cases hp
  | cons hm _ ih =>
      rcases List.mem_cons.mp hp with rfl | hp
      · exact ⟨_, List.mem_cons_self, hm⟩
      · obtain ⟨m, hmem, hm⟩ := ih hp
        use m, List.mem_cons_of_mem _ hmem

/-- Members with different names give one property each, in the same order. -/
theorem forall₂_of_readMembers (hnames : (members.map (·.1)).Nodup)
    (h : readMembers whole required [] members = .ok properties) :
  List.Forall₂ (GivesProperty whole required) members properties
  := by
  obtain ⟨puts, hputs, rfl⟩ := exists_of_readMembers h
  rw [putAll_of_nodup]
  · apply hputs
  · rw [List.nil_append, names_of_forall₂ hputs]
    apply hnames

/-- What stands under the key of the properties gives the properties that are read. Where nothing
does, there are none. -/
theorem forall₂_of_readProperties (hsorted : (Json.object members).IsSorted)
    (h : readProperties whole required members = .ok properties) :
  ∃ inner, (members.lookup "properties").getD (.object []) = .object inner
    ∧ (Json.object inner).IsSorted ∧ List.Forall₂ (GivesProperty whole required) inner properties
  := by
  rw [readProperties_eq] at h
  split at h
  · rename_i hlookup
    obtain rfl := Except.ok.inj h
    rw [hlookup]
    use [], rfl, ⟨.nil, trivial⟩, .nil
  · rename_i inner hlookup
    have hinner := hsorted.of_inside (Json.inside_of_lookup hlookup)
    rw [hlookup]
    use inner, rfl, hinner
    apply forall₂_of_readMembers (Json.nodup_keys_of_ascending hinner.1) h
  · cases h

/-- The required names of properties that are read are those listed. -/
theorem mem_required_iff_of_forall₂ {object : ObjectSchema} {inner : List (String × Json)}
    (h : List.Forall₂ (GivesProperty whole required) inner object.properties) {name : String} :
  name ∈ object.required ↔ name ∈ inner.map (·.1) ∧ name ∈ required
  := by
  rw [ObjectSchema.mem_required_iff]
  constructor
  · rintro ⟨p, hp, hrequired, rfl⟩
    obtain ⟨m, hm, hgives⟩ := exists_member_of_forall₂ h hp
    rw [hgives.required, List.contains_iff_mem] at hrequired
    rw [hgives.name]
    exact ⟨List.mem_map_of_mem hm, hrequired⟩
  · rintro ⟨hname, hrequired⟩
    obtain ⟨m, hm, rfl⟩ := List.mem_map.mp hname
    obtain ⟨p, hp, hgives⟩ := exists_property_of_forall₂ h hm
    use p, hp
    rw [hgives.required, List.contains_iff_mem]
    exact ⟨hrequired, hgives.name⟩

/-! ### Schemas -/

/-- Members say what a schema says, and are read as it. -/
inductive Gives (whole : String) (members : List (String × Json)) : Schema → Prop
  | ref {id : String} (href : members.lookup "$ref" = some (.string id)) :
    Gives whole members (.ref id)
  | simple {kind : SimpleKind} {a : Annotations} (href : members.lookup "$ref" = none)
    (htype : members.lookup "type" = some (.string kind.kind.name))
    (ha : GivesAnnotations members a) : Gives whole members (.simple kind a)
  | string {s : StringSchema} {values : Option (List String)}
    (href : members.lookup "$ref" = none)
    (htype : members.lookup "type" = some (.string Kind.string.name))
    (ha : GivesAnnotations members s.annotations)
    (hformat : members.lookup "format" = s.format.map fun format => .string format.name)
    (hpattern : members.lookup "pattern" = s.pattern.map .string)
    (henum : members.lookup "enum" = values.map fun l => .array (l.map .string))
    (hvalues : s.values = values.map .ofList) : Gives whole members (.string s)
  | object {id : Option String} {a : Annotations} {required : Option (List String)}
    {properties : List Property} (href : members.lookup "$ref" = none)
    (htype : members.lookup "type" = some (.string Kind.object.name))
    (ha : GivesAnnotations members a) (hid : members.lookup "id" = id.map .string)
    (hrequired : members.lookup "required" = required.map fun l => .array (l.map .string))
    (hproperties : readProperties whole (required.getD []) members = .ok properties) :
    Gives whole members (.object { id, annotations := a, properties })
  | array {a : Annotations} {items : Option Schema} (href : members.lookup "$ref" = none)
    (htype : members.lookup "type" = some (.string Kind.array.name))
    (ha : GivesAnnotations members a) (hitems : readItems whole members = .ok items) :
    Gives whole members (.array { annotations := a, items })

/-- What is read as a schema says what the schema says. -/
theorem gives_of_read {s : Schema} (h : read whole (.object members) = .ok s) :
  Gives whole members s
  := by
  rw [read] at h
  split at h
  · rename_i id href
    obtain rfl := Except.ok.inj h
    exact .ref href
  · cases h
  · rename_i href
    simp only [bind_eq_ok_iff, blaming_eq_ok_iff] at h
    obtain ⟨kind, hkind, a, ha, h⟩ := h
    have htype := lookup_of_kind hkind
    have ha := GivesAnnotations.of_annotations ha
    cases kind with
    | null =>
        obtain rfl := Except.ok.inj h
        exact .simple href htype ha
    | integer =>
        obtain rfl := Except.ok.inj h
        exact .simple href htype ha
    | number =>
        obtain rfl := Except.ok.inj h
        exact .simple href htype ha
    | boolean =>
        obtain rfl := Except.ok.inj h
        exact .simple href htype ha
    | string =>
        simp only [stringSchema, bind_eq_ok_iff, blaming_eq_ok_iff] at h
        obtain ⟨s, ⟨format, hformat, pattern, hpattern, values, hvalues, hs⟩, h⟩ := h
        obtain rfl := Except.ok.inj hs
        obtain rfl := Except.ok.inj h
        exact .string href htype ha (lookup_of_format? hformat) (lookup_of_string? hpattern)
          (lookup_of_strings? hvalues) rfl
    | object =>
        simp only [bind_eq_ok_iff, blaming_eq_ok_iff] at h
        obtain ⟨id, hid, required, hrequired, properties, hproperties, h⟩ := h
        obtain rfl := Except.ok.inj h
        exact .object href htype ha (lookup_of_string? hid) (lookup_of_strings? hrequired)
          hproperties
    | array =>
        simp only [bind_eq_ok_iff] at h
        obtain ⟨items, hitems, h⟩ := h
        obtain rfl := Except.ok.inj h
        exact .array href htype ha hitems

/-- Nothing but an object is read as a schema. -/
theorem exists_object_of_read {literal : Json} {s : Schema} (h : read whole literal = .ok s) :
  ∃ members, literal = .object members ∧ Gives whole members s
  := by
  cases literal with
  | object members => exact ⟨members, rfl, gives_of_read h⟩
  | null => cases h
  | bool b => cases h
  | number n => cases h
  | string s => cases h
  | array items => cases h

end Literal

end RecordSchema
