import RecordSchema.Proofs.Literal.Gives
import RecordSchema.Proofs.Schema.Positions

/-!
# What is kept of one object in a literal

An object that is read as a schema is written again as the document of that schema. For each type
there is a list of the keywords with which a schema of it says something; those are repeated, and
others are not. Of the required names those are kept that are names of properties.
-/

namespace RecordSchema

open Json

/-- The keywords with which a schema of a type says something. -/
def Kind.keywords : Kind → List String
  | .string => ["type", "title", "default", "readonly", "format", "pattern", "enum"]
  | .object => ["type", "title", "default", "readonly", "id", "properties", "required"]
  | .array => ["type", "title", "default", "readonly", "items"]
  | .null | .integer | .number | .boolean => ["type", "title", "default", "readonly"]

namespace Literal

/-! ### Keeping members -/

/-- A keyword that says nothing: there are no properties, or no required names. -/
def IsVoid (key : String) (value : Json) : Prop :=
  key = "properties" ∧ value = .object [] ∨ key = "required" ∧ value = .array []

/-- Two values of a keyword have the same content. Allowed strings and required names are sets, and
the schemas of properties and items are compared where they stand. -/
def SameContent (key : String) (value found : Json) : Prop :=
  if key = "enum" ∨ key = "required" then
    ∃ items others, value = .array items ∧ found = .array others ∧
      ∀ item, item ∈ items ↔ item ∈ others
  else if key = "properties" then
    ∃ properties others, value = .object properties ∧ found = .object others ∧
      ∀ name, name ∈ properties.map (·.1) ↔ name ∈ others.map (·.1)
  else key = "items" ∨ value = found

/-- A member is there in an object, with the same content, unless it says nothing. -/
def Kept (others : List (String × Json)) (key : String) (value : Json) : Prop :=
  IsVoid key value ∨ ∃ found, others.lookup key = some found ∧ SameContent key value found

/-- The keywords with which the schema that an object gives says something. A reference is nothing
else. -/
def keywords (members : List (String × Json)) : List String :=
  match members.lookup "$ref" with
  | some _ => ["$ref"]
  | none =>
    match Literal.kind members with
    | .ok kind => kind.keywords
    | .error _ => []

/-- The schema that an object gives can say what a member says: it has such a keyword, and the names
that are required are names of properties. -/
structure Sayable (members : List (String × Json)) (key : String) (value : Json) : Prop where
  keyword : key ∈ keywords members
  required : key = "required" → ∀ items, value = .array items → ∀ name, .string name ∈ items →
    ∃ properties, members.lookup "properties" = some (.object properties)
      ∧ name ∈ properties.map (·.1)

theorem Sayable.of_ne {members : List (String × Json)} {key : String} {value : Json}
    (hkey : key ∈ keywords members) (hrequired : key ≠ "required") :
  Sayable members key value
  := ⟨hkey, fun h => absurd h hrequired⟩

/-- The schema that an object gives can say all that the object says. -/
def Representable (members : List (String × Json)) : Prop :=
  ∀ key value, (key, value) ∈ members → Sayable members key value ∨ IsVoid key value

variable {whole : String} {members others : List (String × Json)} {key : String} {value : Json}

/-- The keywords whose content is a set of strings or has schemas in it. -/
def structural : List String := ["enum", "required", "properties", "items"]

theorem representable_of_keywords (h : ∀ m ∈ members, m.1 ∈ keywords members ∧ m.1 ≠ "required") :
  Representable members
  := by
  intro key value hm
  left
  apply Sayable.of_ne (h _ hm).1 (h _ hm).2

/-- A document is kept as far as it goes without the schemas in it: it has no other keywords than
those of its type, and repeats what stands under them. -/
structure Repeats (members others : List (String × Json)) : Prop where
  absent : ∀ key, key ∉ keywords members → others.lookup key = none
  same : ∀ key ∈ keywords members, key ∉ structural → others.lookup key = members.lookup key

/-- In a document that repeats a literal, a member is kept when the schema can say it, if that is so
of the keywords whose content is not repeated as it stands. -/
theorem Repeats.kept_iff (h : Repeats members others) (hm : members.lookup key = some value)
    (hstructural : key ∈ keywords members → key ∈ structural →
      (Kept others key value ↔ Sayable members key value ∨ IsVoid key value)) :
  Kept others key value ↔ Sayable members key value ∨ IsVoid key value
  := by
  by_cases hkey : key ∈ keywords members
  · by_cases hplain : key ∈ structural
    · apply hstructural hkey hplain
    · have hothers : others.lookup key = some value := (h.same key hkey hplain).trans hm
      simp only [structural, List.mem_cons, List.not_mem_nil, or_false, not_or] at hplain
      obtain ⟨henum, hrequired, hproperties, hitems⟩ := hplain
      constructor
      · intro _
        left
        apply Sayable.of_ne hkey hrequired
      · intro _
        right
        use value, hothers
        simp [SameContent, henum, hrequired, hproperties]
  · have hnot : ¬ Sayable members key value := fun h => hkey h.keyword
    simp [Kept, h.absent key hkey, hnot]

theorem keywords_of_kind {kind : Kind} (href : members.lookup "$ref" = none)
    (htype : members.lookup "type" = some (.string kind.name)) :
  keywords members = kind.keywords
  := by
  rw [keywords, href]
  dsimp only
  rw [kind_of_lookup htype]

/-! ### Keeping what one object says -/

/-- A reference repeats the identifier. -/
theorem repeats_ref {id : String} (href : members.lookup "$ref" = some (.string id)) :
  Repeats members [("$ref", .string id)]
  := by
  have hkeywords : keywords members = ["$ref"] := by rw [keywords, href]
  constructor
  · intro key hkey
    simp only [hkeywords, List.mem_singleton] at hkey
    simp [lookup_cons_eq, hkey]
  · simp [hkeywords, href]

/-- A schema of a simple type repeats the type and the annotations. -/
theorem repeats_simple {kind : SimpleKind} {a : Annotations} (href : members.lookup "$ref" = none)
    (htype : members.lookup "type" = some (.string kind.kind.name))
    (ha : GivesAnnotations members a) :
  Repeats members (("type", .string kind.kind.name) :: a.members)
  := by
  have hkeywords : keywords members = ["type", "title", "default", "readonly"] := by
    rw [keywords_of_kind href htype]
    cases kind <;> rfl
  constructor
  · intro key hkey
    simp only [hkeywords, List.mem_cons, List.not_mem_nil, or_false, not_or] at hkey
    simp [lookup_simple, hkey]
  · simp [hkeywords, lookup_simple, htype, ha.title, ha.defaultValue, ha.readonly]

/-- A string schema repeats what is said besides the allowed strings. -/
theorem repeats_string {s : StringSchema} (href : members.lookup "$ref" = none)
    (htype : members.lookup "type" = some (.string Kind.string.name))
    (ha : GivesAnnotations members s.annotations)
    (hformat : members.lookup "format" = s.format.map fun format => .string format.name)
    (hpattern : members.lookup "pattern" = s.pattern.map .string) :
  Repeats members s.members
  := by
  have hkeywords := keywords_of_kind href htype
  constructor
  · intro key hkey
    simp only [hkeywords, Kind.keywords, List.mem_cons, List.not_mem_nil, or_false, not_or] at hkey
    simp [s.lookup_members, hkey]
  · simp [hkeywords, Kind.keywords, structural, s.lookup_members, htype, ha.title,
      ha.defaultValue, ha.readonly, hformat, hpattern]

/-- An array schema repeats what is said besides the schema of the items. -/
theorem repeats_array {a : Annotations} {items : Option Schema}
    (href : members.lookup "$ref" = none)
    (htype : members.lookup "type" = some (.string Kind.array.name))
    (ha : GivesAnnotations members a) :
  Repeats members (("type", .string Kind.array.name)
    :: (a.members ++ member? "items" Schema.document items))
  := by
  have hkeywords := keywords_of_kind href htype
  constructor
  · intro key hkey
    simp only [hkeywords, Kind.keywords, List.mem_cons, List.not_mem_nil, or_false, not_or] at hkey
    simp [lookup_array, hkey]
  · simp [hkeywords, Kind.keywords, structural, lookup_array, htype, ha.title, ha.defaultValue,
      ha.readonly]

/-- An object schema repeats what is said besides the properties and the required names. -/
theorem repeats_object {object : ObjectSchema} (href : members.lookup "$ref" = none)
    (htype : members.lookup "type" = some (.string Kind.object.name))
    (ha : GivesAnnotations members object.annotations)
    (hid : members.lookup "id" = object.id.map .string) (hmeta : object.metaSchema = none)
    (honeOf : object.oneOf = none) :
  Repeats members (object.members object.annotations)
  := by
  have hkeywords := keywords_of_kind href htype
  constructor
  · intro key hkey
    simp only [hkeywords, Kind.keywords, List.mem_cons, List.not_mem_nil, or_false, not_or] at hkey
    simp [object.lookup_members, hkey, hmeta, honeOf]
  · simp [hkeywords, Kind.keywords, structural, object.lookup_members, htype, ha.title,
      ha.defaultValue, ha.readonly, hid]

/-- The document of a schema repeats what gives the schema. -/
theorem Gives.repeats {s : Schema} (h : Gives whole members s)
    (hothers : s.document = .object others) :
  Repeats members others
  := by
  cases h with
  | ref href =>
      obtain rfl := Json.object.inj hothers
      apply repeats_ref href
  | simple href htype ha =>
      obtain rfl := Json.object.inj hothers
      apply repeats_simple href htype ha
  | string href htype ha hformat hpattern =>
      obtain rfl := Json.object.inj hothers
      apply repeats_string href htype ha hformat hpattern
  | object href htype ha hid hrequired hproperties =>
      obtain rfl := Json.object.inj hothers
      apply repeats_object href htype ha hid rfl rfl
  | array href htype ha hitems =>
      rw [Schema.document_array] at hothers
      obtain rfl := Json.object.inj hothers
      apply repeats_array href htype ha

/-! ### Keeping sets and schemas -/

/-- The content of an array of strings is that of a set when the same strings are in both. -/
theorem sameContent_strings_iff (hkey : key = "enum" ∨ key = "required") {l : List String}
    {set : StringSet} :
  SameContent key (.array (l.map .string)) set.document ↔ ∀ name, name ∈ l ↔ name ∈ set
  := by
  have hmem (names : List String) (name : String) :
      Json.string name ∈ names.map Json.string ↔ name ∈ names := by simp
  rw [SameContent, if_pos hkey]
  constructor
  · rintro ⟨items, others, hitems, hothers, h⟩ name
    obtain rfl := Json.array.inj hitems
    obtain rfl := Json.array.inj hothers
    rw [StringSet.mem_iff, ← hmem, h, hmem]
  · intro h
    use l.map .string, set.toList.map .string, rfl, rfl
    intro item
    simp only [List.mem_map, h, StringSet.mem_iff]

/-- The allowed strings of a string schema are kept as a set. -/
theorem kept_enum {s : StringSchema} {values : Option (List String)}
    (henum : members.lookup "enum" = values.map fun l => .array (l.map .string))
    (hvalues : s.values = values.map .ofList) (hm : members.lookup "enum" = some value) :
  Kept s.members "enum" value
  := by
  obtain ⟨l, hl, rfl⟩ := Option.map_eq_some_iff.mp (henum.symm.trans hm)
  right
  use (StringSet.ofList l).document
  constructor
  · simp [s.lookup_members, hvalues, hl]
  · apply (sameContent_strings_iff (.inl rfl)).mpr
    intro name
    rw [StringSet.mem_ofList]

/-- The schema of the items of an array is kept. -/
theorem kept_items {a : Annotations} {items : Option Schema} (type : Json)
    (hitems : readItems whole members = .ok items) (hm : members.lookup "items" = some value) :
  Kept (("type", type) :: (a.members ++ member? "items" Schema.document items)) "items" value
  := by
  rw [readItems_eq, hm] at hitems
  obtain ⟨t, ht, rfl⟩ := map_eq_ok_iff.mp hitems
  right
  use t.document
  constructor
  · simp [lookup_array]
  · simp [SameContent]

variable {object : ObjectSchema} {inner : List (String × Json)} {required : List String}

/-- The names of the properties of an object schema are kept. -/
theorem kept_properties (a : Annotations)
    (hinner : List.Forall₂ (GivesProperty whole required) inner object.properties) :
  Kept (object.members a) "properties" (.object inner)
  := by
  have hnames : (propertyDocuments object.properties).map (·.1) = inner.map (·.1) := by
    rw [keys_propertyDocuments, names_of_forall₂ hinner]
  by_cases hempty : inner = []
  · left
    left
    use rfl
    rw [hempty]
  · have hdocuments : propertyDocuments object.properties ≠ [] := by
      intro h
      apply hempty
      apply List.map_eq_nil_iff.mp (hnames.symm.trans (by rw [h, List.map_nil]))
    right
    use .object (propertyDocuments object.properties)
    constructor
    · rw [object.lookup_properties, if_neg hdocuments]
    · rw [SameContent, if_neg (by decide), if_pos rfl]
      use inner, propertyDocuments object.properties, rfl, rfl
      intro name
      rw [hnames]

/-- The required names of an object schema are kept when they are names of properties. -/
theorem kept_required_iff (a : Annotations)
    (hinner : List.Forall₂ (GivesProperty whole required) inner object.properties) :
  Kept (object.members a) "required" (.array (required.map .string))
    ↔ (∀ name ∈ required, name ∈ inner.map (·.1)) ∨ required = []
  := by
  have hmem (name : String) : name ∈ object.required ↔ name ∈ inner.map (·.1) ∧ name ∈ required :=
    mem_required_iff_of_forall₂ hinner
  constructor
  · rintro (hvoid | ⟨found, hlookup, hsame⟩)
    · right
      simpa [IsVoid] using hvoid
    · left
      rw [object.lookup_required] at hlookup
      split at hlookup
      · cases hlookup
      · obtain rfl := Option.some.inj hlookup
        intro name hname
        apply ((hmem name).mp _).1
        apply ((sameContent_strings_iff (.inr rfl)).mp hsame name).mp hname
  · intro h
    by_cases hempty : required = []
    · left
      right
      simp [hempty]
    · have hnames := h.resolve_right hempty
      have hsame (name : String) : name ∈ required ↔ name ∈ object.required := by
        rw [hmem]
        constructor
        · intro hname
          exact ⟨hnames name hname, hname⟩
        · rintro ⟨-, hname⟩
          apply hname
      obtain ⟨name, hname⟩ := List.exists_mem_of_ne_nil required hempty
      right
      use object.required.document
      constructor
      · rw [object.lookup_required, if_neg]
        rw [StringSet.isEmpty_iff]
        intro hnone
        apply hnone name ((hsame name).mp hname)
      · apply (sameContent_strings_iff (.inr rfl)).mpr hsame

/-! ### Keeping all that one object says -/

/-- A kept member that lists no required names can be said. -/
theorem kept_iff_of_kept (h : Kept others key value) (hkey : key ∈ keywords members)
    (hrequired : key ≠ "required") :
  Kept others key value ↔ Sayable members key value ∨ IsVoid key value
  := by
  constructor
  · intro _
    left
    apply Sayable.of_ne hkey hrequired
  · intro _
    apply h

/-- Required names can be said when they are names of properties. -/
theorem sayable_required_iff {l : List String} (hkey : "required" ∈ keywords members)
    (hinner : (members.lookup "properties").getD (.object []) = .object inner) :
  Sayable members "required" (.array (l.map .string)) ↔ ∀ name ∈ l, name ∈ inner.map (·.1)
  := by
  constructor
  · intro h name hname
    obtain ⟨properties, hproperties, hmem⟩ :=
      h.required rfl _ rfl name (List.mem_map_of_mem hname)
    rw [hproperties, Option.getD_some] at hinner
    obtain rfl := Json.object.inj hinner
    apply hmem
  · intro h
    use hkey
    rintro - items hitems name hname
    obtain rfl := Json.array.inj hitems
    have hmem : name ∈ inner.map (·.1) := h name (by simpa using hname)
    cases hproperties : members.lookup "properties" with
    | none =>
        rw [hproperties, Option.getD_none] at hinner
        obtain rfl := Json.object.inj hinner
        simp at hmem
    | some value =>
        rw [hproperties, Option.getD_some] at hinner
        use inner, congrArg some hinner

/-- A member of an object is kept in the document of the schema that the object gives when that
schema can say it. -/
theorem kept_iff {s : Schema} (hsorted : (Json.object members).IsSorted) (h : Gives whole members s)
    (hothers : s.document = .object others) (hm : members.lookup key = some value) :
  Kept others key value ↔ Sayable members key value ∨ IsVoid key value
  := by
  apply (h.repeats hothers).kept_iff hm
  intro hkey hstructural
  cases h with
  | ref href =>
      have hkeywords : keywords members = ["$ref"] := by rw [keywords, href]
      have hnone : ∀ key ∈ ["$ref"], key ∉ structural := by decide
      exact absurd hstructural (hnone key (hkeywords ▸ hkey))
  | @simple kind a href htype ha =>
      have hnone : ∀ key ∈ kind.kind.keywords, key ∉ structural := by cases kind <;> decide
      exact absurd hstructural (hnone key (keywords_of_kind href htype ▸ hkey))
  | string href htype ha hformat hpattern henum hvalues =>
      have honly : ∀ key ∈ Kind.string.keywords, key ∈ structural → key = "enum" := by decide
      obtain rfl := honly key (keywords_of_kind href htype ▸ hkey) hstructural
      obtain rfl := Json.object.inj hothers
      apply kept_iff_of_kept (kept_enum henum hvalues hm) hkey
      decide
  | array href htype ha hitems =>
      have honly : ∀ key ∈ Kind.array.keywords, key ∈ structural → key = "items" := by decide
      obtain rfl := honly key (keywords_of_kind href htype ▸ hkey) hstructural
      rw [Schema.document_array] at hothers
      obtain rfl := Json.object.inj hothers
      apply kept_iff_of_kept (kept_items _ hitems hm) hkey
      decide
  | @object id a required properties href htype ha hid hrequired hproperties =>
      have honly : ∀ key ∈ Kind.object.keywords, key ∈ structural →
          key = "properties" ∨ key = "required" := by decide
      obtain ⟨inner, hinner, -, hgives⟩ := forall₂_of_readProperties hsorted hproperties
      obtain rfl := Json.object.inj hothers
      rcases honly key (keywords_of_kind href htype ▸ hkey) hstructural with rfl | rfl
      · rw [hm, Option.getD_some] at hinner
        obtain rfl := hinner
        apply kept_iff_of_kept (kept_properties _ hgives) hkey
        decide
      · obtain ⟨l, rfl, rfl⟩ := Option.map_eq_some_iff.mp (hrequired.symm.trans hm)
        rw [Option.getD_some] at hgives
        have hkept := @kept_required_iff whole { id, annotations := a, properties } inner l a hgives
        rw [hkept, sayable_required_iff hkey hinner]
        simp [IsVoid]

end Literal

end RecordSchema
