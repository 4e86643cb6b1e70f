import RecordSchema.Proofs.Literal.KeptMembers

/-!
# Pruned literals

A literal without what is not read of it. Of a reference nothing else remains; otherwise the
keywords of the type do, where sets of strings stand in ascending order, the required names without
a property are left out, and so are an empty object of properties and an empty array of required
names. Nothing more can be taken from a pruned literal.
-/

namespace RecordSchema

open Json

namespace Literal

/-! ### Pruned literals -/

/-- The strings of an array, as a set. -/
def setOf (value : Json) : StringSet := .ofList ((value.items?.getD []).filterMap Json.string?)

/-- The strings of an array that are among some names, as a set. -/
def setAmong (names : List String) (value : Json) : StringSet :=
  .ofList (((value.items?.getD []).filterMap Json.string?).filter names.contains)

/-- The names of the properties that members give. -/
def propertyNames (members : List (String × Json)) : List String :=
  (((members.lookup "properties").bind members?).getD []).map (·.1)

/-- What is written again under a key, given the keywords, the names of all properties, and what is
written for the value if it is a schema or has the schemas of properties in it. -/
def written (keywords names : List String) (key : String) (value schema : Json)
    (properties : List (String × Json)) : Option Json :=
  if key ∉ keywords then none
  else if key = "enum" then some (setOf value).document
  else if key = "required" then
    if (setAmong names value).isEmpty then none else some (setAmong names value).document
  else if key = "items" then some schema
  else if key = "properties" then
    if properties.isEmpty then none else some (.object properties)
  else some value

mutual

/-- The part of a literal that is written again. -/
def prune : Json → Json
  | .object members =>
    match members.lookup "$ref" with
    | some reference => .object [("$ref", reference)]
    | none => .object (pruneMembers (keywords members) (propertyNames members) members)
  | other => other

/-- The members that are written again, given the keywords and the names of all properties. -/
def pruneMembers (keywords names : List String) : List (String × Json) → List (String × Json)
  | [] => []
  | (key, value) :: rest =>
    member? key id (written keywords names key value (prune value) (pruneProperties value))
      ++ pruneMembers keywords names rest

/-- The literals of properties in a value as they are written again. -/
def pruneProperties : Json → List (String × Json)
  | .object properties => pruneEach properties
  | _ => []

/-- The values of members, each as it is written again. -/
def pruneEach : List (String × Json) → List (String × Json)
  | [] => []
  | (name, value) :: rest => (name, prune value) :: pruneEach rest

end

theorem pruneEach_eq_map (properties : List (String × Json)) :
  pruneEach properties = properties.map fun m => (m.1, prune m.2)
  := by
  induction properties with
  | nil => rw [pruneEach, List.map_nil]
  | cons m rest ih =>
      obtain ⟨name, value⟩ := m
      rw [pruneEach, ih, List.map_cons]

variable {members : List (String × Json)} {names : List String} {key : String}

/-- The names of properties are written again. -/
theorem keys_pruneProperties (value : Json) :
  (pruneProperties value).map (·.1) = (value.members?.getD []).map (·.1)
  := by
  cases value with
  | object properties =>
      rw [pruneProperties, pruneEach_eq_map, List.map_map, members?]
      rfl
  | null => rfl
  | bool b => rfl
  | number n => rfl
  | string s => rfl
  | array items => rfl

/-- What is written again of the members of an object that is no reference. -/
def writtenMembers (members : List (String × Json)) : List (String × Json) :=
  pruneMembers (keywords members) (propertyNames members) members

theorem prune_object (href : members.lookup "$ref" = none) :
  prune (.object members) = .object (writtenMembers members)
  := by
  rw [prune, href, writtenMembers]

/-! ### Written members by their keys -/

section

variable {keywords names : List String}

theorem lookup_pruneMembers (h : (members.map (·.1)).Nodup) (key : String) :
  (pruneMembers keywords names members).lookup key
    = (members.lookup key).bind fun value =>
        written keywords names key value (prune value) (pruneProperties value)
  := by
  induction members with
  | nil => rw [pruneMembers, List.lookup_nil, Option.bind_none]
  | cons m rest ih =>
      obtain ⟨k, v⟩ := m
      obtain ⟨hk, hrest⟩ := List.nodup_cons.mp h
      rw [pruneMembers, List.lookup_append, lookup_member?, ih hrest, lookup_cons_eq]
      by_cases hkey : key = k
      · subst hkey
        have hnone : rest.lookup key = none := by
          rw [List.lookup_eq_none_iff]
          intro m hm
          have hne : key ≠ m.1 := fun h => hk (List.mem_map.mpr ⟨m, hm, h.symm⟩)
          simpa using hne
        simp [hnone]
      · simp [hkey]

theorem keys_pruneMembers_sublist (keywords names : List String) (members : List (String × Json)) :
  ((pruneMembers keywords names members).map (·.1)).Sublist (members.map (·.1))
  := by
  induction members with
  | nil => rw [pruneMembers]
  | cons m rest ih =>
      rw [pruneMembers, List.map_append, List.map_cons]
      apply (keys_member?_sublist m.1 id _).append ih

end

/-- What is written again stands in ascending order where the members do. -/
theorem ascending_writtenMembers (h : Ascending members) :
  Ascending (writtenMembers members)
  := by
  rw [Ascending, ← List.pairwise_map] at h ⊢
  apply h.sublist (keys_pruneMembers_sublist _ _ members)

/-- Under a key stands what is written again under it, if anything is. -/
theorem lookup_writtenMembers (h : Ascending members) (key : String) :
  (writtenMembers members).lookup key
    = (members.lookup key).bind fun value =>
        written (keywords members) (propertyNames members) key value (prune value)
          (pruneProperties value)
  := lookup_pruneMembers (nodup_keys_of_ascending h) key

/-- Other keywords are not written again. -/
theorem lookup_written_of_not_mem (h : Ascending members) (hkey : key ∉ keywords members) :
  (writtenMembers members).lookup key = none
  := by
  rw [lookup_writtenMembers h]
  simp [written, hkey]

/-- What is neither a set of strings nor has schemas in it is written again as it is. -/
theorem lookup_written_of_not_structural (h : Ascending members) (hkey : key ∈ keywords members)
    (hplain : key ∉ structural) :
  (writtenMembers members).lookup key = members.lookup key
  := by
  simp only [structural, List.mem_cons, List.not_mem_nil, or_false, not_or] at hplain
  rw [lookup_writtenMembers h]
  simp [written, hkey, hplain]

theorem lookup_written_enum (h : Ascending members) (hkey : "enum" ∈ keywords members) :
  (writtenMembers members).lookup "enum"
    = (members.lookup "enum").map fun value => (setOf value).document
  := by
  rw [lookup_writtenMembers h, Option.map_eq_bind]
  simp [written, hkey]

theorem lookup_written_required (h : Ascending members) (hkey : "required" ∈ keywords members) :
  (writtenMembers members).lookup "required"
    = (members.lookup "required").bind fun value =>
        if (setAmong (propertyNames members) value).isEmpty then none
        else some (setAmong (propertyNames members) value).document
  := by
  rw [lookup_writtenMembers h]
  simp [written, hkey]

theorem lookup_written_items (h : Ascending members) (hkey : "items" ∈ keywords members) :
  (writtenMembers members).lookup "items" = (members.lookup "items").map prune
  := by
  rw [lookup_writtenMembers h, Option.map_eq_bind]
  simp [written, hkey]

theorem lookup_written_properties (h : Ascending members)
    (hkey : "properties" ∈ keywords members) :
  (writtenMembers members).lookup "properties"
    = (members.lookup "properties").bind fun value =>
        if (pruneProperties value).isEmpty then none else some (.object (pruneProperties value))
  := by
  rw [lookup_writtenMembers h]
  simp [written, hkey]

/-! ### Sets of strings -/

theorem filterMap_string? (l : List String) :
  (l.map Json.string).filterMap Json.string? = l
  := by
  induction l with
  | nil => rfl
  | cons s rest ih => rw [List.map_cons, List.filterMap_cons, Json.string?, ih]

theorem setOf_strings (l : List String) :
  setOf (.array (l.map .string)) = .ofList l
  := by
  rw [setOf, items?, Option.getD_some, filterMap_string?]

theorem mem_setAmong_strings {l : List String} {name : String} :
  name ∈ setAmong names (.array (l.map .string)) ↔ name ∈ names ∧ name ∈ l
  := by
  rw [setAmong, items?, Option.getD_some, filterMap_string?, StringSet.mem_ofList,
    List.mem_filter, List.contains_iff_mem, and_comm]

/-! ### Pruning twice -/

theorem setOf_document (set : StringSet) :
  setOf set.document = set
  := by
  rw [StringSet.document, setOf_strings, StringSet.ofList_toList]

theorem setAmong_document (value : Json) :
  setAmong names (setAmong names value).document = setAmong names value
  := by
  apply StringSet.eq_of_mem_iff
  intro name
  rw [StringSet.document, mem_setAmong_strings, ← StringSet.mem_iff, setAmong,
    StringSet.mem_ofList, List.mem_filter, List.contains_iff_mem]
  constructor
  · exact And.right
  · intro h
    exact ⟨h.2, h⟩

/-- A schema that can say which properties are required can say what they are. -/
theorem properties_mem_keywords (h : "required" ∈ keywords members) :
  "properties" ∈ keywords members
  := by
  rw [keywords] at h ⊢
  split at h
  · simp at h
  · split at h
    · rename_i kind hkind
      cases kind <;> simp [Kind.keywords] at h ⊢
    · cases h

/-- What is written again of an object that is no reference is no reference. -/
theorem lookup_written_ref (h : Ascending members) (href : members.lookup "$ref" = none) :
  (writtenMembers members).lookup "$ref" = none
  := by
  apply lookup_written_of_not_mem h
  rw [keywords, href]
  dsimp only
  split
  · rename_i kind hkind
    cases kind <;> decide
  · simp

/-- What is written again is of the same type. -/
theorem keywords_writtenMembers (h : Ascending members) (href : members.lookup "$ref" = none) :
  keywords (writtenMembers members) = keywords members
  := by
  cases hkind : Literal.kind members with
  | ok kind =>
      have hkeywords := keywords_of_kind href (lookup_of_kind hkind)
      have htype : "type" ∈ keywords members := by
        rw [hkeywords]
        cases kind <;> decide
      rw [hkeywords]
      apply keywords_of_kind
      · apply lookup_written_ref h href
      · rw [lookup_written_of_not_structural h htype (by decide)]
        apply lookup_of_kind hkind
  | error fault =>
      have hkeywords : keywords members = [] := by rw [keywords, href, hkind]
      have hnone (key : String) : (writtenMembers members).lookup key = none := by
        apply lookup_written_of_not_mem h
        simp [hkeywords]
      rw [hkeywords, keywords, hnone, Literal.kind, hnone]

/-- The properties that are written again have the same names. -/
theorem propertyNames_writtenMembers (h : Ascending members)
    (hkey : "properties" ∈ keywords members) :
  propertyNames (writtenMembers members) = propertyNames members
  := by
  rw [propertyNames, propertyNames, lookup_written_properties h hkey]
  cases members.lookup "properties" with
  | none => rfl
  | some value =>
      have hkeys := keys_pruneProperties value
      cases hempty : pruneProperties value with
      | nil =>
          rw [hempty] at hkeys
          simpa [hempty] using hkeys
      | cons m rest =>
          rw [hempty] at hkeys
          simpa [hempty, members?] using hkeys

/-- Of properties that are written again nothing more is taken, if that is so of their schemas. -/
theorem pruneProperties_again {value : Json}
    (h : ∀ inner, value = .object inner → ∀ m ∈ inner, prune (prune m.2) = prune m.2) :
  pruneProperties (.object (pruneProperties value)) = pruneProperties value
  := by
  cases value with
  | object inner =>
      rw [pruneProperties, pruneProperties, pruneEach_eq_map, pruneEach_eq_map, List.map_map]
      apply List.map_congr_left
      intro m hm
      exact congrArg (m.1, ·) (h inner rfl m hm)
  | null => rfl
  | bool b => rfl
  | number n => rfl
  | string s => rfl
  | array items => rfl

/-- Of required names that are written again none is left out. -/
theorem lookup_written_required_again (h : Ascending members)
    (href : members.lookup "$ref" = none) (hkey : "required" ∈ keywords members) :
  (writtenMembers (writtenMembers members)).lookup "required"
    = (writtenMembers members).lookup "required"
  := by
  have hkey' : "required" ∈ keywords (writtenMembers members) :=
    keywords_writtenMembers h href ▸ hkey
  have hnames := propertyNames_writtenMembers h (properties_mem_keywords hkey)
  rw [lookup_written_required (ascending_writtenMembers h) hkey', lookup_written_required h hkey,
    hnames]
  cases members.lookup "required" with
  | none => rfl
  | some value =>
      rw [Option.bind_some]
      split
      · rfl
      · rename_i hempty
        rw [Option.bind_some, setAmong_document, if_neg hempty]

/-- Of properties that are written again nothing more is taken, if that is so of all schemas of
properties. -/
theorem lookup_written_properties_again (h : Ascending members)
    (href : members.lookup "$ref" = none) (hkey : "properties" ∈ keywords members)
    (hproperties : ∀ inner, members.lookup "properties" = some (.object inner) →
      ∀ m ∈ inner, prune (prune m.2) = prune m.2) :
  (writtenMembers (writtenMembers members)).lookup "properties"
    = (writtenMembers members).lookup "properties"
  := by
  have hkey' : "properties" ∈ keywords (writtenMembers members) :=
    keywords_writtenMembers h href ▸ hkey
  rw [lookup_written_properties (ascending_writtenMembers h) hkey',
    lookup_written_properties h hkey]
  cases hlookup : members.lookup "properties" with
  | none => rfl
  | some value =>
      have hagain : pruneProperties (.object (pruneProperties value)) = pruneProperties value := by
        apply pruneProperties_again
        rintro inner rfl
        apply hproperties inner hlookup
      rw [Option.bind_some]
      split
      · rfl
      · rename_i hempty
        rw [Option.bind_some, hagain, if_neg hempty]

/-- What is written again of what is written again is all of it, if that is so of all schemas in
it. -/
theorem writtenMembers_writtenMembers (h : Ascending members)
    (href : members.lookup "$ref" = none)
    (hitems : ∀ value, members.lookup "items" = some value → prune (prune value) = prune value)
    (hproperties : ∀ inner, members.lookup "properties" = some (.object inner) →
      ∀ m ∈ inner, prune (prune m.2) = prune m.2) :
  writtenMembers (writtenMembers members) = writtenMembers members
  := by
  have hascending := ascending_writtenMembers h
  have hkeywords := keywords_writtenMembers h href
  apply eq_of_lookup_eq (ascending_writtenMembers hascending) hascending
  intro key
  by_cases hkey : key ∈ keywords members
  · have hkey' : key ∈ keywords (writtenMembers members) := hkeywords ▸ hkey
    by_cases hplain : key ∈ structural
    · simp only [structural, List.mem_cons, List.not_mem_nil, or_false] at hplain
      rcases hplain with rfl | rfl | rfl | rfl
      · rw [lookup_written_enum hascending hkey', lookup_written_enum h hkey, Option.map_map]
        simp [Function.comp_def, setOf_document]
      · apply lookup_written_required_again h href hkey
      · apply lookup_written_properties_again h href hkey hproperties
      · rw [lookup_written_items hascending hkey', lookup_written_items h hkey]
        cases hlookup : members.lookup "items" with
        | none => rfl
        | some value => rw [Option.map_some, Option.map_some, hitems value hlookup]
    · apply lookup_written_of_not_structural hascending hkey' hplain
  · rw [lookup_written_of_not_mem hascending (hkeywords ▸ hkey), lookup_written_of_not_mem h hkey]

/-- Nothing more is taken from a pruned literal. -/
theorem prune_prune {literal : Json} (hsorted : literal.IsSorted) :
  prune (prune literal) = prune literal
  := by
  induction literal using Json.insideInduction with
  | atom v hv =>
      cases v with
      | object members => cases hv
      | null => rfl
      | bool b => rfl
      | number n => rfl
      | string s => rfl
      | array items => rfl
  | object members ih =>
      have hinside {key : String} {value w : Json} (hvalue : members.lookup key = some value)
          (hw : w.Inside value) : prune (prune w) = prune w := by
        have hm := (lookup_eq_some_iff_mem (nodup_keys_of_ascending hsorted.1)).mp hvalue
        apply ih _ hm w hw
        apply hsorted.of_inside (.member hm hw)
      cases href : members.lookup "$ref" with
      | some reference =>
          rw [prune, href]
          rfl
      | none =>
          rw [prune_object href, prune_object (lookup_written_ref hsorted.1 href),
            writtenMembers_writtenMembers hsorted.1 href]
          · intro value hvalue
            apply hinside hvalue .self
          · intro inner hinner m hm
            apply hinside hinner (.member hm .self)

end Literal

end RecordSchema
