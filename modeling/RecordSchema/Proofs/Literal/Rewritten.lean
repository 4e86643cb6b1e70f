import RecordSchema.Proofs.Build.Built
import RecordSchema.Proofs.Literal.Pruned
import RecordSchema.Proofs.Literal.ReadBack
import RecordSchema.Proofs.Schema.WellFormed

/-!
# What is written again of a literal

The document of the schema that a literal gives is the pruned literal. So a literal from which
nothing can be taken is written again as it is, among them the literals of the fixed shapes.
-/

namespace RecordSchema

open Json

namespace Literal

variable {whole : String} {members others : List (String × Json)}

/-! ### What is written again under the keys of one object -/

/-- The array of the strings of a set is read as it is. -/
theorem sorted_document (set : StringSet) :
  set.document.sorted = set.document
  := by
  apply sorted_eq_self
  apply itemsSorted_iff.mpr
  simp [IsSorted]

/-- The allowed strings are written again as a set. -/
theorem lookup_enum {s : StringSchema} {values : Option (List String)}
    (henum : members.lookup "enum" = values.map fun l => .array (l.map .string))
    (hvalues : s.values = values.map .ofList) :
  (s.members.lookup "enum").map sorted
    = (members.lookup "enum").map fun value => (setOf value).document
  := by
  rw [henum, s.lookup_members]
  cases values with
  | none => simp [hvalues]
  | some l => simp [hvalues, setOf_strings, sorted_document]

variable {object : ObjectSchema} {inner : List (String × Json)} {required : Option (List String)}

/-- The required names that are names of properties are written again as a set. -/
theorem lookup_required_pruned (a : Annotations)
    (hrequired : members.lookup "required" = required.map fun l => .array (l.map .string))
    (hinner : List.Forall₂ (GivesProperty whole (required.getD [])) inner object.properties) :
  ((object.members a).lookup "required").map sorted
    = (members.lookup "required").bind fun value =>
        if (setAmong (inner.map (·.1)) value).isEmpty then none
        else some (setAmong (inner.map (·.1)) value).document
  := by
  rw [object.lookup_required, hrequired]
  cases required with
  | none =>
      have hempty : object.required.isEmpty = true := by
        rw [StringSet.isEmpty_iff]
        intro name hname
        cases ((mem_required_iff_of_forall₂ hinner).mp hname).2
      simp [hempty]
  | some l =>
      have hset : setAmong (inner.map (·.1)) (.array (l.map .string)) = object.required := by
        apply StringSet.eq_of_mem_iff
        intro name
        rw [mem_setAmong_strings, mem_required_iff_of_forall₂ hinner, Option.getD_some]
      rw [Option.map_some, Option.bind_some, hset]
      split
      · rfl
      · rw [Option.map_some, sorted_document]

/-- The schema of the items is written again as its literal is. -/
theorem lookup_items_pruned {items : Option Schema} {a : Annotations} (type : Json)
    (hitems : readItems whole members = .ok items)
    (hprune : ∀ value s, members.lookup "items" = some value → items = some s →
      read whole value = .ok s → s.document.sorted = prune value) :
  ((("type", type) :: (a.members ++ member? "items" Schema.document items)).lookup "items").map
      sorted
    = (members.lookup "items").map prune
  := by
  rw [lookup_array]
  rw [readItems_eq] at hitems
  cases hlookup : members.lookup "items" with
  | none =>
      rw [hlookup] at hitems
      obtain rfl := Except.ok.inj hitems
      simp
  | some value =>
      rw [hlookup] at hitems
      obtain ⟨s, hs, rfl⟩ := map_eq_ok_iff.mp hitems
      simpa using hprune value s hlookup rfl hs

/-- The documents of properties are written again as their literals are. -/
theorem sortedMembers_propertyDocuments {required : List String}
    (hinner : List.Forall₂ (GivesProperty whole required) inner object.properties)
    (hprune : ∀ m ∈ inner, ∀ p ∈ object.properties, read whole m.2 = .ok p.schema →
      p.schema.document.sorted = prune m.2) :
  sortedMembers (propertyDocuments object.properties) = pruneEach inner
  := by
  rw [propertyDocuments_eq_map, sortedMembers_eq_map, List.map_map, pruneEach_eq_map]
  generalize object.properties = properties at hinner hprune ⊢
  induction hinner with
  | nil => rfl
  | @cons m p rest others hm _ ih =>
      have hhead := hprune m List.mem_cons_self p List.mem_cons_self hm.schema
      have htail := ih fun m hm p hp => hprune m (.tail _ hm) p (.tail _ hp)
      simp [hm.name, hhead, htail]

/-- The properties are written again as their literals are. -/
theorem lookup_properties_pruned {required : List String} (a : Annotations)
    (hsorted : Ascending inner)
    (hproperties : (members.lookup "properties").getD (.object []) = .object inner)
    (hinner : List.Forall₂ (GivesProperty whole required) inner object.properties)
    (hprune : ∀ m ∈ inner, ∀ p ∈ object.properties, read whole m.2 = .ok p.schema →
      p.schema.document.sorted = prune m.2) :
  ((object.members a).lookup "properties").map sorted
    = (members.lookup "properties").bind fun value =>
        if (pruneProperties value).isEmpty then none else some (.object (pruneProperties value))
  := by
  have hdocuments := sortedMembers_propertyDocuments hinner hprune
  have hascending : Ascending (pruneEach inner) := by
    rw [pruneEach_eq_map, Ascending, List.pairwise_map]
    apply hsorted
  rw [object.lookup_properties]
  cases hlookup : members.lookup "properties" with
  | none =>
      rw [hlookup, Option.getD_none] at hproperties
      obtain rfl := Json.object.inj hproperties
      have hempty : propertyDocuments object.properties = [] := by
        rw [propertyDocuments_eq_map, List.forall₂_nil_left_iff.mp hinner, List.map_nil]
      simp [hempty]
  | some value =>
      rw [hlookup, Option.getD_some] at hproperties
      subst hproperties
      rw [Option.bind_some, pruneProperties, ← hdocuments]
      cases hempty : propertyDocuments object.properties with
      | nil => simp [sortedMembers]
      | cons m rest =>
          rw [if_neg (List.cons_ne_nil m rest), Option.map_some, sorted, ofMembers, ← hempty,
            hdocuments, sortMembers_of_ascending hascending, ← hdocuments, hempty, sortedMembers]
          rfl

/-! ### What is written again of all that one object says -/

/-- A document that repeats a literal has under each key what is written again under it, if that is
so of the keywords whose content is not repeated as it stands. -/
theorem Repeats.lookup_sorted (h : Repeats members others)
    (hsorted : (Json.object members).IsSorted)
    (hstructural : ∀ key ∈ keywords members, key ∈ structural →
      (others.lookup key).map sorted = (writtenMembers members).lookup key) (key : String) :
  (others.lookup key).map sorted = (writtenMembers members).lookup key
  := by
  by_cases hkey : key ∈ keywords members
  · by_cases hplain : key ∈ structural
    · apply hstructural key hkey hplain
    · rw [h.same key hkey hplain, lookup_written_of_not_structural hsorted.1 hkey hplain]
      cases hlookup : members.lookup key with
      | none => rfl
      | some value =>
          rw [Option.map_some, sorted_eq_self (hsorted.of_inside (inside_of_lookup hlookup))]
  · rw [h.absent key hkey, lookup_written_of_not_mem hsorted.1 hkey, Option.map_none]

/-- A document that has under each key what is written again under it is the pruned literal. -/
theorem sorted_eq_prune (hsorted : (Json.object members).IsSorted)
    (href : members.lookup "$ref" = none) {s : Schema} (hothers : s.document = .object others)
    (h : ∀ key, (others.lookup key).map sorted = (writtenMembers members).lookup key) :
  s.document.sorted = prune (.object members)
  := by
  obtain ⟨found, hfound, hlookup⟩ := exists_sorted_object (Schema.nodup_keys_document hothers)
  have hascending : Ascending found := by
    have hdocument := isSorted_sorted s.document
    rw [hothers, hfound] at hdocument
    apply hdocument.1
  rw [hothers, hfound, prune_object href]
  congr 1
  apply eq_of_lookup_eq hascending (ascending_writtenMembers hsorted.1)
  intro key
  rw [hlookup, h]

/-- The names of properties that are read are those that members give. -/
theorem propertyNames_eq
    (h : (members.lookup "properties").getD (.object []) = .object inner) :
  propertyNames members = inner.map (·.1)
  := by
  rw [propertyNames]
  cases hlookup : members.lookup "properties" with
  | none =>
      rw [hlookup, Option.getD_none] at h
      rw [← Json.object.inj h]
      rfl
  | some value =>
      rw [hlookup, Option.getD_some] at h
      rw [h, Option.bind_some, members?, Option.getD_some]

/-! ### What is written again of a literal -/

/-- The document of what is read from a literal is the pruned literal. The induction follows the
schema, as properties are read two levels inside the literal. -/
theorem sorted_document_of_read {literal : Json} {s : Schema} (hsorted : literal.IsSorted)
    (h : read whole literal = .ok s) :
  s.document.sorted = prune literal
  := by
  induction s using Schema.treeInduction generalizing literal with
  | ref id =>
      obtain ⟨members, rfl, hgives⟩ := exists_object_of_read h
      cases hgives with
      | ref href =>
          rw [prune, href]
          rfl
  | simple kind a =>
      obtain ⟨members, rfl, hgives⟩ := exists_object_of_read h
      have hrepeats := hgives.repeats rfl
      cases hgives with
      | simple href htype =>
          apply sorted_eq_prune hsorted href rfl (hrepeats.lookup_sorted hsorted _)
          intro key hkey hstructural
          have hnone : ∀ key ∈ kind.kind.keywords, key ∉ structural := by cases kind <;> decide
          exact absurd hstructural (hnone key (keywords_of_kind href htype ▸ hkey))
  | string s =>
      obtain ⟨members, rfl, hgives⟩ := exists_object_of_read h
      have hrepeats := hgives.repeats rfl
      cases hgives with
      | string href htype ha hformat hpattern henum hvalues =>
          apply sorted_eq_prune hsorted href rfl (hrepeats.lookup_sorted hsorted _)
          intro key hkey hstructural
          have honly : ∀ key ∈ Kind.string.keywords, key ∈ structural → key = "enum" := by decide
          obtain rfl := honly key (keywords_of_kind href htype ▸ hkey) hstructural
          rw [lookup_enum henum hvalues, lookup_written_enum hsorted.1 hkey]
  | object object ih =>
      obtain ⟨members, rfl, hgives⟩ := exists_object_of_read h
      have hrepeats := hgives.repeats rfl
      cases hgives with
      | object href htype ha hid hrequired hproperties =>
          obtain ⟨inner, hinner, hinnerSorted, hforall⟩ :=
            forall₂_of_readProperties hsorted hproperties
          apply sorted_eq_prune hsorted href rfl (hrepeats.lookup_sorted hsorted _)
          intro key hkey hstructural
          have honly : ∀ key ∈ Kind.object.keywords, key ∈ structural →
              key = "properties" ∨ key = "required" := by decide
          rcases honly key (keywords_of_kind href htype ▸ hkey) hstructural with rfl | rfl
          · rw [lookup_properties_pruned _ hinnerSorted.1 hinner hforall,
              lookup_written_properties hsorted.1 hkey]
            intro m hm p hp hread
            apply ih p hp (hinnerSorted.of_inside (.member hm .self)) hread
          · rw [lookup_required_pruned _ hrequired hforall, ← propertyNames_eq hinner,
              lookup_written_required hsorted.1 hkey]
  | array array ih =>
      obtain ⟨members, rfl, hgives⟩ := exists_object_of_read h
      have hothers := Schema.document_array array
      have hrepeats := hgives.repeats hothers
      cases hgives with
      | array href htype ha hitems =>
          apply sorted_eq_prune hsorted href hothers (hrepeats.lookup_sorted hsorted _)
          intro key hkey hstructural
          have honly : ∀ key ∈ Kind.array.keywords, key ∈ structural → key = "items" := by decide
          obtain rfl := honly key (keywords_of_kind href htype ▸ hkey) hstructural
          rw [lookup_items_pruned _ hitems, lookup_written_items hsorted.1 hkey]
          rintro value s hvalue rfl hread
          apply ih s rfl (hsorted.of_inside (inside_of_lookup hvalue)) hread
  | shared node object a ih =>
      obtain ⟨members, rfl, hgives⟩ := exists_object_of_read h
      cases hgives

end Literal

/-- The document of the schema that a literal gives is the pruned literal. The pruned literal is
itself accepted and written again as it is, and so is the literal of each fixed shape. -/
theorem sorted_document_ofLiteral {literal : Json} {s : Schema} {name : String}
    (hsorted : literal.IsSorted) (h : Schema.ofLiteral name literal = .ok s) :
  s.document.sorted = Literal.prune literal
    ∧ (∃ t, Schema.ofLiteral name (Literal.prune literal) = .ok t
      ∧ t.document.sorted = Literal.prune literal)
    ∧ ∀ shape : Shape, Schema.ofLiteral shape.name shape.literal = .ok (.object shape.object)
      ∧ (Schema.object shape.object).document.sorted = shape.literal
  := by
  have hdocument := Literal.sorted_document_of_read hsorted h
  refine ⟨hdocument, ⟨s.normal, ?_, ?_⟩, ?_⟩
  · rw [← hdocument]
    apply read_sorted_document (Schema.Built.ofLiteral hsorted h)
  · have hread := read_sorted_document (Schema.Built.ofLiteral hsorted h) name
    rw [Literal.sorted_document_of_read (isSorted_sorted _) hread, hdocument,
      Literal.prune_prune hsorted]
  · intro shape
    use shape.ofLiteral_literal
    rw [Literal.sorted_document_of_read shape.isSorted_literal shape.ofLiteral_literal]
    cases shape <;> rfl

/-- A literal of an object, of which much is not read: a list of examples, a required name without a
property, what stands beside a reference, and an empty object of properties. -/
def looseLiteral : Json :=
  .object [
    ("default", .null),
    ("properties", .object [
      ("code", .object [
        ("enum", .array [.string "b", .string "a", .string "b"]),
        ("examples", .array [.string "a"]),
        ("type", .string "string")]),
      ("place", .object [("properties", .object []), ("type", .string "object")]),
      ("uses", .object [
        ("items", .object [("$ref", .string "urn:part"), ("title", .string "Part")]),
        ("type", .string "array")])]),
    ("required", .array [.string "uses", .string "price", .string "code", .string "uses"]),
    ("type", .string "object")]

/-- The literal, without what is not read of it. -/
def prunedLiteral : Json :=
  .object [
    ("default", .null),
    ("properties", .object [
      ("code", .object [
        ("enum", .array [.string "a", .string "b"]),
        ("type", .string "string")]),
      ("place", .object [("type", .string "object")]),
      ("uses", .object [
        ("items", .object [("$ref", .string "urn:part")]),
        ("type", .string "array")])]),
    ("required", .array [.string "code", .string "uses"]),
    ("type", .string "object")]

theorem sorted_document_ofLiteral_loose :
  ∃ s, looseLiteral.IsSorted ∧ Schema.ofLiteral "Part" looseLiteral = .ok s
    ∧ s.document.sorted = prunedLiteral
  := by
  have hsorted : looseLiteral.IsSorted := by
    simp only [looseLiteral, IsSorted, MembersSorted, ItemsSorted]
    decide
  obtain ⟨s, hs⟩ : ∃ s, Schema.ofLiteral "Part" looseLiteral = .ok s := ⟨_, rfl⟩
  use s, hsorted, hs
  rw [(sorted_document_ofLiteral hsorted hs).1]
  rfl

end RecordSchema
