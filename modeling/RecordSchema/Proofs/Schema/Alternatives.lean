import RecordSchema.Proofs.Json.Separated
import RecordSchema.Proofs.Schema.Encoding
import RecordSchema.Proofs.Schema.Insertion
import RecordSchema.Proofs.Schema.WellFormed

/-!
# The texts of alternatives

A set of schemas is written as the array of the texts of its members. Which schemas it refuses is
told by their texts, but for the signs of the zeros in default values and for where shared schemas
are used. Of schemas that use no shared ones and have no negative zeros in default values, none is
written twice and none is lost.
-/

namespace RecordSchema

/-! ### Texts -/

namespace Json

/-- No number in the value is the negative zero. -/
def HasPositiveZeros (v : Json) : Prop :=
  ∀ x, (Json.number (.double x)).Inside v → x.isZero = true → x.negative = false

/-- A value without negative zeros represents itself. -/
theorem representative_of_positive {v : Json} (h : v.HasPositiveZeros) :
  v.representative = v
  := by
  induction v using valueInduction with
  | number n =>
      cases n with
      | integer n fits => rfl
      | double x =>
          have hx := h x .self
          rw [representative, Number.representative, Binary64.representative]
          split
          · rename_i hzero
            obtain ⟨negative, place, finite⟩ := x
            obtain rfl : negative = false := hx hzero
            obtain rfl : place = 0 := Binary64.place_of_isZero.mp hzero
            rfl
          · rfl
  | array items ih =>
      have hitems : items.map representative = items.map id := by
        apply List.map_congr_left
        intro item hitem
        apply ih item hitem
        intro x hx
        apply h x (.item hitem hx)
      rw [representative, itemRepresentatives_eq_map, hitems, List.map_id]
  | object members ih =>
      have hmembers : (members.map fun m => (m.1, m.2.representative)) = members.map id := by
        apply List.map_congr_left
        intro m hm
        refine Prod.ext rfl (ih m hm ?_)
        intro x hx
        apply h x (.member hm hx)
      rw [representative, memberRepresentatives_eq_map, hmembers, List.map_id]
  | _ => rfl

/-- In the compact layout it does not matter how deep a value stands. -/
theorem write_compact (depth : Nat) (v : Json) :
  v.write .compact depth = v.write .compact 0
  := by
  have hblock (depth : Nat) (opening closing : Char) (texts : List (List Char)) :
      Layout.block .compact depth opening closing texts
        = Layout.block .compact 0 opening closing texts := by
    cases texts <;> rfl
  induction v using valueInduction generalizing depth with
  | bool b => cases b <;> rfl
  | array items ih =>
      have hitems (depth : Nat) : items.map (write .compact (depth + 1))
          = items.map (write .compact 0) := by
        apply List.map_congr_left
        intro item hitem
        apply ih item hitem
      rw [write, write, writeItems_eq_map, writeItems_eq_map, hitems, hitems, hblock]
  | object members ih =>
      have hmembers (depth : Nat) : members.map (writeMember .compact (depth + 1))
          = members.map (writeMember .compact 0) := by
        apply List.map_congr_left
        intro m hm
        rw [writeMember, writeMember, ih m hm]
      rw [write, write, writeMembers_eq_map, writeMembers_eq_map, hmembers, hmembers, hblock]
  | _ => rfl

/-- The compact text of an array consists of those of its items. -/
theorem compact_array (items : List Json) :
  (Json.array items).compact = "[" ++ ",".intercalate (items.map compact) ++ "]"
  := by
  have hmore (first : List Char) (rest : List (List Char)) :
      [','].intercalate (first :: rest) = first ++ rest.flatMap (',' :: ·) := by
    induction rest generalizing first with
    | nil => simp
    | cons next rest ih =>
        rw [List.intercalate_cons_cons, ih]
        simp
  have hblock (texts : List (List Char)) : Layout.block .compact 0 '[' ']' texts
      = '[' :: ([','].intercalate texts ++ [']']) := by
    cases texts with
    | nil => rfl
    | cons first rest =>
        rw [hmore]
        simp [Layout.block, Layout.more, Layout.line]
  have hitems : items.map (write .compact 1) = items.map (write .compact 0) := by
    apply List.map_congr_left
    intro item _
    apply write_compact
  apply String.toList_injective
  rw [compact, text, write, writeItems_eq_map, hitems, hblock]
  simp [String.toList_intercalate, compact, text, Function.comp_def]

end Json

namespace Schema

/-- The compact text of a schema, where the zeros in default values have lost their sign. -/
def unsignedText (s : Schema) : String := s.document.representative.compact

/-- A schema has another one's text, but for the signs of zeros, and uses shared schemas at the same
positions. -/
def Repeats (s t : Schema) : Prop := s.unsignedText = t.unsignedText ∧ s.SharesAlike t

/-- A schema is told by its text: it uses no shared schemas and no default value has a negative zero
in it. -/
structure IsTold (s : Schema) : Prop where
  inline : ∀ path t, s.At path t → t.sharing? = none
  positive : s.document.HasPositiveZeros

variable {s t : Schema}

/-- Schemas are equal exactly when one repeats the other. -/
theorem equal_iff_repeats (h : s.HasDistinctNames) :
  s.equal t = true ↔ s.Repeats t
  := by
  rw [equal_iff_document h, Repeats, unsignedText, unsignedText]
  constructor
  · rintro ⟨hdocument, hshare⟩
    exact ⟨congrArg Json.compact hdocument, hshare⟩
  · rintro ⟨htext, hshare⟩
    exact ⟨Json.text_injective .compact htext, hshare⟩

/-- Schemas that are told by their texts repeat each other when their texts are the same. -/
theorem repeats_iff_of_isTold (hs : s.IsTold) (ht : t.IsTold) :
  s.Repeats t ↔ s.text .compact = t.text .compact
  := by
  have hshare : s.SharesAlike t := by
    intro path u v hu hv
    rw [hs.inline path u hu, ht.inline path v hv]
  have hunsigned {s : Schema} (h : s.IsTold) : s.unsignedText = s.text .compact := by
    rw [unsignedText, Json.representative_of_positive h.positive]
    rfl
  rw [Repeats, hunsigned hs, hunsigned ht, and_iff_left hshare]

theorem Built.hasDistinctNames (h : s.Built) :
  s.HasDistinctNames
  := by
  intro path t object ht hobject
  apply (Built.object? (h.of_at ht) hobject).nodup_names

end Schema

/-! ### Sets -/

namespace SchemaSet

/-- The compact texts of the members of a set. -/
def texts (set : SchemaSet) : List String := set.members.map (·.text .compact)

/-- What the texts of the members of a set say about the schemas that were inserted into it. -/
structure ToldByTexts (set : SchemaSet) (schemas : List Schema) : Prop where
  /-- A schema is refused exactly when it repeats a member. -/
  refused : ∀ s : Schema, s.Built →
    ((set.insertNew s).1 = false ↔ ∃ t ∈ set.members, t.Repeats s)
  /-- No member repeats another one. -/
  distinct : set.members.Pairwise fun s t => ¬ s.Repeats t
  /-- Every inserted schema repeats a member. -/
  kept : ∀ s ∈ schemas, ∃ t ∈ set.members, t.Repeats s
  /-- The texts of the members, in their order, make the text of the alternatives of an object
  schema. -/
  written : ∀ (object : ObjectSchema) (a : Annotations), object.oneOf = some set.members →
    (object.members a).lookup "oneOf" = some set.document
      ∧ set.document.compact = "[" ++ ",".intercalate set.texts ++ "]"
  /-- Where all schemas are told by their texts, a schema is refused exactly when a member has its
  text. -/
  refusedToldByText : (∀ s ∈ schemas, s.IsTold) → ∀ s : Schema, s.Built → s.IsTold →
    ((set.insertNew s).1 = false ↔ s.text .compact ∈ set.texts)
  /-- Then no text is written twice. -/
  nodup : (∀ s ∈ schemas, s.IsTold) → set.texts.Nodup
  /-- Then the text of each inserted schema is written. -/
  mem : (∀ s ∈ schemas, s.IsTold) → ∀ s ∈ schemas, s.text .compact ∈ set.texts

section

variable {set : SchemaSet} {schemas : List Schema}

/-- A member is equal to exactly the schemas that it repeats. -/
theorem Collects.equal_iff_repeats (hcollects : set.Collects schemas)
    (h : ∀ s ∈ schemas, s.Built) {t : Schema} (ht : t ∈ set.members) (s : Schema) :
  t.equal s = true ↔ t.Repeats s
  := by
  apply Schema.equal_iff_repeats
  apply (h t (hcollects.ordered.mem ht)).hasDistinctNames

/-- A schema is refused exactly when a member repeats it. -/
theorem Collects.refused_iff_repeats (hcollects : set.Collects schemas)
    (h : ∀ s ∈ schemas, s.Built) (s : Schema) :
  (set.insertNew s).1 = false ↔ ∃ t ∈ set.members, t.Repeats s
  := by
  rw [SchemaSet.refused_iff, HasEqual]
  apply exists_congr
  intro t
  apply and_congr_right
  intro ht
  apply hcollects.equal_iff_repeats h ht

/-- No member repeats another one. -/
theorem Collects.pairwise_not_repeats (hcollects : set.Collects schemas)
    (h : ∀ s ∈ schemas, s.Built) :
  set.members.Pairwise fun s t => ¬ s.Repeats t
  := by
  apply hcollects.distinct.imp_of_mem
  intro s t hs _ hequal hrepeat
  rw [(hcollects.equal_iff_repeats h hs t).mpr hrepeat] at hequal
  cases hequal

/-- Every collected schema repeats a member. -/
theorem Collects.exists_repeats (hcollects : set.Collects schemas)
    (h : ∀ s ∈ schemas, s.Built) {s : Schema} (hs : s ∈ schemas) :
  ∃ t ∈ set.members, t.Repeats s
  := by
  obtain ⟨t, ht, hequal⟩ :=
    (hcollects.hasEqual_iff s).mpr ⟨s, hs, Schema.equal_equivalence.refl s⟩
  exact ⟨t, ht, (hcollects.equal_iff_repeats h ht s).mp hequal⟩

/-- Among members that are told by their texts, one repeats a schema exactly when it has the text
of the schema. -/
theorem exists_repeats_iff_of_isTold (h : ∀ t ∈ set.members, t.IsTold) {s : Schema}
    (hs : s.IsTold) :
  (∃ t ∈ set.members, t.Repeats s) ↔ s.text .compact ∈ set.texts
  := by
  rw [SchemaSet.texts, List.mem_map]
  apply exists_congr
  intro t
  apply and_congr_right
  intro ht
  apply Schema.repeats_iff_of_isTold (h t ht) hs

end

end SchemaSet

/-- A set into which built schemas have been inserted one by one is told by the texts of its
members. -/
theorem toldByTexts_inserted (schemas : List Schema) (h : ∀ s ∈ schemas, s.Built) :
  (schemas.foldl (fun set s => (set.insertNew s).2) ({} : SchemaSet)).ToldByTexts schemas
  := by
  have hcollects : (schemas.foldl (fun set s => (set.insertNew s).2) ({} : SchemaSet)).Collects
      schemas := SchemaSet.collects_ofList schemas
  generalize schemas.foldl (fun set s => (set.insertNew s).2) ({} : SchemaSet) = set at *
  have hmembers (htold : ∀ s ∈ schemas, s.IsTold) : ∀ t ∈ set.members, t.IsTold :=
    fun t ht => htold t (hcollects.ordered.mem ht)
  constructor
  case refused => exact fun s _ => hcollects.refused_iff_repeats h s
  case distinct => apply hcollects.pairwise_not_repeats h
  case kept => exact fun s hs => hcollects.exists_repeats h hs
  case written =>
    intro object a honeOf
    constructor
    · rw [object.lookup_members, honeOf]
      rfl
    · rw [SchemaSet.document, Json.compact_array, schemaDocuments_eq_map, List.map_map]
      rfl
  case refusedToldByText =>
    intro htold s _ hs
    rw [hcollects.refused_iff_repeats h, SchemaSet.exists_repeats_iff_of_isTold (hmembers htold) hs]
  case nodup =>
    intro htold
    rw [SchemaSet.texts, List.Nodup, List.pairwise_map]
    apply (hcollects.pairwise_not_repeats h).imp_of_mem
    intro s t hs ht hrepeat hsame
    apply hrepeat
    apply (Schema.repeats_iff_of_isTold (hmembers htold s hs) (hmembers htold t ht)).mpr hsame
  case mem =>
    intro htold s hs
    apply (SchemaSet.exists_repeats_iff_of_isTold (hmembers htold) (htold s hs)).mp
    apply hcollects.exists_repeats h hs

/-! ### Texts that do not tell -/

/-- An object schema that serves several fields. -/
def placeSchema : ObjectSchema where
  id := some "urn:place"
  properties := [⟨"city", false, .string {}⟩]

/-- A schema of numbers with a zero of the given sign as default value. -/
def zeroSchema (negative : Bool) : Schema :=
  .simple .number { defaultValue := some (.number (.double (.zero negative))) }

theorem built_placeSchema :
  placeSchema.Built
  := by
  have hstring : (Schema.string {}).Built := .string Annotations.isSorted_empty
  apply (ObjectSchema.Built.setId (some "urn:place") .empty).putOptional "city" hstring

theorem built_zeroSchema (negative : Bool) :
  (zeroSchema negative).Built
  := by
  apply Schema.Built.simple
  rintro value ⟨⟩
  trivial

/-- The object schema is told by its text where it is written out. -/
theorem isTold_placeSchema :
  (Schema.object placeSchema).IsTold
  := by
  constructor
  case inline =>
    intro path t ht
    have hobject : (Schema.object placeSchema).object? = some placeSchema := rfl
    rcases (Schema.at_iff_of_object? hobject rfl).mp ht with
      ⟨-, rfl⟩ | ⟨p, hp, rest, -, hrest⟩
    · rfl
    · obtain rfl := List.mem_singleton.mp hp
      obtain ⟨-, rfl⟩ := (Schema.at_iff_of_isPlain rfl).mp hrest
      rfl
  case positive =>
    have hdocument : (Schema.object placeSchema).document = .object [
        ("type", .string "object"), ("id", .string "urn:place"),
        ("properties", .object [("city", .object [("type", .string "string")])])] := rfl
    have hwhole : (Schema.object placeSchema).document.IsWhole := by simp [hdocument]
    intro x hx
    exact absurd hx (hwhole x)

/-- The set of an object schema, a use of it that is shared, and zeros of both signs. -/
theorem toldByTexts_places :
  (∀ s ∈ [.object placeSchema, .shared 3 placeSchema {}, zeroSchema false, zeroSchema true],
      s.Built)
    ∧ (Schema.object placeSchema).IsTold
    ∧ ([.object placeSchema, .shared 3 placeSchema {}, zeroSchema false, zeroSchema true].foldl
        (fun set s => (set.insertNew s).2) ({} : SchemaSet)).ToldByTexts
      [.object placeSchema, .shared 3 placeSchema {}, zeroSchema false, zeroSchema true]
  := by
  have hbuilt : ∀ s ∈ [.object placeSchema, .shared 3 placeSchema {}, zeroSchema false,
      zeroSchema true], s.Built := by
    simp only [List.forall_mem_cons]
    refine ⟨.object built_placeSchema, .shared 3 built_placeSchema Annotations.isSorted_empty,
      built_zeroSchema false, built_zeroSchema true, List.forall_mem_nil _⟩
  use hbuilt, isTold_placeSchema
  apply toldByTexts_inserted _ hbuilt

/-- Not every schema is refused of which a member has the text: a shared schema is not the one that
is written out. Nor is every schema that is refused written like a member: zeros are equal. -/
theorem not_refused_iff_text :
  ¬ (∀ (schemas : List Schema) (s : Schema), (∀ t ∈ schemas, t.Built) → s.Built →
      s.text .compact ∈ (SchemaSet.ofList schemas).texts →
      ((SchemaSet.ofList schemas).insertNew s).1 = false)
    ∧ ¬ (∀ (schemas : List Schema) (s : Schema), (∀ t ∈ schemas, t.Built) → s.Built →
      ((SchemaSet.ofList schemas).insertNew s).1 = false →
      s.text .compact ∈ (SchemaSet.ofList schemas).texts)
  := by
  constructor
  · intro h
    have hbuilt : ∀ t ∈ [Schema.object placeSchema], t.Built := by
      rw [List.forall_mem_singleton]
      exact .object built_placeSchema
    have hnew : ((SchemaSet.ofList [.object placeSchema]).insertNew
        (.shared 3 placeSchema {})).1 = true := by
      simp [SchemaSet.ofList, SchemaSet.insertNew, SchemaSet.insert, SchemaSet.contains,
        Schema.equal]
    have hrefused := h [.object placeSchema] (.shared 3 placeSchema {}) hbuilt
      (.shared 3 built_placeSchema Annotations.isSorted_empty) List.mem_cons_self
    rw [hnew] at hrefused
    cases hrefused
  · intro h
    have hbuilt : ∀ t ∈ [zeroSchema false], t.Built := by
      rw [List.forall_mem_singleton]
      exact built_zeroSchema false
    have hequal : (zeroSchema false).equal (zeroSchema true) = true := Schema.equal_iff.mpr rfl
    have hrefused : ((SchemaSet.ofList [zeroSchema false]).insertNew (zeroSchema true)).1
        = false := by
      simp [SchemaSet.ofList, SchemaSet.insertNew, SchemaSet.insert, SchemaSet.contains, hequal]
    have hmem := h [zeroSchema false] (zeroSchema true) hbuilt (built_zeroSchema true) hrefused
    have htext : (zeroSchema true).text .compact = (zeroSchema false).text .compact :=
      List.mem_singleton.mp hmem
    have hdocument := Json.text_injective .compact htext
    simp [zeroSchema, Schema.document, Annotations.members, member?, Binary64.zero] at hdocument

end RecordSchema
