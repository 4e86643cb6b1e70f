import RecordSchema.Proofs.Json.Parts
import RecordSchema.Proofs.Schema.Built

/-!
# Representatives of equal schemas

Of all values that are equal to a JSON value, the one in which every zero is the positive zero
represents them. Of all schemas that are equal to a schema, the one whose default values are
represented in this way and in which the nodes of all shared schemas have the number zero does. Two
schemas are equal exactly when they have the same representative, so their equality is an
equivalence.
-/

namespace RecordSchema

/-! ### Numbers -/

/-- The number, where the negative zero gives way to the positive one. -/
def Binary64.representative (x : Binary64) : Binary64 := if x.isZero then zero false else x

theorem Binary64.equal_iff {x y : Binary64} :
  x.equal y = true ↔ x.representative = y.representative
  := by
  obtain ⟨m, i, hi⟩ := x
  obtain ⟨n, j, hj⟩ := y
  by_cases hi0 : i = 0
  · by_cases hj0 : j = 0
    · simp [equal, representative, isZero, hi0, hj0]
    · simp [equal, representative, isZero, zero, hi0, hj0, Ne.symm hj0]
  · by_cases hj0 : j = 0
    · simp [equal, representative, isZero, zero, hi0, hj0]
    · simp [equal, representative, isZero, hi0, hj0]

/-- The number that represents all those equal to it. -/
def Number.representative : Number → Number
  | .integer n fits => .integer n fits
  | .double x => .double x.representative

theorem Number.equal_iff {m n : Number} :
  m.equal n = true ↔ m.representative = n.representative
  := by
  cases m <;> cases n <;> simp [equal, representative, Binary64.equal_iff]

/-! ### Values -/

namespace Json

mutual

/-- The value that represents all those equal to it. -/
def representative : Json → Json
  | .null => .null
  | .bool b => .bool b
  | .number n => .number n.representative
  | .string s => .string s
  | .array items => .array (itemRepresentatives items)
  | .object members => .object (memberRepresentatives members)

/-- The items that represent all those equal to them. -/
def itemRepresentatives : List Json → List Json
  | [] => []
  | item :: rest => item.representative :: itemRepresentatives rest

/-- The members that represent all those equal to them. -/
def memberRepresentatives : List (String × Json) → List (String × Json)
  | [] => []
  | (key, value) :: rest => (key, value.representative) :: memberRepresentatives rest

end

theorem equalItems_iff {xs ys : List Json}
    (h : ∀ x ∈ xs, ∀ {y : Json}, x.equal y = true ↔ x.representative = y.representative) :
  equalItems xs ys = true ↔ itemRepresentatives xs = itemRepresentatives ys
  := by
  induction xs generalizing ys with
  | nil => cases ys <;> simp [equalItems, itemRepresentatives]
  | cons x xs ih =>
      obtain ⟨hx, hxs⟩ := List.forall_mem_cons.mp h
      cases ys with
      | nil => simp [equalItems, itemRepresentatives]
      | cons y ys => simp [equalItems, itemRepresentatives, hx, ih hxs]

theorem equalMembers_iff {xs ys : List (String × Json)}
    (h : ∀ m ∈ xs, ∀ {y : Json}, m.2.equal y = true ↔ m.2.representative = y.representative) :
  equalMembers xs ys = true ↔ memberRepresentatives xs = memberRepresentatives ys
  := by
  induction xs generalizing ys with
  | nil => cases ys <;> simp [equalMembers, memberRepresentatives]
  | cons m xs ih =>
      obtain ⟨key, value⟩ := m
      obtain ⟨hvalue, hxs⟩ := List.forall_mem_cons.mp h
      cases ys with
      | nil => simp [equalMembers, memberRepresentatives]
      | cons n ys => simp [equalMembers, memberRepresentatives, hvalue, ih hxs, and_assoc]

/-- Values are equal exactly when they have the same representative. -/
theorem equal_iff {v w : Json} :
  v.equal w = true ↔ v.representative = w.representative
  := by
  induction v using valueInduction generalizing w with
  | null => cases w <;> simp [equal, representative]
  | bool b => cases w <;> simp [equal, representative]
  | number n => cases w <;> simp [equal, representative, Number.equal_iff]
  | string s => cases w <;> simp [equal, representative]
  | array items ih =>
      cases w <;> simp [equal, representative, equalItems_iff ih]
  | object members ih =>
      cases w <;> simp [equal, representative, equalMembers_iff ih]

end Json

/-! ### Parts of schemas -/

/-- The annotations that represent all those equal to them. -/
def Annotations.representative (a : Annotations) : Annotations :=
  { a with defaultValue := a.defaultValue.map Json.representative }

theorem Annotations.equal_iff {a b : Annotations} :
  (a == b) = true ↔ a.representative = b.representative
  := by
  obtain ⟨title, defaultValue, readonly⟩ := a
  obtain ⟨title', defaultValue', readonly'⟩ := b
  have hdefault : (defaultValue == defaultValue') = true
      ↔ defaultValue.map Json.representative = defaultValue'.map Json.representative := by
    cases defaultValue <;> cases defaultValue' <;> simp
    exact Json.equal_iff
  have heq : ((⟨title, defaultValue, readonly⟩ : Annotations)
        == ⟨title', defaultValue', readonly'⟩)
      = (title == title' && (defaultValue == defaultValue' && readonly == readonly')) := rfl
  simp [heq, representative, hdefault]

/-- The string schema that represents all those equal to it. -/
def StringSchema.representative (s : StringSchema) : StringSchema :=
  { s with annotations := s.annotations.representative }

theorem StringSchema.equal_iff {s t : StringSchema} :
  (s == t) = true ↔ s.representative = t.representative
  := by
  obtain ⟨a, format, values, pattern⟩ := s
  obtain ⟨a', format', values', pattern'⟩ := t
  have heq : ((⟨a, format, values, pattern⟩ : StringSchema) == ⟨a', format', values', pattern'⟩)
      = (a == a' && (format == format' && (values == values' && pattern == pattern'))) := rfl
  simp [heq, representative, Annotations.equal_iff]

/-! ### Schemas -/

mutual

/-- The schema that represents all those equal to it. -/
def Schema.representative : Schema → Schema
  | .simple kind a => .simple kind a.representative
  | .string s => .string s.representative
  | .object o => .object o.representative
  | .array ⟨a, none⟩ => .array ⟨a.representative, none⟩
  | .array ⟨a, some s⟩ => .array ⟨a.representative, some s.representative⟩
  | .ref id => .ref id
  | .shared _ o a => .shared 0 o.representative a.representative

/-- The object schema that represents all those equal to it. -/
def ObjectSchema.representative : ObjectSchema → ObjectSchema
  | ⟨id, metaSchema, a, properties, none⟩ =>
    ⟨id, metaSchema, a.representative, propertyRepresentatives properties, none⟩
  | ⟨id, metaSchema, a, properties, some schemas⟩ =>
    ⟨id, metaSchema, a.representative, propertyRepresentatives properties,
      some (schemaRepresentatives schemas)⟩

/-- The properties that represent all those equal to them. -/
def propertyRepresentatives : List Property → List Property
  | [] => []
  | ⟨name, required, s⟩ :: rest =>
    ⟨name, required, s.representative⟩ :: propertyRepresentatives rest

/-- The schemas that represent all those equal to them. -/
def schemaRepresentatives : List Schema → List Schema
  | [] => []
  | s :: rest => s.representative :: schemaRepresentatives rest

end

/-- The first properties are compared, and then the others. -/
theorem equalProperties_cons (p q : Property) (ps qs : List Property) :
  equalProperties (p :: ps) (q :: qs)
    = (p.name == q.name && p.required == q.required && p.schema.equal q.schema
      && equalProperties ps qs)
  := by
  cases p
  cases q
  rw [equalProperties]

theorem propertyRepresentatives_cons (p : Property) (ps : List Property) :
  propertyRepresentatives (p :: ps)
    = { p with schema := p.schema.representative } :: propertyRepresentatives ps
  := by
  cases p
  rw [propertyRepresentatives]

theorem equalProperties_iff {ps qs : List Property}
    (h : ∀ p ∈ ps, ∀ {t : Schema}, p.schema.equal t = true
      ↔ p.schema.representative = t.representative) :
  equalProperties ps qs = true ↔ propertyRepresentatives ps = propertyRepresentatives qs
  := by
  induction ps generalizing qs with
  | nil => cases qs <;> simp [equalProperties, propertyRepresentatives,
      propertyRepresentatives_cons]
  | cons p ps ih =>
      obtain ⟨hp, hps⟩ := List.forall_mem_cons.mp h
      cases qs with
      | nil => simp [equalProperties, propertyRepresentatives, propertyRepresentatives_cons]
      | cons q qs =>
          simp [equalProperties_cons, propertyRepresentatives_cons, hp, ih hps, and_assoc]

theorem equalSchemas_iff {ss ts : List Schema}
    (h : ∀ s ∈ ss, ∀ {t : Schema}, s.equal t = true ↔ s.representative = t.representative) :
  equalSchemas ss ts = true ↔ schemaRepresentatives ss = schemaRepresentatives ts
  := by
  induction ss generalizing ts with
  | nil => cases ts <;> simp [equalSchemas, schemaRepresentatives]
  | cons s ss ih =>
      obtain ⟨hs, hss⟩ := List.forall_mem_cons.mp h
      cases ts with
      | nil => simp [equalSchemas, schemaRepresentatives]
      | cons t ts => simp [equalSchemas, schemaRepresentatives, hs, ih hss]

/-- Object schemas are equal exactly when they have the same representative, if that is so of the
schemas in one of them. -/
theorem ObjectSchema.equal_iff_of_parts {object other : ObjectSchema}
    (hproperties : ∀ p ∈ object.properties, ∀ {t : Schema}, p.schema.equal t = true
      ↔ p.schema.representative = t.representative)
    (honeOf : ∀ schemas, object.oneOf = some schemas → ∀ s ∈ schemas, ∀ {t : Schema},
      s.equal t = true ↔ s.representative = t.representative) :
  object.equal other = true ↔ object.representative = other.representative
  := by
  obtain ⟨id, metaSchema, a, properties, oneOf⟩ := object
  obtain ⟨id', metaSchema', a', properties', oneOf'⟩ := other
  have hall : equalProperties properties properties' = true
      ↔ propertyRepresentatives properties = propertyRepresentatives properties' :=
    equalProperties_iff hproperties
  cases oneOf with
  | none =>
      cases oneOf' <;> simp [equal, representative, hall, Annotations.equal_iff, and_assoc]
  | some schemas =>
      cases oneOf' with
      | none => simp [equal, representative]
      | some schemas' =>
          have hschemas : equalSchemas schemas schemas' = true
              ↔ schemaRepresentatives schemas = schemaRepresentatives schemas' :=
            equalSchemas_iff (honeOf schemas rfl)
          simp [equal, representative, hall, hschemas, Annotations.equal_iff, and_assoc]

namespace Schema

theorem representative_array (array : ArraySchema) :
  (Schema.array array).representative
    = .array ⟨array.annotations.representative, array.items.map representative⟩
  := by
  obtain ⟨a, items⟩ := array
  cases items <;> simp [representative]

/-- Array schemas are equal exactly when they have the same representative, if that is so of the
items of one of them. -/
theorem equal_array_iff {array other : ArraySchema}
    (h : ∀ items, array.items = some items → ∀ {t : Schema},
      items.equal t = true ↔ items.representative = t.representative) :
  (Schema.array array).equal (.array other) = true
    ↔ (Schema.array array).representative = (Schema.array other).representative
  := by
  obtain ⟨a, items⟩ := array
  obtain ⟨b, items'⟩ := other
  cases items with
  | none => cases items' <;> simp [equal, representative, Annotations.equal_iff]
  | some s =>
      cases items' with
      | none => simp [equal, representative]
      | some t => simp [equal, representative, Annotations.equal_iff, h s rfl]

/-- Schemas are equal exactly when they have the same representative. -/
theorem equal_iff {s t : Schema} :
  s.equal t = true ↔ s.representative = t.representative
  := by
  induction s using treeInduction generalizing t with
  | simple kind a =>
      cases t <;> simp [equal, representative, representative_array, Annotations.equal_iff]
  | string s =>
      cases t <;> simp [equal, representative, representative_array, StringSchema.equal_iff]
  | object object hproperties honeOf =>
      have hobject (other : ObjectSchema) : object.equal other = true
          ↔ object.representative = other.representative :=
        ObjectSchema.equal_iff_of_parts hproperties honeOf
      cases t <;> simp [equal, representative, representative_array, hobject]
  | array array ih =>
      cases t with
      | array other => apply equal_array_iff ih
      | simple kind a => simp [equal, representative, representative_array]
      | string s => simp [equal, representative, representative_array]
      | object object => simp [equal, representative, representative_array]
      | ref id => simp [equal, representative, representative_array]
      | shared node object a => simp [equal, representative, representative_array]
  | ref id => cases t <;> simp [equal, representative, representative_array]
  | shared node object a hproperties honeOf =>
      have hobject (other : ObjectSchema) : object.equal other = true
          ↔ object.representative = other.representative :=
        ObjectSchema.equal_iff_of_parts hproperties honeOf
      cases t <;>
        simp [equal, representative, representative_array, hobject, Annotations.equal_iff]

/-- The equality of schemas is an equivalence. -/
theorem equal_equivalence :
  Equivalence fun s t : Schema => s.equal t = true
  where
  refl _ := equal_iff.mpr rfl
  symm h := equal_iff.mpr (equal_iff.mp h).symm
  trans hst htu := equal_iff.mpr ((equal_iff.mp hst).trans (equal_iff.mp htu))

end Schema

end RecordSchema
