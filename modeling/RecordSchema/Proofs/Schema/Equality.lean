import RecordSchema.Proofs.Schema.Document
import RecordSchema.Proofs.Schema.Representative

/-!
# Numbers of nodes

It does not matter for the equality of schemas, nor for their documents, which numbers the nodes of
shared schemas have. So two object schemas that differ only in the numbers of their nodes are equal
and are written alike.
-/

namespace RecordSchema

/-- Every object schema is equal to itself. -/
theorem ObjectSchema.equal_self (object : ObjectSchema) :
  object.equal object = true
  := by
  have h : (Schema.object object).equal (.object object) = true := Schema.equal_iff.mpr rfl
  rw [Schema.equal] at h
  apply h

/-! ### Schemas without numbers -/

/-- The schema, whose node has the number zero if it is the use of a shared schema. -/
def Schema.unnumbered : Schema → Schema
  | .shared _ schema annotations => .shared 0 schema annotations
  | other => other

/-- The property, where the node of its schema has the number zero. -/
def Property.unnumbered (p : Property) : Property := { p with schema := p.schema.unnumbered }

/-- The object schema, where the nodes of all properties have the number zero. -/
def ObjectSchema.unnumbered (object : ObjectSchema) : ObjectSchema :=
  { object with properties := object.properties.map (·.unnumbered) }

/-- Annotations do not change the number of a node. -/
theorem Schema.unnumbered_annotate (s : Schema) (change : Annotations → Annotations) :
  (s.annotate change).unnumbered = s.unnumbered.annotate change
  := by
  cases s <;> rfl

theorem Schema.asString_unnumbered (s : Schema) :
  s.unnumbered.asString = s.asString
  := by
  cases s <;> rfl

/-- Putting a property does not depend on the numbers of nodes. -/
theorem putProperty_unnumbered (p : Property) (properties : List Property) :
  (putProperty p properties).map (·.unnumbered)
    = putProperty p.unnumbered (properties.map (·.unnumbered))
  := by
  induction properties with
  | nil => rfl
  | cons q rest ih =>
      by_cases hq : q.name = p.name
      · simp [putProperty, Property.unnumbered, hq]
      · simpa [putProperty, Property.unnumbered, hq] using ih

theorem ObjectSchema.unnumbered_put (object : ObjectSchema) (p : Property) :
  (object.put p).unnumbered = object.unnumbered.put p.unnumbered
  := by
  rw [put, put, unnumbered, putProperty_unnumbered]
  rfl

/-! ### Documents -/

theorem Schema.document_unnumbered (s : Schema) :
  s.unnumbered.document = s.document
  := by
  cases s <;> rfl

theorem propertyDocuments_unnumbered (properties : List Property) :
  propertyDocuments (properties.map (·.unnumbered)) = propertyDocuments properties
  := by
  rw [propertyDocuments_eq_map, propertyDocuments_eq_map, List.map_map]
  congr 1
  funext p
  exact congrArg (p.name, ·) p.schema.document_unnumbered

theorem requiredMember_unnumbered (properties : List Property) :
  requiredMember (properties.map (·.unnumbered)) = requiredMember properties
  := by
  have hrequired : ObjectSchema.required { properties := properties.map (·.unnumbered) }
      = ObjectSchema.required { properties } := by
    rw [ObjectSchema.required, ObjectSchema.required, List.filter_map, List.map_map]
    rfl
  rw [requiredMember, requiredMember, hrequired]

/-- The members of an object schema do not show the numbers of nodes. -/
theorem ObjectSchema.members_unnumbered (object : ObjectSchema) (a : Annotations) :
  object.unnumbered.members a = object.members a
  := by
  obtain ⟨id, metaSchema, own, properties, oneOf⟩ := object
  cases oneOf with
  | none =>
      rw [unnumbered, members, members, propertyDocuments_unnumbered,
        requiredMember_unnumbered]
  | some schemas =>
      rw [unnumbered, members, members, propertyDocuments_unnumbered,
        requiredMember_unnumbered]

theorem ObjectSchema.document_unnumbered (object : ObjectSchema) :
  (Schema.object object.unnumbered).document = (Schema.object object).document
  := congrArg Json.object (object.members_unnumbered object.annotations)

/-! ### Object schemas that differ in the numbers of nodes -/

theorem Schema.equal_unnumbered (s t : Schema) :
  s.unnumbered.equal t.unnumbered = s.equal t
  := by
  cases s <;> cases t <;> simp [unnumbered, equal]

theorem equalProperties_unnumbered (ps qs : List Property) :
  equalProperties (ps.map (·.unnumbered)) (qs.map (·.unnumbered)) = equalProperties ps qs
  := by
  induction ps generalizing qs with
  | nil => cases qs <;> simp [equalProperties]
  | cons p ps ih =>
      cases qs with
      | nil => simp [equalProperties]
      | cons q qs =>
          rw [List.map_cons, List.map_cons, equalProperties_cons, equalProperties_cons, ih,
            Property.unnumbered, Property.unnumbered, Schema.equal_unnumbered]

/-- The equality of object schemas does not depend on the numbers of nodes. -/
theorem ObjectSchema.equal_unnumbered (object other : ObjectSchema) :
  object.unnumbered.equal other.unnumbered = object.equal other
  := by
  obtain ⟨i, m, a, ps, ss⟩ := object
  obtain ⟨j, n, b, qs, ts⟩ := other
  cases ss <;> cases ts <;> simp only [unnumbered, equal, equalProperties_unnumbered]

/-- Object schemas that differ only in the numbers of nodes are equal. -/
theorem ObjectSchema.equal_of_unnumbered_eq {object other : ObjectSchema}
    (h : object.unnumbered = other.unnumbered) :
  object.equal other = true
  := by
  rw [← equal_unnumbered, h]
  apply equal_self

/-- Object schemas that differ only in the numbers of nodes have the same document. -/
theorem ObjectSchema.document_of_unnumbered_eq {object other : ObjectSchema}
    (h : object.unnumbered = other.unnumbered) :
  (Schema.object object).document = (Schema.object other).document
  := by
  rw [← object.document_unnumbered, h, other.document_unnumbered]

end RecordSchema
