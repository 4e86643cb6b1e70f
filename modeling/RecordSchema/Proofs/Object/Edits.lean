import RecordSchema.Schema.Set
import RecordSchema.Proofs.Object.Puts

/-!
# Runs of changes

An object schema starts empty and is changed step by step: properties are put, and the
identifiers, the annotations and the alternatives are set. After any run of changes the object
schema says about its properties what the puts among the changes say, whatever else was
changed in between.
-/

namespace RecordSchema

namespace ObjectSchema

/-- A change of an object schema. -/
inductive Edit where
  | putRequired (name : String) (schema : Schema)
  | putOptional (name : String) (schema : Schema)
  | setId (id : Option String)
  | setMetaSchema (metaSchema : Option String)
  | setTitle (title : String)
  | annotate (change : Annotations → Annotations)
  | setOneOf (schemas : SchemaSet)

namespace Edit

/-- The object schema after a change. -/
def apply (object : ObjectSchema) : Edit → ObjectSchema
  | .putRequired name schema => object.putRequired name schema
  | .putOptional name schema => object.putOptional name schema
  | .setId id => { object with id }
  | .setMetaSchema metaSchema => { object with metaSchema }
  | .setTitle title =>
    { object with annotations := { object.annotations with title := some title } }
  | .annotate change => { object with annotations := change object.annotations }
  | .setOneOf schemas => { object with oneOf := some schemas.members }

/-- The property that a change puts, if it puts one. -/
def put? : Edit → Option Property
  | .putRequired name schema => some ⟨name, true, schema⟩
  | .putOptional name schema => some ⟨name, false, schema⟩
  | _ => none

/-- A change puts its property among the properties, or leaves them as they are. -/
theorem properties_apply (object : ObjectSchema) (edit : Edit) :
  (edit.apply object).properties = putAll edit.put?.toList object.properties
  := by
  cases edit with
  | putRequired name schema => rfl
  | putOptional name schema => rfl
  | setId id => rfl
  | setMetaSchema metaSchema => rfl
  | setTitle title => rfl
  | annotate change => rfl
  | setOneOf schemas => rfl

end Edit

/-- The object schema that a run of changes makes of the empty one. -/
def ofEdits (edits : List Edit) : ObjectSchema := edits.foldl Edit.apply {}

/-- The properties after a run of changes are those that its puts leave. -/
theorem properties_foldl_apply (edits : List Edit) (object : ObjectSchema) :
  (edits.foldl Edit.apply object).properties
    = putAll (edits.filterMap Edit.put?) object.properties
  := by
  induction edits generalizing object with
  | nil => rfl
  | cons edit edits ih =>
      rw [List.foldl_cons, ih, Edit.properties_apply, ← putAll_append]
      congr 1
      cases h : edit.put? with
      | none => simp [h]
      | some p => simp [h]

/-- After any run of changes the names of the properties are different and stand in the order
of their first put, the required and the optional names are disjoint and together all names,
and under each name stands what was put last. A change that puts nothing leaves all
properties as they are. -/
theorem holds_ofEdits (edits : List Edit) :
  (ofEdits edits).Holds (edits.filterMap Edit.put?)
    ∧ (∀ name ∈ (ofEdits edits).required, name ∉ (ofEdits edits).optional)
    ∧ (∀ name, name ∈ (ofEdits edits).names
        ↔ name ∈ (ofEdits edits).required ∨ name ∈ (ofEdits edits).optional)
    ∧ ∀ edit : Edit, edit.put? = none →
        (ofEdits (edits ++ [edit])).properties = (ofEdits edits).properties
  := by
  have h : (ofEdits edits).Holds (edits.filterMap Edit.put?) :=
    holds_of_properties_eq (properties_foldl_apply edits {})
  use h, fun _ => h.disjoint, fun _ => h.mem_names_iff
  intro edit hedit
  rw [ofEdits, ofEdits, List.foldl_append, List.foldl_cons, List.foldl_nil,
    Edit.properties_apply, hedit]
  rfl

end ObjectSchema

end RecordSchema
