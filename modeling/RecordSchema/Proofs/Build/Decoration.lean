import RecordSchema.Proofs.Build.Choices
import Mathlib.Tactic.Use

/-!
# Decorated schemas

What becomes of a schema that a field decorates, whatever schema it is. A field with choices makes
it a schema of strings, of which the format and the other keyword are kept; any other field changes
nothing but the annotations. The title and the default value are those of the field, and the schema
is marked as read-only or not as far as the field knows. Decorating it again changes nothing.
-/

namespace RecordSchema

/-! ### Annotations -/

/-- What stands in the annotations of a schema after a change of them. -/
theorem Schema.annotations?_annotate (s : Schema) (change : Annotations → Annotations) :
  (s.annotate change).annotations? = s.annotations?.map change
  := by
  cases s <;> rfl

/-- Of two changes of the annotations the second acts on the result of the first. -/
theorem Schema.annotate_annotate (s : Schema) (change more : Annotations → Annotations) :
  (s.annotate change).annotate more = s.annotate (more ∘ change)
  := by
  cases s <;> rfl

/-- A reference is the only schema without annotations. -/
theorem Schema.annotations?_eq_none_iff {s : Schema} :
  s.annotations? = none ↔ ∃ id, s = .ref id
  := by
  cases s <;> simp [annotations?]

/-- A change of the annotations acts as putting the changed ones in place of those that are
there. -/
theorem Schema.exists_annotate_eq (s : Schema) (change : Annotations → Annotations) :
  ∃ a, s.annotate change = s.annotate fun _ => a
  := by
  cases s with
  | ref id => exact ⟨{}, rfl⟩
  | simple kind a => exact ⟨change a, rfl⟩
  | string s => exact ⟨change s.annotations, rfl⟩
  | object object => exact ⟨change object.annotations, rfl⟩
  | array array => exact ⟨change array.annotations, rfl⟩
  | shared node object a => exact ⟨change a, rfl⟩

/-- A schema that is shared after a change of its annotations was shared before, as the same node
and the same object schema. -/
theorem Schema.annotate_eq_shared {s : Schema} {change : Annotations → Annotations} {node : Nat}
    {object : ObjectSchema} {a : Annotations} (h : s.annotate change = .shared node object a) :
  ∃ own, s = .shared node object own
  := by
  cases s with
  | shared other schema own =>
      obtain ⟨rfl, rfl, -⟩ := Schema.shared.inj h
      use own
  | _ => cases h

namespace Field

/-- A field that knows whether it may be written says so in every schema; one that does not keeps
what a schema says. -/
theorem annotate_annotate (field : Field) (a : Annotations) :
  field.annotate (field.annotate a) = field.annotate a
  := by
  simp only [annotate]
  cases field.updateable with
  | none => rfl
  | some updateable => rfl

/-! ### Strings with choices -/

/-- The string schema nearest to a schema keeps the format of a string schema, and of others
nothing but the annotations. -/
theorem asString_eq (s : Schema) :
  s.asString.annotations = s.annotations?.getD {}
    ∧ s.asString.format = s.string?.bind (·.format)
    ∧ s.asString.values = s.string?.bind (·.values)
    ∧ s.asString.pattern = s.string?.bind (·.pattern)
  := by
  cases s <;> exact ⟨rfl, rfl, rfl, rfl⟩

/-- The annotations of a schema with the choices of a field are those of the schema. A reference
with choices becomes a string schema, which has annotations. -/
theorem annotations?_restrict (field : Field) (s : Schema) :
  (field.restrict s).annotations?
    = if field.selection = .free then s.annotations? else some (s.annotations?.getD {})
  := by
  rw [restrict]
  cases field.selection with
  | one => exact congrArg some (asString_eq s).1
  | many => exact congrArg some (asString_eq s).1
  | free => rfl

/-- Choosing from choices twice is choosing from them once. -/
theorem restrict_annotate_restrict (field : Field) (s : Schema)
    (change : Annotations → Annotations) :
  field.restrict ((field.restrict s).annotate change) = (field.restrict s).annotate change
  := by
  simp only [restrict]
  cases field.selection with
  | one => rfl
  | many => rfl
  | free => rfl

/-- A decorated schema, decorated again by the same field, stays as it is. -/
theorem decorate_decorate (field : Field) (s : Schema) :
  field.decorate (field.decorate s) = field.decorate s
  := by
  have hannotate : field.annotate ∘ field.annotate = field.annotate := by
    funext a
    apply field.annotate_annotate
  calc field.decorate (field.decorate s)
      = ((field.restrict s).annotate field.annotate).annotate field.annotate := by
        rw [decorate, decorate, restrict_annotate_restrict]
    _ = (field.restrict s).annotate (field.annotate ∘ field.annotate) :=
        Schema.annotate_annotate _ _ _
    _ = field.decorate s := by rw [hannotate, decorate]

/-! ### Decoration -/

/-- A field without choices does nothing but annotate. -/
theorem decorate_of_free {field : Field} (h : field.selection = .free) (s : Schema) :
  field.decorate s = s.annotate field.annotate
  := by
  rw [decorate, restrict, h]

/-- A field with a single choice makes a string of every schema, with the set of choices for its
values. -/
theorem decorate_of_one {field : Field} (h : field.selection = .one) (s : Schema) :
  field.decorate s = .string { s.asString with
    annotations := field.annotate s.asString.annotations
    values := some (choiceSet field.choices) }
  := by
  rw [decorate, restrict, h]
  rfl

/-- A field with many choices makes a string of every schema, with their pattern. -/
theorem decorate_of_many {field : Field} (h : field.selection = .many) (s : Schema) :
  field.decorate s = .string { s.asString with
    annotations := field.annotate s.asString.annotations
    pattern := some (selectionPattern field.choices) }
  := by
  rw [decorate, restrict, h]
  rfl

/-- A field with choices makes a string of every schema. -/
theorem exists_decorate_eq_string {field : Field} (h : field.selection ≠ .free) (s : Schema) :
  ∃ t, field.decorate s = .string t
  := by
  cases hselection : field.selection with
  | one => exact ⟨_, decorate_of_one hselection s⟩
  | many => exact ⟨_, decorate_of_many hselection s⟩
  | free => exact absurd hselection h

/-- Only a field without choices keeps a reference, and no other schema becomes one. -/
theorem decorate_eq_ref_iff (field : Field) (s : Schema) (id : String) :
  field.decorate s = .ref id ↔ field.selection = .free ∧ s = .ref id
  := by
  by_cases h : field.selection = .free
  · rw [decorate_of_free h]
    cases s with
    | ref other => exact ⟨fun hid => ⟨h, hid⟩, And.right⟩
    | _ => exact ⟨nofun, nofun⟩
  · obtain ⟨t, ht⟩ := exists_decorate_eq_string h s
    rw [ht]
    exact ⟨nofun, fun hfree => absurd hfree.1 h⟩

/-- The annotations of a decorated schema. -/
theorem annotations?_decorate (field : Field) (s : Schema) :
  (field.decorate s).annotations?
    = (if field.selection = .free then s.annotations?
      else some (s.annotations?.getD {})).map field.annotate
  := by
  rw [decorate, Schema.annotations?_annotate, annotations?_restrict]

/-- The annotations of a decorated schema are the field's own, with the mark of the schema where the
field does not know whether it may be written. -/
theorem annotations?_decorate_of_ne_ref {field : Field} {s : Schema}
    (h : ∀ id, field.decorate s ≠ .ref id) :
  (field.decorate s).annotations? = some (field.annotate (s.annotations?.getD {}))
  := by
  have hsome : (field.decorate s).annotations? ≠ none := by
    rw [ne_eq, Schema.annotations?_eq_none_iff]
    rintro ⟨id, hid⟩
    apply h id hid
  rw [annotations?_decorate] at hsome ⊢
  split at hsome
  case isTrue hfree =>
    rw [if_pos hfree]
    cases ha : s.annotations? with
    | none => simp [ha] at hsome
    | some a => rfl
  case isFalse hfree => rw [if_neg hfree, Option.map_some]

/-- A schema is what becomes of another one that the field decorates. -/
structure Decorates (field : Field) (s decorated : Schema) : Prop where
  /-- With a single choice it is a string from the set of choices. -/
  one : field.selection = .one → ∃ t, decorated = .string t
    ∧ t.values = some (choiceSet field.choices)
    ∧ t.format = s.string?.bind (·.format) ∧ t.pattern = s.string?.bind (·.pattern)
  /-- In the set of choices are the values of the choices. -/
  choices : ∀ value, value ∈ choiceSet field.choices
    ↔ ∃ choice ∈ field.choices.getD [], choice.value = value
  /-- With many choices it is a string of their pattern. -/
  many : field.selection = .many → ∃ t, decorated = .string t
    ∧ t.pattern = some (selectionPattern field.choices)
    ∧ t.format = s.string?.bind (·.format) ∧ t.values = s.string?.bind (·.values)
  /-- Without choices nothing but the annotations changes. -/
  free : field.selection = .free → ∃ a, decorated = s.annotate fun _ => a
  /-- Without choices a reference stays as it is, and no other way leads to one. -/
  ref : ∀ id, decorated = .ref id ↔ field.selection = .free ∧ s = .ref id
  /-- The title and the default value are those of the field. Whether the value is read-only is
  what the field knows about it, and otherwise what the schema said. -/
  display : (∀ id, decorated ≠ .ref id) → decorated.annotations? = some {
    title := some field.label
    defaultValue := field.defaultValue
    readonly := match field.updateable with
      | some updateable => some (!updateable)
      | none => s.annotations?.bind (·.readonly) }
  /-- A shared object schema stays as it is where it is not replaced by a string schema. -/
  shared : ∀ node object own, s = .shared node object own →
    (∃ t, decorated = .string t) ∨ ∃ a, decorated = .shared node object a
  /-- A shared object schema comes from the same one. -/
  ofShared : ∀ node object a, decorated = .shared node object a →
    ∃ own, s = .shared node object own
  /-- Decorating it again changes nothing. -/
  again : field.decorate decorated = decorated

/-- Every schema that a field decorates is decorated as the field says. -/
theorem decorates_decorate (field : Field) (s : Schema) :
  field.Decorates s (field.decorate s)
  := by
  constructor
  case one =>
    intro h
    refine ⟨_, decorate_of_one h s, rfl, ?_, ?_⟩
    · apply (asString_eq s).2.1
    · apply (asString_eq s).2.2.2
  case choices =>
    intro value
    apply mem_choiceSet
  case many =>
    intro h
    refine ⟨_, decorate_of_many h s, rfl, ?_, ?_⟩
    · apply (asString_eq s).2.1
    · apply (asString_eq s).2.2.1
  case free =>
    intro h
    rw [decorate_of_free h]
    apply s.exists_annotate_eq
  case ref => apply field.decorate_eq_ref_iff s
  case display =>
    intro hid
    rw [annotations?_decorate_of_ne_ref hid, annotate]
    cases field.updateable with
    | some updateable => rfl
    | none => cases s.annotations? <;> rfl
  case shared =>
    rintro node object own rfl
    by_cases h : field.selection = .free
    · right
      rw [decorate_of_free h]
      use field.annotate own
      rfl
    · left
      apply exists_decorate_eq_string h
  case ofShared =>
    intro node object a hshared
    by_cases h : field.selection = .free
    · rw [decorate_of_free h] at hshared
      apply Schema.annotate_eq_shared hshared
    · obtain ⟨t, ht⟩ := exists_decorate_eq_string h s
      rw [ht] at hshared
      cases hshared
  case again => apply field.decorate_decorate

end Field

end RecordSchema
