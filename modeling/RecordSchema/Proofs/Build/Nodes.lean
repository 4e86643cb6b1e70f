import RecordSchema.Proofs.Build.Generate
import RecordSchema.Proofs.Build.Sharing
import RecordSchema.Proofs.Schema.Positions

/-!
# What stands in generated schemas

The schema of a field is plain, or it uses the shared schema of a compound value, whose
properties are plain. So there are few positions in the schemas that are generated for an
object: from the schema of the records, a path goes through a property and at most one more
property. From the schema of the query results it goes to the plain properties of a page, or to
the list of the records, whose items are a reference to the schema of the records.
-/

namespace RecordSchema

/-! ### Compound values -/

namespace Compound

/-- The properties of a compound value have plain schemas. -/
theorem isPlain_of_mem_properties {compound : Compound} {p : Property}
    (hp : p ∈ compound.object.properties) :
  p.schema.isPlain = true
  := by
  have hall : (compound.object.properties.all fun p => p.schema.isPlain) = true := by
    cases compound with
    | address => rfl
    | geolocation => rfl
  apply List.all_eq_true.mp hall p hp

theorem oneOf_object (compound : Compound) :
  compound.object.oneOf = none
  := by
  cases compound with
  | address => rfl
  | geolocation => rfl

/-- No two properties of a compound value have the same name. -/
theorem nodup_names_object (compound : Compound) :
  compound.object.names.Nodup
  := by
  cases compound with
  | address => decide +kernel
  | geolocation => decide +kernel

/-- The schema of a compound value has the identifier of its shape. -/
theorem id_object (compound : Compound) :
  compound.object.id = some compound.shape.id
  := by
  cases compound with
  | address => rfl
  | geolocation => rfl

/-- The schemas of the properties of a compound value are the only ones in its schema. -/
theorem at_shared_iff {compound : Compound} {node : Nat} {a : Annotations} {path : List Step}
    {t : Schema} :
  (Schema.shared node compound.object a).At path t
    ↔ path = [] ∧ t = .shared node compound.object a
      ∨ ∃ p ∈ compound.object.properties, path = [.property p.name] ∧ t = p.schema
  := by
  rw [Schema.at_iff_of_object? rfl compound.oneOf_object]
  constructor
  · rintro (h | ⟨p, hp, rest, rfl, hrest⟩)
    · left
      apply h
    · obtain ⟨rfl, rfl⟩ := (Schema.at_iff_of_isPlain (isPlain_of_mem_properties hp)).mp hrest
      right
      use p, hp
  · rintro (h | ⟨p, hp, rfl, rfl⟩)
    · left
      apply h
    · right
      use p, hp, [], rfl
      rfl

end Compound

/-! ### Fields -/

/-- Where a SOAP type is not that of a compound value, it is represented by a plain schema. -/
theorem SoapType.isPlain_represent {type : SoapType}
    (h : type.representation.compound? = none) (session : Session) :
  (session.represent type.representation).1.isPlain = true
  := by
  cases type
  case address | location => cases h
  all_goals rfl

namespace Field

/-- The compound value whose shared schema the schema of the field uses: the one to which its
tag is mapped, unless choices make another schema of it. -/
def uses? (field : Field) : Option Compound :=
  if field.selection = .free then field.compound? else none

/-- The schema of a field, made in a sound session, is plain, or it uses the shared schema of a
compound value. -/
theorem schema_cases {field : Field} {session : Session} (hsession : session.Sound)
    {schema : Schema} (hschema : (field.schema.runIn session).1 = .ok schema) :
  field.uses? = none ∧ schema.isPlain = true
    ∨ ∃ compound node a, field.uses? = some compound
      ∧ schema = .shared node compound.object a
  := by
  cases htype : SoapType.ofTag? field.tag with
  | none =>
      rw [runIn_schema_of_unsupported (by simp [isUnsupported, htype])] at hschema
      cases hschema
  | some type =>
      rw [runIn_schema_of_ofTag? htype] at hschema
      obtain rfl := Except.ok.inj hschema
      rw [uses?, compound?, htype, Option.bind_some, decorate, Schema.isPlain_annotate, restrict]
      cases field.selection with
      | one =>
          left
          use rfl
          rfl
      | many =>
          left
          use rfl
          rfl
      | free =>
          cases hcompound : type.representation.compound? with
          | none =>
              left
              use rfl
              apply SoapType.isPlain_represent hcompound
          | some compound =>
              right
              rw [Representation.compound?_eq_some_iff.mp hcompound]
              have hobtain := (hsession.note (.mapping field.name field.tag)).schema_obtain compound
              use compound, ((field.noted session).obtain compound).1.node, field.annotate {}, rfl
              rw [Session.represent, SharedObject.use, noted, hobtain]
              rfl

/-- In the schema of a field stand plain schemas, and the shared schema that the field uses. -/
theorem at_cases {field : Field} {session : Session} (hsession : session.Sound)
    {schema : Schema} (hschema : (field.schema.runIn session).1 = .ok schema)
    {path : List Step} {t : Schema} (h : schema.At path t) :
  t.isPlain = true
    ∨ ∃ compound node a, field.uses? = some compound ∧ path = []
      ∧ t = .shared node compound.object a
  := by
  rcases schema_cases hsession hschema with ⟨-, hplain⟩ | ⟨compound, node, a, huses, rfl⟩
  · left
    obtain ⟨-, rfl⟩ := (Schema.at_iff_of_isPlain hplain).mp h
    apply hplain
  · rcases Compound.at_shared_iff.mp h with ⟨rfl, rfl⟩ | ⟨p, hp, -, rfl⟩
    · right
      use compound, node, a, huses, rfl
    · left
      apply Compound.isPlain_of_mem_properties hp

end Field

/-! ### Records -/

/-- In the schema of the records stand that schema itself, plain schemas, and the shared schemas
that the governing fields use. -/
theorem at_record_cases {settings : Settings} {description : Description} {session : Session}
    {object : ObjectSchema} (hsession : session.Sound)
    (hobject : ((recordSchema settings description).runIn session).1 = .ok object)
    {path : List Step} {t : Schema} (h : (Schema.object object).At path t) :
  path = [] ∧ t = .object object
    ∨ t.isPlain = true
    ∨ ∃ name field compound node a, description.governing? name = some field
      ∧ field.uses? = some compound ∧ path = [.property name]
      ∧ t = .shared node compound.object a
  := by
  have honeOf := oneOf_of_recordSchema_eq_ok hobject
  rcases (Schema.at_iff_of_object? rfl honeOf).mp h with h | ⟨p, hp, rest, rfl, hrest⟩
  · left
    apply h
  · right
    obtain ⟨before, field, _, -, hfield, hschema, -⟩ := exists_field_of_mem_properties hobject hp
    rcases Field.at_cases (hsession.afterFields before) hschema hrest with
      hplain | ⟨compound, node, a, huses, rfl, rfl⟩
    · left
      apply hplain
    · right
      use p.name, field, compound, node, a, hfield, huses

/-- The shared schema that a governing field uses stands in the property with its name. -/
theorem exists_at_record {settings : Settings} {description : Description} {session : Session}
    {object : ObjectSchema} (hsession : session.Sound)
    (hobject : ((recordSchema settings description).runIn session).1 = .ok object)
    {name : String} {field : Field} {compound : Compound}
    (hfield : description.governing? name = some field) (huses : field.uses? = some compound) :
  ∃ node a, (Schema.object object).At [.property name] (.shared node compound.object a)
  := by
  have hrepresents := represents_of_recordSchema_eq_ok hobject
  obtain ⟨p, hp, rfl⟩ := (hrepresents.exists_property_iff name).mpr ⟨field, hfield⟩
  obtain ⟨before, other, _, -, hother, hschema, -⟩ := exists_field_of_mem_properties hobject hp
  obtain rfl := Option.some.inj (hother.symm.trans hfield)
  rcases Field.schema_cases (hsession.afterFields before) hschema with
    ⟨hnone, -⟩ | ⟨used, node, a, hused, hshared⟩
  · rw [huses] at hnone
    cases hnone
  · obtain rfl := Option.some.inj (hused.symm.trans huses)
    use node, a
    rw [← hshared]
    apply (Schema.at_iff_of_object? rfl (oneOf_of_recordSchema_eq_ok hobject)).mpr
    right
    use p, hp, [], rfl
    rfl

end RecordSchema
