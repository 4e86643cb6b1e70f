import RecordSchema.Proofs.Build.Choices
import RecordSchema.Proofs.Build.Outcome
import RecordSchema.Proofs.Tags
import Mathlib.Logic.Relation

/-!
# What the text depends on

Descriptions are alike if their fields agree, one by one, on what ends up in schemas. Of a tag
that is how it is mapped, of the choices it is the set of their values where one of them is
chosen, and the order of the first occurrences of their values where many are. Alike
descriptions give the same text, or fail alike. So namespaces, the names of types, the other
things that are said of choices, and choices that are not used do not matter.
-/

namespace RecordSchema

/-! ### Alike fields -/

namespace Field

/-- The values of the choices of the field. -/
def values (field : Field) : List String := (field.choices.getD []).map (·.value)

/-- Two fields agree on what ends up in schemas. -/
structure Alike (field other : Field) : Prop where
  name : field.name = other.name
  label : field.label = other.label
  nillable : field.nillable = other.nillable
  updateable : field.updateable = other.updateable
  defaultValue : field.defaultValue = other.defaultValue
  selection : field.selection = other.selection
  /-- The tags are mapped to the same representation, or they are the same and that of no SOAP
  type. -/
  mapping : field.mapping = other.mapping
  /-- Where one choice is made, the sets of the values are the same. -/
  one : field.selection = .one → ∀ value, value ∈ field.values ↔ value ∈ other.values
  /-- Where many choices are made, the different values are the same, in the order in which they
  first occur, or there are no choices at all. -/
  many : field.selection = .many →
    field.choices.map distinctValues = other.choices.map distinctValues

/-- The pattern of selections comes from the different values alone. -/
theorem selectionPattern_eq {choices others : Option (List Choice)}
    (h : choices.map distinctValues = others.map distinctValues) :
  selectionPattern choices = selectionPattern others
  := by
  cases choices with
  | none =>
      cases others with
      | none => rfl
      | some others => cases h
  | some choices =>
      cases others with
      | none => cases h
      | some others =>
          have hvalues : distinctValues choices = distinctValues others := Option.some.inj h
          rw [selectionPattern_some, selectionPattern_some, hvalues]

namespace Alike

variable {field other : Field} (h : field.Alike other)

include h

theorem annotate_eq :
  field.annotate = other.annotate
  := by
  funext annotations
  rw [annotate, annotate, h.label, h.defaultValue, h.updateable]

theorem restrict_eq :
  field.restrict = other.restrict
  := by
  funext schema
  rw [restrict, restrict, ← h.selection]
  cases hselection : field.selection with
  | one => rw [choiceSet_congr (h.one hselection)]
  | many => rw [selectionPattern_eq (h.many hselection)]
  | free => rfl

/-- Alike fields say the same. -/
theorem decorate_eq :
  field.decorate = other.decorate
  := by
  funext schema
  rw [decorate, decorate, h.restrict_eq, h.annotate_eq]

/-- Alike fields give the same property. -/
theorem property_eq :
  field.property = other.property
  := by
  rw [property, property, h.mapping, h.name, h.nillable, h.decorate_eq]

theorem trans {another : Field} (hother : other.Alike another) :
  field.Alike another
  := by
  constructor
  case name => apply h.name.trans hother.name
  case label => apply h.label.trans hother.label
  case nillable => apply h.nillable.trans hother.nillable
  case updateable => apply h.updateable.trans hother.updateable
  case defaultValue => apply h.defaultValue.trans hother.defaultValue
  case selection => apply h.selection.trans hother.selection
  case mapping => apply h.mapping.trans hother.mapping
  case one =>
    intro hone value
    rw [h.one hone, hother.one (h.selection ▸ hone)]
  case many =>
    intro hmany
    rw [h.many hmany, hother.many (h.selection ▸ hmany)]

end Alike

end Field

/-! ### Alike descriptions -/

/-- Two descriptions agree on what ends up in schemas. -/
structure Description.Alike (description other : Description) : Prop where
  name : description.name = other.name
  label : description.label = other.label
  /-- There are as many fields, and they are alike one by one. -/
  fields : List.Forall₂ Field.Alike description.fields other.fields

/-- Fields that are alike one by one give the same properties. -/
theorem mapM_property_eq {fields others : List Field}
    (h : List.Forall₂ Field.Alike fields others) :
  fields.mapM Field.property = others.mapM Field.property
  := by
  induction h with
  | nil => rfl
  | cons h _ ih => rw [List.mapM_cons, List.mapM_cons, h.property_eq, ih]

theorem Description.Alike.outcome_eq {description other : Description}
    (h : description.Alike other) (settings : Settings) :
  recordOutcome settings description = recordOutcome settings other
  := by
  rw [recordOutcome, recordOutcome, mapM_property_eq h.fields, h.name, h.label]

/-! ### Fields in other words -/

/-- What can be said otherwise of a field without changing what ends up in schemas. -/
inductive Field.Rewords (field : Field) : Field → Prop
  /-- Any namespace may stand before the local name of a SOAP type. -/
  | namespaced {type : SoapType} (h : SoapType.ofTag? field.tag = some type) {ns : String}
    (hns : ':' ∉ ns.toList) : Rewords field { field with tag := ns ++ ":" ++ type.localName }
  /-- The local name of a SOAP type may stand alone. -/
  | bare {type : SoapType} (h : SoapType.ofTag? field.tag = some type) :
    Rewords field { field with tag := type.localName }
  /-- The names of types without choices are all the same. -/
  | typeName {typeName : String} (h : field.selection = .free)
    (htype : { field with typeName }.selection = .free) : Rewords field { field with typeName }
  /-- Of a choice, anything but the value may be changed. -/
  | attributes {change : Choice → Choice} (h : ∀ choice, (change choice).value = choice.value) :
    Rewords field { field with choices := field.choices.map (·.map change) }
  /-- Where one choice is made, choices may be reordered and repeated. -/
  | reordered {choices others : List Choice} (h : field.selection = .one)
    (hchoices : field.choices = some choices)
    (hvalues : ∀ value, value ∈ choices.map (·.value) ↔ value ∈ others.map (·.value)) :
    Rewords field { field with choices := some others }
  /-- Where many choices are made, choices may be repeated later on. -/
  | repeated {choices others : List Choice} (h : field.selection = .many)
    (hchoices : field.choices = some choices)
    (hvalues : distinctValues choices = distinctValues others) :
    Rewords field { field with choices := some others }
  /-- Where no choice is made, there may be any choices or none. -/
  | unused {choices : Option (List Choice)} (h : field.selection = .free) :
    Rewords field { field with choices }

namespace Field

/-- A field whose tag, name of type and choices are exchanged is alike if they end up in schemas
as before. -/
theorem alike_of_parts {field : Field} {tag typeName : String} {choices : Option (List Choice)}
    (hmapping : field.mapping = { field with tag }.mapping)
    (hselection : field.selection = { field with typeName }.selection)
    (hone : field.selection = .one →
      ∀ value, value ∈ field.values ↔ value ∈ { field with choices }.values)
    (hmany : field.selection = .many →
      field.choices.map distinctValues = choices.map distinctValues) :
  field.Alike { field with tag, typeName, choices }
  := ⟨rfl, rfl, rfl, rfl, rfl, hselection, hmapping, hone, hmany⟩

/-- Another tag of the same SOAP type says the same. -/
theorem alike_of_tag {field : Field} {tag : String} {type : SoapType}
    (h : SoapType.ofTag? field.tag = some type) (htag : SoapType.ofTag? tag = some type) :
  field.Alike { field with tag }
  := by
  have hmapping : field.mapping = .ok type.representation :=
    mapping_eq_ok_iff.mpr ⟨type, h, rfl⟩
  have hother : { field with tag }.mapping = .ok type.representation :=
    mapping_eq_ok_iff.mpr ⟨type, htag, rfl⟩
  apply alike_of_parts (hmapping.trans hother.symm) rfl
  · exact fun _ _ => .rfl
  · exact fun _ => rfl

/-- Where no choice is made, none of the conditions on choices is met. -/
theorem alike_of_free {field : Field} {typeName : String} {choices : Option (List Choice)}
    (h : field.selection = .free) (htype : { field with typeName }.selection = .free) :
  field.Alike { field with typeName, choices }
  := by
  apply alike_of_parts rfl (h.trans htype.symm)
  · intro hone
    rw [h] at hone
    cases hone
  · intro hmany
    rw [h] at hmany
    cases hmany

/-- A field in other words is alike. -/
theorem Rewords.alike {field other : Field} (h : field.Rewords other) :
  field.Alike other
  := by
  cases h with
  | namespaced h hns => apply alike_of_tag h (SoapType.ofTag?_append hns _)
  | bare h => apply alike_of_tag h (SoapType.ofTag?_localName _)
  | typeName h htype => apply alike_of_free h htype
  | @attributes change h =>
      have hvalues (choices : List Choice) :
          (choices.map change).map (·.value) = choices.map (·.value) := by
        rw [List.map_map]
        congr 1
        funext choice
        apply h
      apply alike_of_parts rfl rfl
      · intro _ value
        rw [values, values]
        cases field.choices with
        | none => rfl
        | some choices => simp only [Option.map_some, Option.getD_some, hvalues]
      · intro _
        cases field.choices with
        | none => rfl
        | some choices => simp only [Option.map_some, distinctValues, hvalues]
  | reordered h hchoices hvalues =>
      apply alike_of_parts rfl rfl
      · intro _ value
        rw [values, values, hchoices]
        apply hvalues
      · intro hmany
        rw [h] at hmany
        cases hmany
  | repeated h hchoices hvalues =>
      apply alike_of_parts rfl rfl
      · intro hone
        rw [h] at hone
        cases hone
      · intro _
        rw [hchoices, Option.map_some, Option.map_some, hvalues]
  | unused h => apply alike_of_free h h

/-- However often a field is put in other words, it stays alike. -/
theorem alike_of_rewords {field other : Field}
    (h : Relation.ReflTransGen Rewords field other) :
  field.Alike other
  := by
  induction h with
  | refl => exact ⟨rfl, rfl, rfl, rfl, rfl, rfl, rfl, fun _ _ => .rfl, fun _ => rfl⟩
  | tail _ h ih => exact ih.trans h.alike

end Field

/-! ### Texts -/

/-- Alike descriptions give the same text or fail alike, whatever has been made before. So it does
not matter in which words the fields are put. -/
theorem objectText_eq_of_alike (settings : Settings) (session another : Session) :
  (∀ {description other : Description}, description.Alike other →
    ((objectText settings description).runIn session).1
      = ((objectText settings other).runIn another).1)
    ∧ ∀ {description : Description} {fields : List Field},
      List.Forall₂ (Relation.ReflTransGen Field.Rewords) description.fields fields →
      ((objectText settings description).runIn session).1
        = ((objectText settings { description with fields }).runIn another).1
  := by
  have halike {description other : Description} (h : description.Alike other) :
      ((objectText settings description).runIn session).1
        = ((objectText settings other).runIn another).1 := by
    rw [objectText_outcome, objectText_outcome, h.outcome_eq, h.name]
  constructor
  · intro description other
    apply halike
  · intro description fields h
    apply halike
    constructor
    · rfl
    · rfl
    · apply h.imp
      intro field other
      apply Field.alike_of_rewords

/-- A sale with a stage, some regions and a place. -/
def saleDescription : Description where
  name := "Sale"
  fields := [
    { name := "Stage", tag := "xsd:string", typeName := "picklist"
      choices := some [{ value := "Won" }, { value := "Open" }] },
    { name := "Regions", tag := "xsd:string", typeName := "multipicklist"
      choices := some [{ value := "South" }, { value := "North" }] },
    { name := "Place", tag := "urn:location", typeName := "location", nillable := false }]

/-- The sale with tags that are mapped as before, and with choices that are reordered, repeated,
annotated, and not used. -/
def resaleDescription : Description where
  name := "Sale"
  fields := [
    { name := "Stage", tag := "ID", typeName := "picklist"
      choices := some [
        { value := "Open", label := some "open" }, { value := "Won" },
        { value := "Open", active := some false }] },
    { name := "Regions", tag := "tns:string", typeName := "multipicklist"
      choices := some [
        { value := "South", isDefault := some true }, { value := "North" },
        { value := "South" }] },
    { name := "Place", tag := "location", typeName := "geo", nillable := false
      choices := some [{ value := "here" }] }]

theorem alike_resaleDescription :
  saleDescription.Alike resaleDescription
  := by
  refine ⟨rfl, rfl, .cons ?_ (.cons ?_ (.cons ?_ .nil))⟩
  · refine ⟨rfl, rfl, rfl, rfl, rfl, rfl, rfl, ?_, by rintro ⟨⟩⟩
    intro _ value
    simp only [Field.values, Option.getD_some, List.map_cons, List.map_nil, List.mem_cons]
    tauto
  · exact ⟨rfl, rfl, rfl, rfl, rfl, rfl, rfl, by rintro ⟨⟩, fun _ => rfl⟩
  · exact ⟨rfl, rfl, rfl, rfl, rfl, rfl, rfl, by rintro ⟨⟩, by rintro ⟨⟩⟩

/-- The two sales have the same text. So has the first one with another namespace and another
name of the type of its place. -/
theorem objectText_eq_of_alike_sale :
  saleDescription.Alike resaleDescription
    ∧ ((objectText {} saleDescription).runIn {}).1
      = ((objectText {} resaleDescription).runIn { nextNode := 7 }).1
    ∧ ((objectText {} saleDescription).runIn {}).1
      = ((objectText {} { saleDescription with
          fields := saleDescription.fields.take 2 ++
            [{ name := "Place", tag := "tns:location", typeName := "geo", nillable := false }]
        }).runIn {}).1
    ∧ ((objectText {} saleDescription).runIn {}).1.isOk = true
  := by
  use alike_resaleDescription
  use (objectText_eq_of_alike {} {} { nextNode := 7 }).1 alike_resaleDescription
  refine ⟨(objectText_eq_of_alike {} {} {}).2 (.cons .refl (.cons .refl (.cons ?_ .nil))), rfl⟩
  have hns : ':' ∉ "tns".toList := by decide
  apply Relation.ReflTransGen.tail (.single (.namespaced rfl hns))
  apply Field.Rewords.typeName rfl rfl

end RecordSchema
