import RecordSchema.Build.Object
import RecordSchema.Description.Format
import RecordSchema.Proofs.Json.Records

/-!
# Reading back descriptions

A written description is read as itself, except that a default value of `null` is read as none:
both are written alike. Settings and choices are read as themselves. Three arrays and objects
stand around a default value, so its own nesting may be that much less than what is read.
-/

namespace RecordSchema

open Json

/-! ### Optional contents -/

/-- An optional content is nested like the content. -/
theorem nesting_orNull_le {α : Type} {value : α → Json} {content : Option α} {n : Nat}
    (h : ∀ a, content = some a → (value a).nesting ≤ n) :
  (orNull value content).nesting ≤ n
  := by
  cases content with
  | none => exact Nat.zero_le n
  | some a => exact h a rfl

theorem reads_optionalString (content : Option String) :
  Reads (readOptional readString) (orNull .string content) content
  := by
  apply reads_orNull
  intro s
  exact ⟨reads_string s, nofun⟩

theorem reads_optionalBool (content : Option Bool) :
  Reads (readOptional readBool) (orNull .bool content) content
  := by
  apply reads_orNull
  intro b
  exact ⟨reads_bool b, nofun⟩

/-! ### Choices and settings -/

/-- A choice is read from its document. -/
theorem Choice.reads (choice : Choice) :
  Reads Choice.format.read choice.document choice
  := by
  apply RecordFormat.reads_record (by decide)
  apply Fills.cons (Slot.reads_make (reads_string choice.value))
  apply Fills.cons (Slot.reads_make (reads_optionalString choice.label))
  apply Fills.cons (Slot.reads_make (reads_optionalBool choice.active))
  apply Fills.cons (Slot.reads_make (reads_optionalBool choice.isDefault))
  apply Fills.cons (Slot.reads_make (reads_optionalString choice.validFor))
  apply Fills.nil

/-- A written choice is one object without others in it. -/
theorem Choice.nesting_document_le (choice : Choice) :
  choice.document.nesting ≤ 1
  := by
  have hstring (content : Option String) : (orNull .string content).nesting ≤ 0 :=
    nesting_orNull_le fun _ _ => Nat.le_refl 0
  have hbool (content : Option Bool) : (orNull .bool content).nesting ≤ 0 :=
    nesting_orNull_le fun _ _ => Nat.le_refl 0
  rw [document, nesting_object_le_iff]
  simp only [List.forall_mem_cons]
  exact ⟨Nat.le_refl 0, hstring _, hbool _, hbool _, hstring _, nofun⟩

/-- Settings are read from their document. -/
theorem Settings.reads (settings : Settings) :
  Reads Settings.format.read settings.document settings
  := by
  apply RecordFormat.reads_record (by decide)
  apply Fills.cons (Slot.reads_make (reads_string settings.idPrefix))
  apply Fills.cons (Slot.reads_make (reads_bool settings.addQuery))
  apply Fills.cons (Slot.reads_make (reads_bool settings.pretty))
  apply Fills.nil

/-! ### Fields -/

/-- A default value as it is read back: `null` stands for none. -/
def dropNull : Option Json → Option Json
  | some .null => none
  | other => other

/-- A field as it is read back. -/
def Field.dropNull (field : Field) : Field :=
  { field with defaultValue := RecordSchema.dropNull field.defaultValue }

/-- A description as it is read back. -/
def Description.dropNulls (description : Description) : Description :=
  { description with fields := description.fields.map Field.dropNull }

/-- A default value is read from what is written for it. -/
theorem reads_default {defaultValue : Option Json}
    (h : ∀ value, defaultValue = some value → value.IsSorted ∧ value.IsWhole) :
  Reads (readOptional readValue) (orNull id defaultValue) (dropNull defaultValue)
  := by
  cases defaultValue with
  | none => apply reads_none
  | some value =>
      obtain ⟨hsorted, hwhole⟩ := h value rfl
      by_cases hnull : value = .null
      · subst hnull
        apply reads_none
      · have hdrop : dropNull (some value) = some value := by
          cases value with
          | null => exact absurd rfl hnull
          | _ => rfl
        have hread := (reads_value hwhole).some hnull
        rw [sorted_eq_self hsorted] at hread
        rw [hdrop]
        apply hread

theorem reads_choices (choices : Option (List Choice)) :
  Reads (readOptional (readList Choice.format.read))
    (orNull (fun choices => .array (choices.map Choice.document)) choices) choices
  := by
  apply reads_orNull
  intro choices
  refine ⟨?_, nofun⟩
  have h : Reads (readList Choice.format.read) (.array (choices.map Choice.document))
      (choices.map id) := by
    apply reads_list
    intro choice _
    apply choice.reads
  rw [List.map_id] at h
  apply h

/-- A field is read from its document. -/
theorem Field.reads {field : Field}
    (h : ∀ value, field.defaultValue = some value → value.IsSorted ∧ value.IsWhole) :
  Reads Field.format.read field.document field.dropNull
  := by
  apply RecordFormat.reads_record (by decide)
  apply Fills.cons (Slot.reads_make (reads_string field.name))
  apply Fills.cons (Slot.reads_make (reads_string field.label))
  apply Fills.cons (Slot.reads_make (reads_string field.tag))
  apply Fills.cons (Slot.reads_make (reads_string field.typeName))
  apply Fills.cons (Slot.reads_make (reads_bool field.nillable))
  apply Fills.cons (Slot.reads_make (reads_optionalBool field.updateable))
  apply Fills.cons (Slot.reads_make (reads_default h))
  apply Fills.cons (Slot.reads_make (reads_choices field.choices))
  apply Fills.nil

/-! ### Descriptions -/

namespace Description

/-- The default values are JSON values as they are read, all numbers in them are whole numbers,
and they are not nested more deeply than can be read inside three arrays and objects. -/
def HasReadableDefaults (description : Description) : Prop :=
  ∀ field ∈ description.fields, ∀ value, field.defaultValue = some value →
    value.IsSorted ∧ value.IsWhole ∧ value.nesting + 3 ≤ deepest

/-- A description is read from its document. -/
theorem reads {description : Description} (h : description.HasReadableDefaults) :
  Reads Description.format.read description.document description.dropNulls
  := by
  have hfields : Reads (readList Field.format.read)
      (.array (description.fields.map Field.document)) (description.fields.map Field.dropNull) := by
    apply reads_list
    intro field hfield
    apply Field.reads
    intro value hvalue
    obtain ⟨hsorted, hwhole, -⟩ := h field hfield value hvalue
    exact ⟨hsorted, hwhole⟩
  apply RecordFormat.reads_record (by decide)
  apply Fills.cons (Slot.reads_make (reads_string description.name))
  apply Fills.cons (Slot.reads_make (reads_string description.label))
  apply Fills.cons (Slot.reads_make hfields)
  apply Fills.nil

/-- A written description is not nested too deeply if its default values are not. -/
theorem nesting_document_le {description : Description} (h : description.HasReadableDefaults) :
  description.document.nesting ≤ deepest
  := by
  have hfield : ∀ field ∈ description.fields, field.document.nesting ≤ 125 := by
    intro field hfield
    have hdefault : (orNull id field.defaultValue).nesting ≤ 124 := by
      apply nesting_orNull_le
      intro value hvalue
      obtain ⟨-, -, hnesting⟩ := h field hfield value hvalue
      rw [deepest] at hnesting
      rw [id]
      omega
    have hupdateable : (orNull .bool field.updateable).nesting ≤ 124 :=
      nesting_orNull_le fun _ _ => Nat.zero_le 124
    have hchoices : (orNull (fun choices => .array (choices.map Choice.document))
        field.choices).nesting ≤ 124 := by
      apply nesting_orNull_le
      intro choices _
      rw [nesting_array_le_iff, List.forall_mem_map]
      intro choice _
      apply choice.nesting_document_le.trans
      decide
    rw [Field.document, nesting_object_le_iff]
    simp only [List.forall_mem_cons]
    exact ⟨Nat.zero_le 124, Nat.zero_le 124, Nat.zero_le 124, Nat.zero_le 124, Nat.zero_le 124,
      hupdateable, hdefault, hchoices, nofun⟩
  rw [document, deepest, nesting_object_le_iff]
  simp only [List.forall_mem_cons]
  refine ⟨Nat.zero_le 126, Nat.zero_le 126, ?_, nofun⟩
  rw [nesting_array_le_iff, List.forall_mem_map]
  apply hfield

/-- The text of a description, in each layout, is read as the description. -/
theorem parse_document {description : Description} (h : description.HasReadableDefaults)
    (layout : Layout) :
  parse (description.document.text layout) = .ok description.dropNulls
  := (reads h).readWhole (nesting_document_le h) layout

/-- A description without default values of `null` is read back as it is. -/
theorem dropNulls_eq_self {description : Description}
    (h : ∀ field ∈ description.fields, field.defaultValue ≠ some .null) :
  description.dropNulls = description
  := by
  have hfield : ∀ field ∈ description.fields, field.dropNull = field := by
    intro field hfield
    have hne := h field hfield
    obtain ⟨name, label, tag, typeName, nillable, updateable, defaultValue, choices⟩ := field
    rw [Field.dropNull, dropNull]
    exact hne
  obtain ⟨name, label, fields⟩ := description
  rw [dropNulls]
  congr 1
  rw [List.map_congr_left hfield, List.map_id']

end Description

/-! ### Written payloads -/

/-- Descriptions, settings and choices are read from their texts, in each layout. A description is
read as it is but for default values of `null`, which are read as none; so where there are none,
the schemas of the description that was read are those of the one that was written. -/
theorem payloads_read_back :
  (∀ description : Description, description.HasReadableDefaults → ∀ layout,
      Description.parse (description.document.text layout) = .ok description.dropNulls)
    ∧ (∀ description : Description, description.HasReadableDefaults →
      (∀ field ∈ description.fields, field.defaultValue ≠ some .null) → ∀ layout,
      ∃ other, Description.parse (description.document.text layout) = .ok other
        ∧ ∀ settings session, (objectText settings other).runIn session
          = (objectText settings description).runIn session)
    ∧ (∀ (settings : Settings) layout,
      Settings.parse (settings.document.text layout) = .ok settings)
    ∧ ∀ (choice : Choice) layout, Choice.parse (choice.document.text layout) = .ok choice
  := by
  refine ⟨?_, ?_, ?_, ?_⟩
  · intro description h layout
    apply Description.parse_document h
  · intro description h hnull layout
    use description
    constructor
    · rw [Description.parse_document h, Description.dropNulls_eq_self hnull]
    · intro settings session
      rfl
  · intro settings layout
    apply settings.reads.readWhole
    simp [Settings.document, nesting, nestingMembers, deepest]
  · intro choice layout
    apply choice.reads.readWhole
    apply choice.nesting_document_le.trans
    decide

/-- A field of which the default value is `null`. -/
def planField : Field where
  name := "Plan"
  label := "\"Plan\"\n"
  tag := "xsd:string"
  typeName := "picklist"
  defaultValue := some .null
  choices := some [{ value := "a,b", isDefault := some true }]

/-- A field of which the default value contains other values. -/
def rankField : Field where
  name := "Rank"
  tag := "xsd:int"
  updateable := some false
  defaultValue := some (.array [.number (.integer (-1) (by decide)), .object [("at", .null)]])

/-- Of two default values, the one that is `null` is lost and the other is read back. -/
theorem payloads_read_back_null :
  ({ name := "Survey", fields := [planField, rankField] } : Description).HasReadableDefaults
    ∧ Description.parse
        (({ name := "Survey", fields := [planField, rankField] } : Description).document.text
          .pretty)
      = .ok {
          name := "Survey"
          fields := [{ planField with defaultValue := none }, rankField] }
  := by
  have h : ({ name := "Survey", fields := [planField, rankField] }
      : Description).HasReadableDefaults := by
    simp only [Description.HasReadableDefaults, List.forall_mem_cons]
    refine ⟨?_, ?_, nofun⟩
    · rintro value ⟨⟩
      exact ⟨trivial, isWhole_null, by decide⟩
    · rintro value ⟨⟩
      exact ⟨⟨trivial, ⟨by decide, trivial, trivial⟩, trivial⟩, by simp, by decide⟩
  use h
  rw [payloads_read_back.1 _ h]
  rfl

end RecordSchema
