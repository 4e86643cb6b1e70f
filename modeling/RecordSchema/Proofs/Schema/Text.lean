import RecordSchema.Proofs.Json.Layouts
import RecordSchema.Proofs.Json.Values
import RecordSchema.Proofs.Schema.Written

/-!
# The text of a schema

The text of a schema, in both layouts, is read as the document of the schema. The only numbers in
a document are those in default values, and whole numbers are read as they were written; so it is
asked that default values contain no others. Whatever they contain, the two layouts differ in blanks
outside string literals only.
-/

namespace RecordSchema

open Json

/-! ### Default values -/

namespace Schema

/-- All numbers in the default values that are written for the schema and for those in it are
whole numbers. -/
def HasWholeDefaults (s : Schema) : Prop :=
  ∀ path t a value, s.At path t → t.shown? = some a → a.defaultValue = some value → value.IsWhole

/-- All numbers in the document of a schema are whole numbers if those in default values are. -/
theorem isWhole_document {s : Schema} (h : s.HasWholeDefaults) :
  s.document.IsWhole
  := by
  intro x hx
  generalize hw : Json.number (.double x) = w at hx
  cases s.writes_document w hx with
  | @node path t ht =>
      obtain ⟨members, hmembers, -⟩ := t.lookup_document
      rw [hmembers] at hw
      cases hw
  | properties ht hobject => cases hw
  | default ht ha hvalue hinside =>
      apply h _ _ _ _ ht ha hvalue x
      rw [hw]
      apply hinside
  | string y => cases hw
  | bool b => cases hw
  | array items => cases hw

/-- The numbers in the document of a schema are those in its default values. -/
theorem isWhole_document_iff {s : Schema} :
  s.document.IsWhole ↔ s.HasWholeDefaults
  := by
  constructor
  · intro h path t a value ht ha hvalue x hx
    obtain ⟨members, hmembers, hdefault⟩ := t.lookup_default
    rw [ha, Option.bind_some, hvalue] at hdefault
    have hinside : t.document.Inside s.document := by
      apply Draft.inside_of_at (at_document_iff.mpr ⟨t, ht, rfl⟩)
    apply h x
    apply hx.trans
    apply Inside.trans _ hinside
    rw [hmembers]
    apply inside_of_lookup hdefault
  · apply isWhole_document

/-! ### Reading the text -/

/-- The text of a schema, in each layout, is read as the document of the schema. -/
theorem parse_text_document {s : Schema} (hdefaults : s.HasWholeDefaults)
    (hnesting : s.document.nesting ≤ deepest) (layout : Layout) :
  Json.parse (s.text layout) = .ok s.document.sorted
  := Json.parse_text (isWhole_document hdefaults) hnesting layout

/-- An object schema with quotes, backslashes, control characters and other Unicode in its strings,
with nested default values, an empty array and an empty object. -/
def quotedSchema : Schema :=
  .object {
    id := some "urn:\"quoted\\name\""
    annotations := {
      title := some "Tab\tbell\x07 é 😀"
      defaultValue := some (.object [("n", .number (.integer (-5) (by decide))),
        ("empty", .array [.array [], .object []])]) }
    properties := [
      ⟨"text", true, .listOf (.string { values := some ∅, pattern := some "(\n|\\.)" })⟩]
    oneOf := some [] }

/-- Both texts of a schema with all kinds of characters are read as its document. -/
theorem parse_text_document_quoted :
  quotedSchema.HasWholeDefaults ∧ quotedSchema.document.nesting ≤ deepest
    ∧ Json.parse (quotedSchema.text .compact) = .ok quotedSchema.document.sorted
    ∧ Json.parse (quotedSchema.text .pretty) = .ok quotedSchema.document.sorted
  := by
  have hdefaults : quotedSchema.HasWholeDefaults := by
    have hdocument : quotedSchema.document = .object [
        ("type", .string "object"),
        ("id", .string "urn:\"quoted\\name\""),
        ("title", .string "Tab\tbell\x07 é 😀"),
        ("default", .object [("n", .number (.integer (-5) (by decide))),
          ("empty", .array [.array [], .object []])]),
        ("properties", .object [("text", .object [
          ("type", .string "array"),
          ("items", .object [
            ("type", .string "string"),
            ("enum", .array []),
            ("pattern", .string "(\n|\\.)")])])]),
        ("required", .array [.string "text"]),
        ("oneOf", .array [])] := rfl
    apply isWhole_document_iff.mp
    simp [hdocument]
  have hnesting : quotedSchema.document.nesting ≤ deepest := by decide
  use hdefaults, hnesting
  constructor
  · apply parse_text_document hdefaults hnesting
  · apply parse_text_document hdefaults hnesting

/-! ### Both layouts -/

/-- The pretty text of a schema without its gaps is the compact text, whose characters stand in or
outside literals as they do in the pretty one. What stands outside literals in the compact text is
visible, and so no blank. -/
theorem squeeze_text_pretty (s : Schema) :
  squeeze (s.text .pretty) = s.text .compact
    ∧ solid (s.text .pretty).toList = marked .outside (s.text .compact).toList
    ∧ ∀ before c rest, (s.text .compact).toList = before ++ c :: rest →
      Region.outside.after before = .outside → isVisible c = true ∧ isBlank c = false
  := by
  have h := squeezed_text s.document
  refine ⟨?_, h.same, ?_⟩
  · rw [squeeze, Schema.text, h.map_char_solid, String.ofList_toList, Schema.text]
  · intro before c rest htext houtside
    have hmark := mem_marked .outside before c rest
    rw [← htext, houtside] at hmark
    have hvisible := h.visible _ hmark rfl
    use hvisible, isBlank_of_isVisible hvisible

end Schema

end RecordSchema
