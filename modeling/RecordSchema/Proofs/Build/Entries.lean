import RecordSchema.Proofs.Build.Generate
import RecordSchema.Proofs.Build.Sharing
import Mathlib.Tactic.Common

/-!
# Log entries

What is noted while the schemas of an object are generated is known from the settings and the
description. There is an entry for each field, up to the first one of no SOAP type. Behind that of
the first field that maps to a compound value, be it that choices make another schema of it, there
are two entries for the derivation of the shared schema. So the schema of a compound value is
derived at most once, and nothing is derived after a failure.
-/

namespace RecordSchema

/-! ### Expected entries -/

/-- The level and the text of an entry in the log. -/
def Event.entry (event : Event) : Level × String := (event.level, event.message)

/-- The entries of the log, in order. -/
def Session.entries (session : Session) : List (Level × String) := session.log.map (·.entry)

/-- The entries of the derivation of the shared schema of a compound value. -/
def Compound.entries (compound : Compound) : List (Level × String) :=
  [(.debug, "deriving shared " ++ compound.shape.name ++ " schema"),
    (.trace, "deriving schema for " ++ compound.shape.name)]

/-- Whether one of the fields is mapped to a compound value. -/
def mapsTo (fields : List Field) (compound : Compound) : Bool :=
  fields.any (·.compound? = some compound)

namespace Field

/-- The entry of a field whose schema is looked for. -/
def mappingEntry (field : Field) : Level × String :=
  (.trace, "mapping field " ++ field.name ++ " (" ++ field.tag ++ ")")

/-- The entries of a field behind others. -/
def entries (field : Field) (before : List Field) : List (Level × String) :=
  field.mappingEntry ::
    match field.compound? with
    | none => []
    | some compound =>
      if mapsTo before compound then [] else compound.entries

end Field

/-- The entries of fields behind others. -/
def fieldEntries (before fields : List Field) : List (Level × String) :=
  (fields.mapIdx fun index field => field.entries (before ++ fields.take index)).flatten

/-- The fields up to the first one of no SOAP type, that one included. -/
def reached (fields : List Field) : List Field :=
  fields.takeWhile (!·.isUnsupported) ++ (fields.find? (·.isUnsupported)).toList

/-- The entry that announces the schemas of an object. -/
def Description.generatingEntry (description : Description) : Level × String :=
  (.debug, "generating JSON schema for " ++ description.name ++ " ("
    ++ toString description.fields.length ++ " fields)")

/-- The entry of the derivation of the schema of a page of query results. -/
def pageEntry : Level × String := (.trace, "deriving schema for AbstractQueryRecordsBase")

/-- The entries of generating the schemas of an object. -/
def Description.entries (description : Description) (settings : Settings) :
    List (Level × String) :=
  description.generatingEntry
    :: (fieldEntries [] (reached description.fields)
    ++ if description.fields.all (!·.isUnsupported) && settings.addQuery then [pageEntry] else [])

/-! ### Fields -/

theorem Field.entries_of_unsupported {field : Field} (h : field.isUnsupported = true)
    (before : List Field) :
  field.entries before = [field.mappingEntry]
  := by
  rw [isUnsupported, Option.isNone_iff_eq_none] at h
  rw [entries, compound?, h]
  rfl

theorem fieldEntries_cons (before : List Field) (field : Field) (rest : List Field) :
  fieldEntries before (field :: rest)
    = field.entries before ++ fieldEntries (before ++ [field]) rest
  := by
  simp [fieldEntries, List.mapIdx_cons]

theorem fieldEntries_concat (before fields : List Field) (field : Field) :
  fieldEntries before (fields ++ [field])
    = fieldEntries before fields ++ field.entries (before ++ fields)
  := by
  induction fields generalizing before with
  | nil => simp [fieldEntries]
  | cons other rest ih =>
      rw [List.cons_append, fieldEntries_cons, fieldEntries_cons, ih, List.append_assoc,
        List.append_assoc]
      rfl

theorem mapsTo_concat (before : List Field) (field : Field) (compound : Compound) :
  mapsTo (before ++ [field]) compound
    = (mapsTo before compound || decide (field.compound? = some compound))
  := by
  simp [mapsTo]

theorem reached_of_unsupported {field : Field} (h : field.isUnsupported = true)
    (rest : List Field) :
  reached (field :: rest) = [field]
  := by
  simp [reached, h]

theorem reached_of_supported {field : Field} (h : field.isUnsupported = false)
    (rest : List Field) :
  reached (field :: rest) = field :: reached rest
  := by
  simp [reached, h]

namespace Session

@[simp]
theorem entries_note (session : Session) (event : Event) :
  (session.note event).entries = session.entries ++ [event.entry]
  := by
  simp [entries, note]

theorem entries_share (session : Session) (compound : Compound) (schema : ObjectSchema) :
  (session.share compound schema).entries = session.entries
  := by
  cases compound with
  | address => rfl
  | geolocation => rfl

/-- Asking for the shared schema of a compound value has two entries if it has to be derived. -/
theorem entries_obtain (session : Session) (compound : Compound) :
  (session.obtain compound).2.entries
    = session.entries ++ if session.isDerived compound then [] else compound.entries
  := by
  rw [obtain, isDerived]
  cases session.shared? compound with
  | some shared => simp
  | none =>
      simp only [entries_share, entries_note, List.append_assoc]
      rfl

/-- A session remembers fields if it has derived what they map to. -/
def Remembers (session : Session) (fields : List Field) : Prop :=
  ∀ compound, session.isDerived compound = mapsTo fields compound

/-- A session that remembers fields remembers one more after its schema has been made. -/
theorem Remembers.runIn_schema {session : Session} {before : List Field}
    (h : session.Remembers before) (field : Field) :
  (field.schema.runIn session).2.Remembers (before ++ [field])
  := by
  intro compound
  have hvisit := Memory.isSome_node?_after Compound.object session.memory field.compound?.toList
    compound
  rw [← field.memory_runIn_schema, Option.mem_toList] at hvisit
  apply Bool.eq_iff_iff.mpr
  apply hvisit.trans
  have hbefore := h compound
  rw [isDerived] at hbefore
  change _ ∨ (session.shared? compound).isSome = true ↔ _
  rw [hbefore, mapsTo_concat, Bool.or_eq_true, decide_eq_true_iff, or_comm]

/-- The entries of making the schema of a field. -/
theorem Remembers.entries_runIn_schema {session : Session} {before : List Field}
    (h : session.Remembers before) (field : Field) :
  (field.schema.runIn session).2.entries = session.entries ++ field.entries before
  := by
  have hnoted : (field.noted session).entries = session.entries ++ [field.mappingEntry] :=
    session.entries_note _
  rw [Field.entries, Field.compound?]
  cases htype : SoapType.ofTag? field.tag with
  | none =>
      rw [Field.runIn_schema_of_unsupported (by simp [Field.isUnsupported, htype])]
      apply hnoted
  | some type =>
      rw [Field.runIn_schema_of_ofTag? htype, Option.bind_some]
      cases type.representation with
      | plain kind => apply hnoted
      | dateTime => apply hnoted
      | compound compound =>
          have hderived : (field.noted session).isDerived compound
              = mapsTo before compound := h compound
          rw [represent, entries_obtain, hnoted, hderived, Representation.compound?,
            List.append_assoc]
          rfl

end Session

/-- The entries of putting the schemas of fields, up to the first one of no SOAP type. -/
theorem entries_runIn_putFields {session : Session} {before : List Field}
    (h : session.Remembers before) (object : ObjectSchema) (fields : List Field) :
  ((putFields object fields).runIn session).2.entries
    = session.entries ++ fieldEntries before (reached fields)
  := by
  induction fields generalizing object before session with
  | nil => simp [putFields, reached, fieldEntries]
  | cons field rest ih =>
      have hentries := h.entries_runIn_schema field
      have hafter := h.runIn_schema field
      rw [putFields, Build.runIn_bind]
      cases hfield : field.isUnsupported with
      | true =>
          rw [Field.runIn_schema_of_unsupported hfield] at hentries ⊢
          rw [reached_of_unsupported hfield, fieldEntries_cons]
          simpa [fieldEntries] using hentries
      | false =>
          obtain ⟨schema, after, hrun⟩ := Field.exists_runIn_schema hfield session
          rw [hrun] at hentries hafter ⊢
          rw [reached_of_supported hfield, fieldEntries_cons]
          dsimp only at hentries hafter ⊢
          rw [ih hafter, hentries, List.append_assoc]

/-! ### Derivations -/

/-- No two entries of derivations are the same. -/
theorem Compound.count_entries {compound : Compound} {entry : Level × String}
    (h : entry ∈ compound.entries) (other : Compound) :
  other.entries.count entry = if other = compound then 1 else 0
  := by
  rw [entries, List.mem_pair] at h
  cases compound with
  | address => cases other <;> rcases h with rfl | rfl <;> decide
  | geolocation => cases other <;> rcases h with rfl | rfl <;> decide

namespace Field

/-- The entry of a field is not one of a derivation. -/
theorem mappingEntry_not_mem (field : Field) (compound : Compound) :
  field.mappingEntry ∉ compound.entries
  := by
  rw [Compound.entries, List.mem_pair]
  rintro (h | h)
  · have hlevel := congrArg Prod.fst h
    cases hlevel
  · have htext := congrArg (fun entry => entry.2.toList.head?) h
    simp [mappingEntry] at htext

/-- Each entry of a derivation occurs once behind the first field that maps to the compound value,
and not behind any other field. -/
theorem count_entries {compound : Compound} {entry : Level × String}
    (h : entry ∈ compound.entries) (field : Field) (before : List Field) :
  (field.entries before).count entry
    = if field.compound? = some compound ∧ mapsTo before compound = false then 1 else 0
  := by
  have hne : field.mappingEntry ≠ entry := by
    rintro rfl
    apply field.mappingEntry_not_mem compound h
  rw [entries, List.count_cons_of_ne hne]
  cases field.compound? with
  | none => simp
  | some other =>
      dsimp only
      by_cases hother : other = compound
      · subst hother
        cases mapsTo before other with
        | true => simp
        | false => simp [Compound.count_entries h]
      · cases mapsTo before other with
        | true => simp [hother]
        | false => simp [Compound.count_entries h, hother]

end Field

/-- Among the entries of fields behind others, each entry of a derivation occurs at most once, and
not at all if one of the others maps to the compound value. -/
theorem count_fieldEntries_le {compound : Compound} {entry : Level × String}
    (h : entry ∈ compound.entries) (before fields : List Field) :
  (fieldEntries before fields).count entry
    ≤ if mapsTo before compound then 0 else 1
  := by
  induction fields generalizing before with
  | nil => simp [fieldEntries]
  | cons field rest ih =>
      have hrest := ih (before ++ [field])
      rw [mapsTo_concat] at hrest
      rw [fieldEntries_cons, List.count_append, Field.count_entries h]
      cases hbefore : mapsTo before compound with
      | true => simpa [hbefore] using hrest
      | false =>
          by_cases hfield : field.compound? = some compound
          · have hnone : (fieldEntries (before ++ [field]) rest).count entry = 0 := by
              simpa [hbefore, hfield] using hrest
            simp [hfield, hnone]
          · simpa [hbefore, hfield] using hrest

/-! ### Generated schemas -/

theorem Session.entries_starting (session : Session) (description : Description) :
  (session.starting description).entries = session.entries ++ [description.generatingEntry]
  := session.entries_note _

theorem Session.entries_ending (session : Session) (settings : Settings) :
  (session.ending settings).entries
    = session.entries ++ if settings.addQuery then [pageEntry] else []
  := by
  rw [ending]
  split
  · apply session.entries_note
  · rw [List.append_nil]

theorem all_supported_eq_false {fields : List Field} {field : Field}
    (h : fields.find? (·.isUnsupported) = some field) :
  fields.all (!·.isUnsupported) = false
  := by
  rw [List.all_eq_false]
  use field, List.mem_of_find?_eq_some h
  simp [List.find?_some h]

/-- The entries of generating the schemas of an object are the expected ones. -/
theorem entries_runIn_generate (settings : Settings) (description : Description)
    (session : Session) :
  ((generate settings description).runIn session).2.entries
    = session.entries ++ description.entries settings
  := by
  have hnew : (session.starting description).Remembers [] := by
    intro compound
    cases compound with
    | address => rfl
    | geolocation => rfl
  have hrecord :
      ((recordSchema settings description).runIn (session.starting description)).2.entries
        = session.entries
          ++ (description.generatingEntry :: fieldEntries [] (reached description.fields)) := by
    rw [recordSchema, entries_runIn_putFields hnew, session.entries_starting, List.append_assoc]
    rfl
  rw [Description.entries]
  rcases runIn_generate_cases settings description session with
    ⟨field, after, hfield, hrun, hgenerate⟩ | ⟨object, after, hnone, hrun, hgenerate⟩
  · rw [hrun] at hrecord
    rw [hgenerate, all_supported_eq_false hfield, Bool.false_and, if_neg Bool.false_ne_true,
      List.append_nil]
    apply hrecord
  · have hall : description.fields.all (!·.isUnsupported) = true := by
      simpa using hnone
    rw [hrun] at hrecord
    dsimp only at hrecord
    rw [hgenerate, hall, Bool.true_and, Session.entries_ending, hrecord, List.append_assoc,
      List.cons_append]

/-- Each entry of a derivation occurs at most once among the expected entries. -/
theorem Description.count_entries_le {compound : Compound} {entry : Level × String}
    (h : entry ∈ compound.entries) (description : Description) (settings : Settings) :
  (description.entries settings).count entry ≤ 1
  := by
  have hfields := count_fieldEntries_le h [] (reached description.fields)
  have hgenerating : description.generatingEntry ≠ entry := by
    rintro rfl
    rw [Compound.entries, List.mem_pair] at h
    rcases h with h | h
    · have htext := congrArg (fun entry => entry.2.toList.head?) h
      simp [generatingEntry] at htext
    · have hlevel := congrArg Prod.fst h
      cases hlevel
  have hpage : pageEntry ≠ entry := by
    rintro rfl
    revert h
    cases compound <;> decide
  rw [entries, List.count_cons_of_ne hgenerating, List.count_append]
  split
  · rw [List.count_cons_of_ne hpage]
    apply hfields
  · apply hfields

/-- Where a field has no SOAP type, the last of the expected entries is that of the first such
field. -/
theorem Description.getLast?_entries {description : Description} {field : Field}
    (h : description.fields.find? (·.isUnsupported) = some field) (settings : Settings) :
  (description.entries settings).getLast? = some field.mappingEntry
  := by
  have hreached : reached description.fields
      = description.fields.takeWhile (!·.isUnsupported) ++ [field] := by
    rw [reached, h]
    rfl
  rw [entries, all_supported_eq_false h, hreached, fieldEntries_concat,
    Field.entries_of_unsupported (List.find?_some h), Bool.false_and, if_neg Bool.false_ne_true,
    List.append_nil, ← List.cons_append, List.getLast?_concat]

/-- What is noted while the schemas of an object are generated. -/
structure Notes (settings : Settings) (description : Description) (session : Session) : Prop where
  /-- The expected entries are added to the log, and no others. -/
  entries : ((generate settings description).runIn session).2.entries
    = session.entries ++ description.entries settings
  /-- Each entry of the derivation of the schema of a compound value occurs at most once. -/
  once : ∀ (compound : Compound), ∀ entry ∈ compound.entries,
    (description.entries settings).count entry ≤ 1
  /-- After a failure nothing is derived: the last entry is that of the field that fails, which is
  the first one of no SOAP type. -/
  last : ∀ failure, ((generate settings description).runIn session).1 = .error failure →
    ∃ field, description.fields.find? (·.isUnsupported) = some field
      ∧ failure = .unsupportedTag field.tag
      ∧ (description.entries settings).getLast? = some field.mappingEntry

/-- The schemas of an object are generated with the expected entries. -/
theorem notes_generate (settings : Settings) (description : Description) (session : Session) :
  Notes settings description session
  := by
  constructor
  case entries => apply entries_runIn_generate
  case once =>
    intro compound entry h
    apply Description.count_entries_le h
  case last =>
    intro failure hfailure
    rcases runIn_generate_cases settings description session with
      ⟨field, after, hfield, -, hgenerate⟩ | ⟨object, after, -, -, hgenerate⟩
    · rw [hgenerate] at hfailure
      obtain rfl := Except.error.inj hfailure
      use field, hfield, rfl, Description.getLast?_entries hfield settings
    · rw [hgenerate] at hfailure
      cases hfailure

/-- The second place derives nothing, the field of no SOAP type is the last one that is reached,
and no schema of the query results is made. -/
example :
  Description.entries {
      name := "Store"
      fields := [
        { name := "Place", tag := "urn:address" }, { name := "Other", tag := "urn:address" },
        { name := "Weird", tag := "weird" }, { name := "Position", tag := "location" }] } {}
    = [(.debug, "generating JSON schema for Store (4 fields)"),
      (.trace, "mapping field Place (urn:address)"),
      (.debug, "deriving shared Address schema"), (.trace, "deriving schema for Address"),
      (.trace, "mapping field Other (urn:address)"), (.trace, "mapping field Weird (weird)")]
  := by rfl

end RecordSchema
