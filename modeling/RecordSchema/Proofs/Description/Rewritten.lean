import RecordSchema.Command.Run
import RecordSchema.Proofs.Source.Accepted.Documents
import RecordSchema.Proofs.Source.Rewriting
import Mathlib.Logic.Relation

/-!
# Rewritten descriptions

A description, its fields and the choices of a field are records of three models: the same key may
be required in one of them, have a default in the next and be foreign to the third. A document may
be rewritten at any of the three levels, wherever a record is written as an object, and is read as
the same description; where a record repeats a key of its model or lacks a required one, the
document is refused. Descriptions are nested less deeply than values may be, so that nothing depends
on the depth.
-/

namespace RecordSchema

open Json

/-! ### Models -/

/-- The keys of an entry of a list of choices. -/
def Choice.model : Model := [
  ("value", none),
  ("label", some .null),
  ("active", some .null),
  ("defaultValue", some .null),
  ("validFor", some .null)]

/-- The keys of a field. -/
def Field.model : Model := [
  ("name", none),
  ("label", some .emptyString),
  ("soapType", none),
  ("type", some .emptyString),
  ("nillable", some .false),
  ("updateable", some .null),
  ("defaultValue", some .null),
  ("picklistValues", some .null)]

/-- The keys of a description. -/
def Description.model : Model := [
  ("name", none),
  ("label", some .emptyString),
  ("fields", some .emptyList)]

/-! ### Rewriting -/

/-- A choice is written in another way. -/
def Choice.Rewrites : Source → Source → Prop := Choice.model.Rewrites fun _ _ _ => False

/-- A field is written in another way, or one of its choices is. -/
def Field.Rewrites : Source → Source → Prop :=
  Field.model.Rewrites fun key s t => key = "picklistValues" ∧ RewritesItem Choice.Rewrites s t

/-- A description is written in another way, or one of its fields is. -/
def Description.Rewrites : Source → Source → Prop :=
  Description.model.Rewrites fun key s t => key = "fields" ∧ RewritesItem Field.Rewrites s t

/-- A choice repeats or lacks a key. -/
def Choice.Faulty : Source → Prop := Choice.model.Faulty fun _ _ => False

/-- A field repeats or lacks a key, or one of its choices does. -/
def Field.Faulty : Source → Prop :=
  Field.model.Faulty fun key s => key = "picklistValues" ∧ FaultyItem Choice.Faulty s

/-- A description repeats or lacks a key, or one of its fields or of their choices does. -/
def Description.Faulty : Source → Prop :=
  Description.model.Faulty fun key s => key = "fields" ∧ FaultyItem Field.Faulty s

/-! ### The formats follow the models -/

theorem Choice.follows (nesting : Nat) :
  Choice.format.Follows Choice.model nesting
  where
    nodup := by decide
    slots :=
      .cons (Slot.follows_needed settled_readString _ _) <|
      .cons (Slot.follows_null settled_readString _ rfl) <|
      .cons (Slot.follows_null settled_readBool _ rfl) <|
      .cons (Slot.follows_null settled_readBool _ rfl) <|
      .cons (Slot.follows_null settled_readString _ rfl) .nil
    independent := by
      simp only [Choice.format, List.pairwise_cons, List.mem_cons, List.not_mem_nil,
        forall_eq_or_imp, false_implies, implies_true, List.Pairwise.nil, and_true]
      and_intros
      all_goals
        apply Slot.independent_make
        exact fun _ _ _ => rfl

theorem Choice.settled_read :
  Settled Choice.format.read
  := RecordFormat.settled_read (Choice.follows 0).settled

theorem Field.follows (nesting : Nat) :
  Field.format.Follows Field.model nesting
  where
    nodup := by decide
    slots :=
      .cons (Slot.follows_needed settled_readString _ _) <|
      .cons (Slot.follows_emptyString _ rfl) <|
      .cons (Slot.follows_needed settled_readString _ _) <|
      .cons (Slot.follows_emptyString _ rfl) <|
      .cons (Slot.follows_false _ rfl) <|
      .cons (Slot.follows_null settled_readBool _ rfl) <|
      .cons (Slot.follows_null settled_readValue _ rfl) <|
      .cons (Slot.follows_null Choice.settled_read.list _ rfl) .nil
    independent := by
      simp only [Field.format, List.pairwise_cons, List.mem_cons, List.not_mem_nil,
        forall_eq_or_imp, false_implies, implies_true, List.Pairwise.nil, and_true]
      and_intros
      all_goals
        apply Slot.independent_make
        exact fun _ _ _ => rfl

theorem Field.settled_read :
  Settled Field.format.read
  := RecordFormat.settled_read (Field.follows 0).settled

theorem Description.follows (nesting : Nat) :
  Description.format.Follows Description.model (nesting + 1)
  where
    nodup := by decide
    slots :=
      .cons (Slot.follows_needed settled_readString _ _) <|
      .cons (Slot.follows_emptyString _ rfl) <|
      .cons (Slot.follows_emptyList Field.settled_read _ rfl) .nil
    independent := by
      simp only [Description.format, List.pairwise_cons, List.mem_cons, List.not_mem_nil,
        forall_eq_or_imp, false_implies, implies_true, List.Pairwise.nil, and_true]
      and_intros
      all_goals
        apply Slot.independent_make
        exact fun _ _ _ => rfl

theorem Description.settled_read :
  Settled Description.format.read
  := RecordFormat.settled_read (Description.follows 0).settled

/-! ### What is read -/

/-- A choice that is rewritten is read as before. -/
theorem Choice.taken_rewrites {s t : Source} (h : Choice.Rewrites s t) (nesting : Nat) :
  taken Choice.format.read (nesting + 1) s = taken Choice.format.read (nesting + 1) t
  := (Choice.follows nesting).taken_rewrites (fun _ _ _ _ => nofun) h

/-- A faulty choice is refused. -/
theorem Choice.taken_faulty {s : Source} (h : Choice.Faulty s) (nesting : Nat) :
  taken Choice.format.read (nesting + 1) s = none
  := (Choice.follows nesting).taken_faulty (fun _ _ _ => nofun) h

/-- The slot of the choices of a field. -/
theorem Field.eq_of_key {slot : Slot Field} (hslot : slot ∈ Field.format.slots)
    (hkey : slot.key = "picklistValues") :
  slot = .optional "picklistValues" (readOptional (readList Choice.format.read))
    fun choices f => { f with choices }
  := by
  have hfind : Field.format.slot? slot.key = some slot :=
    RecordFormat.slot?_key (by decide) hslot
  rw [hkey] at hfind
  exact (Option.some.inj hfind).symm

/-- A field that is rewritten is read as before. -/
theorem Field.taken_rewrites {s t : Source} (h : Field.Rewrites s t) (nesting : Nat) :
  taken Field.format.read (nesting + 3) s = taken Field.format.read (nesting + 3) t
  := by
  apply (Field.follows (nesting + 2)).taken_rewrites _ h
  rintro slot hslot s t ⟨hkey, hst⟩
  have hlist := taken_rewritesItem Choice.settled_read
    (fun s t hst => Choice.taken_rewrites hst nesting) hst
  obtain rfl := Field.eq_of_key hslot hkey
  cases hst with
  | item _ =>
      rw [Slot.optional, Slot.taken_make, Slot.taken_make,
        taken_optional_array Choice.settled_read.list,
        taken_optional_array Choice.settled_read.list, hlist]

/-- A faulty field is refused. -/
theorem Field.taken_faulty {s : Source} (h : Field.Faulty s) (nesting : Nat) :
  taken Field.format.read (nesting + 3) s = none
  := by
  apply (Field.follows (nesting + 2)).taken_faulty _ h
  rintro slot hslot s ⟨hkey, hs⟩
  have hlist := taken_faultyItem Choice.settled_read
    (fun s hs => Choice.taken_faulty hs nesting) hs
  obtain rfl := Field.eq_of_key hslot hkey
  cases hs with
  | item _ _ =>
      rw [Slot.optional, Slot.taken_make, taken_optional_array Choice.settled_read.list, hlist]
      rfl

/-- The slot of the fields of a description. -/
theorem Description.eq_of_key {slot : Slot Description} (hslot : slot ∈ Description.format.slots)
    (hkey : slot.key = "fields") :
  slot = .optional "fields" (readList Field.format.read) fun fields d => { d with fields }
  := by
  have hfind : Description.format.slot? slot.key = some slot :=
    RecordFormat.slot?_key (by decide) hslot
  rw [hkey] at hfind
  exact (Option.some.inj hfind).symm

/-- A description that is rewritten is read as before. -/
theorem Description.taken_rewrites {s t : Source} (h : Description.Rewrites s t) (nesting : Nat) :
  taken Description.format.read (nesting + 5) s = taken Description.format.read (nesting + 5) t
  := by
  apply (Description.follows (nesting + 3)).taken_rewrites _ h
  rintro slot hslot s t ⟨hkey, hst⟩
  obtain rfl := Description.eq_of_key hslot hkey
  rw [Slot.optional, Slot.taken_make, Slot.taken_make, taken_rewritesItem Field.settled_read
    (fun s t hst => Field.taken_rewrites hst nesting) hst]

/-- A faulty description is refused. -/
theorem Description.taken_faulty {s : Source} (h : Description.Faulty s) (nesting : Nat) :
  taken Description.format.read (nesting + 5) s = none
  := by
  apply (Description.follows (nesting + 3)).taken_faulty _ h
  rintro slot hslot s ⟨hkey, hs⟩
  obtain rfl := Description.eq_of_key hslot hkey
  rw [Slot.optional, Slot.taken_make, taken_faultyItem Field.settled_read
    (fun s hs => Field.taken_faulty hs nesting) hs]
  rfl

/-! ### Texts -/

theorem Choice.accepts :
  Accepts Choice.format.read
  := by
  apply RecordFormat.accepts_read
  simp only [Choice.format, List.forall_mem_cons]
  exact ⟨accepts_readString.make _ _ _, accepts_readString.optional.make _ _ _,
    accepts_readBool.optional.make _ _ _, accepts_readBool.optional.make _ _ _,
    accepts_readString.optional.make _ _ _, fun _ hslot => nomatch hslot⟩

theorem Field.accepts :
  Accepts Field.format.read
  := by
  apply RecordFormat.accepts_read
  simp only [Field.format, List.forall_mem_cons]
  exact ⟨accepts_readString.make _ _ _, accepts_readString.make _ _ _,
    accepts_readString.make _ _ _, accepts_readString.make _ _ _, accepts_readBool.make _ _ _,
    accepts_readBool.optional.make _ _ _, accepts_readValue.optional.make _ _ _,
    Choice.accepts.list.optional.make _ _ _, fun _ hslot => nomatch hslot⟩

theorem Description.accepts :
  Accepts Description.format.read
  := by
  apply RecordFormat.accepts_read
  simp only [Description.format, List.forall_mem_cons]
  exact ⟨accepts_readString.make _ _ _, accepts_readString.make _ _ _,
    Field.accepts.list.make _ _ _, fun _ hslot => nomatch hslot⟩

/-- Rewritten descriptions are read as one. -/
theorem Description.taken_eqvGen {s t : Source} (h : Relation.EqvGen Description.Rewrites s t) :
  taken Description.format.read deepest s = taken Description.format.read deepest t
  := by
  induction h with
  | rel s t h => exact Description.taken_rewrites h 122
  | refl s => rfl
  | symm s t _ ih => exact ih.symm
  | trans s t u _ _ ih ih' => exact ih.trans ih'

/-- Every text that is read as a description is a JSON document. However the description, its fields
and their choices are rewritten in it, the same description is read. A document in which one of them
repeats or lacks a key is refused as no description. -/
theorem parse_rewritten :
  (∀ text description, Description.parse text = .ok description →
      ∃ document : Document, document.text = text)
    ∧ (∀ s t : Document, Relation.EqvGen Description.Rewrites s.value t.value →
      ∀ description, Description.parse s.text = .ok description →
        Description.parse t.text = .ok description)
    ∧ ∀ document : Document, Description.Faulty document.value →
      ∃ error, Description.parse document.text = .error error
        ∧ ∀ settings, (Command.objectOf settings document.text).result
          = .error (.invalidDescription error)
  := by
  have hparse (document : Document) : (Description.parse document.text).toOption
      = taken Description.format.read deepest document.value :=
    readWhole_document Description.settled_read document
  refine ⟨?_, ?_, ?_⟩
  · intro text description h
    exact exists_document Description.accepts h
  · intro s t hst description h
    apply toOption_eq_some.mp
    rw [hparse, ← Description.taken_eqvGen hst, ← hparse]
    exact toOption_eq_some.mpr h
  · intro document h
    have hnone : (Description.parse document.text).toOption = none := by
      rw [hparse]
      exact Description.taken_faulty h 122
    obtain ⟨error, herror⟩ := toOption_eq_none.mp hnone
    refine ⟨error, herror, ?_⟩
    intro settings
    rw [Command.objectOf, herror]
    rfl

/-! ### A survey -/

/-- The literal of a text without quotes, backslashes and control characters. -/
def plainLetters (text : String)
    (h : text.toList.all fun c => c ≠ '"' ∧ c ≠ '\\' ∧ 32 ≤ c.toNat) : List Letter :=
  text.toList.pmap Letter.plain fun c hc => of_decide_eq_true (List.all_eq_true.mp h c hc)

/-- A member without white space. -/
def bareMember (letters : List Letter) (value : Source) : Member Source :=
  ⟨[], letters, [], [], value, []⟩

/-- A choice of a survey, with further members in front. -/
def surveyChoice (further : List (Member Source)) : Source :=
  .object (further ++ [bareMember (plainLetters "value" rfl)
    (.string (plainLetters "north" rfl))]) []

/-- A field of a survey with one choice, with further members in front. -/
def surveyField (further : List (Member Source)) (choice : Source) : Source :=
  .object (further ++ [
    bareMember (plainLetters "soapType" rfl)
      (.string (plainLetters "xsd:string" rfl)),
    bareMember (plainLetters "name" rfl) (.string (plainLetters "Plan" rfl)),
    bareMember (plainLetters "picklistValues" rfl) (.array [⟨[], choice, []⟩] [])]) []

/-- The name of a survey. -/
def surveyName : Member Source :=
  bareMember (plainLetters "name" rfl) (.string (plainLetters "Survey" rfl))

/-- The fields of a survey. -/
def surveyFields (field : Source) : Member Source :=
  bareMember (plainLetters "fields" rfl) (.array [⟨[], field, []⟩] [])

/-- A member that surveys do not know. -/
def customMember : Member Source := bareMember (plainLetters "custom" rfl) (.bool true)

/-- A member that spells out that a field may not be left empty. -/
def nillableMember : Member Source :=
  bareMember (plainLetters "nillable" rfl) (.bool false)

/-- A member that spells out that a choice has no label. -/
def labelMember : Member Source := bareMember (plainLetters "label" rfl) .null

/-- A survey with one field. -/
def surveyDocument : Document where
  before := []
  value := .object [surveyName, surveyFields (surveyField [] (surveyChoice []))] []
  after := []

/-- The survey with its members in another order, with a foreign one, and with defaults spelled out
for its field and for the choice. -/
def rewrittenSurvey : Document where
  before := []
  value := .object [customMember,
    surveyFields (surveyField [nillableMember] (surveyChoice [labelMember])), surveyName] []
  after := []

/-- The survey with a field that is named twice. -/
def faultySurvey : Document where
  before := []
  value := .object [surveyName, surveyFields (surveyField [surveyName] (surveyChoice []))] []
  after := []

theorem parse_rewritten_survey :
  Description.parse surveyDocument.text = .ok {
        name := "Survey"
        label := ""
        fields := [{
          name := "Plan"
          label := ""
          tag := "xsd:string"
          typeName := ""
          nillable := false
          choices := some [{ value := "north" }] }] }
    ∧ Description.parse rewrittenSurvey.text = Description.parse surveyDocument.text
    ∧ ∃ error, Description.parse faultySurvey.text = .error error
  := by
  have hreorder : Description.Rewrites
      (.object [surveyName, surveyFields (surveyField [] (surveyChoice []))] [])
      (.object [surveyFields (surveyField [] (surveyChoice [])), surveyName] []) :=
    .reorder (.swap _ _ _)
  have hforeign : Description.Rewrites
      (.object [surveyFields (surveyField [] (surveyChoice [])), surveyName] [])
      (.object [customMember, surveyFields (surveyField [] (surveyChoice [])), surveyName] []) :=
    @Model.Rewrites.foreign _ _ [] _ customMember [] "custom" rfl (by decide)
  have hchoice : Choice.Rewrites (surveyChoice []) (surveyChoice [labelMember]) :=
    @Model.Rewrites.default _ _ [] _ labelMember [] "label" rfl .null (by decide) .null (by decide)
  have hfield : Field.Rewrites (surveyField [] (surveyChoice []))
      (surveyField [] (surveyChoice [labelMember])) :=
    @Model.Rewrites.member _ _ [_, _] [] _ [] "picklistValues" rfl _
      ⟨rfl, @RewritesItem.item _ [] [] _ [] _ hchoice⟩
  have hnillable : Field.Rewrites (surveyField [] (surveyChoice [labelMember]))
      (surveyField [nillableMember] (surveyChoice [labelMember])) :=
    @Model.Rewrites.default _ _ [] _ nillableMember [] "nillable" rfl .false (by decide) .false
      (by decide)
  have hinside {field field' : Source} (h : Field.Rewrites field field') : Description.Rewrites
      (.object [customMember, surveyFields field, surveyName] [])
      (.object [customMember, surveyFields field', surveyName] []) :=
    @Model.Rewrites.member _ _ [_] [_] _ [] "fields" rfl _
      ⟨rfl, @RewritesItem.item _ [] [] _ [] _ h⟩
  have hrewritten : Relation.EqvGen Description.Rewrites surveyDocument.value
      rewrittenSurvey.value :=
    .trans _ _ _ (.rel _ _ hreorder) <| .trans _ _ _ (.rel _ _ hforeign) <|
      .trans _ _ _ (.rel _ _ (hinside hfield)) (.rel _ _ (hinside hnillable))
  have hfaulty : Description.Faulty faultySurvey.value :=
    .member (.tail _ (.head _)) rfl (by decide) ⟨rfl, .item (.head _)
      (@Model.Faulty.repeated _ _ _ [] "name" (by decide) (by decide))⟩
  have hsurvey : Description.parse surveyDocument.text = .ok _ := rfl
  obtain ⟨error, herror, -⟩ := parse_rewritten.2.2 faultySurvey hfaulty
  exact ⟨hsurvey, (parse_rewritten.2.1 _ _ hrewritten _ hsurvey).trans hsurvey.symm, error, herror⟩

end RecordSchema
