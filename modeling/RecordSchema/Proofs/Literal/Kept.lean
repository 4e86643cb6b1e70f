import RecordSchema.Proofs.Literal.KeptMembers

/-!
# What is kept of a literal

The schema that a literal gives need not say all that the literal said: a keyword with which a
schema of its type says nothing is passed over, without a fault. All of the literal is kept exactly
when each object in it, at its top and wherever the schema of a property or of items stands, has no
other keywords than those of its type and lists no required name without a property.

Positions of the literal and of the schema are followed side by side: a step that leads on in both
leads to a literal and to what is read from it, and where all can be said every step of the literal
leads on in the schema.
-/

namespace RecordSchema

open Json

/-! ### Keeping all of a literal -/

/-- A path leads to the schemas of properties and of items only. -/
def AvoidsAlternatives (path : List Step) : Prop := ∀ index, .alternative index ∉ path

theorem avoidsAlternatives_nil :
  AvoidsAlternatives []
  := by
  rintro index ⟨⟩

theorem avoidsAlternatives_cons {step : Step} {path : List Step} :
  AvoidsAlternatives (step :: path)
    ↔ (∀ index, step ≠ .alternative index) ∧ AvoidsAlternatives path
  := by
  simp [AvoidsAlternatives, not_or, forall_and, eq_comm]

/-- A document keeps all of a literal: each object in the literal, where a schema stands, stands at
the same place of the document with all of its members. -/
def Keeps (document literal : Json) : Prop :=
  ∀ path members, AvoidsAlternatives path → Draft.At literal path (.object members) →
    ∃ others, Draft.At document path (.object others) ∧
      ∀ key value, (key, value) ∈ members → Literal.Kept others key value

/-- All of a literal can be said: each object in it, where a schema stands, is one all of whose
members the schema that it gives can say. -/
def AllRepresentable (literal : Json) : Prop :=
  ∀ path members, AvoidsAlternatives path → Draft.At literal path (.object members) →
    Literal.Representable members

theorem AllRepresentable.of_leads {literal inner : Json} {step : Step}
    (h : AllRepresentable literal) (hstep : Draft.Leads literal step inner)
    (havoids : ∀ index, step ≠ .alternative index) :
  AllRepresentable inner
  := by
  intro path members hpath hat
  apply h (step :: path) members
  · exact avoidsAlternatives_cons.mpr ⟨havoids, hpath⟩
  · exact ⟨inner, hstep, hat⟩

/-- All of a literal can be said when what it says itself can be said, and all of the literals of
its properties and of its items. -/
theorem allRepresentable_object {members : List (String × Json)}
    (hself : Literal.Representable members)
    (hproperties : ∀ properties, members.lookup "properties" = some (.object properties) →
      ∀ m ∈ properties, AllRepresentable m.2)
    (hitems : ∀ items, members.lookup "items" = some items → AllRepresentable items) :
  AllRepresentable (.object members)
  := by
  intro path inner havoids hat
  cases path with
  | nil =>
      obtain rfl := Json.object.inj (show Json.object inner = .object members from hat)
      apply hself
  | cons step path =>
      obtain ⟨hstep, hpath⟩ := avoidsAlternatives_cons.mp havoids
      obtain ⟨next, hnext, hat⟩ := hat
      cases step with
      | property name =>
          obtain ⟨_, properties, hmembers, hlookup, hmem⟩ := hnext
          obtain rfl := Json.object.inj hmembers
          apply hproperties properties hlookup _ hmem path inner hpath hat
      | items =>
          obtain ⟨_, hmembers, hlookup⟩ := hnext
          obtain rfl := Json.object.inj hmembers
          apply hitems next hlookup path inner hpath hat
      | alternative index => exact absurd rfl (hstep index)

namespace Literal

variable {whole : String} {members : List (String × Json)}

/-- In the schema that a literal gives, steps lead to what the literal gives there. -/
theorem read_of_leads {inner : Json} {s t : Schema} {step : Step}
    (hsorted : (Json.object members).IsSorted) (h : Gives whole members s)
    (hstep : Draft.Leads (.object members) step inner) (ht : s.Leads step t) :
  read whole inner = .ok t
  := by
  cases h with
  | ref href => cases step <;> simp [Schema.Leads, Schema.object?, Schema.array?] at ht
  | simple href htype ha => cases step <;> simp [Schema.Leads, Schema.object?, Schema.array?] at ht
  | string href htype ha hformat hpattern henum hvalues =>
      cases step <;> simp [Schema.Leads, Schema.object?, Schema.array?] at ht
  | object href htype ha hid hrequired hproperties =>
      obtain ⟨p, hp, rfl, rfl⟩ := (Schema.leads_iff_of_object? rfl rfl).mp ht
      obtain ⟨_, documents, hmembers, hlookup, hinner⟩ := hstep
      obtain rfl := Json.object.inj hmembers
      obtain ⟨found, hfound, hinnerSorted, hgives⟩ := forall₂_of_readProperties hsorted hproperties
      rw [hlookup, Option.getD_some] at hfound
      obtain rfl := Json.object.inj hfound
      obtain ⟨⟨name, value⟩, hm, hp⟩ := exists_member_of_forall₂ hgives hp
      have hnames := nodup_keys_of_ascending hinnerSorted.1
      rw [hp.name, ← lookup_eq_some_iff_mem hnames] at hinner
      rw [← lookup_eq_some_iff_mem hnames] at hm
      obtain rfl := Option.some.inj (hinner.symm.trans hm)
      apply hp.schema
  | array href htype ha hitems =>
      cases step with
      | property name => simp [Schema.Leads, Schema.object?] at ht
      | alternative index => simp [Schema.Leads, Schema.object?] at ht
      | items =>
          obtain ⟨array, harray, ht⟩ := ht
          obtain rfl := Option.some.inj harray
          obtain ⟨_, hmembers, hlookup⟩ := hstep
          obtain rfl := Json.object.inj hmembers
          rw [readItems_eq, hlookup] at hitems
          obtain ⟨u, hu, heq⟩ := map_eq_ok_iff.mp hitems
          obtain rfl := Option.some.inj (heq.trans ht)
          apply hu

/-- Only an object schema can say something about properties. -/
theorem Gives.exists_object {s : Schema} (h : Gives whole members s)
    (hkey : "properties" ∈ keywords members) :
  ∃ object required, s = .object object
    ∧ readProperties whole required members = .ok object.properties
  := by
  cases h with
  | ref href => simp [keywords, href] at hkey
  | @simple kind _ href htype ha =>
      rw [keywords_of_kind href htype] at hkey
      cases kind <;> simp [SimpleKind.kind, Kind.keywords] at hkey
  | string href htype => simp [keywords_of_kind href htype, Kind.keywords] at hkey
  | array href htype => simp [keywords_of_kind href htype, Kind.keywords] at hkey
  | object href htype ha hid hrequired hproperties => exact ⟨_, _, rfl, hproperties⟩

/-- Only an array schema can say something about items. -/
theorem Gives.exists_array {s : Schema} (h : Gives whole members s)
    (hkey : "items" ∈ keywords members) :
  ∃ array, s = .array array ∧ readItems whole members = .ok array.items
  := by
  cases h with
  | ref href => simp [keywords, href] at hkey
  | @simple kind _ href htype ha =>
      rw [keywords_of_kind href htype] at hkey
      cases kind <;> simp [SimpleKind.kind, Kind.keywords] at hkey
  | string href htype => simp [keywords_of_kind href htype, Kind.keywords] at hkey
  | object href htype => simp [keywords_of_kind href htype, Kind.keywords] at hkey
  | array href htype ha hitems => exact ⟨_, rfl, hitems⟩

/-- Where all can be said, the steps of a literal lead on in the schema that it gives. -/
theorem exists_leads {inner : Json} {s : Schema} {step : Step}
    (hsorted : (Json.object members).IsSorted) (h : Gives whole members s)
    (hall : Representable members) (hstep : Draft.Leads (.object members) step inner)
    (havoids : ∀ index, step ≠ .alternative index) :
  ∃ t, s.Leads step t
  := by
  have hkeys := nodup_keys_of_ascending hsorted.1
  cases step with
  | property name =>
      obtain ⟨_, documents, hmembers, hlookup, hinner⟩ := hstep
      obtain rfl := Json.object.inj hmembers
      have hkeyword : "properties" ∈ keywords members := by
        rcases hall _ _ ((lookup_eq_some_iff_mem hkeys).mp hlookup) with hsayable | hvoid
        · apply hsayable.keyword
        · simp only [IsVoid, reduceCtorEq, and_false, or_false, true_and] at hvoid
          obtain rfl := Json.object.inj hvoid
          cases hinner
      obtain ⟨object, required, rfl, hproperties⟩ := h.exists_object hkeyword
      obtain ⟨found, hfound, -, hgives⟩ := forall₂_of_readProperties hsorted hproperties
      rw [hlookup, Option.getD_some] at hfound
      obtain rfl := Json.object.inj hfound
      obtain ⟨p, hp, hpgives⟩ := exists_property_of_forall₂ hgives hinner
      use p.schema, object, p, rfl, hp, hpgives.name
  | items =>
      obtain ⟨_, hmembers, hlookup⟩ := hstep
      obtain rfl := Json.object.inj hmembers
      have hkeyword : "items" ∈ keywords members := by
        rcases hall _ _ ((lookup_eq_some_iff_mem hkeys).mp hlookup) with hsayable | hvoid
        · apply hsayable.keyword
        · simp [IsVoid] at hvoid
      obtain ⟨array, rfl, hitems⟩ := h.exists_array hkeyword
      rw [readItems_eq, hlookup] at hitems
      obtain ⟨t, -, ht⟩ := map_eq_ok_iff.mp hitems
      use t, array, rfl, ht.symm
  | alternative index => exact absurd rfl (havoids index)

/-- In the schema that a literal gives, the literal of each position gives the schema there. -/
theorem read_of_at {literal inner : Json} {s t : Schema} {path : List Step}
    (hsorted : literal.IsSorted) (h : read whole literal = .ok s)
    (hinner : Draft.At literal path inner) (ht : s.At path t) :
  read whole inner = .ok t
  := by
  induction path generalizing literal s with
  | nil =>
      obtain rfl : inner = literal := hinner
      obtain rfl := Schema.at_nil.mp ht
      apply h
  | cons step path ih =>
      obtain ⟨members, rfl, hgives⟩ := exists_object_of_read h
      obtain ⟨next, hnext, hinner⟩ := hinner
      obtain ⟨u, hu, ht⟩ := ht
      apply ih (hsorted.of_inside (Draft.inside_of_leads hnext)) _ hinner ht
      apply read_of_leads hsorted hgives hnext hu

/-- Where all can be said, the schema that a literal gives has all positions of the literal. -/
theorem exists_at {literal inner : Json} {s : Schema} {path : List Step}
    (hsorted : literal.IsSorted) (h : read whole literal = .ok s) (hall : AllRepresentable literal)
    (havoids : AvoidsAlternatives path) (hinner : Draft.At literal path inner) :
  ∃ t, s.At path t
  := by
  induction path generalizing literal s with
  | nil => exact ⟨s, rfl⟩
  | cons step path ih =>
      obtain ⟨members, rfl, hgives⟩ := exists_object_of_read h
      obtain ⟨hstep, hpath⟩ := avoidsAlternatives_cons.mp havoids
      obtain ⟨next, hnext, hinner⟩ := hinner
      have hrepresentable := hall [] members avoidsAlternatives_nil rfl
      obtain ⟨u, hu⟩ := exists_leads hsorted hgives hrepresentable hnext hstep
      obtain ⟨t, ht⟩ := ih (hsorted.of_inside (Draft.inside_of_leads hnext))
        (read_of_leads hsorted hgives hnext hu) (hall.of_leads hnext hstep) hpath hinner
      exact ⟨t, u, hu, ht⟩

/-- Where a schema stands, what an object says is kept when all of it can be said. -/
theorem forall_kept_iff {others : List (String × Json)} {s : Schema}
    (hsorted : (Json.object members).IsSorted) (h : Gives whole members s)
    (hothers : s.document = .object others) :
  (∀ key value, (key, value) ∈ members → Kept others key value) ↔ Representable members
  := by
  have hkeys := nodup_keys_of_ascending hsorted.1
  apply forall₃_congr
  intro key value hm
  rw [← lookup_eq_some_iff_mem hkeys] at hm
  apply kept_iff hsorted h hothers hm

end Literal

/-- An accepted literal is kept by the document of its schema exactly when that schema can say all
of it: every other keyword is passed over. -/
theorem keeps_document_iff {literal : Json} {s : Schema} {name : String}
    (hsorted : literal.IsSorted) (h : Schema.ofLiteral name literal = .ok s) :
  Keeps s.document literal ↔ AllRepresentable literal
  := by
  rw [Schema.ofLiteral] at h
  constructor
  · intro hkeeps path members havoids hat
    obtain ⟨others, hothers, hkept⟩ := hkeeps path members havoids hat
    obtain ⟨t, ht, hdocument⟩ := Schema.at_document_iff.mp hothers
    have hread := Literal.read_of_at hsorted h hat ht
    have hinner := hsorted.of_inside (Draft.inside_of_at hat)
    apply (Literal.forall_kept_iff hinner (Literal.gives_of_read hread) hdocument.symm).mp hkept
  · intro hall path members havoids hat
    obtain ⟨t, ht⟩ := Literal.exists_at hsorted h hall havoids hat
    obtain ⟨others, hothers, -⟩ := t.lookup_document
    have hread := Literal.read_of_at hsorted h hat ht
    have hinner := hsorted.of_inside (Draft.inside_of_at hat)
    use others
    constructor
    · apply Schema.at_document_iff.mpr
      use t, ht, hothers.symm
    · apply (Literal.forall_kept_iff hinner (Literal.gives_of_read hread) hothers).mpr
      apply hall path members havoids hat

/-- A literal of an object with a list of references and a code. -/
def partLiteral : Json :=
  .object [
    ("properties", .object [
      ("code", .object [
        ("enum", .array [.string "b", .string "a", .string "b"]),
        ("type", .string "string")]),
      ("uses", .object [
        ("items", .object [("$ref", .string "urn:part")]),
        ("type", .string "array")])]),
    ("required", .array [.string "code"]),
    ("type", .string "object")]

/-- A literal with keywords of its types only is kept. -/
theorem keeps_document_part :
  ∃ s, partLiteral.IsSorted ∧ Schema.ofLiteral "Part" partLiteral = .ok s
    ∧ Keeps s.document partLiteral
  := by
  have hsorted : partLiteral.IsSorted := by
    simp only [partLiteral, IsSorted, MembersSorted, ItemsSorted]
    decide
  have hcode : AllRepresentable (.object [
      ("enum", .array [.string "b", .string "a", .string "b"]), ("type", .string "string")]) := by
    apply allRepresentable_object (Literal.representable_of_keywords (by decide))
    · rintro properties ⟨⟩
    · rintro items ⟨⟩
  have hpart : AllRepresentable (.object [("$ref", .string "urn:part")]) := by
    apply allRepresentable_object (Literal.representable_of_keywords (by decide))
    · rintro properties ⟨⟩
    · rintro items ⟨⟩
  have huses : AllRepresentable (.object [
      ("items", .object [("$ref", .string "urn:part")]), ("type", .string "array")]) := by
    apply allRepresentable_object (Literal.representable_of_keywords (by decide))
    · rintro properties ⟨⟩
    · rintro items ⟨⟩
      apply hpart
  have hall : AllRepresentable partLiteral := by
    apply allRepresentable_object
    · rintro key value hm
      left
      simp only [List.mem_cons, List.not_mem_nil, Prod.mk.injEq, or_false] at hm
      rcases hm with ⟨rfl, rfl⟩ | ⟨rfl, rfl⟩ | ⟨rfl, rfl⟩
      · apply Literal.Sayable.of_ne (by decide) (by decide)
      · apply (Literal.sayable_required_iff (l := ["code"]) (by decide) rfl).mpr
        decide
      · apply Literal.Sayable.of_ne (by decide) (by decide)
    · rintro properties ⟨⟩
      simp [hcode, huses]
    · rintro items ⟨⟩
  obtain ⟨s, hs⟩ : ∃ s, Schema.ofLiteral "Part" partLiteral = .ok s := ⟨_, rfl⟩
  use s, hsorted, hs
  apply (keeps_document_iff hsorted hs).mpr hall

/-- A literal of strings with a least length. -/
def lengthLiteral : Json :=
  .object [("minLength", .number (.integer 3 (by decide))), ("type", .string "string")]

/-- The least length is passed over: it is accepted, but not kept. -/
theorem not_keeps_length :
  lengthLiteral.IsSorted ∧ Schema.ofLiteral "Code" lengthLiteral = .ok (.ofKind .string)
    ∧ ¬ Keeps (Schema.ofKind .string).document lengthLiteral
  := by
  refine ⟨?_, rfl, ?_⟩
  · simp only [lengthLiteral, IsSorted, MembersSorted]
    decide
  · intro h
    obtain ⟨others, hothers, hkept⟩ := h [] _ avoidsAlternatives_nil rfl
    obtain rfl : [("type", .string "string")] = others := Json.object.inj hothers.symm
    have hlength := hkept "minLength" _ List.mem_cons_self
    simp [Literal.Kept, Literal.IsVoid, List.lookup_cons] at hlength

end RecordSchema
