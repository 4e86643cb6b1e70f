import RecordSchema.Proofs.Build.Run
import Mathlib.Data.List.TakeWhile
import Mathlib.Data.String.Basic

/-!
# Tags

A tag may name a namespace in front of its first colon. The namespace does not matter: the SOAP
type is that of the local name behind it. So the tags of a SOAP type are its local name, alone or
behind a namespace, and all others fail with the whole tag.
-/

namespace RecordSchema

namespace SoapType

/-- Behind a namespace without colons and a colon stands the local name. -/
theorem localPart_append {ns : String} (h : ':' ∉ ns.toList) (name : String) :
  localPart (ns ++ ":" ++ name) = name
  := by
  have hdrop : (ns ++ ":" ++ name).toList.dropWhile (· ≠ ':') = ':' :: name.toList := by
    have hns : ∀ c ∈ ns.toList, decide (c ≠ ':') = true := by
      intro c hc
      simp only [ne_eq, decide_eq_true_eq]
      rintro rfl
      apply h hc
    rw [String.toList_append, String.toList_append, List.append_assoc,
      List.dropWhile_append_of_pos hns]
    rfl
  rw [localPart, hdrop]
  apply String.ofList_toList

/-- The local name of a SOAP type is a tag of it. -/
theorem ofTag?_localName (type : SoapType) :
  ofTag? type.localName = some type
  := by
  cases type <;> rfl

theorem localPart_localName (type : SoapType) :
  localPart type.localName = type.localName
  := by
  cases type <;> rfl

/-- The local name of a SOAP type behind any namespace is a tag of it. -/
theorem ofTag?_append {ns : String} (h : ':' ∉ ns.toList) (type : SoapType) :
  ofTag? (ns ++ ":" ++ type.localName) = some type
  := by
  rw [← ofTag?_localName type, ofTag?, ofTag?, localPart_append h, localPart_localName]

/-! ### The tags of a SOAP type -/

/-- A tag of a SOAP type is its local name, or a namespace without colons, a colon and the local
name. -/
def HasTag (type : SoapType) (tag : String) : Prop :=
  tag = type.localName
    ∨ ∃ ns : String, ':' ∉ ns.toList ∧ tag = ns ++ ":" ++ type.localName

/-- The local part of a tag is the tag itself, or stands behind a namespace and a colon. -/
theorem eq_localPart_or_exists_namespace (tag : String) :
  tag = localPart tag ∨ ∃ ns : String, ':' ∉ ns.toList ∧ tag = ns ++ ":" ++ localPart tag
  := by
  have hsplit := List.takeWhile_append_dropWhile (p := (· ≠ ':')) (l := tag.toList)
  rw [localPart]
  cases hdrop : tag.toList.dropWhile (· ≠ ':') with
  | nil => exact .inl rfl
  | cons c rest =>
      right
      have hcolon : c = ':' := by
        have hne : tag.toList.dropWhile (· ≠ ':') ≠ [] := by
          rw [hdrop]
          apply List.cons_ne_nil
        have hhead := List.head_dropWhile_not _ hne
        simp only [hdrop, List.head_cons] at hhead
        simpa using hhead
      refine ⟨String.ofList (tag.toList.takeWhile (· ≠ ':')), ?_, ?_⟩
      · rw [String.toList_ofList]
        intro hmem
        simpa using List.mem_takeWhile_imp hmem
      · apply String.toList_injective
        rw [hdrop, hcolon] at hsplit
        simpa using hsplit.symm

/-- A tag is that of the SOAP type whose tag it is. -/
theorem ofTag?_eq_some_iff {tag : String} {type : SoapType} :
  ofTag? tag = some type ↔ type.HasTag tag
  := by
  constructor
  · intro h
    have hname : type.localName = localPart tag := by simpa using List.find?_some h
    rw [HasTag, hname]
    apply eq_localPart_or_exists_namespace
  · rintro (rfl | ⟨ns, hns, rfl⟩)
    · apply ofTag?_localName
    · apply ofTag?_append hns

/-- Which tags are those of a SOAP type, and that all others fail with the whole tag. In an accepted
tag the namespace may be exchanged or left out. A tag has no representation, and a field with it no
schema, exactly when it is the tag of no SOAP type, whatever else the field says. -/
theorem ofTag_iff_hasTag :
  (∀ tag type, ofTag tag = .ok type ↔ type.HasTag tag)
    ∧ (∀ tag failure, ofTag tag = .error failure
      ↔ (∀ type, ¬ HasTag type tag) ∧ failure = .unsupportedTag tag)
    ∧ (∀ (ns name : String) type, ':' ∉ ns.toList → ofTag (ns ++ ":" ++ name) = .ok type →
      ofTag name = .ok type
        ∧ ∀ other : String, ':' ∉ other.toList → ofTag (other ++ ":" ++ name) = .ok type)
    ∧ (∀ tag failure, Representation.ofTag tag = .error failure ↔ ofTag tag = .error failure)
    ∧ ∀ (field : Field) session failure, (field.schema.runIn session).1 = .error failure
      ↔ ofTag field.tag = .error failure
  := by
  have haccepted {tag : String} {type : SoapType} :
      ofTag tag = .ok type ↔ type.HasTag tag := by
    rw [ofTag_eq_ok_iff, ofTag?_eq_some_iff]
  refine ⟨fun _ _ => haccepted, ?_, ?_, fun _ _ => Representation.ofTag_eq_error_iff, ?_⟩
  · intro tag failure
    rw [ofTag_eq_error_iff, Option.eq_none_iff_forall_ne_some, eq_comm]
    simp only [ne_eq, ofTag?_eq_some_iff]
  · intro ns name type hns h
    have hname : name = type.localName := by
      have hfind := List.find?_some (ofTag_eq_ok_iff.mp h)
      rw [localPart_append hns] at hfind
      symm
      simpa using hfind
    rw [hname]
    constructor
    · apply haccepted.mpr (.inl rfl)
    · intro other hother
      apply haccepted.mpr (.inr ⟨other, hother, rfl⟩)
  · intro field session failure
    rw [Field.runIn_schema_eq_error_iff, Representation.ofTag_eq_error_iff]

/-- Of the tag of a date and time with an empty namespace another one can be made with a namespace,
and one without. A second colon, another case, blanks and the empty tag are not accepted. -/
theorem ofTag_iff_hasTag_dateTime :
  ':' ∉ "".toList ∧ ':' ∉ "xsd".toList ∧ ofTag ("" ++ ":" ++ "dateTime") = .ok .dateTime
    ∧ ofTag "dateTime" = .ok .dateTime
    ∧ ofTag ("xsd" ++ ":" ++ "dateTime") = .ok .dateTime
    ∧ ∀ tag ∈ ["a:b:dateTime", "xsd:DateTime", " dateTime", "xsd: dateTime", ""],
      ofTag tag = .error (.unsupportedTag tag)
  := by
  have hempty : ':' ∉ "".toList := by decide
  have hns : ':' ∉ "xsd".toList := by decide
  have hempty_tag : ofTag ("" ++ ":" ++ "dateTime") = .ok .dateTime := rfl
  obtain ⟨-, -, hexchange, -, -⟩ := ofTag_iff_hasTag
  obtain ⟨hbare, hother⟩ := hexchange "" "dateTime" .dateTime hempty hempty_tag
  refine ⟨hempty, hns, hempty_tag, hbare, hother "xsd" hns, ?_⟩
  simp only [List.forall_mem_cons]
  exact ⟨rfl, rfl, rfl, rfl, rfl, List.forall_mem_nil _⟩

end SoapType

end RecordSchema
