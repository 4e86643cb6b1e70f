import RecordSchema.Description.Basic
import Mathlib.Data.List.Forall2

/-!
# Names up to case

Names of fields are looked up without regard to the case of ASCII letters. Other letters have no
case: `É` and `é` are different, and so are the Kelvin sign and `k`. The field that is found is the
first one with the name.
-/

namespace RecordSchema

/-! ### Letters -/

/-- The upper case ASCII letters with the lower case ones. -/
def letterPairs : List (Char × Char) :=
  "ABCDEFGHIJKLMNOPQRSTUVWXYZ".toList.zip "abcdefghijklmnopqrstuvwxyz".toList

/-- Two characters are the same, or the two cases of one ASCII letter. -/
def SameLetter (c d : Char) : Prop := c = d ∨ (c, d) ∈ letterPairs ∨ (d, c) ∈ letterPairs

instance (c d : Char) : Decidable (SameLetter c d) := inferInstanceAs (Decidable (_ ∨ _))

theorem toLower_of_mem_letterPairs :
  ∀ p ∈ letterPairs, p.1.toLower = p.2 ∧ p.2.toLower = p.2
  := by
  decide

/-- A lower case letter has one upper case letter. -/
theorem fst_eq_of_mem_letterPairs :
  ∀ p ∈ letterPairs, ∀ q ∈ letterPairs, p.2 = q.2 → p.1 = q.1
  := by
  decide

/-- A character is an upper case letter, or stays as it is in lower case. -/
theorem toLower_cases (c : Char) :
  (c, c.toLower) ∈ letterPairs ∨ c.toLower = c
  := by
  by_cases h : c.val ≥ 'A'.val ∧ c.val ≤ 'Z'.val
  · left
    have hletters : ∀ i < 26,
        (Char.ofNat (65 + i), (Char.ofNat (65 + i)).toLower) ∈ letterPairs := by decide
    have hfrom : 65 ≤ c.toNat := UInt32.le_iff_toNat_le.mp h.1
    have hto : c.toNat ≤ 90 := UInt32.le_iff_toNat_le.mp h.2
    have hc := hletters (c.toNat - 65) (by omega)
    rwa [Nat.add_sub_cancel' hfrom, Char.ofNat_toNat] at hc
  · right
    exact dif_neg h

/-- Characters with the same lower case are the same, or the two cases of one letter. -/
theorem toLower_eq_toLower_iff {c d : Char} :
  c.toLower = d.toLower ↔ SameLetter c d
  := by
  constructor
  · intro h
    rcases toLower_cases c with hc | hc
    · rcases toLower_cases d with hd | hd
      · exact .inl (fst_eq_of_mem_letterPairs _ hc _ hd h)
      · rw [h, hd] at hc
        exact .inr (.inl hc)
    · rcases toLower_cases d with hd | hd
      · rw [← h, hc] at hd
        exact .inr (.inr hd)
      · rw [hc, hd] at h
        exact .inl h
  · rintro (rfl | h | h)
    · rfl
    · obtain ⟨hupper, hlower⟩ := toLower_of_mem_letterPairs _ h
      exact hupper.trans hlower.symm
    · obtain ⟨hupper, hlower⟩ := toLower_of_mem_letterPairs _ h
      exact hlower.trans hupper.symm

/-! ### Names -/

/-- Two names are the same, letter by letter, up to the case of ASCII letters. -/
def SameName (a b : String) : Prop := List.Forall₂ SameLetter a.toList b.toList

namespace Description

theorem sameName_iff {a b : String} :
  sameName a b = true ↔ SameName a b
  := by
  rw [sameName, beq_iff_eq, ← List.forall₂_eq_eq_eq, List.forall₂_map_left_iff,
    List.forall₂_map_right_iff, SameName]
  simp only [toLower_eq_toLower_iff]

instance (a b : String) : Decidable (SameName a b) :=
  decidable_of_iff _ sameName_iff

/-- The same names are the same as a third one. -/
theorem sameName_congr {a b : String} (h : SameName a b) (name : String) :
  sameName name a = sameName name b
  := by
  have hchars := sameName_iff.mpr h
  rw [sameName, beq_iff_eq] at hchars
  rw [sameName, sameName, hchars]

/-! ### Looking up fields -/

/-- The field that is found is the first one with the name. -/
theorem field?_eq_some_iff {description : Description} {name : String} {field : Field} :
  description.field? name = some field
    ↔ ∃ before rest, description.fields = before ++ field :: rest
      ∧ SameName field.name name ∧ ∀ other ∈ before, ¬ SameName other.name name
  := by
  rw [field?, List.find?_eq_some_iff_append, sameName_iff]
  simp only [Bool.not_eq_true', ← Bool.not_eq_true, sameName_iff]
  constructor
  · rintro ⟨hname, before, rest, hfields, hbefore⟩
    exact ⟨before, rest, hfields, hname, hbefore⟩
  · rintro ⟨before, rest, hfields, hname, hbefore⟩
    exact ⟨hname, before, rest, hfields, hbefore⟩

theorem field?_eq_none_iff {description : Description} {name : String} :
  description.field? name = none ↔ ∀ field ∈ description.fields, ¬ SameName field.name name
  := by
  rw [field?, List.find?_eq_none]
  simp only [sameName_iff]

/-- The same names give the same field. -/
theorem field?_congr {a b : String} (h : SameName a b) (description : Description) :
  description.field? a = description.field? b
  := by
  rw [field?, field?]
  simp only [sameName_congr h]

end Description

end RecordSchema
