import RecordSchema.StringSet
import Mathlib.Data.List.Sort

/-!
# Sets of strings by their members

A set of strings is determined by its members, since it keeps them in ascending order. So the
set of the members of a set is that set, and what is said about a set by adding and removing
members one by one can be said by membership alone.
-/

namespace RecordSchema

namespace StringSet

/-- Sets with the same members are equal. -/
theorem eq_of_mem_iff {s t : StringSet} (h : ∀ x, x ∈ s ↔ x ∈ t) :
  s = t
  := by
  apply ext
  apply s.ascending.eq_of_mem_iff t.ascending
  apply h

/-- The set of the members of a set is the set. -/
@[simp]
theorem ofList_toList (s : StringSet) :
  ofList s.toList = s
  := by
  apply eq_of_mem_iff
  intro x
  rw [mem_ofList, mem_iff]

/-- A set is empty exactly when it has no members. -/
theorem isEmpty_iff {s : StringSet} :
  s.isEmpty = true ↔ ∀ x, x ∉ s
  := by
  rw [isEmpty, List.isEmpty_iff, List.eq_nil_iff_forall_not_mem]
  rfl

/-- The set without a string. -/
def erase (s : StringSet) (x : String) : StringSet :=
  ⟨s.toList.filter (· ≠ x), s.ascending.filter _⟩

@[simp]
theorem mem_erase {x y : String} {s : StringSet} :
  y ∈ s.erase x ↔ y ∈ s ∧ y ≠ x
  := by
  simp [mem_iff, erase]

end StringSet

end RecordSchema
