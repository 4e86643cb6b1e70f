/-!
# Sets of strings

A set of strings is its ascending list of members, without repetition. Two sets are
equal exactly when they have the same members, and the list is the order in which a set
is written down. Strings are ordered by code point, which is also the order of their
UTF-8 bytes.
-/

namespace RecordSchema

/-- A finite set of strings, kept as its ascending list. -/
structure StringSet where
  /-- The members, in ascending order. -/
  toList : List String
  /-- Every member is less than all those after it. -/
  ascending : toList.Pairwise (· < ·)
deriving DecidableEq

namespace StringSet

@[ext]
theorem ext {s t : StringSet} (h : s.toList = t.toList) :
  s = t
  := by
  cases s
  cases t
  simp_all

/-- The set without members. -/
def empty : StringSet := ⟨[], .nil⟩

instance : EmptyCollection StringSet := ⟨empty⟩

instance : Inhabited StringSet := ⟨∅⟩

instance : Membership String StringSet := ⟨fun s x => x ∈ s.toList⟩

instance (x : String) (s : StringSet) : Decidable (x ∈ s) :=
  inferInstanceAs (Decidable (x ∈ s.toList))

/-- Whether the set has no member. -/
def isEmpty (s : StringSet) : Bool := s.toList.isEmpty

theorem mem_iff {x : String} {s : StringSet} :
  x ∈ s ↔ x ∈ s.toList
  := .rfl

@[simp]
theorem toList_empty :
  (∅ : StringSet).toList = []
  := rfl

@[simp]
theorem not_mem_empty (x : String) :
  x ∉ (∅ : StringSet)
  := by
  simp [mem_iff]

/-! ### Insertion -/

/-- Place a string into an ascending list, unless it is there already. -/
def insertInto (x : String) : List String → List String
  | [] => [x]
  | y :: ys =>
    if x < y then x :: y :: ys
    else if x = y then y :: ys
    else y :: insertInto x ys

/-- The list with a string placed into it has that string and the former members. -/
theorem mem_insertInto {x y : String} {l : List String} :
  y ∈ insertInto x l ↔ y = x ∨ y ∈ l
  := by
  induction l with
  | nil => simp [insertInto]
  | cons z zs ih =>
    simp only [insertInto]
    split
    · simp
    · split
      · simp_all
      · simp [ih]
        grind

/-- Placing a string keeps a list ascending. -/
theorem pairwise_insertInto {x : String} {l : List String} (h : l.Pairwise (· < ·)) :
  (insertInto x l).Pairwise (· < ·)
  := by
  induction l with
  | nil => simp [insertInto]
  | cons y ys ih =>
    obtain ⟨hy, hys⟩ := List.pairwise_cons.1 h
    simp only [insertInto]
    split
    · rename_i hxy
      refine List.pairwise_cons.2 ⟨?_, h⟩
      intro z hz
      cases List.mem_cons.1 hz with
      | inl e => exact e ▸ hxy
      | inr hz => exact String.lt_trans hxy (hy z hz)
    · rename_i hxy
      split
      · exact h
      · rename_i hne
        refine List.pairwise_cons.2 ⟨?_, ih hys⟩
        intro z hz
        cases mem_insertInto.1 hz with
        | inl e =>
          subst e
          have hle : y ≤ z := String.not_lt.1 hxy
          by_cases hlt : y < z
          · exact hlt
          · exact absurd (String.le_antisymm (String.not_lt.1 hlt) hle) hne
        | inr hz => exact hy z hz

/-- The set with one more member. -/
def insert (s : StringSet) (x : String) : StringSet :=
  ⟨insertInto x s.toList, pairwise_insertInto s.ascending⟩

@[simp]
theorem mem_insert {x y : String} {s : StringSet} :
  y ∈ s.insert x ↔ y = x ∨ y ∈ s
  := mem_insertInto

/-- The set of the strings of a list. -/
def ofList (l : List String) : StringSet := l.foldl insert ∅

theorem mem_foldl_insert {y : String} {l : List String} {s : StringSet} :
  y ∈ l.foldl insert s ↔ y ∈ l ∨ y ∈ s
  := by
  induction l generalizing s with
  | nil => simp
  | cons x xs ih =>
    simp only [List.foldl_cons, ih, mem_insert, List.mem_cons]
    grind

@[simp]
theorem mem_ofList {y : String} {l : List String} :
  y ∈ ofList l ↔ y ∈ l
  := by
  simp [ofList, mem_foldl_insert]

end StringSet

end RecordSchema
