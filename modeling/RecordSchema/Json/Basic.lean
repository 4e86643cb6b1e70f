import RecordSchema.Binary64.Basic

/-!
# JSON values

One type serves for the documents that are written, whose members stand in the order in which
they are written, and for the values that are read, whose members stand in ascending order of
their keys, each key once. Keys are ordered by code point.
-/

namespace RecordSchema

/-- A whole number fits into 64 bits, signed or unsigned: it lies between `-2^63` and `2^64`,
the latter excluded. -/
abbrev Fits (n : Int) : Prop := -9223372036854775808 ≤ n ∧ n < 18446744073709551616

/-- A JSON number: a whole number that fits into 64 bits, or a double precision number. Other
whole numbers are double precision numbers. -/
inductive Number where
  | integer (n : Int) (fits : Fits n)
  | double (x : Binary64)
deriving DecidableEq

namespace Number

instance : Inhabited Number := ⟨.integer 0 (by decide)⟩

/-- The whole number, where it fits. -/
def ofInt? (n : Int) : Option Number :=
  if h : Fits n then some (.integer n h) else none

/-- Equality of numbers: a whole number never equals a double precision number, and double
precision numbers are compared by value. -/
def equal : Number → Number → Bool
  | .integer m _, .integer n _ => m == n
  | .double x, .double y => x.equal y
  | _, _ => false

end Number

/-- A JSON value. -/
inductive Json where
  | null
  | bool (b : Bool)
  | number (n : Number)
  | string (s : String)
  | array (items : List Json)
  | object (members : List (String × Json))
deriving Inhabited

namespace Json

/-- The members of an object. -/
def members? : Json → Option (List (String × Json))
  | .object members => some members
  | _ => none

/-- The items of an array. -/
def items? : Json → Option (List Json)
  | .array items => some items
  | _ => none

/-- The text of a string. -/
def string? : Json → Option String
  | .string s => some s
  | _ => none

/-- The truth value of a boolean. -/
def bool? : Json → Option Bool
  | .bool b => some b
  | _ => none

/-- The value of an optional content, `null` if there is none. -/
def orNull {α : Type} (value : α → Json) (content : Option α) : Json :=
  (content.map value).getD .null

/-! ### Equality -/

mutual

/-- Equality of values: numbers are compared as numbers, arrays item by item, and objects
member by member in the order in which the members stand. -/
def equal : Json → Json → Bool
  | .null, .null => true
  | .bool a, .bool b => a == b
  | .number m, .number n => m.equal n
  | .string s, .string t => s == t
  | .array xs, .array ys => equalItems xs ys
  | .object xs, .object ys => equalMembers xs ys
  | _, _ => false

/-- Equality of the items of two arrays. -/
def equalItems : List Json → List Json → Bool
  | [], [] => true
  | x :: xs, y :: ys => equal x y && equalItems xs ys
  | _, _ => false

/-- Equality of the members of two objects. -/
def equalMembers : List (String × Json) → List (String × Json) → Bool
  | [], [] => true
  | (k, x) :: xs, (l, y) :: ys => k == l && (equal x y && equalMembers xs ys)
  | _, _ => false

end

instance : BEq Json := ⟨equal⟩

/-! ### Members in order -/

/-- The keys of the members ascend. -/
def Ascending (members : List (String × Json)) : Prop :=
  members.Pairwise fun m n => m.1 < n.1

instance (members : List (String × Json)) : Decidable (Ascending members) :=
  inferInstanceAs (Decidable (List.Pairwise _ _))

/-- Place a member among members with ascending keys, in the place of the member with the same
key if there is one. -/
def insertMember (key : String) (value : Json) :
    List (String × Json) → List (String × Json)
  | [] => [(key, value)]
  | (k, v) :: rest =>
    if key < k then (key, value) :: (k, v) :: rest
    else if key = k then (key, value) :: rest
    else (k, v) :: insertMember key value rest

/-- A member among those into which one has been placed is that one or was there before. -/
theorem mem_insertMember {key : String} {value : Json} {m : String × Json}
    {members : List (String × Json)} (h : m ∈ insertMember key value members) :
  m = (key, value) ∨ m ∈ members
  := by
  induction members with
  | nil => simpa [insertMember] using h
  | cons n rest ih =>
    simp only [insertMember] at h
    split at h
    · simpa using h
    · split at h <;> grind

/-- Placing a member keeps the keys ascending. -/
theorem ascending_insertMember {key : String} {value : Json}
    {members : List (String × Json)} (h : Ascending members) :
  Ascending (insertMember key value members)
  := by
  induction members with
  | nil => simp [insertMember, Ascending]
  | cons n rest ih =>
    obtain ⟨hn, hrest⟩ := List.pairwise_cons.1 h
    simp only [insertMember]
    split
    · rename_i hlt
      refine List.pairwise_cons.2 ⟨?_, h⟩
      intro m hm
      cases List.mem_cons.1 hm with
      | inl e => exact e ▸ hlt
      | inr hm => exact String.lt_trans hlt (hn m hm)
    · rename_i hlt
      split
      · rename_i heq
        refine List.pairwise_cons.2 ⟨?_, hrest⟩
        intro m hm
        exact heq ▸ hn m hm
      · rename_i hne
        refine List.pairwise_cons.2 ⟨?_, ih hrest⟩
        intro m hm
        cases mem_insertMember hm with
        | inl e =>
          subst e
          by_cases hgt : n.1 < key
          · exact hgt
          · exact absurd (String.le_antisymm (String.not_lt.1 hgt) (String.not_lt.1 hlt)) hne
        | inr hm => exact hn m hm

/-- Members with ascending keys; of several members with one key the last is kept. -/
def sortMembers (members : List (String × Json)) : List (String × Json) :=
  members.foldl (fun sorted m => insertMember m.1 m.2 sorted) []

theorem ascending_foldl_insertMember {members sorted : List (String × Json)}
    (h : Ascending sorted) :
  Ascending (members.foldl (fun sorted m => insertMember m.1 m.2 sorted) sorted)
  := by
  induction members generalizing sorted with
  | nil => exact h
  | cons m rest ih => exact ih (ascending_insertMember h)

/-- The keys of sorted members ascend. -/
theorem ascending_sortMembers (members : List (String × Json)) :
  Ascending (sortMembers members)
  := ascending_foldl_insertMember .nil

/-- The value of an object with the given members. -/
def ofMembers (members : List (String × Json)) : Json := .object (sortMembers members)

end Json

end RecordSchema
