import RecordSchema.Json.Basic
import Mathlib.Data.List.Sort
import Mathlib.Data.String.Basic

/-!
# Sorted values

A document whose members stand in some order is read as a value whose members stand in
ascending order, in all objects of the document. Where no object has two members with one key,
nothing is lost: under each key stands what stood there before, in sorted form. A value that
is sorted is read as itself.
-/

namespace RecordSchema

namespace Json

/-! ### Members under their keys -/

theorem mem_of_lookup {members : List (String × Json)} {key : String} {value : Json}
    (h : members.lookup key = some value) :
  (key, value) ∈ members
  := by
  obtain ⟨before, after, rfl, -⟩ := List.lookup_eq_some_iff.mp h
  simp

/-- Where keys differ, a value stands under its key. -/
theorem lookup_eq_some_iff_mem {members : List (String × Json)}
    (h : (members.map (·.1)).Nodup) {key : String} {value : Json} :
  members.lookup key = some value ↔ (key, value) ∈ members
  := by
  induction members with
  | nil => simp
  | cons m rest ih =>
      obtain ⟨k, v⟩ := m
      obtain ⟨hk, hrest⟩ := List.nodup_cons.mp h
      rw [List.lookup_cons, List.mem_cons, Prod.mk.injEq]
      by_cases hkey : key = k
      · subst hkey
        have hnone : (key, value) ∉ rest := by
          intro hmem
          apply hk
          apply List.mem_map.mpr
          use (key, value)
        simp [hnone, eq_comm]
      · have hkey' : (key == k) = false := by simpa using hkey
        simp [hkey, hkey', ih hrest]

/-- Members in a different order have the same values under the same keys. -/
theorem lookup_eq_of_perm {members others : List (String × Json)} (h : members.Perm others)
    (hkeys : (others.map (·.1)).Nodup) (key : String) :
  members.lookup key = others.lookup key
  := by
  have hkeys' : (members.map (·.1)).Nodup := (h.map _).nodup_iff.mpr hkeys
  apply Option.ext
  intro value
  rw [lookup_eq_some_iff_mem hkeys', lookup_eq_some_iff_mem hkeys, h.mem_iff]

/-! ### Sorting members -/

/-- A member with a new key is placed among the others. -/
theorem perm_insertMember {key : String} (value : Json) {members : List (String × Json)}
    (h : key ∉ members.map (·.1)) :
  (insertMember key value members).Perm ((key, value) :: members)
  := by
  induction members with
  | nil => rfl
  | cons m rest ih =>
      obtain ⟨k, v⟩ := m
      rw [List.map_cons, List.mem_cons, not_or] at h
      rw [insertMember]
      split
      · rfl
      · rw [if_neg h.1]
        apply ((ih h.2).cons _).trans
        apply List.Perm.swap

/-- Sorting members with different keys, behind some that are sorted already. -/
theorem perm_foldl_insertMember {members sorted : List (String × Json)}
    (h : ((sorted ++ members).map (·.1)).Nodup) :
  (members.foldl (fun sorted m => insertMember m.1 m.2 sorted) sorted).Perm
    (sorted ++ members)
  := by
  induction members generalizing sorted with
  | nil => simp
  | cons m rest ih =>
      have hmiddle : ((m :: (sorted ++ rest)).map (·.1)).Nodup := by
        apply ((List.perm_middle.map _).nodup_iff).mp h
      have hm : m.1 ∉ sorted.map (·.1) := by
        intro hmem
        apply (List.nodup_cons.mp hmiddle).1
        rw [List.map_append]
        apply List.mem_append_left _ hmem
      have hput : (insertMember m.1 m.2 sorted ++ rest).Perm (m :: (sorted ++ rest)) :=
        (perm_insertMember m.2 hm).append_right rest
      rw [List.foldl_cons]
      apply (ih (((hput.map _).nodup_iff).mpr hmiddle)).trans
      apply hput.trans List.perm_middle.symm

/-- Sorting members with different keys only changes their order. -/
theorem perm_sortMembers {members : List (String × Json)} (h : (members.map (·.1)).Nodup) :
  (sortMembers members).Perm members
  := @perm_foldl_insertMember members [] h

/-- Sorting members with different keys keeps what stands under each key. -/
theorem lookup_sortMembers {members : List (String × Json)} (h : (members.map (·.1)).Nodup)
    (key : String) :
  (sortMembers members).lookup key = members.lookup key
  := lookup_eq_of_perm (perm_sortMembers h) h key

/-- Ascending keys are different. -/
theorem nodup_keys_of_ascending {members : List (String × Json)} (h : Ascending members) :
  (members.map (·.1)).Nodup
  := by
  rw [List.Nodup, List.pairwise_map]
  apply h.imp
  intro m n hlt
  apply String.ne_of_lt hlt

/-- There is one way only to sort members with different keys. -/
theorem sortMembers_eq_of_perm {members sorted : List (String × Json)}
    (h : sorted.Perm members) (hsorted : Ascending sorted) :
  sortMembers members = sorted
  := by
  have hkeys : (members.map (·.1)).Nodup :=
    (h.map _).nodup_iff.mp (nodup_keys_of_ascending hsorted)
  apply List.Perm.eq_of_pairwise _ (ascending_sortMembers members) hsorted
    ((perm_sortMembers hkeys).trans h.symm)
  intro m n _ _ hmn hnm
  exact absurd hnm (String.lt_asymm hmn)

/-- Ascending members are sorted already. -/
theorem sortMembers_of_ascending {members : List (String × Json)} (h : Ascending members) :
  sortMembers members = members
  := sortMembers_eq_of_perm (List.Perm.refl _) h

/-- Ascending members with the same values under the same keys are the same. -/
theorem eq_of_lookup_eq {members others : List (String × Json)} (hmembers : Ascending members)
    (hothers : Ascending others) (h : ∀ key, members.lookup key = others.lookup key) :
  members = others
  := by
  have hkeys := nodup_keys_of_ascending hmembers
  have hkeys' := nodup_keys_of_ascending hothers
  have hperm : members.Perm others := by
    apply (List.perm_ext_iff_of_nodup hkeys.of_map hkeys'.of_map).mpr
    rintro ⟨key, value⟩
    rw [← lookup_eq_some_iff_mem hkeys, h, lookup_eq_some_iff_mem hkeys']
  rw [← sortMembers_of_ascending hothers]
  symm
  apply sortMembers_eq_of_perm hperm hmembers

/-! ### Sorted values -/

mutual

/-- The value as which a document is read: the members of each object stand in ascending order
of their keys, and of several members with one key the last is kept. -/
def sorted : Json → Json
  | .null => .null
  | .bool b => .bool b
  | .number n => .number n
  | .string s => .string s
  | .array items => .array (sortedItems items)
  | .object members => .ofMembers (sortedMembers members)

/-- The items of an array as which they are read. -/
def sortedItems : List Json → List Json
  | [] => []
  | item :: rest => item.sorted :: sortedItems rest

/-- The members of an object, each with the value as which it is read. -/
def sortedMembers : List (String × Json) → List (String × Json)
  | [] => []
  | (key, value) :: rest => (key, value.sorted) :: sortedMembers rest

end

mutual

/-- The keys of every object in the value ascend. -/
def IsSorted : Json → Prop
  | .null | .bool _ | .number _ | .string _ => True
  | .array items => ItemsSorted items
  | .object members => Ascending members ∧ MembersSorted members

/-- The keys of every object in the items ascend. -/
def ItemsSorted : List Json → Prop
  | [] => True
  | item :: rest => item.IsSorted ∧ ItemsSorted rest

/-- The keys of every object in the values of members ascend. -/
def MembersSorted : List (String × Json) → Prop
  | [] => True
  | (_, value) :: rest => value.IsSorted ∧ MembersSorted rest

end

theorem sortedItems_eq_map (items : List Json) :
  sortedItems items = items.map sorted
  := by
  induction items with
  | nil => rfl
  | cons item rest ih => rw [sortedItems, ih, List.map_cons]

theorem sortedMembers_eq_map (members : List (String × Json)) :
  sortedMembers members = members.map fun m => (m.1, m.2.sorted)
  := by
  induction members with
  | nil => rfl
  | cons m rest ih => rw [sortedMembers, ih, List.map_cons]

mutual

/-- A sorted value is read as itself. -/
theorem sorted_eq_self {v : Json} (h : v.IsSorted) :
  v.sorted = v
  := by
  cases v with
  | null => rfl
  | bool b => rfl
  | number n => rfl
  | string s => rfl
  | array items => rw [sorted, sortedItems_eq_self h]
  | object members =>
      rw [sorted, sortedMembers_eq_self h.2, ofMembers, sortMembers_of_ascending h.1]

theorem sortedItems_eq_self {items : List Json} (h : ItemsSorted items) :
  sortedItems items = items
  := by
  cases items with
  | nil => rfl
  | cons item rest => rw [sortedItems, sorted_eq_self h.1, sortedItems_eq_self h.2]

theorem sortedMembers_eq_self {members : List (String × Json)} (h : MembersSorted members) :
  sortedMembers members = members
  := by
  cases members with
  | nil => rfl
  | cons m rest => rw [sortedMembers, sorted_eq_self h.1, sortedMembers_eq_self h.2]

end

theorem lookup_sortedMembers (members : List (String × Json)) (key : String) :
  (sortedMembers members).lookup key = (members.lookup key).map sorted
  := by
  induction members with
  | nil => rfl
  | cons m rest ih =>
      rw [sortedMembers, List.lookup_cons, List.lookup_cons, ih]
      split
      · rfl
      · rfl

/-- An object whose keys differ is read as one with the same keys, under which stand the
values as which they are read. -/
theorem exists_sorted_object {members : List (String × Json)}
    (h : (members.map (·.1)).Nodup) :
  ∃ others, (Json.object members).sorted = .object others
    ∧ ∀ key, others.lookup key = (members.lookup key).map sorted
  := by
  use sortMembers (sortedMembers members), rfl
  intro key
  rw [lookup_sortMembers, lookup_sortedMembers]
  rw [sortedMembers_eq_map, List.map_map]
  apply h

end Json

end RecordSchema
