import Mathlib.Data.List.Induction
import Mathlib.Data.List.Nodup
import Mathlib.Data.List.Perm.Basic
import Mathlib.Logic.Function.Basic

/-!
# Occurrences of entries

The different entries of a list stand in a definite order, that in which each of them first occurs
there. Entries that are exchanged for others one to one keep this order. Where entries have keys
that differ, each of them is found by its key.
-/

namespace RecordSchema

/-! ### Entries with keys -/

/-- Where keys differ, an entry is found by its key. -/
theorem find?_key_eq_some_iff {α : Type} {key : α → String} {entries : List α}
    (h : (entries.map key).Nodup) {k : String} {x : α} :
  entries.find? (key · == k) = some x ↔ x ∈ entries ∧ key x = k
  := by
  constructor
  · intro hx
    exact ⟨List.mem_of_find?_eq_some hx, by simpa using List.find?_some hx⟩
  · rintro ⟨hx, rfl⟩
    cases hfind : entries.find? (key · == key x) with
    | none =>
        have hne := List.find?_eq_none.mp hfind x hx
        simp at hne
    | some y =>
        have hy : y ∈ entries := List.mem_of_find?_eq_some hfind
        have hkey : key y = key x := by simpa using List.find?_some hfind
        rw [List.inj_on_of_nodup_map h hy hx hkey]

/-! ### First occurrences -/

/-- The entries of a list, each of them once, in the order in which they first occur in it. -/
structure FirstOccurrences (entries distinct : List String) : Prop where
  mem : ∀ x, x ∈ distinct ↔ x ∈ entries
  once : distinct.Nodup
  ordered : distinct.Pairwise fun x y => entries.idxOf x < entries.idxOf y

/-- One more entry of a list is a new one, or repeats an earlier one. -/
theorem eraseDups_concat (names : List String) (name : String) :
  (names ++ [name]).eraseDups
    = if name ∈ names then names.eraseDups else names.eraseDups ++ [name]
  := by
  rw [List.eraseDups_append, List.removeAll]
  split
  · rename_i h
    simp [h]
  · rename_i h
    simp [h, List.eraseDups_cons]

/-- It does not matter whether repeated entries are left out before or after all entries are
exchanged one to one. -/
theorem eraseDups_map {f : String → String} (hf : Function.Injective f) (entries : List String) :
  (entries.map f).eraseDups = entries.eraseDups.map f
  := by
  induction entries using List.reverseRecOn with
  | nil => rfl
  | append_singleton entries x ih =>
      rw [List.map_append, List.map_singleton, eraseDups_concat, eraseDups_concat, ih]
      simp only [List.mem_map_of_injective hf]
      split
      · rfl
      · rw [List.map_append, List.map_singleton]

/-- Without its repeated entries a list has its entries in the order in which they first occur. -/
theorem firstOccurrences_eraseDups (entries : List String) :
  FirstOccurrences entries entries.eraseDups
  := by
  have hordered : entries.eraseDups.Pairwise
      fun x y => entries.idxOf x < entries.idxOf y := by
    induction entries using List.reverseRecOn with
    | nil => apply List.Pairwise.nil
    | append_singleton entries x ih =>
        have hbefore : entries.eraseDups.Pairwise
            fun y z => (entries ++ [x]).idxOf y < (entries ++ [x]).idxOf z := by
          apply ih.imp_of_mem
          intro y z hy hz hlt
          rw [List.mem_eraseDups] at hy hz
          rwa [List.idxOf_append_of_mem hy, List.idxOf_append_of_mem hz]
        rw [eraseDups_concat]
        split
        · apply hbefore
        · rename_i hx
          apply List.pairwise_append.mpr ⟨hbefore, List.pairwise_singleton _ _, ?_⟩
          intro y hy z hz
          obtain rfl := List.mem_singleton.mp hz
          rw [List.mem_eraseDups] at hy
          rw [List.idxOf_append_of_mem hy, List.idxOf_append_of_notMem hx]
          apply Nat.lt_add_right
          apply List.idxOf_lt_length_of_mem hy
  constructor
  · intro x
    apply List.mem_eraseDups
  · apply hordered.imp
    rintro x _ hlt rfl
    exact absurd hlt (Nat.lt_irrefl _)
  · apply hordered

/-- The order of a list only matters for the order in which its different entries stand. -/
theorem perm_eraseDups {entries others : List String} (h : entries.Perm others) :
  entries.eraseDups.Perm others.eraseDups
  := by
  apply (List.perm_ext_iff_of_nodup (firstOccurrences_eraseDups _).once
    (firstOccurrences_eraseDups _).once).mpr
  intro x
  rw [List.mem_eraseDups, List.mem_eraseDups, h.mem_iff]

/-- An entry that repeats an earlier one makes no difference. -/
theorem eraseDups_append_cons_of_mem {before : List String} {x : String} (h : x ∈ before)
    (rest : List String) :
  (before ++ x :: rest).eraseDups = (before ++ rest).eraseDups
  := by
  induction rest using List.reverseRecOn with
  | nil => rw [eraseDups_concat, if_pos h, List.append_nil]
  | append_singleton rest y ih =>
      have hmem : y ∈ before ++ x :: rest ↔ y ∈ before ++ rest := by
        rw [List.mem_append, List.mem_cons, List.mem_append]
        constructor
        · rintro (hy | rfl | hy)
          · exact .inl hy
          · exact .inl h
          · exact .inr hy
        · rintro (hy | hy)
          · exact .inl hy
          · exact .inr (.inr hy)
      rw [← List.cons_append, ← List.append_assoc, ← List.append_assoc, eraseDups_concat,
        eraseDups_concat, ih]
      simp only [hmem]

end RecordSchema
