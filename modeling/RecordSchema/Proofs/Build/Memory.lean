import RecordSchema.Build.Session
import Mathlib.Logic.Function.Basic
import Mathlib.Tactic.Use

/-!
# Memories of nodes

A memory keeps the shared node of each place, once the place has been visited. The first visit
makes the node, which takes the next number; later visits change nothing. However places are
visited, those that have nodes are the visited ones, a node stays where it is, and the nodes of
different places have different numbers.
-/

namespace RecordSchema

/-- The shared nodes of places, and the number of the next node. -/
structure Memory (Place : Type) where
  node? : Place → Option SharedObject
  nextNode : Nat

namespace Memory

variable {Place : Type} (schema : Place → ObjectSchema)

/-! ### Numbers -/

/-- The nodes of a memory have the schemas of their places and different numbers, from a first
one up to the next one. -/
structure Numbered (first : Nat) (memory : Memory Place) : Prop where
  schema_eq : ∀ {place shared}, memory.node? place = some shared →
    shared.schema = schema place
  first_le : ∀ {place shared}, memory.node? place = some shared → first ≤ shared.node
  lt_nextNode : ∀ {place shared}, memory.node? place = some shared →
    shared.node < memory.nextNode
  place_eq : ∀ {place other shared same}, memory.node? place = some shared →
    memory.node? other = some same → shared.node = same.node → place = other
  first_le_nextNode : first ≤ memory.nextNode

/-- A memory without nodes is numbered from its next node on. -/
theorem numbered_of_none {memory : Memory Place} (h : ∀ place, memory.node? place = none) :
  memory.Numbered schema memory.nextNode
  := by
  constructor
  · intro place shared hplace
    rw [h] at hplace
    cases hplace
  · intro place shared hplace
    rw [h] at hplace
    cases hplace
  · intro place shared hplace
    rw [h] at hplace
    cases hplace
  · intro place other shared same hplace
    rw [h] at hplace
    cases hplace
  · apply Nat.le_refl

/-- Two places have the same node exactly when they are the same place. -/
theorem Numbered.node_eq_iff {first : Nat} {memory : Memory Place}
    (h : memory.Numbered schema first) {place other : Place} {shared same : SharedObject}
    (hshared : memory.node? place = some shared) (hsame : memory.node? other = some same) :
  shared.node = same.node ↔ place = other
  := by
  constructor
  · apply h.place_eq hshared hsame
  · rintro rfl
    rw [hshared] at hsame
    rw [Option.some.inj hsame]

/-! ### Parts -/

section

variable {Owner : Type} (memory : Memory (Owner × Place)) (owner : Owner)

/-- The part of a memory with the places of one owner. -/
def part : Memory Place := ⟨fun place => memory.node? (owner, place), memory.nextNode⟩

/-- The memory with the part of one owner exchanged. -/
def withPart [DecidableEq Owner] (changed : Memory Place) : Memory (Owner × Place) where
  node? := fun place =>
    if place.1 = owner then changed.node? place.2 else memory.node? place
  nextNode := changed.nextNode

theorem withPart_part [DecidableEq Owner] :
  memory.withPart owner (memory.part owner) = memory
  := by
  rw [withPart]
  congr 1
  funext place
  split
  · rename_i h
    rw [← h]
    rfl
  · rfl

end

/-! ### Visits -/

variable [DecidableEq Place]

/-- The memory after a visit, where the first node of a place has the schema of the place. -/
def visit (memory : Memory Place) (place : Place) : Memory Place :=
  match memory.node? place with
  | some _ => memory
  | none =>
    ⟨Function.update memory.node? place (some ⟨memory.nextNode, schema place⟩),
      memory.nextNode + 1⟩

/-- The memory after visits, one after the other. -/
def after (memory : Memory Place) (places : List Place) : Memory Place :=
  places.foldl (visit schema) memory

/-! ### One visit -/

section

variable (memory : Memory Place) (place : Place)

theorem visit_of_some {shared : SharedObject} (h : memory.node? place = some shared) :
  memory.visit schema place = memory
  := by
  rw [visit, h]

theorem visit_of_none (h : memory.node? place = none) :
  memory.visit schema place
    = ⟨Function.update memory.node? place (some ⟨memory.nextNode, schema place⟩),
        memory.nextNode + 1⟩
  := by
  rw [visit, h]

/-- A visit leaves the other places as they are. -/
theorem node?_visit_of_ne {other : Place} (h : other ≠ place) :
  (memory.visit schema place).node? other = memory.node? other
  := by
  cases hplace : memory.node? place with
  | some shared => rw [visit_of_some schema memory place hplace]
  | none =>
      rw [visit_of_none schema memory place hplace]
      apply Function.update_of_ne h

/-- A visited place has a node. -/
theorem exists_node?_visit :
  ∃ shared, (memory.visit schema place).node? place = some shared
  := by
  cases hplace : memory.node? place with
  | some shared =>
      use shared
      rw [visit_of_some schema memory place hplace, hplace]
  | none =>
      use ⟨memory.nextNode, schema place⟩
      rw [visit_of_none schema memory place hplace]
      apply Function.update_self

/-- A node stays where it is. -/
theorem node?_visit_of_some {other : Place} {shared : SharedObject}
    (h : memory.node? other = some shared) :
  (memory.visit schema place).node? other = some shared
  := by
  by_cases hother : other = place
  · subst hother
    rw [visit_of_some schema memory other h, h]
  · rw [node?_visit_of_ne schema memory place hother, h]

/-- The places that have nodes after a visit are the visited one and those from before. -/
theorem isSome_node?_visit (other : Place) :
  ((memory.visit schema place).node? other).isSome = true
    ↔ other = place ∨ (memory.node? other).isSome = true
  := by
  by_cases hother : other = place
  · obtain ⟨shared, hshared⟩ := exists_node?_visit schema memory place
    subst hother
    simp [hshared]
  · rw [node?_visit_of_ne schema memory place hother]
    simp [hother]

/-- A node after a visit was there before, or it is the next one, made at a place that had
none. -/
theorem node?_visit_cases {other : Place} {shared : SharedObject}
    (hshared : (memory.visit schema place).node? other = some shared) :
  memory.node? other = some shared
    ∨ other = place ∧ shared = ⟨memory.nextNode, schema place⟩
      ∧ (memory.visit schema place).nextNode = memory.nextNode + 1
  := by
  cases hplace : memory.node? place with
  | some former =>
      rw [visit_of_some schema memory place hplace] at hshared
      left
      apply hshared
  | none =>
      by_cases hother : other = place
      · right
        subst hother
        rw [visit_of_none schema memory other hplace] at hshared ⊢
        dsimp only at hshared
        rw [Function.update_self] at hshared
        use rfl, (Option.some.inj hshared).symm
      · left
        rw [node?_visit_of_ne schema memory place hother] at hshared
        apply hshared

/-- A visit does not take numbers back. -/
theorem nextNode_le_visit :
  memory.nextNode ≤ (memory.visit schema place).nextNode
  := by
  cases hplace : memory.node? place with
  | some former =>
      apply Nat.le_of_eq
      rw [visit_of_some schema memory place hplace]
  | none =>
      rw [visit_of_none schema memory place hplace]
      apply Nat.le_succ

end

/-! ### Runs of visits -/

@[simp]
theorem after_nil (memory : Memory Place) :
  memory.after schema [] = memory
  := rfl

@[simp]
theorem after_cons (memory : Memory Place) (place : Place) (places : List Place) :
  memory.after schema (place :: places) = (memory.visit schema place).after schema places
  := rfl

theorem after_append (memory : Memory Place) (places more : List Place) :
  memory.after schema (places ++ more) = (memory.after schema places).after schema more
  := List.foldl_append

/-- A node stays where it is, whatever is visited. -/
theorem node?_after_of_some {memory : Memory Place} {place : Place} {shared : SharedObject}
    (h : memory.node? place = some shared) (places : List Place) :
  (memory.after schema places).node? place = some shared
  := by
  induction places generalizing memory with
  | nil => apply h
  | cons visited places ih =>
      apply ih
      apply node?_visit_of_some schema memory visited h

/-- The places that have nodes after visits are the visited ones and those from before. -/
theorem isSome_node?_after (memory : Memory Place) (places : List Place) (place : Place) :
  ((memory.after schema places).node? place).isSome = true
    ↔ place ∈ places ∨ (memory.node? place).isSome = true
  := by
  induction places generalizing memory with
  | nil => simp
  | cons visited places ih =>
      rw [after_cons, ih, isSome_node?_visit, List.mem_cons, or_left_comm, or_assoc]

/-! ### Numbers after visits -/

namespace Numbered

variable {schema} {first : Nat} {memory : Memory Place} (h : memory.Numbered schema first)

include h

/-- A visit keeps a memory numbered. -/
theorem visit (place : Place) :
  (memory.visit schema place).Numbered schema first
  := by
  have hnext := nextNode_le_visit schema memory place
  constructor
  · intro other shared hshared
    rcases node?_visit_cases schema memory place hshared with hshared | ⟨rfl, rfl, -⟩
    · apply h.schema_eq hshared
    · rfl
  · intro other shared hshared
    rcases node?_visit_cases schema memory place hshared with hshared | ⟨rfl, rfl, -⟩
    · apply h.first_le hshared
    · apply h.first_le_nextNode
  · intro other shared hshared
    rcases node?_visit_cases schema memory place hshared with hshared | ⟨rfl, rfl, hnext⟩
    · apply Nat.lt_of_lt_of_le (h.lt_nextNode hshared) hnext
    · rw [hnext]
      apply Nat.lt_succ_self
  · intro other another shared same hshared hsame hnode
    rcases node?_visit_cases schema memory place hshared with hformer | ⟨hother, rfl, -⟩
    · rcases node?_visit_cases schema memory place hsame with hformer' | ⟨-, rfl, -⟩
      · apply h.place_eq hformer hformer' hnode
      · exact absurd hnode (Nat.ne_of_lt (h.lt_nextNode hformer))
    · rcases node?_visit_cases schema memory place hsame with hformer' | ⟨hanother, -, -⟩
      · exact absurd hnode (Nat.ne_of_gt (h.lt_nextNode hformer'))
      · rw [hother, hanother]
  · apply Nat.le_trans h.first_le_nextNode hnext

/-- Visits keep a memory numbered. -/
theorem after (places : List Place) :
  (memory.after schema places).Numbered schema first
  := by
  induction places generalizing memory with
  | nil => apply h
  | cons place places ih => apply ih (h.visit place)

end Numbered

section

variable {Owner : Type} [DecidableEq Owner] (memory : Memory (Owner × Place)) (owner : Owner)

/-- A visit to the part of one owner is a visit to its place in the whole memory. -/
theorem withPart_visit (place : Place) :
  memory.withPart owner ((memory.part owner).visit schema place)
    = memory.visit (fun place => schema place.2) (owner, place)
  := by
  cases h : memory.node? (owner, place) with
  | some shared =>
      rw [visit_of_some _ memory _ h, visit_of_some _ _ place h, withPart_part]
  | none =>
      rw [visit_of_none _ memory _ h, visit_of_none _ _ place h, withPart]
      congr 1
      funext other
      obtain ⟨another, other⟩ := other
      by_cases howner : another = owner
      · subst howner
        by_cases hother : other = place
        · subst hother
          simp [part]
        · have hne : (another, other) ≠ (another, place) := by simp [hother]
          rw [if_pos rfl, Function.update_of_ne hne]
          apply Function.update_of_ne hother
      · have hne : (another, other) ≠ (owner, place) := by simp [howner]
        rw [if_neg howner, Function.update_of_ne hne]

end

end Memory

end RecordSchema
