import RecordSchema.Proofs.Json.Sorted

/-!
# Values inside values

The values that stand inside a value, at any depth, the value itself included, and how deep arrays
and objects are nested in it. A statement holds of all values when it holds of each value for
whose items and members it holds.
-/

namespace RecordSchema

namespace Json

/-! ### Induction on values -/

/-- A statement holds of all values if it holds of those without others in them, and of each array
and object for whose items and values it holds. -/
@[elab_as_elim]
theorem valueInduction {motive : Json → Prop} (null : motive .null)
    (bool : ∀ b, motive (.bool b)) (number : ∀ n, motive (.number n))
    (string : ∀ s, motive (.string s))
    (array : ∀ items, (∀ item ∈ items, motive item) → motive (.array items))
    (object : ∀ members : List (String × Json), (∀ m ∈ members, motive m.2) →
      motive (.object members)) :
    ∀ v : Json, motive v
  | .null => null
  | .bool b => bool b
  | .number n => number n
  | .string s => string s
  | .array items => array items
      (fun item _ => valueInduction null bool number string array object item)
  | .object members => object members
      (fun m _ => valueInduction null bool number string array object m.2)
termination_by v => sizeOf v
decreasing_by
  · have := List.sizeOf_lt_of_mem ‹_›
    simp only [Json.array.sizeOf_spec]
    omega
  · rename_i hm
    have := List.sizeOf_lt_of_mem hm
    cases m
    simp only [Prod.mk.sizeOf_spec, Json.object.sizeOf_spec] at this ⊢
    omega

/-! ### Values inside -/

/-- A value stands inside another one, or is that one. -/
inductive Inside (w : Json) : Json → Prop
  | self : Inside w w
  | item {items : List Json} {v : Json} (hv : v ∈ items) (h : Inside w v) :
    Inside w (.array items)
  | member {members : List (String × Json)} {m : String × Json} (hm : m ∈ members)
    (h : Inside w m.2) : Inside w (.object members)

theorem inside_array_iff {w : Json} {items : List Json} :
  w.Inside (.array items) ↔ w = .array items ∨ ∃ v ∈ items, w.Inside v
  := by
  constructor
  · intro h
    cases h with
    | self => exact .inl rfl
    | item hv h => exact .inr ⟨_, hv, h⟩
  · rintro (rfl | ⟨v, hv, h⟩)
    · apply Inside.self
    · apply Inside.item hv h

theorem inside_object_iff {w : Json} {members : List (String × Json)} :
  w.Inside (.object members) ↔ w = .object members ∨ ∃ m ∈ members, w.Inside m.2
  := by
  constructor
  · intro h
    cases h with
    | self => exact .inl rfl
    | member hm h => exact .inr ⟨_, hm, h⟩
  · rintro (rfl | ⟨m, hm, h⟩)
    · apply Inside.self
    · apply Inside.member hm h

/-- What stands under a key of an object stands inside it. -/
theorem inside_of_lookup {members : List (String × Json)} {key : String} {value : Json}
    (h : members.lookup key = some value) :
  value.Inside (.object members)
  := Inside.member (mem_of_lookup h) .self

/-- What stands inside a value inside another one stands inside that one. -/
theorem Inside.trans {u v w : Json} (huv : u.Inside v) (hvw : v.Inside w) :
  u.Inside w
  := by
  induction hvw with
  | self => apply huv
  | item hv _ ih => apply Inside.item hv ih
  | member hm _ ih => apply Inside.member hm ih

/-- A statement holds of all values if it holds of those that are no objects, and of each object for
which it holds of all that stands inside its members. -/
@[elab_as_elim]
theorem insideInduction {motive : Json → Prop}
    (atom : ∀ v : Json, v.members? = none → motive v)
    (object : ∀ members : List (String × Json),
      (∀ m ∈ members, ∀ w : Json, w.Inside m.2 → motive w) → motive (.object members)) (v : Json) :
  motive v
  := by
  have hall (v : Json) : ∀ w : Json, w.Inside v → motive w := by
    induction v using valueInduction with
    | null =>
        rintro w ⟨⟩
        apply atom _ rfl
    | bool b =>
        rintro w ⟨⟩
        apply atom _ rfl
    | number n =>
        rintro w ⟨⟩
        apply atom _ rfl
    | string s =>
        rintro w ⟨⟩
        apply atom _ rfl
    | array items ih =>
        intro w hw
        rcases inside_array_iff.mp hw with rfl | ⟨item, hitem, hw⟩
        · apply atom _ rfl
        · apply ih item hitem w hw
    | object members ih =>
        intro w hw
        rcases inside_object_iff.mp hw with rfl | ⟨m, hm, hw⟩
        · apply object members ih
        · apply ih m hm w hw
  apply hall v v .self

/-! ### Sorted values -/

theorem itemsSorted_iff {items : List Json} :
  ItemsSorted items ↔ ∀ v ∈ items, v.IsSorted
  := by
  induction items with
  | nil => simp [ItemsSorted]
  | cons item rest ih => rw [ItemsSorted, ih, List.forall_mem_cons]

theorem membersSorted_iff {members : List (String × Json)} :
  MembersSorted members ↔ ∀ m ∈ members, m.2.IsSorted
  := by
  induction members with
  | nil => simp [MembersSorted]
  | cons m rest ih => rw [MembersSorted, ih, List.forall_mem_cons]

/-- What stands inside a sorted value is sorted. -/
theorem IsSorted.of_inside {v w : Json} (hv : v.IsSorted) (h : w.Inside v) :
  w.IsSorted
  := by
  induction h with
  | self => apply hv
  | item hitem _ ih => apply ih (itemsSorted_iff.mp hv _ hitem)
  | member hm _ ih => apply ih (membersSorted_iff.mp hv.2 _ hm)

theorem mem_of_mem_foldl_insertMember {m : String × Json} {members sorted : List (String × Json)}
    (h : m ∈ members.foldl (fun sorted m => insertMember m.1 m.2 sorted) sorted) :
  m ∈ sorted ∨ m ∈ members
  := by
  induction members generalizing sorted with
  | nil => exact .inl h
  | cons n rest ih =>
      rcases ih h with hm | hm
      · rcases mem_insertMember hm with rfl | hm
        · exact .inr List.mem_cons_self
        · exact .inl hm
      · exact .inr (.tail n hm)

/-- Sorting makes no new members. -/
theorem mem_of_mem_sortMembers {m : String × Json} {members : List (String × Json)}
    (h : m ∈ sortMembers members) :
  m ∈ members
  := (mem_of_mem_foldl_insertMember h).resolve_left List.not_mem_nil

/-- A document is read as a sorted value. -/
theorem isSorted_sorted (v : Json) :
  v.sorted.IsSorted
  := by
  induction v using valueInduction with
  | null => trivial
  | bool b => trivial
  | number n => trivial
  | string s => trivial
  | array items ih =>
      rw [sorted, sortedItems_eq_map]
      apply itemsSorted_iff.mpr
      simpa using ih
  | object members ih =>
      rw [sorted, sortedMembers_eq_map, ofMembers]
      use ascending_sortMembers _
      apply membersSorted_iff.mpr
      intro m hm
      obtain ⟨n, hn, rfl⟩ := List.mem_map.mp (mem_of_mem_sortMembers hm)
      apply ih n hn

/-! ### Whole numbers -/

/-- All numbers inside the value are whole numbers. -/
def IsWhole (v : Json) : Prop := ∀ x, ¬ (Json.number (.double x)).Inside v

@[simp]
theorem isWhole_null :
  Json.null.IsWhole
  := by
  rintro x ⟨⟩

@[simp]
theorem isWhole_bool (b : Bool) :
  (Json.bool b).IsWhole
  := by
  rintro x ⟨⟩

@[simp]
theorem isWhole_integer {n : Int} (fits : Fits n) :
  (Json.number (.integer n fits)).IsWhole
  := by
  rintro x ⟨⟩

@[simp]
theorem isWhole_string (s : String) :
  (Json.string s).IsWhole
  := by
  rintro x ⟨⟩

@[simp]
theorem isWhole_array_iff {items : List Json} :
  (Json.array items).IsWhole ↔ ∀ v ∈ items, v.IsWhole
  := by
  simp only [IsWhole, inside_array_iff]
  constructor
  · intro h v hv x hx
    apply h x (.inr ⟨v, hv, hx⟩)
  · rintro h x (hx | ⟨v, hv, hx⟩)
    · cases hx
    · apply h v hv x hx

@[simp]
theorem isWhole_object_iff {members : List (String × Json)} :
  (Json.object members).IsWhole ↔ ∀ m ∈ members, m.2.IsWhole
  := by
  simp only [IsWhole, inside_object_iff]
  constructor
  · intro h m hm x hx
    apply h x (.inr ⟨m, hm, hx⟩)
  · rintro h x (hx | ⟨m, hm, hx⟩)
    · cases hx
    · apply h m hm x hx

/-! ### Nesting -/

mutual

/-- The greatest number of arrays and objects inside each other, the value itself included. -/
def nesting : Json → Nat
  | .null | .bool _ | .number _ | .string _ => 0
  | .array items => nestingItems items + 1
  | .object members => nestingMembers members + 1

/-- The greatest nesting of the items of an array. -/
def nestingItems : List Json → Nat
  | [] => 0
  | item :: rest => max item.nesting (nestingItems rest)

/-- The greatest nesting of the values of members. -/
def nestingMembers : List (String × Json) → Nat
  | [] => 0
  | (_, value) :: rest => max value.nesting (nestingMembers rest)

end

theorem nesting_array_le_iff {items : List Json} {n : Nat} :
  (Json.array items).nesting ≤ n + 1 ↔ ∀ item ∈ items, item.nesting ≤ n
  := by
  rw [nesting, Nat.add_le_add_iff_right]
  induction items with
  | nil => simp [nestingItems]
  | cons item rest ih => rw [nestingItems, Nat.max_le, ih, List.forall_mem_cons]

theorem nesting_object_le_iff {members : List (String × Json)} {n : Nat} :
  (Json.object members).nesting ≤ n + 1 ↔ ∀ m ∈ members, m.2.nesting ≤ n
  := by
  rw [nesting, Nat.add_le_add_iff_right]
  induction members with
  | nil => simp [nestingMembers]
  | cons m rest ih => rw [nestingMembers, Nat.max_le, ih, List.forall_mem_cons]

end Json

end RecordSchema
