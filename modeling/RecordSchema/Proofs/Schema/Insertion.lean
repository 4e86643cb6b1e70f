import RecordSchema.Proofs.Schema.Representative
import RecordSchema.Schema.Set

/-!
# Inserting schemas into sets

What a set holds after any schemas have been inserted into the empty one: of equal schemas the one
that was inserted first, in the order of insertion. An insertion changes the set exactly when no
equal schema was inserted before, and the members of a set, inserted again, give the same set.
-/

namespace RecordSchema

/-- A schema is equal to one of a list. -/
def HasEqual (schemas : List Schema) (s : Schema) : Prop := ∃ t ∈ schemas, t.equal s = true

/-- The schemas before which no equal schema stands, in their order. -/
def firstSchemas (schemas : List Schema) : List Schema :=
  schemas.zipIdx.filterMap fun (s, i) => if (schemas.take i).any (·.equal s) then none else some s

variable {schemas before : List Schema} {s t : Schema}

theorem hasEqual_iff_any :
  HasEqual schemas s ↔ schemas.any (·.equal s) = true
  := List.any_eq_true.symm

theorem HasEqual.congr (h : HasEqual schemas s) (hst : s.equal t = true) :
  HasEqual schemas t
  := by
  obtain ⟨u, hu, hus⟩ := h
  exact ⟨u, hu, Schema.equal_equivalence.trans hus hst⟩

/-! ### First schemas -/

/-- A schema behind others is a first one exactly when it is equal to none of them. -/
theorem firstSchemas_concat (before : List Schema) (s : Schema) :
  firstSchemas (before ++ [s])
    = firstSchemas before ++ if before.any (·.equal s) then [] else [s]
  := by
  rw [firstSchemas, List.zipIdx_append, List.filterMap_append]
  congr 1
  · apply List.filterMap_congr
    rintro ⟨t, i⟩ hmem
    have hi : i < before.length := (List.mem_zipIdx' hmem).1
    dsimp only
    rw [List.take_append_of_le_length hi.le]
  · rw [List.zipIdx_singleton, Nat.zero_add]
    by_cases h : before.any (·.equal s) = true
    · rw [List.filterMap_cons_none, if_pos h, List.filterMap_nil]
      simpa using h
    · rw [List.filterMap_cons_some, if_neg h, List.filterMap_nil]
      simpa using h

theorem firstSchemas_sublist (schemas : List Schema) :
  (firstSchemas schemas).Sublist schemas
  := by
  induction schemas using List.reverseRecOn with
  | nil => apply List.Sublist.refl
  | append_singleton before s ih =>
      rw [firstSchemas_concat]
      apply ih.append
      split
      · apply List.nil_sublist
      · apply List.Sublist.refl

/-- Every schema is equal to a first one. -/
theorem hasEqual_firstSchemas_iff :
  HasEqual (firstSchemas schemas) s ↔ HasEqual schemas s
  := by
  constructor
  · rintro ⟨t, ht, hts⟩
    exact ⟨t, (firstSchemas_sublist schemas).mem ht, hts⟩
  · induction schemas using List.reverseRecOn with
    | nil => exact id
    | append_singleton before u ih =>
        rintro ⟨t, ht, hts⟩
        rw [firstSchemas_concat]
        rcases List.mem_append.mp ht with ht | ht
        · obtain ⟨v, hv, hvs⟩ := ih ⟨t, ht, hts⟩
          exact ⟨v, List.mem_append_left _ hv, hvs⟩
        · obtain rfl := List.mem_singleton.mp ht
          by_cases hbefore : before.any (·.equal t) = true
          · obtain ⟨v, hv, hvs⟩ := ih ((hasEqual_iff_any.mpr hbefore).congr hts)
            exact ⟨v, List.mem_append_left _ hv, hvs⟩
          · rw [if_neg hbefore]
            exact ⟨t, List.mem_append_right _ List.mem_cons_self, hts⟩

/-- No two first schemas are equal. -/
theorem pairwise_firstSchemas (schemas : List Schema) :
  (firstSchemas schemas).Pairwise fun s t => s.equal t = false
  := by
  induction schemas using List.reverseRecOn with
  | nil => apply List.Pairwise.nil
  | append_singleton before s ih =>
      rw [firstSchemas_concat]
      split
      · rw [List.append_nil]
        apply ih
      · rename_i hnew
        rw [← hasEqual_iff_any] at hnew
        apply List.pairwise_append.mpr
        refine ⟨ih, List.pairwise_singleton _ _, ?_⟩
        intro t ht u hu
        obtain rfl := List.mem_singleton.mp hu
        apply eq_false_of_ne_true
        intro hequal
        apply hnew (hasEqual_firstSchemas_iff.mp ⟨t, ht, hequal⟩)

/-- A first schema is the first one of all that are equal to it. -/
theorem find?_of_mem_firstSchemas (h : t ∈ firstSchemas schemas) :
  schemas.find? (·.equal t) = some t
  := by
  induction schemas using List.reverseRecOn with
  | nil => cases h
  | append_singleton before s ih =>
      rw [firstSchemas_concat] at h
      rw [List.find?_append]
      rcases List.mem_append.mp h with h | h
      · rw [ih h, Option.some_or]
      · split at h
        · cases h
        · rename_i hnew
          obtain rfl := List.mem_singleton.mp h
          have hnone : before.find? (·.equal t) = none := by
            simpa using hnew
          have hself : t.equal t = true := Schema.equal_equivalence.refl t
          rw [hnone, Option.none_or, List.find?_singleton, hself]
          rfl

/-- Schemas of which no two are equal are all first ones. -/
theorem firstSchemas_of_pairwise (h : schemas.Pairwise fun s t => s.equal t = false) :
  firstSchemas schemas = schemas
  := by
  induction schemas using List.reverseRecOn with
  | nil => rfl
  | append_singleton before s ih =>
      obtain ⟨hbefore, -, hs⟩ := List.pairwise_append.mp h
      have hnew : ¬ before.any (·.equal s) = true := by
        rw [← hasEqual_iff_any]
        rintro ⟨t, ht, hequal⟩
        rw [hs t ht s List.mem_cons_self] at hequal
        cases hequal
      rw [firstSchemas_concat, ih hbefore, if_neg hnew]

/-! ### Sets -/

namespace SchemaSet

theorem ofList_concat (before : List Schema) (s : Schema) :
  ofList (before ++ [s]) = (ofList before).insert s
  := by
  rw [ofList, List.foldl_append]
  rfl

theorem contains_iff {set : SchemaSet} :
  set.contains s = true ↔ HasEqual set.members s
  := hasEqual_iff_any.symm

/-- A schema is refused exactly when it is equal to a member. -/
theorem refused_iff {set : SchemaSet} :
  (set.insertNew s).1 = false ↔ HasEqual set.members s
  := by
  rw [← contains_iff]
  cases h : set.contains s with
  | true => simp [insertNew_of_contains h]
  | false => simp [insertNew_of_not_contains h]

/-- The members of the set of a list are its first schemas. -/
theorem members_ofList (schemas : List Schema) :
  (ofList schemas).members = firstSchemas schemas
  := by
  induction schemas using List.reverseRecOn with
  | nil => rfl
  | append_singleton before s ih =>
      have hcontains : (ofList before).contains s = true ↔ before.any (·.equal s) = true := by
        rw [contains_iff, ih, hasEqual_firstSchemas_iff, hasEqual_iff_any]
      rw [ofList_concat, firstSchemas_concat, insert]
      by_cases h : before.any (·.equal s) = true
      · rw [insertNew_of_contains (hcontains.mpr h), if_pos h, ih, List.append_nil]
      · have hnew : (ofList before).contains s = false := Bool.eq_false_iff.mpr (mt hcontains.mp h)
        rw [insertNew_of_not_contains hnew, if_neg h, ih]

/-- A set is what has been collected of schemas that were inserted one by one. -/
structure Collects (set : SchemaSet) (schemas : List Schema) : Prop where
  /-- The members are the schemas before which no equal one was inserted, in the order of
  insertion. -/
  members : set.members = firstSchemas schemas
  /-- No two members are equal. -/
  distinct : set.members.Pairwise fun s t => s.equal t = false
  /-- A schema is equal to a member exactly when it is equal to an inserted one. -/
  hasEqual_iff : ∀ s, HasEqual set.members s ↔ HasEqual schemas s
  /-- Of all inserted schemas equal to it, a member is the one that was inserted first. -/
  first : ∀ t ∈ set.members, schemas.find? (·.equal t) = some t
  /-- Members stand in the order of insertion. -/
  ordered : set.members.Sublist schemas
  /-- A schema that is equal to an inserted one is not added. -/
  known : ∀ s, HasEqual schemas s → set.insertNew s = (false, set)
  /-- Another one is added behind all members. -/
  new : ∀ s, ¬ HasEqual schemas s → set.insertNew s = (true, ⟨set.members ++ [s]⟩)
  /-- The members, inserted again, give the same set. -/
  again : ofList set.members = set
  /-- What is found under an identifier is the first member that has it. -/
  found : ∀ id s, set.get? id = some s ↔ s.id? = some id ∧ ∃ before after,
    set.members = before ++ s :: after ∧ ∀ t ∈ before, t.id? ≠ some id
  /-- Nothing is found under an identifier that no member has. -/
  missing : ∀ id, set.get? id = none ↔ ∀ t ∈ set.members, t.id? ≠ some id

/-- The set of a list collects its schemas. -/
theorem collects_ofList (schemas : List Schema) :
  (ofList schemas).Collects schemas
  := by
  have hmembers := members_ofList schemas
  have hequal (s : Schema) : HasEqual (ofList schemas).members s ↔ HasEqual schemas s := by
    rw [hmembers, hasEqual_firstSchemas_iff]
  constructor
  case members => exact hmembers
  case distinct =>
    rw [hmembers]
    apply pairwise_firstSchemas
  case hasEqual_iff => exact hequal
  case first =>
    intro t ht
    rw [hmembers] at ht
    apply find?_of_mem_firstSchemas ht
  case ordered =>
    rw [hmembers]
    apply firstSchemas_sublist
  case known =>
    intro s hs
    apply insertNew_of_contains
    apply contains_iff.mpr ((hequal s).mpr hs)
  case new =>
    intro s hs
    apply insertNew_of_not_contains
    rw [Bool.eq_false_iff, ne_eq, contains_iff, hequal]
    apply hs
  case again =>
    have hpairwise := pairwise_firstSchemas schemas
    have hagain : (ofList (ofList schemas).members).members = (ofList schemas).members := by
      rw [members_ofList, hmembers, firstSchemas_of_pairwise hpairwise]
    exact congrArg SchemaSet.mk hagain
  case found =>
    intro id s
    rw [get?, List.find?_eq_some_iff_append]
    simp
  case missing =>
    intro id
    rw [get?, List.find?_eq_none]
    simp

end SchemaSet

/-- Equality of schemas is an equivalence, and a set into which schemas are inserted one by one, or
that is made of them at once, collects them. -/
theorem collects_inserted :
  (Equivalence fun s t : Schema => s.equal t = true)
    ∧ ∀ schemas : List Schema,
      (schemas.foldl (fun set s => (set.insertNew s).2) ({} : SchemaSet)).Collects schemas
        ∧ (SchemaSet.ofList schemas).Collects schemas
  := by
  use Schema.equal_equivalence
  intro schemas
  exact ⟨SchemaSet.collects_ofList schemas, SchemaSet.collects_ofList schemas⟩

end RecordSchema
