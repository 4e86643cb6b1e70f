import RecordSchema.Proofs.Source.Records
import Mathlib.Data.List.Pairwise

/-!
# Members of records

The record that members give does not depend on their order, on members without a slot and on
members that store what the record holds anyway. Where a slot is given twice, where a required
slot is missing and where a slot refuses its content, members give no record.
-/

namespace RecordSchema

namespace Json

variable {α β γ : Type}

/-- Steps that may be taken in either order may be taken in any order. -/
theorem foldlM_perm {f : α → β → Option α}
    (hcomm : ∀ state a b, (f state a).bind (f · b) = (f state b).bind (f · a))
    {l l' : List β} (h : l.Perm l') (state : α) :
  l.foldlM f state = l'.foldlM f state
  := by
  induction h generalizing state with
  | nil => rfl
  | cons b _ ih => simp only [List.foldlM_cons, ih]
  | swap a b l =>
      have h := congrArg (Option.bind · (List.foldlM f · l)) (hcomm state b a)
      simpa only [List.foldlM_cons, Option.bind_eq_bind, Option.bind_assoc] using h
  | trans _ _ ih ih' => rw [ih, ih']

/-! ### Independent slots -/

/-- The contents of two slots may be stored in either order. -/
def Slot.Independent (nesting : Nat) (a b : Slot α) : Prop :=
  ∀ s t f g, taken a.read nesting s = some f → taken b.read nesting t = some g →
    ∀ record, f (g record) = g (f record)

instance {nesting : Nat} : Std.Symm (@Slot.Independent α nesting) where
  symm _ _ h s t f g hf hg record := (h t s g f hg hf record).symm

/-- A slot takes the content that its reader takes, and stores it. -/
theorem Slot.taken_make (key : String) (required : Bool) (reader : Reader β)
    (store : β → α → α) (nesting : Nat) (s : Source) :
  taken (Slot.make key required reader store).read nesting s
    = (taken reader nesting s).map store
  := by
  simp only [taken, Slot.make, toOption_map, Option.map_map]
  rfl

/-- Slots are independent if what they store is stored in different places. -/
theorem Slot.independent_make {store : β → α → α} {store' : γ → α → α}
    (h : ∀ b c record, store b (store' c record) = store' c (store b record)) {nesting : Nat}
    {key key' : String} {required required' : Bool} {reader : Reader β} {reader' : Reader γ} :
  Independent nesting (make key required reader store) (make key' required' reader' store')
  := by
  intro s t f g hf hg record
  rw [taken_make, Option.map_eq_some_iff] at hf hg
  obtain ⟨b, -, rfl⟩ := hf
  obtain ⟨c, -, rfl⟩ := hg
  apply h

namespace RecordFormat

variable {format : RecordFormat α} {nesting : Nat}

/-! ### Single members -/

/-- A member whose key stands for no string is refused. -/
theorem fill_of_none {m : Member Source} (h : m.key? = none) (state : Finset String × α) :
  format.fill nesting state m = none
  := by
  rw [fill, h]
  rfl

/-- A member without a slot leaves the record as it is. -/
theorem fill_of_foreign {m : Member Source} {key : String} (h : m.key? = some key)
    (hslot : format.slot? key = none) (state : Finset String × α) :
  format.fill nesting state m = some state
  := by
  simp only [fill, h, Option.bind_some, hslot]

/-- A member with a slot changes the record, unless the slot has been given. -/
theorem fill_of_slot {m : Member Source} {key : String} {slot : Slot α} (h : m.key? = some key)
    (hslot : format.slot? key = some slot) (state : Finset String × α) :
  format.fill nesting state m
    = if key ∈ state.1 then none
      else (taken slot.read nesting m.value).map fun change =>
        (insert key state.1, change state.2)
  := by
  simp only [fill, h, Option.bind_some, hslot]

/-- A member is refused where its slot refuses its content. -/
theorem fill_of_refused {m : Member Source} {key : String} {slot : Slot α}
    (h : m.key? = some key) (hslot : format.slot? key = some slot)
    (hrefused : taken slot.read nesting m.value = none) (state : Finset String × α) :
  format.fill nesting state m = none
  := by
  rw [fill_of_slot h hslot, hrefused, Option.map_none, ite_self]

theorem mem_slots_of_slot? {key : String} {slot : Slot α} (h : format.slot? key = some slot) :
  slot ∈ format.slots ∧ slot.key = key
  := ⟨List.mem_of_find?_eq_some h, by simpa using List.find?_some h⟩

/-- Two members may be taken in either order. -/
theorem fill_comm (hformat : format.slots.Pairwise (Slot.Independent nesting))
    (state : Finset String × α) (a b : Member Source) :
  (format.fill nesting state a).bind (format.fill nesting · b)
    = (format.fill nesting state b).bind (format.fill nesting · a)
  := by
  cases ha : a.key? with
  | none =>
      simp only [fill_of_none ha, Option.bind_none]
      exact (Option.bind_fun_none _).symm
  | some key =>
  cases hb : b.key? with
  | none =>
      simp only [fill_of_none hb, Option.bind_none]
      exact Option.bind_fun_none _
  | some key' =>
  cases hslot : format.slot? key with
  | none =>
      simp only [fill_of_foreign ha hslot, Option.bind_some]
      exact (Option.bind_fun_some _).symm
  | some slot =>
  cases hslot' : format.slot? key' with
  | none =>
      simp only [fill_of_foreign hb hslot', Option.bind_some]
      exact Option.bind_fun_some _
  | some slot' =>
  cases htaken : taken slot.read nesting a.value with
  | none =>
      simp only [fill_of_refused ha hslot htaken, Option.bind_none]
      exact (Option.bind_fun_none _).symm
  | some f =>
  cases htaken' : taken slot'.read nesting b.value with
  | none =>
      simp only [fill_of_refused hb hslot' htaken', Option.bind_none]
      exact Option.bind_fun_none _
  | some g =>
  simp only [fill_of_slot ha hslot, fill_of_slot hb hslot', htaken, htaken', Option.map_some]
  by_cases hkeys : key = key'
  · -- Whichever of the two is taken first, the other one is refused.
    subst hkeys
    by_cases hgiven : key ∈ state.1
    · simp [hgiven]
    · simp [hgiven]
  · obtain ⟨hmem, rfl⟩ := mem_slots_of_slot? hslot
    obtain ⟨hmem', rfl⟩ := mem_slots_of_slot? hslot'
    have hne : slot ≠ slot' := by
      rintro rfl
      exact hkeys rfl
    have hindependent : Slot.Independent nesting slot slot' :=
      hformat.forall hmem hmem' hne
    have hchange := hindependent _ _ f g htaken htaken' state.2
    by_cases hgiven : slot.key ∈ state.1
    · by_cases hgiven' : slot'.key ∈ state.1
      · simp [hgiven, hgiven']
      · simp [hgiven, hgiven']
    · by_cases hgiven' : slot'.key ∈ state.1
      · simp [hgiven, hgiven']
      · simp [hgiven, hgiven', hkeys, Ne.symm hkeys, hchange, Finset.insert_comm]

/-! ### All members -/

/-- The key and the value of a member, without the white space around them. -/
def entry (m : Member Source) : List Letter × Source := (m.letters, m.value)

/-- The white space around members does not matter, and neither does their order. -/
theorem ofMembers?_perm (hformat : format.slots.Pairwise (Slot.Independent nesting))
    {members members' : List (Member Source)}
    (h : (members.map entry).Perm (members'.map entry)) :
  format.ofMembers? nesting members = format.ofMembers? nesting members'
  := by
  let bare (e : List Letter × Source) : Member Source := ⟨[], e.1, [], [], e.2, []⟩
  have hbare (members : List (Member Source)) (state : Finset String × α) :
      members.foldlM (format.fill nesting) state
        = (members.map entry).foldlM (fun state e => format.fill nesting state (bare e)) state := by
    rw [List.foldlM_map]
    rfl
  rw [ofMembers?, ofMembers?, hbare, hbare, foldlM_perm _ h]
  intro state a b
  apply fill_comm hformat

/-- A member may be moved to the front. -/
theorem ofMembers?_middle (hformat : format.slots.Pairwise (Slot.Independent nesting))
    (before after : List (Member Source)) (m : Member Source) :
  format.ofMembers? nesting (before ++ m :: after)
    = format.ofMembers? nesting (m :: (before ++ after))
  := ofMembers?_perm hformat (List.perm_middle.map entry)

/-- A member may be replaced by one that fills the record in the same way. -/
theorem ofMembers?_congr {m m' : Member Source}
    (h : ∀ state, format.fill nesting state m = format.fill nesting state m')
    (before after : List (Member Source)) :
  format.ofMembers? nesting (before ++ m :: after)
    = format.ofMembers? nesting (before ++ m' :: after)
  := by
  simp only [ofMembers?, List.foldlM_append, List.foldlM_cons, h]

/-- A member without a slot may be left out. -/
theorem ofMembers?_foreign {m : Member Source} {key : String} (h : m.key? = some key)
    (hslot : format.slot? key = none) (before after : List (Member Source)) :
  format.ofMembers? nesting (before ++ m :: after) = format.ofMembers? nesting (before ++ after)
  := by
  simp only [ofMembers?, List.foldlM_append, List.foldlM_cons, fill_of_foreign h hslot,
    Option.bind_eq_bind, Option.bind_some]

/-- A refused member refuses the record. -/
theorem ofMembers?_refused {m : Member Source} {members : List (Member Source)}
    (hm : m ∈ members) (h : ∀ state, format.fill nesting state m = none) :
  format.ofMembers? nesting members = none
  := by
  obtain ⟨before, after, rfl⟩ := List.append_of_mem hm
  simp only [ofMembers?, List.foldlM_append, List.foldlM_cons, h, Option.bind_eq_bind,
    Option.bind_none, Option.bind_fun_none]

/-! ### Repeated and missing members -/

/-- Of two members with the key of one slot, the second one is refused. -/
theorem fill_fill {a b : Member Source} {key : String} {slot : Slot α} (ha : a.key? = some key)
    (hb : b.key? = some key) (hslot : format.slot? key = some slot)
    (state : Finset String × α) :
  (format.fill nesting state a).bind (format.fill nesting · b) = none
  := by
  simp only [fill_of_slot ha hslot, fill_of_slot hb hslot]
  by_cases hgiven : key ∈ state.1
  · simp [hgiven]
  · cases taken slot.read nesting a.value with
    | none => simp
    | some change => simp [hgiven]

/-- A slot that is given twice refuses the record. -/
theorem ofMembers?_repeated (hformat : format.slots.Pairwise (Slot.Independent nesting))
    {members : List (Member Source)} {key : String} {slot : Slot α}
    (hslot : format.slot? key = some slot)
    (h : 1 < (members.filterMap Member.key?).count key) :
  format.ofMembers? nesting members = none
  := by
  obtain ⟨a, ha, hkey⟩ := List.mem_filterMap.mp (List.count_pos_iff.mp (Nat.zero_lt_of_lt h))
  obtain ⟨before, after, rfl⟩ := List.append_of_mem ha
  have hcount : 0 < ((before ++ after).filterMap Member.key?).count key := by
    simp only [List.filterMap_append, List.filterMap_cons, hkey, List.count_append,
      List.count_cons_self] at h ⊢
    omega
  obtain ⟨b, hb, hkey'⟩ := List.mem_filterMap.mp (List.count_pos_iff.mp hcount)
  obtain ⟨before', after', hsplit⟩ := List.append_of_mem hb
  have hperm : ((before ++ a :: after).map entry).Perm
      ((a :: b :: (before' ++ after')).map entry) := by
    apply List.Perm.map
    apply List.perm_middle.trans
    rw [hsplit]
    exact List.perm_middle.cons a
  have hnone : (format.fill nesting (∅, format.initial) a).bind (format.fill nesting · b) = none :=
    fill_fill hkey hkey' hslot (∅, format.initial)
  rw [ofMembers?_perm hformat hperm, ofMembers?]
  simp only [List.foldlM_cons, Option.bind_eq_bind]
  rw [← Option.bind_assoc, hnone]
  rfl

/-- A member gives no other key than its own. -/
theorem mem_of_fill {m : Member Source} {state state' : Finset String × α}
    (h : format.fill nesting state m = some state') {key : String} (hkey : key ∈ state'.1) :
  key ∈ state.1 ∨ m.key? = some key
  := by
  cases hm : m.key? with
  | none =>
      rw [fill_of_none hm] at h
      cases h
  | some other =>
      cases hslot : format.slot? other with
      | none =>
          rw [fill_of_foreign hm hslot] at h
          obtain rfl := Option.some.inj h
          exact .inl hkey
      | some slot =>
          rw [fill_of_slot hm hslot] at h
          split_ifs at h
          obtain ⟨change, -, rfl⟩ := Option.map_eq_some_iff.mp h
          rcases Finset.mem_insert.mp hkey with rfl | hkey
          · exact .inr rfl
          · exact .inl hkey

/-- The keys that have been given are those of members. -/
theorem mem_of_foldlM_fill {members : List (Member Source)} {state state' : Finset String × α}
    (h : members.foldlM (format.fill nesting) state = some state') {key : String}
    (hkey : key ∈ state'.1) :
  key ∈ state.1 ∨ key ∈ members.filterMap Member.key?
  := by
  induction members generalizing state with
  | nil =>
      obtain rfl := Option.some.inj h
      exact .inl hkey
  | cons m members ih =>
      rw [List.foldlM_cons, Option.bind_eq_bind, Option.bind_eq_some_iff] at h
      obtain ⟨middle, hfill, hrest⟩ := h
      rcases ih hrest with hmiddle | hmem
      · rcases mem_of_fill hfill hmiddle with hstate | hm
        · exact .inl hstate
        · exact .inr (List.mem_filterMap.mpr ⟨m, List.mem_cons_self, hm⟩)
      · obtain ⟨other, hother, heq⟩ := List.mem_filterMap.mp hmem
        exact .inr (List.mem_filterMap.mpr ⟨other, .tail m hother, heq⟩)

/-- A required slot that is missing refuses the record. -/
theorem ofMembers?_missing {members : List (Member Source)} {slot : Slot α}
    (hslot : slot ∈ format.slots) (hrequired : slot.required = true)
    (h : slot.key ∉ members.filterMap Member.key?) :
  format.ofMembers? nesting members = none
  := by
  rw [ofMembers?, Option.bind_eq_none_iff]
  intro state hstate
  rw [finish, if_neg]
  intro hall
  rcases mem_of_foldlM_fill hstate (hall slot hslot hrequired) with hmem | hmem
  · exact Finset.notMem_empty _ hmem
  · exact h hmem

/-! ### Defaults -/

/-- A key that has been given does not matter to a member with another one. -/
theorem fill_insert {m : Member Source} {key : String} (h : m.key? ≠ some key)
    (state : Finset String × α) :
  format.fill nesting (insert key state.1, state.2) m
    = (format.fill nesting state m).map fun state => (insert key state.1, state.2)
  := by
  cases hm : m.key? with
  | none => simp [fill_of_none hm]
  | some other =>
      have hne : other ≠ key := by
        rintro rfl
        exact h hm
      cases hslot : format.slot? other with
      | none => simp [fill_of_foreign hm hslot]
      | some slot =>
          simp only [fill_of_slot hm hslot, Finset.mem_insert, hne, false_or]
          by_cases hgiven : other ∈ state.1
          · simp [hgiven]
          · simp [hgiven, Function.comp_def, Finset.insert_comm]

theorem foldlM_fill_insert {members : List (Member Source)} {key : String}
    (hfree : ∀ m ∈ members, m.key? ≠ some key) (state : Finset String × α) :
  members.foldlM (format.fill nesting) (insert key state.1, state.2)
    = (members.foldlM (format.fill nesting) state).map fun state =>
      (insert key state.1, state.2)
  := by
  induction members generalizing state with
  | nil => rfl
  | cons m members ih =>
      obtain ⟨hm, hmembers⟩ := List.forall_mem_cons.mp hfree
      rw [List.foldlM_cons, List.foldlM_cons, fill_insert hm]
      cases format.fill nesting state m with
      | none => rfl
      | some state' => exact ih hmembers state'

/-- A member that stores what the record holds in the first place may be left out, if its slot is
not required and not given by another member. -/
theorem ofMembers?_default (hformat : format.slots.Pairwise (Slot.Independent nesting))
    {m : Member Source} {key : String} {slot : Slot α} (h : m.key? = some key)
    (hslot : format.slot? key = some slot)
    (hrequired : ∀ slot ∈ format.slots, slot.key = key → slot.required = false)
    {change : α → α} (htaken : taken slot.read nesting m.value = some change)
    (hchange : change format.initial = format.initial) {before after : List (Member Source)}
    (hfree : ∀ other ∈ before ++ after, other.key? ≠ some key) :
  format.ofMembers? nesting (before ++ m :: after) = format.ofMembers? nesting (before ++ after)
  := by
  have hfinish (state : Finset String × α) :
      format.finish (insert key state.1, state.2) = format.finish state := by
    have hiff : (∀ slot ∈ format.slots, slot.required = true → slot.key ∈ insert key state.1)
        ↔ ∀ slot ∈ format.slots, slot.required = true → slot.key ∈ state.1 := by
      apply forall_congr'
      intro other
      apply imp_congr_right
      intro hother
      apply imp_congr_right
      intro hneeded
      rw [Finset.mem_insert, or_iff_right]
      intro hkey
      rw [hrequired other hother hkey] at hneeded
      cases hneeded
    simp only [finish, hiff]
  have hfill : format.fill nesting (∅, format.initial) m = some (insert key ∅, format.initial) := by
    simp [fill_of_slot h hslot, htaken, hchange]
  rw [ofMembers?_middle hformat, ofMembers?, List.foldlM_cons, hfill, Option.bind_eq_bind,
    Option.bind_some, foldlM_fill_insert hfree (∅, format.initial), ofMembers?]
  cases (before ++ after).foldlM (format.fill nesting) (∅, format.initial) with
  | none => rfl
  | some state => exact hfinish state

/-! ### Items -/

/-- An item may be replaced by one with the same content. -/
theorem ofItems?_congr {slots : List (Slot α)} {before after : List (Item Source)}
    {item item' : Item Source} {slot : Slot α} (hslot : slots[before.length]? = some slot)
    (h : taken slot.read nesting item.value = taken slot.read nesting item'.value) (record : α) :
  ofItems? nesting slots (before ++ item :: after) record
    = ofItems? nesting slots (before ++ item' :: after) record
  := by
  induction before generalizing slots record with
  | nil =>
      cases slots with
      | nil => cases hslot
      | cons first slots =>
          obtain rfl := Option.some.inj hslot
          simp only [List.nil_append, ofItems?, h]
  | cons other before ih =>
      cases slots with
      | nil => rfl
      | cons first slots =>
          have hrest : slots[before.length]? = some slot := by simpa using hslot
          simp only [List.cons_append, ofItems?, ih hrest]

/-- A refused item refuses the record. -/
theorem ofItems?_refused {slots : List (Slot α)} {before after : List (Item Source)}
    {item : Item Source} {slot : Slot α} (hslot : slots[before.length]? = some slot)
    (h : taken slot.read nesting item.value = none) (record : α) :
  ofItems? nesting slots (before ++ item :: after) record = none
  := by
  induction before generalizing slots record with
  | nil =>
      cases slots with
      | nil => cases hslot
      | cons first slots =>
          obtain rfl := Option.some.inj hslot
          simp only [List.nil_append, ofItems?, h, Option.bind_none]
  | cons other before ih =>
      cases slots with
      | nil => rfl
      | cons first slots =>
          have hrest : slots[before.length]? = some slot := by simpa using hslot
          simp only [List.cons_append, ofItems?, ih hrest, Option.bind_fun_none]

end RecordFormat

end Json

end RecordSchema
