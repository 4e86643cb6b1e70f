import RecordSchema.Proofs.Json.Records
import RecordSchema.Proofs.Source.Members

/-!
# Rewriting records

A model says which keys a record has and what stands for a key that may be left out. A record
that is written as an object may be rewritten by putting its members into another order, by adding
members with foreign keys and by adding members that spell out a default. A format that follows the
model reads all of these as one record, and refuses a record in which a key of the model is repeated
or missing.
-/

namespace RecordSchema

namespace Json

/-! ### Models -/

/-- What a key stands for that is left out. -/
inductive Default where
  | emptyString
  | emptyList
  | false
  | null
deriving DecidableEq

/-- A value spells out a default. -/
inductive Default.Spelled : Default → Source → Prop
  | emptyString : Spelled .emptyString (.string [])
  | emptyList (last : Gap) : Spelled .emptyList (.array [] last)
  | false : Spelled .false (.bool Bool.false)
  | null : Spelled .null .null

/-- The keys of a record in their order, each with its default. A key without a default must be
given. -/
abbrev Model : Type := List (String × Option Default)

namespace Model

/-- The keys of a model. -/
def keys (model : Model) : List String := model.map Prod.fst

/-! ### Rewriting -/

variable (model : Model)

/-- A record is written in another way that stands for the same: `inner` says which values under a
key do. -/
inductive Rewrites (inner : String → Source → Source → Prop) : Source → Source → Prop
  | reorder {members members' : List (Member Source)} {last last' : Gap}
    (h : (members.map RecordFormat.entry).Perm (members'.map RecordFormat.entry)) :
    Rewrites inner (.object members last) (.object members' last')
  | foreign {before after : List (Member Source)} {m : Member Source} {last : Gap}
    {key : String} (hkey : m.key? = some key) (h : key ∉ model.keys) :
    Rewrites inner (.object (before ++ after) last) (.object (before ++ m :: after) last)
  | default {before after : List (Member Source)} {m : Member Source} {last : Gap}
    {key : String} (hkey : m.key? = some key) {value : Default}
    (h : (key, some value) ∈ model) (hspelled : value.Spelled m.value)
    (hfree : ∀ other ∈ before ++ after, other.key? ≠ some key) :
    Rewrites inner (.object (before ++ after) last) (.object (before ++ m :: after) last)
  | member {before after : List (Member Source)} {m : Member Source} {last : Gap}
    {key : String} (hkey : m.key? = some key) {value : Source} (h : inner key m.value value) :
    Rewrites inner (.object (before ++ m :: after) last)
      (.object (before ++ { m with value } :: after) last)
  | item {before after : List (Item Source)} {item : Item Source} {last : Gap}
    {entry : String × Option Default} (hentry : model[before.length]? = some entry)
    {value : Source} (h : inner entry.1 item.value value) :
    Rewrites inner (.array (before ++ item :: after) last)
      (.array (before ++ { item with value } :: after) last)

/-- A record repeats or lacks a key, or contains a record that does: `inner` says which values under
a key contain one. -/
inductive Faulty (inner : String → Source → Prop) : Source → Prop
  | repeated {members : List (Member Source)} {last : Gap} {key : String}
    (hkey : key ∈ model.keys) (h : 1 < (members.filterMap Member.key?).count key) :
    Faulty inner (.object members last)
  | missing {members : List (Member Source)} {last : Gap} {key : String}
    (hkey : (key, none) ∈ model) (h : key ∉ members.filterMap Member.key?) :
    Faulty inner (.object members last)
  | member {members : List (Member Source)} {last : Gap} {m : Member Source}
    (hm : m ∈ members) {key : String} (hmember : m.key? = some key) (hkey : key ∈ model.keys)
    (h : inner key m.value) :
    Faulty inner (.object members last)
  | item {before after : List (Item Source)} {item : Item Source} {last : Gap}
    {entry : String × Option Default} (hentry : model[before.length]? = some entry)
    (h : inner entry.1 item.value) :
    Faulty inner (.array (before ++ item :: after) last)

end Model

/-- An item of a list is rewritten. -/
inductive RewritesItem (step : Source → Source → Prop) : Source → Source → Prop
  | item {before after : List (Item Source)} {item : Item Source} {last : Gap} {value : Source}
    (h : step item.value value) :
    RewritesItem step (.array (before ++ item :: after) last)
      (.array (before ++ { item with value } :: after) last)

/-- An item of a list is faulty. -/
inductive FaultyItem (faulty : Source → Prop) : Source → Prop
  | item {items : List (Item Source)} {last : Gap} {item : Item Source} (hitem : item ∈ items)
    (h : faulty item.value) : FaultyItem faulty (.array items last)

/-! ### Formats that follow a model -/

variable {α β : Type}

/-- A slot is that of a key: it is required if the key has no default, and the value that spells
out a default leaves the initial record as it is. -/
structure Slot.Follows (initial : α) (nesting : Nat) (slot : Slot α)
    (entry : String × Option Default) : Prop where
  key : slot.key = entry.1
  required : slot.required = entry.2.isNone
  settled : Settled slot.read
  default : ∀ value, entry.2 = some value → ∀ s, value.Spelled s →
    ∃ change, taken slot.read nesting s = some change ∧ change initial = initial

theorem Slot.follows_needed {initial : α} {nesting : Nat} {reader : Reader β}
    (h : Settled reader) (key : String) (store : β → α → α) :
  Slot.Follows initial nesting (Slot.needed key reader store) (key, none)
  where
    key := rfl
    required := rfl
    settled := h.make _ _ _
    default := nofun

theorem Slot.follows_optional {initial : α} {nesting : Nat} {reader : Reader β}
    (h : Settled reader) (key : String) {store : β → α → α} {value : Default}
    (hvalue : ∀ s, value.Spelled s → ∃ b, taken reader nesting s = some b
      ∧ store b initial = initial) :
  Slot.Follows initial nesting (Slot.optional key reader store) (key, some value)
  where
    key := rfl
    required := rfl
    settled := h.make _ _ _
    default := by
      rintro _ ⟨⟩ s hs
      obtain ⟨b, htaken, hstore⟩ := hvalue s hs
      exact ⟨store b, by rw [Slot.optional, Slot.taken_make, htaken]; rfl, hstore⟩

/-- A slot of a content that may be missing is one of a key whose default is `null`. -/
theorem Slot.follows_null {initial : α} {nesting : Nat} {reader : Reader β}
    (h : Settled reader) (key : String) {store : Option β → α → α}
    (hstore : store none initial = initial) :
  Slot.Follows initial nesting (Slot.optional key (readOptional reader) store) (key, some .null)
  := by
  apply Slot.follows_optional h.optional
  rintro s ⟨⟩
  exact ⟨none, (takes_readOptional_null reader nesting).taken_eq, hstore⟩

theorem Slot.follows_emptyString {initial : α} {nesting : Nat} (key : String)
    {store : String → α → α} (hstore : store "" initial = initial) :
  Slot.Follows initial nesting (Slot.optional key readString store) (key, some .emptyString)
  := by
  apply Slot.follows_optional settled_readString
  rintro s ⟨⟩
  exact ⟨"", (takes_readString nesting _).taken_eq, hstore⟩

theorem Slot.follows_false {initial : α} {nesting : Nat} (key : String)
    {store : Bool → α → α} (hstore : store Bool.false initial = initial) :
  Slot.Follows initial nesting (Slot.optional key readBool store) (key, some .false)
  := by
  apply Slot.follows_optional settled_readBool
  rintro s ⟨⟩
  exact ⟨Bool.false, (takes_readBool nesting _).taken_eq, hstore⟩

theorem Slot.follows_emptyList {initial : α} {nesting : Nat} {item : Reader β} (h : Settled item)
    (key : String) {store : List β → α → α} (hstore : store [] initial = initial) :
  Slot.Follows initial (nesting + 1) (Slot.optional key (readList item) store)
    (key, some .emptyList)
  := by
  apply Slot.follows_optional h.list
  rintro s ⟨⟩
  exact ⟨[], (takes_readList h nesting [] _).taken_eq, hstore⟩

/-- A format reads the records of a model within a nesting. -/
structure RecordFormat.Follows (format : RecordFormat α) (model : Model) (nesting : Nat) :
    Prop where
  nodup : model.keys.Nodup
  slots : List.Forall₂ (Slot.Follows format.initial nesting) format.slots model
  independent : format.slots.Pairwise (Slot.Independent nesting)

namespace RecordFormat.Follows

variable {format : RecordFormat α} {model : Model} {nesting : Nat}

/-- Every key of the model has its slot, in the same place. -/
theorem exists_getElem? (h : format.Follows model nesting) {n : Nat}
    {entry : String × Option Default} (hentry : model[n]? = some entry) :
  ∃ slot, format.slots[n]? = some slot ∧ slot.Follows format.initial nesting entry
  := by
  obtain ⟨hn, rfl⟩ := List.getElem?_eq_some_iff.mp hentry
  have hn' : n < format.slots.length := h.slots.length_eq ▸ hn
  exact ⟨format.slots[n], List.getElem?_eq_getElem hn', h.slots.get hn' hn⟩

/-- Every slot is that of a key of the model. -/
theorem exists_entry (h : format.Follows model nesting) {slot : Slot α}
    (hslot : slot ∈ format.slots) :
  ∃ entry ∈ model, slot.Follows format.initial nesting entry
  := by
  obtain ⟨n, hn, rfl⟩ := List.mem_iff_getElem.mp hslot
  have hn' : n < model.length := h.slots.length_eq ▸ hn
  exact ⟨model[n], List.getElem_mem hn', h.slots.get hn hn'⟩

theorem settled (h : format.Follows model nesting) :
  ∀ slot ∈ format.slots, Settled slot.read
  := by
  intro slot hslot
  obtain ⟨entry, -, hfollows⟩ := h.exists_entry hslot
  exact hfollows.settled

/-- The keys of the slots are those of the model. -/
theorem keys (h : format.Follows model nesting) :
  format.slots.map (·.key) = model.keys
  := by
  apply List.ext_getElem (by simpa [Model.keys] using h.slots.length_eq)
  intro n hn hn'
  simp only [List.length_map] at hn
  simp only [Model.keys, List.length_map] at hn'
  simpa [Model.keys] using (h.slots.get hn hn').key

/-- The slot of a key of the model is found by the key. -/
theorem exists_slot? (h : format.Follows model nesting) {entry : String × Option Default}
    (hentry : entry ∈ model) :
  ∃ slot ∈ format.slots, format.slot? entry.1 = some slot
    ∧ slot.Follows format.initial nesting entry
  := by
  obtain ⟨n, hn⟩ := List.mem_iff_getElem?.mp hentry
  obtain ⟨slot, hslot, hfollows⟩ := h.exists_getElem? hn
  have hmem : slot ∈ format.slots := List.mem_of_getElem? hslot
  have hnodup : (format.slots.map (·.key)).Nodup := h.keys ▸ h.nodup
  refine ⟨slot, hmem, ?_, hfollows⟩
  rw [← hfollows.key]
  exact slot?_key hnodup hmem

/-- A foreign key has no slot. -/
theorem slot?_foreign (h : format.Follows model nesting) {key : String} (hkey : key ∉ model.keys) :
  format.slot? key = none
  := by
  rw [slot?, List.find?_eq_none]
  intro slot hslot heq
  apply hkey
  rw [← h.keys]
  obtain rfl : slot.key = key := by simpa using heq
  exact List.mem_map_of_mem hslot

/-- A record that is rewritten is read as before. -/
theorem taken_rewrites (h : format.Follows model nesting)
    {inner : String → Source → Source → Prop}
    (hinner : ∀ slot ∈ format.slots, ∀ s t, inner slot.key s t →
      taken slot.read nesting s = taken slot.read nesting t)
    {s t : Source} (hst : model.Rewrites inner s t) :
  taken format.read (nesting + 1) s = taken format.read (nesting + 1) t
  := by
  have hobject (members : List (Member Source)) (last : Gap) :
      taken format.read (nesting + 1) (.object members last)
        = format.ofMembers? nesting members := (takes_object h.settled members last).taken_eq
  have harray (items : List (Item Source)) (last : Gap) :
      taken format.read (nesting + 1) (.array items last)
        = ofItems? nesting format.slots items format.initial :=
    (takes_array h.settled items last).taken_eq
  cases hst with
  | reorder hperm =>
      rw [hobject, hobject]
      exact ofMembers?_perm h.independent hperm
  | foreign hkey hforeign =>
      rw [hobject, hobject]
      exact (ofMembers?_foreign hkey (h.slot?_foreign hforeign) _ _).symm
  | @default before after m last key hkey value hvalue hspelled hfree =>
      obtain ⟨slot, hslot, hfind, hfollows⟩ := h.exists_slot? hvalue
      obtain ⟨change, htaken, hchange⟩ := hfollows.default value rfl m.value hspelled
      have hrequired : ∀ other ∈ format.slots, other.key = key → other.required = false := by
        intro other hother heq
        have hnodup : (format.slots.map (·.key)).Nodup := h.keys ▸ h.nodup
        obtain rfl := List.inj_on_of_nodup_map hnodup hother hslot (heq.trans hfollows.key.symm)
        exact hfollows.required
      rw [hobject, hobject]
      exact (ofMembers?_default h.independent hkey hfind hrequired htaken hchange hfree).symm
  | @member before after m last key hkey value hvalue =>
      rw [hobject, hobject]
      apply ofMembers?_congr
      intro state
      have hkey' : ({ m with value } : Member Source).key? = some key := hkey
      cases hfind : format.slot? key with
      | none => rw [fill_of_foreign hkey hfind, fill_of_foreign hkey' hfind]
      | some slot =>
          obtain ⟨hslot, rfl⟩ := mem_slots_of_slot? hfind
          rw [fill_of_slot hkey hfind, fill_of_slot hkey' hfind, hinner slot hslot _ _ hvalue]
  | item hentry hvalue =>
      obtain ⟨slot, hget, hfollows⟩ := h.exists_getElem? hentry
      rw [harray, harray]
      exact ofItems?_congr hget (hinner slot (List.mem_of_getElem? hget) _ _
        (hfollows.key ▸ hvalue)) _

/-- A faulty record is refused. -/
theorem taken_faulty (h : format.Follows model nesting) {inner : String → Source → Prop}
    (hinner : ∀ slot ∈ format.slots, ∀ s, inner slot.key s → taken slot.read nesting s = none)
    {s : Source} (hs : model.Faulty inner s) :
  taken format.read (nesting + 1) s = none
  := by
  cases hs with
  | repeated hkey hcount =>
      obtain ⟨entry, hentry, rfl⟩ := List.mem_map.mp hkey
      obtain ⟨slot, -, hfind, -⟩ := h.exists_slot? hentry
      rw [(takes_object h.settled _ _).taken_eq]
      exact ofMembers?_repeated h.independent hfind hcount
  | missing hentry hmissing =>
      obtain ⟨slot, hslot, -, hfollows⟩ := h.exists_slot? hentry
      rw [(takes_object h.settled _ _).taken_eq]
      exact ofMembers?_missing hslot hfollows.required (hfollows.key ▸ hmissing)
  | member hm hmember hkey hvalue =>
      obtain ⟨entry, hentry, rfl⟩ := List.mem_map.mp hkey
      obtain ⟨slot, hslot, hfind, hfollows⟩ := h.exists_slot? hentry
      rw [(takes_object h.settled _ _).taken_eq]
      exact ofMembers?_refused hm
        (fill_of_refused hmember hfind (hinner slot hslot _ (hfollows.key ▸ hvalue)))
  | item hentry hvalue =>
      obtain ⟨slot, hget, hfollows⟩ := h.exists_getElem? hentry
      rw [(takes_array h.settled _ _).taken_eq]
      exact ofItems?_refused hget (hinner slot (List.mem_of_getElem? hget) _
        (hfollows.key ▸ hvalue)) _

end RecordFormat.Follows

/-! ### Lists -/

/-- A list is read as before when one of its items is. -/
theorem taken_rewritesItem {item : Reader α} (h : Settled item) {nesting : Nat}
    {step : Source → Source → Prop}
    (hstep : ∀ s t, step s t → taken item nesting s = taken item nesting t) {s t : Source}
    (hst : RewritesItem step s t) :
  taken (readList item) (nesting + 1) s = taken (readList item) (nesting + 1) t
  := by
  cases hst with
  | item hvalue =>
      rw [(takes_readList h nesting _ _).taken_eq, (takes_readList h nesting _ _).taken_eq]
      simp only [List.mapM_append, List.mapM_cons, hstep _ _ hvalue]

/-- A list is refused when one of its items is. -/
theorem taken_faultyItem {item : Reader α} (h : Settled item) {nesting : Nat}
    {faulty : Source → Prop} (hfaulty : ∀ s, faulty s → taken item nesting s = none) {s : Source}
    (hs : FaultyItem faulty s) :
  taken (readList item) (nesting + 1) s = none
  := by
  cases hs with
  | item hitem hvalue =>
      obtain ⟨before, after, rfl⟩ := List.append_of_mem hitem
      rw [(takes_readList h nesting _ _).taken_eq]
      simp only [List.mapM_append, List.mapM_cons, hfaulty _ hvalue, Option.bind_eq_bind,
        Option.bind_none, Option.bind_fun_none]

/-- An array that may be missing is taken as an array. -/
theorem taken_optional_array {reader : Reader α} (h : Settled reader) (nesting : Nat)
    (items : List (Item Source)) (last : Gap) :
  taken (readOptional reader) nesting (.array items last)
    = (taken reader nesting (.array items last)).map some
  := (takes_readOptional (h.takes nesting (.array items last)) nofun).taken_eq

end Json

end RecordSchema
