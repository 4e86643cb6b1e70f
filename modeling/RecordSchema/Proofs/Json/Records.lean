import RecordSchema.Json.Reader.Record
import RecordSchema.Proofs.Json.Values
import RecordSchema.Proofs.Occurrences

/-!
# Reading back records

A record whose slots are written one by one, in their order, is read from the object of its
members: each slot is found under its key, none is given twice and none is missing. So a record
is read back when the content of each of its slots is.
-/

namespace RecordSchema

namespace Json

variable {α : Type}

/-- The content of a slot is read as the change of storing it. -/
theorem Slot.reads_make {β : Type} {reader : Reader β} {v : Json} {b : β}
    (h : Reads reader v b) {key : String} {required : Bool} {store : β → α → α} :
  Reads (Slot.make key required reader store).read v (store b)
  := by
  intro layout depth room hroom text rest hrest htext
  simp only [Slot.make, h layout depth room hroom text rest hrest htext]
  rfl

/-- Members give contents to slots, one by one, which change a record into another one. -/
inductive Fills : List (Slot α) → List (String × Json) → α → α → Prop
  | nil (record : α) : Fills [] [] record record
  | cons {slot : Slot α} {slots : List (Slot α)} {v : Json} {members : List (String × Json)}
    {change : α → α} {record after : α} (hread : Reads slot.read v change)
    (h : Fills slots members (change record) after) :
    Fills (slot :: slots) ((slot.key, v) :: members) record after

namespace RecordFormat

variable {format : RecordFormat α}

/-- A slot is found by its key where keys differ. -/
theorem slot?_key (hkeys : (format.slots.map (·.key)).Nodup) {slot : Slot α}
    (hslot : slot ∈ format.slots) :
  format.slot? slot.key = some slot
  := by
  rw [slot?, find?_key_eq_some_iff hkeys]
  exact ⟨hslot, rfl⟩

/-- No slot is missing when all keys have been given. -/
theorem missing?_eq_none {given : List String} (h : ∀ slot ∈ format.slots, slot.key ∈ given) :
  format.missing? given = none
  := by
  rw [missing?, Option.map_eq_none_iff, List.find?_eq_none]
  intro slot hslot
  simp [h slot hslot]

/-- The key of the first slot that is left has not been given where keys differ. -/
theorem contains_given_eq_false (hkeys : (format.slots.map (·.key)).Nodup)
    {done slots : List (Slot α)} {slot : Slot α} (hslots : format.slots = done ++ slot :: slots)
    {given : List String} (hgiven : ∀ key, key ∈ given ↔ key ∈ done.map (·.key)) :
  given.contains slot.key = false
  := by
  rw [hslots, List.map_append, List.map_cons, List.nodup_middle] at hkeys
  have hnot := (List.nodup_cons.mp hkeys).1
  rw [List.mem_append, not_or] at hnot
  rw [List.contains_eq_mem, decide_eq_false_iff_not, hgiven]
  apply hnot.1

/-- The members of a record are read one by one, up to the brace. -/
theorem fromMembers_entries {slots : List (Slot α)} {members : List (String × Json)}
    {record after : α} (h : Fills slots members record after)
    (hkeys : (format.slots.map (·.key)).Nodup) {done : List (Slot α)}
    (hslots : format.slots = done ++ slots) {given : List String}
    (hgiven : ∀ key, key ∈ given ↔ key ∈ done.map (·.key)) {room : Room} {layout : Layout}
    {depth : Nat} (hroom : ∀ m ∈ members, room.Fits layout depth m.2) {budget : Nat}
    (hbudget : members.length < budget) (first : Bool) {gap : List Char}
    (hgap : ∀ c ∈ gap, isBlank c = true) (rest : List Char) :
  format.fromMembers room budget first given record
      (layout.entries depth first (members.map (writeMember layout depth))
        ++ (gap ++ '}' :: rest))
    = .ok (after, rest)
  := by
  induction h generalizing done given budget first with
  | nil record =>
      obtain ⟨budget, rfl⟩ := Nat.exists_eq_add_one.mpr hbudget
      have hmissing : format.missing? given = none := by
        apply missing?_eq_none
        intro slot hslot
        rw [hslots, List.append_nil] at hslot
        apply (hgiven _).mpr (List.mem_map_of_mem hslot)
      simp [Layout.entries, fromMembers, nextMember_closing first hgap, hmissing]
  | @cons slot slots v members change record after hread h ih =>
      obtain ⟨hm, hmembers⟩ := List.forall_mem_cons.mp hroom
      obtain ⟨budget, rfl⟩ := Nat.exists_eq_add_one.mpr (Nat.zero_lt_of_lt hbudget)
      let behind := layout.entries depth false (members.map (writeMember layout depth))
        ++ (gap ++ '}' :: rest)
      obtain ⟨text, colon, value, hentry, hkey, hcolon, hvalue⟩ :=
        exists_writeMember_eq layout depth (slot.key, v) behind
      have hbehind : EndsNumeral behind :=
        endsNumeral_entries layout depth hgap (by simp [EndsNumeral]) _ rest
      have hfind : format.slot? slot.key = some slot := by
        apply slot?_key hkeys
        simp [hslots]
      have hnew : given.contains slot.key = false :=
        contains_given_eq_false hkeys hslots hgiven
      have hchange : slot.read room value = .ok (change, behind) :=
        hread layout depth room hm value behind hbehind hvalue
      have hmember : format.member room given record text
          = .ok ((slot.key :: given, change record), behind) := by
        rw [member, hkey]
        simp only [bind, Except.bind, hfind, hnew, hcolon, hchange, pure, Except.pure]
        rfl
      have hslots' : format.slots = (done ++ [slot]) ++ slots := by
        rw [hslots, List.append_assoc]
        rfl
      have hgiven' : ∀ k, k ∈ slot.key :: given ↔ k ∈ (done ++ [slot]).map (·.key) := by
        intro k
        rw [List.mem_cons, hgiven, List.map_append, List.mem_append, or_comm]
        simp
      rw [List.map_cons, Layout.entries, List.append_assoc, List.append_assoc,
        List.append_assoc, hentry, fromMembers, nextMember_entry]
      simp only [hmember]
      apply ih hslots' hgiven' hmembers (by simpa using hbudget)

/-- A record is read from the members that fill its slots. -/
theorem reads_record (hkeys : (format.slots.map (·.key)).Nodup)
    {members : List (String × Json)} {record : α}
    (h : Fills format.slots members format.initial record) :
  Reads format.read (.object members) record
  := by
  intro layout depth room hroom text rest hrest htext
  obtain ⟨inner, hinner, hlength, hvalue⟩ := hroom.value
  obtain ⟨gap, hgap, hwrite⟩ := exists_write_object_eq layout depth members
  have hmembers : format.fromMembers { room with nesting := inner } room.length true []
      format.initial (layout.entries (depth + 1) true
        (members.map (writeMember layout (depth + 1))) ++ (gap ++ '}' :: rest))
      = .ok (record, rest) := by
    have hslots : format.slots = [] ++ format.slots := rfl
    apply fromMembers_entries h hkeys hslots _ hvalue hlength true hgap
    simp
  rw [read, htext, hwrite]
  simp only [List.cons_append, List.append_assoc, List.nil_append, enter, hinner, List.drop_one,
    List.tail_cons]
  apply hmembers

end RecordFormat

end Json

end RecordSchema
