import RecordSchema.Proofs.Json.Parts
import RecordSchema.Proofs.Json.Scalars
import RecordSchema.Proofs.Json.Writing

/-!
# Readers of written text

A reader reads a value as something when it takes the text of the value, in any layout and at
any depth, from the front of any text, provided that there is room for the value and that the
text goes on with a character of no numeral. Readers of strings, of booleans, of values that
may be `null` and of lists do so.
-/

namespace RecordSchema

namespace Json

/-! ### Blanks -/

theorem skipBlanks_append {gap : List Char} (h : ∀ c ∈ gap, isBlank c = true)
    (text : List Char) :
  skipBlanks (gap ++ text) = skipBlanks text
  := List.dropWhile_append_of_pos h

theorem skipBlanks_cons {c : Char} (h : isBlank c = false) (text : List Char) :
  skipBlanks (c :: text) = c :: text
  := by
  simp [skipBlanks, h]

/-- There is no white space in front of a value. -/
theorem skipBlanks_write (layout : Layout) (depth : Nat) (v : Json) (rest : List Char) :
  skipBlanks (v.write layout depth ++ rest) = v.write layout depth ++ rest
  := by
  obtain ⟨c, text, h, hc, -⟩ := exists_write_eq_cons layout depth v
  rw [h]
  apply skipBlanks_cons hc

/-! ### Readers -/

variable {α β : Type}

/-- A value that is written in a layout at a depth is read as `a`. -/
def Scans (scan : Scan α) (layout : Layout) (depth : Nat) (v : Json) (a : α) : Prop :=
  ∀ text rest, EndsNumeral rest → skipBlanks text = v.write layout depth ++ rest →
    scan text = .ok (a, rest)

/-- The text of a value is read, whatever follows it. -/
theorem Scans.write {scan : Scan α} {layout : Layout} {depth : Nat} {v : Json} {a : α}
    (h : Scans scan layout depth v a) {rest : List Char} (hrest : EndsNumeral rest) :
  scan (v.write layout depth ++ rest) = .ok (a, rest)
  := h _ rest hrest (skipBlanks_write layout depth v rest)

/-- There is room for a value that is written in a layout at a depth. -/
def Room.Fits (room : Room) (layout : Layout) (depth : Nat) (v : Json) : Prop :=
  v.nesting ≤ room.nesting ∧ (v.write layout depth).length ≤ room.length

/-- A value is read as `a` wherever there is room for it. -/
def Reads (reader : Reader α) (v : Json) (a : α) : Prop :=
  ∀ layout depth room, room.Fits layout depth v → Scans (reader room) layout depth v a

/-- A whole text is read as the value that it has been written from. -/
theorem Reads.readWhole {reader : Reader α} {v : Json} {a : α} (h : Reads reader v a)
    (hnesting : v.nesting ≤ deepest) (layout : Layout) :
  readWhole reader (v.text layout) = .ok a
  := by
  have hread : reader ⟨deepest, (v.write layout 0).length⟩ (v.write layout 0) = .ok (a, []) := by
    apply h layout 0 _ ⟨hnesting, Nat.le_refl _⟩
    · simp [EndsNumeral]
    · simpa using skipBlanks_write layout 0 v []
  have hchars : (v.text layout).toList = v.write layout 0 := String.toList_ofList
  simp only [Json.readWhole, hchars, hread]
  rfl

/-- Where there is room for a block, its brackets can be entered, and there is more room than it
has entries and than each of them takes. -/
theorem Room.Fits.block {room : Room} {layout : Layout} {depth : Nat} {v : Json}
    {opening closing : Char} {texts : List (List Char)} (h : room.Fits layout depth v)
    (hnesting : 0 < v.nesting)
    (hwrite : v.write layout depth = layout.block depth opening closing texts) :
  ∃ inner, room.nesting = inner + 1 ∧ texts.length < room.length
    ∧ ∀ text ∈ texts, text.length < room.length
  := by
  obtain ⟨hdepth, hlength⟩ := h
  obtain ⟨inner, hinner⟩ : ∃ inner, room.nesting = inner + 1 :=
    Nat.exists_eq_add_one.mpr (Nat.lt_of_lt_of_le hnesting hdepth)
  rw [hwrite] at hlength
  use inner, hinner
  constructor
  · apply Nat.lt_of_lt_of_le (layout.entries_lt_block depth opening closing texts) hlength
  · intro text htext
    apply Nat.lt_of_lt_of_le (layout.length_lt_block depth opening closing htext) hlength

/-- The room inside an array is enough for each of its items. -/
theorem Room.Fits.item {room : Room} {layout : Layout} {depth : Nat} {items : List Json}
    (h : room.Fits layout depth (.array items)) :
  ∃ inner, room.nesting = inner + 1 ∧ items.length < room.length
    ∧ ∀ item ∈ items, Room.Fits { room with nesting := inner } layout (depth + 1) item
  := by
  have hwrite : (Json.array items).write layout depth
      = layout.block depth '[' ']' (items.map (write layout (depth + 1))) := by
    rw [write, writeItems_eq_map]
  obtain ⟨inner, hinner, hcount, hroom⟩ := h.block (Nat.succ_pos _) hwrite
  rw [List.length_map] at hcount
  use inner, hinner, hcount
  intro item hitem
  have hnesting := h.1
  rw [hinner] at hnesting
  use nesting_array_le_iff.mp hnesting item hitem
  apply Nat.le_of_lt (hroom _ (List.mem_map_of_mem hitem))

/-- The room inside an object is enough for each of its values. -/
theorem Room.Fits.value {room : Room} {layout : Layout} {depth : Nat}
    {members : List (String × Json)} (h : room.Fits layout depth (.object members)) :
  ∃ inner, room.nesting = inner + 1 ∧ members.length < room.length
    ∧ ∀ m ∈ members, Room.Fits { room with nesting := inner } layout (depth + 1) m.2
  := by
  have hwrite : (Json.object members).write layout depth
      = layout.block depth '{' '}' (members.map (writeMember layout (depth + 1))) := by
    rw [write, writeMembers_eq_map]
  obtain ⟨inner, hinner, hcount, hroom⟩ := h.block (Nat.succ_pos _) hwrite
  rw [List.length_map] at hcount
  use inner, hinner, hcount
  intro m hm
  have hnesting := h.1
  rw [hinner] at hnesting
  use nesting_object_le_iff.mp hnesting m hm
  have hmember := hroom _ (List.mem_map_of_mem hm)
  simp only [writeMember, List.length_append] at hmember
  dsimp only
  omega

/-! ### Scalars -/

theorem reads_string (s : String) :
  Reads readString (.string s) s
  := by
  intro layout depth room _ text rest hrest htext
  have htext' : skipBlanks text = '"' :: (s.toList.flatMap escape ++ '"' :: rest) := by
    rw [htext, write, quote]
    simp
  rw [readString, htext']
  apply scanString_escape

theorem reads_bool (b : Bool) :
  Reads readBool (.bool b) b
  := by
  intro layout depth room _ text rest hrest htext
  rw [readBool, htext]
  cases b with
  | false => rfl
  | true => rfl

/-! ### Values that may be missing -/

theorem reads_none (reader : Reader α) :
  Reads (readOptional reader) .null none
  := by
  intro layout depth room _ text rest hrest htext
  rw [readOptional, htext]
  rfl

theorem Reads.some {reader : Reader α} {v : Json} {a : α} (h : Reads reader v a)
    (hv : v ≠ .null) :
  Reads (readOptional reader) v (some a)
  := by
  intro layout depth room hroom text rest hrest htext
  obtain ⟨c, other, hwrite, hc, -, hn⟩ := exists_write_eq_cons layout depth v
  have hread : reader room (skipBlanks text) = .ok (a, rest) := by
    apply h layout depth room hroom _ rest hrest
    rw [htext, skipBlanks_write]
  have hstart : ∀ other, skipBlanks text ≠ 'n' :: other := by
    intro other' hother
    rw [htext, hwrite, List.cons_append] at hother
    apply hv (hn (List.cons.inj hother).1)
  rw [readOptional]
  split
  · rename_i rest' heq
    exact absurd heq (hstart rest')
  · rw [hread]
    rfl

/-- A content that is missing is read from `null`. -/
theorem reads_orNull {reader : Reader α} {value : α → Json}
    (h : ∀ a, Reads reader (value a) a ∧ value a ≠ .null) (content : Option α) :
  Reads (readOptional reader) (orNull value content) content
  := by
  cases content with
  | none => apply reads_none
  | some a => apply (h a).1.some (h a).2

/-! ### Lists -/

/-- What follows an entry of an array or object ends a numeral. -/
theorem endsNumeral_entries (layout : Layout) (depth : Nat) {gap : List Char}
    (hgap : ∀ c ∈ gap, isBlank c = true) {closing : Char} (hclosing : EndsNumeral [closing])
    (texts : List (List Char)) (rest : List Char) :
  EndsNumeral (layout.entries depth false texts ++ (gap ++ closing :: rest))
  := by
  cases texts with
  | nil =>
      cases gap with
      | nil => exact fun c hc => hclosing c hc
      | cons blank gap =>
          have hblank := hgap blank List.mem_cons_self
          simp only [isBlank, Bool.or_eq_true, beq_iff_eq] at hblank
          rintro c ⟨⟩
          rcases hblank with ((rfl | rfl) | rfl) | rfl <;> decide
  | cons entry texts =>
      rintro c ⟨⟩
      decide

/-- The first or a further entry of an array comes next. -/
theorem nextItem_entry (layout : Layout) (depth : Nat) (first : Bool) (v : Json)
    (rest : List Char) :
  nextItem first ((if first then [] else [','])
      ++ (layout.line depth ++ (v.write layout depth ++ rest)))
    = .ok (.entry (v.write layout depth ++ rest))
  := by
  obtain ⟨c, text, h, hc, hclosing, -⟩ := exists_write_eq_cons layout depth v
  cases first with
  | true =>
      rw [nextItem, if_pos rfl, List.nil_append, skipBlanks_append (layout.isBlank_line depth),
        skipBlanks_write, h]
      simp [hclosing]
  | false =>
      rw [nextItem, if_neg Bool.false_ne_true, List.singleton_append,
        skipBlanks_cons (by decide)]
      simp only [skipBlanks_append (layout.isBlank_line depth), skipBlanks_write]
      rw [h]
      simp [hclosing]

/-- The end of an array comes next. -/
theorem nextItem_closing (first : Bool) {gap : List Char} (hgap : ∀ c ∈ gap, isBlank c = true)
    (rest : List Char) :
  nextItem first (gap ++ ']' :: rest) = .ok (.closing rest)
  := by
  rw [nextItem, skipBlanks_append hgap]
  rfl

/-- The items of an array are read one by one, up to the bracket. -/
theorem itemsFrom_entries {scan : Scan α} {layout : Layout} {depth : Nat} {value : β → Json}
    {result : β → α} {xs : List β}
    (h : ∀ x ∈ xs, Scans scan layout depth (value x) (result x)) {budget : Nat}
    (hbudget : xs.length < budget) (first : Bool) (before : List α) {gap : List Char}
    (hgap : ∀ c ∈ gap, isBlank c = true) (rest : List Char) :
  itemsFrom scan budget first before
      (layout.entries depth first (xs.map fun x => (value x).write layout depth)
        ++ (gap ++ ']' :: rest))
    = .ok (before.reverse ++ xs.map result, rest)
  := by
  induction xs generalizing before budget first with
  | nil =>
      obtain ⟨budget, rfl⟩ := Nat.exists_eq_add_one.mpr hbudget
      simp [Layout.entries, itemsFrom, nextItem_closing first hgap]
  | cons x xs ih =>
      obtain ⟨hx, hxs⟩ := List.forall_mem_cons.mp h
      obtain ⟨budget, rfl⟩ := Nat.exists_eq_add_one.mpr (Nat.zero_lt_of_lt hbudget)
      have hbehind : EndsNumeral (layout.entries depth false
          (xs.map fun x => (value x).write layout depth) ++ (gap ++ ']' :: rest)) :=
        endsNumeral_entries layout depth hgap (by simp [EndsNumeral]) _ rest
      have hitem := hx.write hbehind
      rw [List.map_cons, Layout.entries, List.append_assoc, List.append_assoc,
        List.append_assoc, itemsFrom, nextItem_entry]
      simp only [hitem]
      rw [ih hxs (by simpa using hbudget)]
      simp

/-- The text of an array starts with its opening bracket. -/
theorem exists_write_array_eq (layout : Layout) (depth : Nat) (items : List Json)
    (rest : List Char) :
  ∃ text, (Json.array items).write layout depth ++ rest = '[' :: text
  := by
  obtain ⟨gap, -, hblock⟩ := layout.exists_block_eq depth '[' ']'
    (writeItems layout (depth + 1) items)
  rw [write, hblock]
  exact ⟨_, rfl⟩

/-- The items of an array are read, from behind its opening bracket. -/
theorem itemsFrom_write {scan : Scan α} {layout : Layout} {depth : Nat} {value : β → Json}
    {result : β → α} {xs : List β}
    (h : ∀ x ∈ xs, Scans scan layout (depth + 1) (value x) (result x)) {budget : Nat}
    (hbudget : xs.length < budget) {text rest : List Char}
    (htext : (Json.array (xs.map value)).write layout depth ++ rest = '[' :: text) :
  itemsFrom scan budget true [] text = .ok (xs.map result, rest)
  := by
  obtain ⟨gap, hgap, hblock⟩ := layout.exists_block_eq depth '[' ']'
    (xs.map fun x => (value x).write layout (depth + 1))
  obtain rfl : layout.entries (depth + 1) true
      (xs.map fun x => (value x).write layout (depth + 1)) ++ (gap ++ ']' :: rest) = text := by
    rw [write, writeItems_eq_map, List.map_map] at htext
    simpa [Function.comp_def, hblock] using htext
  apply itemsFrom_entries h hbudget true [] hgap

/-- A list is read from the array of its items. -/
theorem reads_list {item : Reader α} {value : β → Json} {result : β → α} {xs : List β}
    (h : ∀ x ∈ xs, Reads item (value x) (result x)) :
  Reads (readList item) (.array (xs.map value)) (xs.map result)
  := by
  intro layout depth room hroom text rest hrest htext
  obtain ⟨inner, hinner, hlength, hitem⟩ := hroom.item
  obtain ⟨text', htext'⟩ := exists_write_array_eq layout depth (xs.map value) rest
  have hitems : itemsFrom (item { room with nesting := inner }) room.length true [] text'
      = .ok (xs.map result, rest) := by
    apply itemsFrom_write _ (by simpa using hlength) htext'
    intro x hx
    apply h x hx
    apply hitem _ (List.mem_map_of_mem hx)
  rw [readList, htext, htext']
  simp only [enter, hinner]
  apply hitems

end Json

end RecordSchema
