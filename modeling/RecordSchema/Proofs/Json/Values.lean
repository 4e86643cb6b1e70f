import RecordSchema.Proofs.Json.Reads
import RecordSchema.Proofs.Json.Sorted

/-!
# Reading back values

A value without double precision numbers is read from its text, in any layout, as the value with
the members of all objects in ascending order, if it is not nested too deeply. The members of an
object are met one by one like the items of an array, each behind its key.
-/

namespace RecordSchema

namespace Json

/-! ### Members of objects -/

/-- A member starts with a quote. Behind it stands the key, and behind the colon the value. -/
theorem exists_writeMember_eq (layout : Layout) (depth : Nat) (m : String × Json)
    (rest : List Char) :
  ∃ key colon value, writeMember layout depth m ++ rest = '"' :: key
    ∧ scanString key = .ok (m.1, colon)
    ∧ afterKey colon = .ok value
    ∧ skipBlanks value = m.2.write layout depth ++ rest
  := by
  have hvalue := skipBlanks_write layout depth m.2 rest
  refine ⟨_, layout.colon ++ (m.2.write layout depth ++ rest), ?_, ?_, scanString_escape m.1 _, ?_⟩
  · cases layout with
    | compact => exact m.2.write .compact depth ++ rest
    | pretty => exact ' ' :: (m.2.write .pretty depth ++ rest)
  · simp [writeMember, quote]
  · cases layout with
    | compact => exact ⟨rfl, hvalue⟩
    | pretty => exact ⟨rfl, hvalue⟩

/-- The first or a further member of an object comes next. -/
theorem nextMember_entry (layout : Layout) (depth : Nat) (first : Bool) (key : List Char) :
  nextMember first ((if first then [] else [',']) ++ (layout.line depth ++ '"' :: key))
    = .ok (.entry key)
  := by
  have hquote : skipBlanks ('"' :: key) = '"' :: key := skipBlanks_cons (by decide) key
  cases first with
  | true =>
      rw [nextMember, if_pos rfl, List.nil_append, skipBlanks_append (layout.isBlank_line depth),
        hquote]
      rfl
  | false =>
      rw [nextMember, if_neg Bool.false_ne_true, List.singleton_append,
        skipBlanks_cons (by decide)]
      simp only [skipBlanks_append (layout.isBlank_line depth), hquote]
      rfl

/-- The end of an object comes next. -/
theorem nextMember_closing (first : Bool) {gap : List Char}
    (hgap : ∀ c ∈ gap, isBlank c = true) (rest : List Char) :
  nextMember first (gap ++ '}' :: rest) = .ok (.closing rest)
  := by
  rw [nextMember, skipBlanks_append hgap]
  rfl

/-- The text of an object has its members between braces. -/
theorem exists_write_object_eq (layout : Layout) (depth : Nat) (members : List (String × Json)) :
  ∃ gap, (∀ c ∈ gap, isBlank c = true)
    ∧ (Json.object members).write layout depth
      = '{' :: (layout.entries (depth + 1) true (members.map (writeMember layout (depth + 1)))
        ++ (gap ++ ['}']))
  := by
  rw [write, writeMembers_eq_map]
  apply layout.exists_block_eq

/-- The members of an object are read one by one, up to the brace. -/
theorem membersFrom_entries {α : Type} {scan : Scan α} {layout : Layout} {depth : Nat}
    {result : Json → α} {members : List (String × Json)}
    (h : ∀ m ∈ members, Scans scan layout depth m.2 (result m.2)) {budget : Nat}
    (hbudget : members.length < budget) (first : Bool) (before : List (String × α))
    {gap : List Char} (hgap : ∀ c ∈ gap, isBlank c = true) (rest : List Char) :
  membersFrom scan budget first before
      (layout.entries depth first (members.map (writeMember layout depth))
        ++ (gap ++ '}' :: rest))
    = .ok (before.reverse ++ members.map (fun m => (m.1, result m.2)), rest)
  := by
  induction members generalizing before budget first with
  | nil =>
      obtain ⟨budget, rfl⟩ := Nat.exists_eq_add_one.mpr hbudget
      simp [Layout.entries, membersFrom, nextMember_closing first hgap]
  | cons m members ih =>
      obtain ⟨hm, hmembers⟩ := List.forall_mem_cons.mp h
      obtain ⟨budget, rfl⟩ := Nat.exists_eq_add_one.mpr (Nat.zero_lt_of_lt hbudget)
      let after := layout.entries depth false (members.map (writeMember layout depth))
        ++ (gap ++ '}' :: rest)
      obtain ⟨key, colon, value, hentry, hkey, hcolon, hvalue⟩ :=
        exists_writeMember_eq layout depth m after
      have hafter : EndsNumeral after :=
        endsNumeral_entries layout depth hgap (by simp [EndsNumeral]) _ rest
      have hmember : scanMember scan key = .ok ((m.1, result m.2), after) := by
        rw [scanMember, hkey]
        simp only [bind, Except.bind, hcolon, hm value after hafter hvalue, pure, Except.pure]
      rw [List.map_cons, Layout.entries, List.append_assoc, List.append_assoc,
        List.append_assoc, hentry, membersFrom, nextMember_entry]
      simp only [hmember]
      rw [ih hmembers (by simpa using hbudget)]
      simp

/-! ### Values -/

/-- A value is read by the reader of scalars, arrays and objects. -/
theorem readValue_eq (room : Room) :
  readValue room = scanValue room.length (match room.nesting with
    | 0 => none
    | inner + 1 => some (readValue { room with nesting := inner }))
  := by
  obtain ⟨nesting, length⟩ := room
  cases nesting with
  | zero => rfl
  | succ inner => rfl

/-- A scalar is read by the reader of scalars. -/
theorem scans_readValue_of_scalar {room : Room} {layout : Layout} {depth : Nat} {v w : Json}
    (hstart : ∀ text, (v.write layout depth).head? = some text → text ≠ '[' ∧ text ≠ '{')
    (hscalar : ∀ rest, EndsNumeral rest →
      scanScalar (v.write layout depth ++ rest) = .ok (w, rest)) :
  Scans (readValue room) layout depth v w
  := by
  intro text rest hrest htext
  obtain ⟨c, other, hwrite, -⟩ := exists_write_eq_cons layout depth v
  obtain ⟨harray, hobject⟩ := hstart c (by rw [hwrite]; rfl)
  rw [readValue_eq, scanValue, htext, ← hscalar rest hrest, hwrite]
  simp [harray, hobject]

/-- The text of a whole number starts with a digit or a minus sign. -/
theorem scanScalar_writeInteger {n : Int} (fits : Fits n) {rest : List Char}
    (hrest : EndsNumeral rest) :
  scanScalar (writeInteger n ++ rest) = .ok (.number (.integer n fits), rest)
  := by
  obtain ⟨c, text, hwrite⟩ := List.exists_cons_of_ne_nil (writeNumber_ne_nil (.integer n fits))
  have hc : c = '-' ∨ c.isDigit = true := by
    rw [writeNumber, writeInteger] at hwrite
    split at hwrite
    · left
      exact (List.cons.inj hwrite).1.symm
    · right
      apply Nat.isDigit_of_mem_toDigits (b := 10) (by decide) (by decide)
      rw [hwrite]
      apply List.mem_cons_self
  have hnot (d : Char) (hd : d ≠ '-') (hdigit : d.isDigit = false) : c ≠ d := by
    rintro rfl
    rcases hc with hc | hc
    · exact absurd hc hd
    · rw [hdigit] at hc
      cases hc
  have hnumber := scanNumber_writeInteger fits hrest
  rw [show writeInteger n = c :: text from hwrite, List.cons_append] at hnumber ⊢
  rw [scanScalar, if_neg (hnot 'n' (by decide) (by decide)),
    if_neg (hnot 't' (by decide) (by decide)), if_neg (hnot 'f' (by decide) (by decide)),
    if_neg (hnot '"' (by decide) (by decide)), if_pos hc, hnumber]
  rfl

/-- A value without double precision numbers is read as the value with the members of all objects
in ascending order. -/
theorem reads_value {v : Json} (h : v.IsWhole) :
  Reads readValue v v.sorted
  := by
  induction v using valueInduction with
  | null =>
      intro layout depth room _
      apply scans_readValue_of_scalar
      · simp [write]
      · intro rest _
        rfl
  | bool b =>
      intro layout depth room _
      cases b with
      | false =>
          apply scans_readValue_of_scalar
          · simp [write]
          · intro rest _
            rfl
      | true =>
          apply scans_readValue_of_scalar
          · simp [write]
          · intro rest _
            rfl
  | number n =>
      intro layout depth room _
      cases n with
      | double x => exact absurd .self (h x)
      | integer n fits =>
          apply scans_readValue_of_scalar
          · intro c hc
            have hnumeric := isNumeric_writeNumber (.integer n fits) c (List.mem_of_mem_head? hc)
            constructor
            · rintro rfl
              cases hnumeric
            · rintro rfl
              cases hnumeric
          · intro rest hrest
            apply scanScalar_writeInteger fits hrest
  | string s =>
      intro layout depth room _
      apply scans_readValue_of_scalar
      · simp [write, quote]
      · intro rest _
        have hs : (Json.string s).write layout depth ++ rest
            = '"' :: (s.toList.flatMap escape ++ '"' :: rest) := by
          simp [write, quote]
        rw [hs, scanScalar]
        simp [scanString_escape, Except.map, sorted]
  | array items ih =>
      intro layout depth room hroom text rest hrest htext
      obtain ⟨inner, hinner, hlength, hitem⟩ := hroom.item
      obtain ⟨text', htext'⟩ := exists_write_array_eq layout depth items rest
      have hitems : itemsFrom (readValue { room with nesting := inner }) room.length true [] text'
          = .ok (items.map sorted, rest) := by
        apply itemsFrom_write _ hlength ((List.map_id items).symm ▸ htext')
        intro item hmem
        apply ih item hmem (isWhole_array_iff.mp h item hmem)
        apply hitem item hmem
      rw [readValue_eq, scanValue, htext, htext']
      simp only [hinner, hitems, if_true, Except.map, sorted, sortedItems_eq_map]
  | object members ih =>
      intro layout depth room hroom text rest hrest htext
      obtain ⟨inner, hinner, hlength, hvalue⟩ := hroom.value
      obtain ⟨gap, hgap, hwrite⟩ := exists_write_object_eq layout depth members
      have hmembers : membersFrom (readValue { room with nesting := inner }) room.length true []
          (layout.entries (depth + 1) true (members.map (writeMember layout (depth + 1)))
            ++ (gap ++ '}' :: rest))
          = .ok (members.map (fun m => (m.1, m.2.sorted)), rest) := by
        apply membersFrom_entries _ hlength true [] hgap
        intro m hm
        apply ih m hm (isWhole_object_iff.mp h m hm)
        apply hvalue m hm
      rw [readValue_eq, scanValue, htext, hwrite]
      simp only [List.cons_append, List.append_assoc, List.nil_append, hinner, hmembers]
      simp [Except.map, sorted, sortedMembers_eq_map]

/-- The text of a value without double precision numbers is read as the value with the members of
all objects in ascending order. -/
theorem parse_text {v : Json} (h : v.IsWhole) (hnesting : v.nesting ≤ deepest)
    (layout : Layout) :
  parse (v.text layout) = .ok v.sorted
  := (reads_value h).readWhole hnesting layout

end Json

end RecordSchema
