import RecordSchema.Json.Reader.Basic
import RecordSchema.Json.Text
import Mathlib.Tactic.Use

/-!
# Written text

How the text of a value starts, how long it is, and what stands between the brackets of an array
or object. The text of a double precision number consists of digits, signs, points and the letter
of the exponent, so it starts like the text of any other value: with a character that is neither
blank nor closes an array.
-/

namespace RecordSchema

/-! ### Numerals -/

/-- A character of numerals. -/
def isNumeric (c : Char) : Bool := c.isDigit || c == '-' || c == '+' || c == '.' || c == 'e'

theorem isNumeric_of_mem_toDigits {n : Nat} {c : Char} (h : c ∈ Nat.toDigits 10 n) :
  isNumeric c = true
  := by
  have hdigit := Nat.isDigit_of_mem_toDigits (by decide) (by decide) h
  simp [isNumeric, hdigit]

namespace Binary64

/-- The significant digits of a decimal are digits. -/
theorem isNumeric_of_mem_significant {d : Decimal} {c : Char} (h : c ∈ d.significant) :
  isNumeric c = true
  := by
  apply isNumeric_of_mem_toDigits (n := d.digits)
  apply List.mem_reverse.mp
  apply (List.dropWhile_suffix (· == '0')).mem
  apply List.mem_reverse.mp h

/-- Digits are laid out with characters of numerals. -/
theorem isNumeric_layout {digits : List Char} (h : ∀ c ∈ digits, isNumeric c = true)
    (place : Nat) :
  ∀ c ∈ layout digits place, isNumeric c = true
  := by
  have hdigits (n : Nat) : ∀ c ∈ Nat.toDigits 10 n, isNumeric c = true := by
    intro c
    apply isNumeric_of_mem_toDigits
  have hzeros (n : Nat) : ∀ c ∈ List.replicate n '0', isNumeric c = true := by
    intro c hc
    rw [List.eq_of_mem_replicate hc]
    decide
  unfold layout
  split
  · rw [List.forall_mem_append, List.forall_mem_cons]
    refine ⟨?_, by decide, ?_⟩
    · split
      · simpa [isNumeric] using h
      · apply h
    · split
      · apply List.forall_mem_cons.mpr ⟨by decide, hdigits _⟩
      · apply List.forall_mem_cons.mpr ⟨by decide, hdigits _⟩
  · split
    · rw [List.forall_mem_cons, List.forall_mem_cons, List.forall_mem_append]
      refine ⟨by decide, by decide, hzeros _, h⟩
    · rw [List.forall_mem_append, List.forall_mem_append, List.forall_mem_cons]
      refine ⟨⟨fun c hc => h c (List.mem_of_mem_take hc), hzeros _⟩, by decide, ?_⟩
      split
      · rw [List.forall_mem_singleton]
        decide
      · intro c hc
        apply h c (List.mem_of_mem_drop hc)

/-- A number is written with characters of numerals. -/
theorem isNumeric_write (x : Binary64) :
  ∀ c ∈ x.write, isNumeric c = true
  := by
  have hunsigned : ∀ c ∈ (if x.isZero then ['0', '.', '0']
      else layout (Decimal.shortest x).significant
        ((Decimal.shortest x).place + Decimal.length (Decimal.shortest x).digits - 1)),
      isNumeric c = true := by
    split
    · rw [List.forall_mem_cons, List.forall_mem_cons, List.forall_mem_singleton]
      decide
    · apply isNumeric_layout
      intro c
      apply isNumeric_of_mem_significant
  rw [write]
  split
  · apply List.forall_mem_cons.mpr ⟨by decide, hunsigned⟩
  · apply hunsigned

/-- The text of a number is not empty. -/
theorem write_ne_nil (x : Binary64) :
  x.write ≠ []
  := by
  have hlayout (digits : List Char) (place : Nat) : layout digits place ≠ [] := by
    unfold layout
    split
    · simp
    · split
      · simp
      · simp
  rw [write]
  split
  · simp
  · split
    · simp
    · apply hlayout

end Binary64

namespace Json

/-- A number is written with characters of numerals. -/
theorem isNumeric_writeNumber (n : Number) :
  ∀ c ∈ writeNumber n, isNumeric c = true
  := by
  cases n with
  | integer n fits =>
      have hdigits : ∀ c ∈ Nat.toDigits 10 n.natAbs, isNumeric c = true := by
        intro c
        apply isNumeric_of_mem_toDigits
      rw [writeNumber, writeInteger]
      split
      · apply List.forall_mem_cons.mpr ⟨by decide, hdigits⟩
      · apply hdigits
  | double x => apply x.isNumeric_write

theorem writeNumber_ne_nil (n : Number) :
  writeNumber n ≠ []
  := by
  cases n with
  | integer n fits =>
      rw [writeNumber, writeInteger]
      split
      · simp
      · apply Nat.toDigits_ne_nil
  | double x => apply x.write_ne_nil

/-! ### First characters -/

/-- The text of a value starts with a character that is neither blank nor closes an array. Only
the text of `null` starts with its first letter. -/
theorem exists_write_eq_cons (layout : Layout) (depth : Nat) (v : Json) :
  ∃ c text, v.write layout depth = c :: text
    ∧ isBlank c = false ∧ c ≠ ']' ∧ (c = 'n' → v = .null)
  := by
  have hblock (opening closing : Char) (entries : List (List Char)) :
      ∃ text, layout.block depth opening closing entries = opening :: text := by
    cases entries with
    | nil => exact ⟨_, rfl⟩
    | cons entry entries => exact ⟨_, rfl⟩
  have hother {c : Char} {text : List Char} (h : v.write layout depth = c :: text)
      (hc : isBlank c = false ∧ c ≠ ']' ∧ c ≠ 'n') :
      ∃ c text, v.write layout depth = c :: text
        ∧ isBlank c = false ∧ c ≠ ']' ∧ (c = 'n' → v = .null) := by
    use c, text, h, hc.1, hc.2.1
    intro hn
    exact absurd hn hc.2.2
  cases v with
  | null => exact ⟨_, _, rfl, by decide, by decide, fun _ => rfl⟩
  | bool b =>
      cases b with
      | false => apply hother rfl (by decide)
      | true => apply hother rfl (by decide)
  | number n =>
      obtain ⟨c, text, h⟩ := List.exists_cons_of_ne_nil (writeNumber_ne_nil n)
      have hc : isNumeric c = true := isNumeric_writeNumber n c (h ▸ List.mem_cons_self)
      have hnot (d : Char) (hd : isNumeric d = false) : c ≠ d := by
        rintro rfl
        rw [hc] at hd
        cases hd
      apply hother h
      refine ⟨?_, hnot ']' (by decide), hnot 'n' (by decide)⟩
      simp [isBlank, hnot ' ' (by decide), hnot '\n' (by decide), hnot '\t' (by decide),
        hnot '\r' (by decide)]
  | string s => apply hother rfl (by decide)
  | array items =>
      obtain ⟨text, h⟩ := hblock '[' ']' (writeItems layout (depth + 1) items)
      apply hother h (by decide)
  | object members =>
      obtain ⟨text, h⟩ := hblock '{' '}' (writeMembers layout (depth + 1) members)
      apply hother h (by decide)

/-! ### Lengths -/

theorem writeItems_eq_map (layout : Layout) (depth : Nat) (items : List Json) :
  writeItems layout depth items = items.map (write layout depth)
  := by
  induction items with
  | nil => rfl
  | cons item rest ih => rw [writeItems, ih, List.map_cons]

/-- The text of a member of an object. -/
def writeMember (layout : Layout) (depth : Nat) (m : String × Json) : List Char :=
  quote m.1 ++ (layout.colon ++ write layout depth m.2)

theorem writeMembers_eq_map (layout : Layout) (depth : Nat) (members : List (String × Json)) :
  writeMembers layout depth members = members.map (writeMember layout depth)
  := by
  induction members with
  | nil => rfl
  | cons m rest ih => rw [writeMembers, ih, List.map_cons, writeMember]

namespace Layout

/-- The entries of an array or object as they are met one by one: each but the first behind a
comma, and all on a line of their own. -/
def entries (layout : Layout) (depth : Nat) : (first : Bool) → List (List Char) → List Char
  | _, [] => []
  | first, entry :: rest =>
    (if first then [] else [','])
      ++ (layout.line depth ++ (entry ++ layout.entries depth false rest))

theorem more_eq_entries (layout : Layout) (depth : Nat) (texts : List (List Char)) :
  layout.more depth texts = layout.entries depth false texts
  := by
  induction texts with
  | nil => rfl
  | cons entry rest ih =>
      rw [more] at ih ⊢
      rw [List.flatMap_cons, ih]
      simp [entries]

theorem isBlank_line (layout : Layout) (depth : Nat) :
  ∀ c ∈ layout.line depth, isBlank c = true
  := by
  intro c hc
  cases layout with
  | compact => cases hc
  | pretty =>
      rcases List.mem_cons.mp hc with rfl | hc
      · rfl
      · rw [List.eq_of_mem_replicate hc]
        rfl

/-- Between the brackets of an array or object stand the entries and a gap. -/
theorem exists_block_eq (layout : Layout) (depth : Nat) (opening closing : Char)
    (texts : List (List Char)) :
  ∃ gap, (∀ c ∈ gap, isBlank c = true)
    ∧ layout.block depth opening closing texts
      = opening :: (layout.entries (depth + 1) true texts ++ (gap ++ [closing]))
  := by
  cases texts with
  | nil =>
      use []
      simp [block, entries]
  | cons first rest =>
      use layout.line depth, layout.isBlank_line depth
      simp [block, entries, more_eq_entries]

/-- Each entry is shorter than the array or object in which it stands. -/
theorem length_lt_block (layout : Layout) (depth : Nat) (opening closing : Char)
    {texts : List (List Char)} {entry : List Char} (h : entry ∈ texts) :
  entry.length < (layout.block depth opening closing texts).length
  := by
  have hentries (first : Bool) :
      entry.length ≤ (layout.entries (depth + 1) first texts).length := by
    induction texts generalizing first with
    | nil => cases h
    | cons text rest ih =>
        simp only [entries, List.length_append]
        rcases List.mem_cons.mp h with rfl | h
        · omega
        · have := ih h false
          omega
  obtain ⟨gap, -, hblock⟩ := layout.exists_block_eq depth opening closing texts
  have := hentries true
  simp only [hblock, List.length_cons, List.length_append]
  omega

/-- There are fewer entries than characters in an array or object. -/
theorem entries_lt_block (layout : Layout) (depth : Nat) (opening closing : Char)
    (texts : List (List Char)) :
  texts.length < (layout.block depth opening closing texts).length
  := by
  have hentries : texts.length ≤ (layout.entries (depth + 1) false texts).length := by
    induction texts with
    | nil => simp
    | cons text rest ih =>
        simp only [entries, List.length_append, List.length_cons]
        simp only [Bool.false_eq_true, if_false, List.length_cons]
        omega
  have hfirst : (layout.entries (depth + 1) false texts).length
      ≤ (layout.entries (depth + 1) true texts).length + 1 := by
    cases texts with
    | nil => simp [entries]
    | cons text rest => simp [entries]
  obtain ⟨gap, -, hblock⟩ := layout.exists_block_eq depth opening closing texts
  simp only [hblock, List.length_cons, List.length_append]
  omega

end Layout

end Json

end RecordSchema
