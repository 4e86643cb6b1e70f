import RecordSchema.Proofs.Binary64.Written
import RecordSchema.Proofs.Json.Parts
import RecordSchema.Proofs.Json.Writing

/-!
# Values with the same text

The text of a value tells where it ends, if what follows cannot continue a numeral, and in a layout
no two values have the same text. The first character tells what a value is; what an array or object
has in it is then found entry by entry.
-/

namespace RecordSchema

/-- The text does not start with a character of numerals. -/
def Detached (text : List Char) : Prop := ∀ c ∈ text.head?, isNumeric c = false

/-- What is written of something, in front of text that is detached, tells what it is and where the
other text starts. -/
def Separates {α : Type} (write : α → List Char) (x : α) : Prop :=
  ∀ y rest rest', Detached rest → Detached rest' →
    write x ++ rest = write y ++ rest' → x = y ∧ rest = rest'

theorem detached_cons {c : Char} (h : isNumeric c = false) (text : List Char) :
  Detached (c :: text)
  := by
  intro d hd
  obtain rfl := Option.some.inj hd
  apply h

namespace Json

/-! ### Numbers -/

/-- Whole numbers with the same text are the same. -/
theorem writeInteger_injective {m n : Int} (h : writeInteger m = writeInteger n) :
  m = n
  := by
  have hminus (k : Nat) (text : List Char) : '-' :: text ≠ Nat.toDigits 10 k := by
    intro heq
    have hdigit := Nat.isDigit_of_mem_toDigits (b := 10) (n := k) (c := '-') (by decide) (by decide)
      (by simp [← heq])
    cases hdigit
  rw [writeInteger, writeInteger] at h
  split at h
  · split at h
    · have habs := Binary64.toDigits_injective (List.cons.inj h).2
      omega
    · exact absurd h (hminus _ _)
  · split at h
    · exact absurd h.symm (hminus _ _)
    · have habs := Binary64.toDigits_injective h
      omega

/-- The text of a whole number has neither a point nor an exponent. -/
theorem writeInteger_ne_write (n : Int) (x : Binary64) :
  writeInteger n ≠ x.write
  := by
  intro heq
  obtain ⟨c, hmem, hc⟩ := x.exists_mem_write
  have hdigits : c = '-' ∨ c ∈ Nat.toDigits 10 n.natAbs := by
    rw [← heq, writeInteger] at hmem
    split at hmem
    · apply List.mem_cons.mp hmem
    · exact .inr hmem
  rcases hdigits with rfl | hdigit
  · simp at hc
  · have hdigit := Nat.isDigit_of_mem_toDigits (by decide) (by decide) hdigit
    rcases hc with rfl | rfl
    · cases hdigit
    · cases hdigit

/-- Numbers with the same text are the same. -/
theorem writeNumber_injective {m n : Number} (h : writeNumber m = writeNumber n) :
  m = n
  := by
  cases m with
  | integer m fits =>
      cases n with
      | integer n fits' =>
          obtain rfl := writeInteger_injective h
          rfl
      | double y => exact absurd h (writeInteger_ne_write m y)
  | double x =>
      cases n with
      | integer n fits => exact absurd h.symm (writeInteger_ne_write n x)
      | double y => rw [Binary64.write_injective h]

theorem separates_writeNumber (n : Number) :
  Separates writeNumber n
  := by
  intro m rest rest' hrest hrest' h
  have htake (n : Number) {rest : List Char} (hrest : Detached rest) :
      (writeNumber n ++ rest).takeWhile isNumeric = writeNumber n := by
    have hstop : rest.takeWhile isNumeric = [] := by
      cases rest with
      | nil => rfl
      | cons c rest => rw [List.takeWhile_cons_of_neg (by simp [hrest c rfl])]
    rw [List.takeWhile_append_of_pos (isNumeric_writeNumber n), hstop, List.append_nil]
  have hsame : writeNumber n = writeNumber m := by
    rw [← htake n hrest, h, htake m hrest']
  obtain rfl := writeNumber_injective hsame
  exact ⟨rfl, List.append_cancel_left h⟩

/-! ### Strings -/

/-- A string literal tells its string and ends by itself. -/
theorem quote_append_injective {s t : String} {rest rest' : List Char}
    (h : quote s ++ rest = quote t ++ rest') :
  s = t ∧ rest = rest'
  := by
  have hscan (s : String) (rest : List Char) :
      scanString (quote s ++ rest).tail = .ok (s, rest) := by
    rw [← scanString_escape s rest]
    simp [quote]
  have hsame : (Except.ok (s, rest) : Except Fault _) = .ok (t, rest') := by
    rw [← hscan, h, hscan]
  apply Prod.mk.inj (Except.ok.inj hsame)

/-! ### Entries -/

/-- The entries after the first tell what they are, up to the closing bracket. -/
theorem separates_more {α : Type} {write : α → List Char} (layout : Layout) (depth : Nat)
    {closing : Char} (hclosing : isNumeric closing = false) (hcomma : closing ≠ ',')
    {xs ys : List α} (hxs : ∀ x ∈ xs, Separates write x) {rest rest' : List Char}
    (h : layout.more (depth + 1) (xs.map write) ++ (layout.line depth ++ closing :: rest)
      = layout.more (depth + 1) (ys.map write) ++ (layout.line depth ++ closing :: rest')) :
  xs = ys ∧ rest = rest'
  := by
  have hend (text tail : List Char) : layout.line depth ++ closing :: text ≠ ',' :: tail := by
    cases layout with
    | compact => simpa [Layout.line] using fun heq => absurd heq hcomma
    | pretty => simp [Layout.line]
  have hdetached (ys : List α) (rest : List Char) : Detached
      (layout.more (depth + 1) (ys.map write) ++ (layout.line depth ++ closing :: rest)) := by
    cases ys with
    | nil =>
        cases layout with
        | compact => apply detached_cons hclosing
        | pretty => apply detached_cons (by decide)
    | cons y ys => apply detached_cons (by decide)
  have hcons (x : α) (xs : List α) (text : List Char) :
      layout.more (depth + 1) ((x :: xs).map write) ++ text
        = ',' :: (layout.line (depth + 1)
          ++ (write x ++ (layout.more (depth + 1) (xs.map write) ++ text))) := by
    simp [Layout.more]
  induction xs generalizing ys with
  | nil =>
      cases ys with
      | nil => exact ⟨rfl, (List.cons.inj (List.append_cancel_left h)).2⟩
      | cons y ys =>
          rw [hcons] at h
          exact absurd h (hend _ _)
  | cons x xs ih =>
      obtain ⟨hx, hxs⟩ := List.forall_mem_cons.mp hxs
      cases ys with
      | nil =>
          rw [hcons] at h
          exact absurd h.symm (hend _ _)
      | cons y ys =>
          rw [hcons, hcons] at h
          obtain ⟨rfl, hmore⟩ := hx y _ _ (hdetached xs rest) (hdetached ys rest')
            (List.append_cancel_left (List.cons.inj h).2)
          obtain ⟨rfl, hrest⟩ := ih hxs hmore
          exact ⟨rfl, hrest⟩

/-- The text of an array or object tells its entries. -/
theorem separates_block {α : Type} {write : α → List Char} (layout : Layout) (depth : Nat)
    (opening : Char) {closing : Char} (hclosing : isNumeric closing = false)
    (hcomma : closing ≠ ',') (hfirst : ∀ x, ∃ c text, write x = c :: text ∧ c ≠ closing)
    (hblank : closing ≠ '\n') {xs ys : List α} (hxs : ∀ x ∈ xs, Separates write x)
    {rest rest' : List Char}
    (h : layout.block depth opening closing (xs.map write) ++ rest
      = layout.block depth opening closing (ys.map write) ++ rest') :
  xs = ys ∧ rest = rest'
  := by
  have hcons (x : α) (xs : List α) (text : List Char) :
      layout.block depth opening closing ((x :: xs).map write) ++ text
        = opening :: (layout.line (depth + 1) ++ (write x
          ++ (layout.more (depth + 1) (xs.map write)
            ++ (layout.line depth ++ closing :: text)))) := by
    simp [Layout.block]
  have hnil (x : α) (text tail : List Char) :
      opening :: closing :: text ≠ opening :: (layout.line (depth + 1) ++ (write x ++ tail)) := by
    obtain ⟨c, start, hwrite, hc⟩ := hfirst x
    intro heq
    cases layout with
    | compact =>
        rw [hwrite] at heq
        exact hc (List.cons.inj (List.cons.inj heq).2).1.symm
    | pretty => exact hblank (List.cons.inj (List.cons.inj heq).2).1
  cases xs with
  | nil =>
      cases ys with
      | nil => exact ⟨rfl, List.append_cancel_left h⟩
      | cons y ys =>
          rw [hcons] at h
          exact absurd h (hnil y rest _)
  | cons x xs =>
      cases ys with
      | nil =>
          rw [hcons] at h
          exact absurd h.symm (hnil x rest' _)
      | cons y ys =>
          -- The first entry is met like one behind a comma.
          have hmore : layout.more (depth + 1) ((x :: xs).map write)
                ++ (layout.line depth ++ closing :: rest)
              = layout.more (depth + 1) ((y :: ys).map write)
                ++ (layout.line depth ++ closing :: rest') := by
            rw [hcons, hcons] at h
            simpa [Layout.more] using (List.cons.inj h).2
          apply separates_more layout depth hclosing hcomma hxs hmore

/-! ### Values -/

/-- The first character of the text of a value that is not a number. -/
def start? : Json → Option Char
  | .null => some 'n'
  | .bool true => some 't'
  | .bool false => some 'f'
  | .number _ => none
  | .string _ => some '"'
  | .array _ => some '['
  | .object _ => some '{'

theorem isNumeric_start? {v : Json} {c : Char} (h : v.start? = some c) :
  isNumeric c = false
  := by
  cases v with
  | number n => cases h
  | bool b => cases b <;> (obtain rfl := Option.some.inj h; rfl)
  | _ =>
      obtain rfl := Option.some.inj h
      rfl

/-- The text of a value starts with the character that tells what it is, or with one of numerals. -/
theorem exists_write_eq_start (layout : Layout) (depth : Nat) (v : Json) :
  ∃ c text, v.write layout depth = c :: text
    ∧ (v.start? = some c ∨ v.start? = none ∧ isNumeric c = true)
  := by
  have hblock (opening closing : Char) (entries : List (List Char)) :
      ∃ text, layout.block depth opening closing entries = opening :: text := by
    cases entries with
    | nil => exact ⟨_, rfl⟩
    | cons entry entries => exact ⟨_, rfl⟩
  cases v with
  | null => exact ⟨_, _, rfl, .inl rfl⟩
  | bool b => cases b <;> exact ⟨_, _, rfl, .inl rfl⟩
  | number n =>
      obtain ⟨c, text, h⟩ := List.exists_cons_of_ne_nil (writeNumber_ne_nil n)
      exact ⟨c, text, h, .inr ⟨rfl, isNumeric_writeNumber n c (h ▸ List.mem_cons_self)⟩⟩
  | string s => exact ⟨_, _, rfl, .inl rfl⟩
  | array items =>
      obtain ⟨text, h⟩ := hblock '[' ']' (writeItems layout (depth + 1) items)
      exact ⟨_, text, h, .inl rfl⟩
  | object members =>
      obtain ⟨text, h⟩ := hblock '{' '}' (writeMembers layout (depth + 1) members)
      exact ⟨_, text, h, .inl rfl⟩

/-- Values whose texts go on to the same text are of the same kind. -/
theorem start?_eq_of_write {layout : Layout} {depth : Nat} {v w : Json} {rest rest' : List Char}
    (h : v.write layout depth ++ rest = w.write layout depth ++ rest') :
  v.start? = w.start?
  := by
  obtain ⟨c, text, hv, hc⟩ := exists_write_eq_start layout depth v
  obtain ⟨d, text', hw, hd⟩ := exists_write_eq_start layout depth w
  rw [hv, hw] at h
  obtain rfl : c = d := (List.cons.inj h).1
  rcases hc with hc | ⟨hc, hnumeric⟩
  · rcases hd with hd | ⟨-, hnumeric⟩
    · rw [hc, hd]
    · rw [isNumeric_start? hc] at hnumeric
      cases hnumeric
  · rcases hd with hd | ⟨hd, -⟩
    · rw [isNumeric_start? hd] at hnumeric
      cases hnumeric
    · rw [hc, hd]

/-- A member tells its key and its value. -/
theorem separates_writeMember {layout : Layout} {depth : Nat} {m : String × Json}
    (h : Separates (write layout depth) m.2) :
  Separates (writeMember layout depth) m
  := by
  intro n rest rest' hrest hrest' hsame
  simp only [writeMember, List.append_assoc] at hsame
  obtain ⟨hkey, hvalue⟩ := quote_append_injective hsame
  obtain ⟨hvalue, hrest⟩ := h n.2 rest rest' hrest hrest' (List.append_cancel_left hvalue)
  exact ⟨Prod.ext hkey hvalue, hrest⟩

/-- The text of a value tells the value and where it ends. -/
theorem separates_write (layout : Layout) (depth : Nat) (v : Json) :
  Separates (write layout depth) v
  := by
  induction v using valueInduction generalizing depth with
  | null =>
      intro w rest rest' _ _ h
      have hstart := start?_eq_of_write h
      cases w with
      | null => exact ⟨rfl, List.append_cancel_left h⟩
      | bool b => cases b <;> simp [start?] at hstart
      | _ => simp [start?] at hstart
  | bool b =>
      intro w rest rest' _ _ h
      have hstart := start?_eq_of_write h
      cases w with
      | bool b' =>
          obtain rfl : b = b' := by
            cases b <;> cases b' <;> simp [start?] at hstart ⊢
          exact ⟨rfl, List.append_cancel_left h⟩
      | _ => cases b <;> simp [start?] at hstart
  | number n =>
      intro w rest rest' hrest hrest' h
      have hstart := start?_eq_of_write h
      cases w with
      | number m =>
          obtain ⟨rfl, hrest⟩ := separates_writeNumber n m rest rest' hrest hrest' h
          exact ⟨rfl, hrest⟩
      | bool b => cases b <;> simp [start?] at hstart
      | _ => simp [start?] at hstart
  | string s =>
      intro w rest rest' _ _ h
      have hstart := start?_eq_of_write h
      cases w with
      | string t =>
          obtain ⟨rfl, hrest⟩ := quote_append_injective h
          exact ⟨rfl, hrest⟩
      | bool b => cases b <;> simp [start?] at hstart
      | _ => simp [start?] at hstart
  | array items ih =>
      intro w rest rest' _ _ h
      have hstart := start?_eq_of_write h
      cases w with
      | array items' =>
          simp only [write, writeItems_eq_map] at h
          have hfirst (v : Json) :
              ∃ c text, write layout (depth + 1) v = c :: text ∧ c ≠ ']' := by
            obtain ⟨c, text, hwrite, -, hc, -⟩ := exists_write_eq_cons layout (depth + 1) v
            exact ⟨c, text, hwrite, hc⟩
          obtain ⟨rfl, hrest⟩ := separates_block layout depth '[' (by decide) (by decide) hfirst
            (by decide) (fun item hitem => ih item hitem (depth + 1)) h
          exact ⟨rfl, hrest⟩
      | bool b => cases b <;> simp [start?] at hstart
      | _ => simp [start?] at hstart
  | object members ih =>
      intro w rest rest' _ _ h
      have hstart := start?_eq_of_write h
      cases w with
      | object members' =>
          simp only [write, writeMembers_eq_map] at h
          have hfirst (m : String × Json) :
              ∃ c text, writeMember layout (depth + 1) m = c :: text ∧ c ≠ '}' :=
            ⟨_, _, rfl, by decide⟩
          obtain ⟨rfl, hrest⟩ := separates_block layout depth '{' (by decide) (by decide) hfirst
            (by decide) (fun m hm => separates_writeMember (ih m hm (depth + 1))) h
          exact ⟨rfl, hrest⟩
      | bool b => cases b <;> simp [start?] at hstart
      | _ => simp [start?] at hstart

/-- In a layout, values with the same text are the same. -/
theorem text_injective (layout : Layout) {v w : Json} (h : v.text layout = w.text layout) :
  v = w
  := by
  have hnil : Detached [] := by simp [Detached]
  have hwrite : v.write layout 0 ++ [] = w.write layout 0 ++ [] := by
    rw [List.append_nil, List.append_nil]
    apply String.ofList_injective h
  exact (separates_write layout 0 v w [] [] hnil hnil hwrite).1

end Json

end RecordSchema
