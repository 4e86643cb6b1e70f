import RecordSchema.Proofs.Json.Parts
import RecordSchema.Proofs.Json.Writing
import Mathlib.Data.List.Forall2

/-!
# Layouts

The two texts of a value differ in gaps only, that is, in blanks that stand outside string
literals. Whether a character stands in a literal is found by reading the text from its start: a
quote opens a literal, and the next quote that does not stand right behind a backslash closes it,
where the character behind a backslash is passed over. All texts that make up the text of a value
start and end outside literals, so they are compared one by one.
-/

namespace RecordSchema

namespace Json

/-! ### Regions of a text -/

/-- Where a character of a text stands. -/
inductive Region where
  /-- Outside string literals. The opening quote of a literal stands outside of it. -/
  | outside
  /-- In a string literal. -/
  | inside
  /-- In a string literal, right behind a backslash that escapes the character. -/
  | escaped
deriving DecidableEq

namespace Region

/-- The region behind a character. -/
def next : Region → Char → Region
  | .outside, c => if c = '"' then .inside else .outside
  | .inside, c => if c = '"' then .outside else if c = '\\' then .escaped else .inside
  | .escaped, _ => .inside

/-- The region behind a text. -/
def after (region : Region) (text : List Char) : Region := text.foldl next region

theorem after_cons (region : Region) (c : Char) (rest : List Char) :
  region.after (c :: rest) = (region.next c).after rest
  := rfl

theorem after_append (region : Region) (before rest : List Char) :
  region.after (before ++ rest) = (region.after before).after rest
  := List.foldl_append

end Region

/-- A character with the region where it stands. -/
structure Mark where
  region : Region
  char : Char

/-- Whether a character is a blank outside string literals. -/
def Mark.isGap (mark : Mark) : Bool := mark.region = .outside && isBlank mark.char

/-- The characters of a text that starts at a region. -/
def marked : Region → List Char → List Mark
  | _, [] => []
  | region, c :: rest => ⟨region, c⟩ :: marked (region.next c) rest

theorem marked_append (region : Region) (before rest : List Char) :
  marked region (before ++ rest) = marked region before ++ marked (region.after before) rest
  := by
  induction before generalizing region with
  | nil => rfl
  | cons c before ih =>
      rw [List.cons_append, marked, ih, marked, List.cons_append, Region.after_cons]

theorem map_char_marked (region : Region) (text : List Char) :
  (marked region text).map (·.char) = text
  := by
  induction text generalizing region with
  | nil => rfl
  | cons c rest ih => rw [marked, List.map_cons, ih]

theorem mem_marked (region : Region) (before : List Char) (c : Char) (rest : List Char) :
  ⟨region.after before, c⟩ ∈ marked region (before ++ c :: rest)
  := by
  rw [marked_append]
  apply List.mem_append_right _ List.mem_cons_self

/-- The characters of a text that are not gaps. -/
def solid (text : List Char) : List Mark := (marked .outside text).filter fun mark => !mark.isGap

/-- A text without its gaps. -/
def squeeze (text : String) : String := String.ofList ((solid text.toList).map (·.char))

/-- Blanks in a literal are no gaps, and an escaped quote does not close it. -/
example :
  squeeze "[ \"a \\\" b\", \"\\\\\" ,\n 1 ]" = "[\"a \\\" b\",\"\\\\\",1]"
  := by
  decide

/-- A visible ASCII character. -/
def isVisible (c : Char) : Bool := '!' ≤ c && c ≤ '~'

/-- Visible characters are no blanks. -/
theorem isBlank_of_isVisible {c : Char} (h : isVisible c = true) :
  isBlank c = false
  := by
  rw [← Bool.not_eq_true, isBlank]
  simp only [Bool.or_eq_true, beq_iff_eq]
  rintro (((rfl | rfl) | rfl) | rfl) <;> cases h

/-- A visible character other than the quote. -/
def isPlain (c : Char) : Bool := isVisible c && c != '"'

theorem isPlain_iff {c : Char} :
  isPlain c = true ↔ isVisible c = true ∧ c ≠ '"'
  := by
  rw [isPlain, Bool.and_eq_true, bne_iff_ne]

/-! ### Literals -/

/-- A text that stands in a string literal, and does not close it. -/
structure Quoted (text : List Char) : Prop where
  after : Region.inside.after text = .inside
  inside : ∀ mark ∈ marked .inside text, mark.region ≠ .outside

theorem Quoted.append {before rest : List Char} (hbefore : Quoted before) (hrest : Quoted rest) :
  Quoted (before ++ rest)
  := by
  constructor
  · rw [Region.after_append, hbefore.after, hrest.after]
  · rw [marked_append, hbefore.after]
    apply List.forall_mem_append.mpr ⟨hbefore.inside, hrest.inside⟩

/-- A character that needs no escape does not close a literal. -/
theorem quoted_singleton {c : Char} (hquote : c ≠ '"') (hbackslash : c ≠ '\\') :
  Quoted [c]
  := by
  constructor
  · rw [Region.after_cons, Region.next, if_neg hquote, if_neg hbackslash]
    rfl
  · rw [marked, marked, List.forall_mem_singleton]
    rintro ⟨⟩

/-- A character that is escaped by a backslash does not close a literal. -/
theorem quoted_pair (c : Char) :
  Quoted ['\\', c]
  := by
  constructor
  · rfl
  · rw [marked, marked, marked, List.forall_mem_cons, List.forall_mem_singleton]
    constructor
    · rintro ⟨⟩
    · rintro ⟨⟩

/-- A hexadecimal digit is neither a quote nor a backslash. -/
theorem hexDigit_ne :
  ∀ n < 16, hexDigit n ≠ '"' ∧ hexDigit n ≠ '\\'
  := by
  decide

/-- An escaped character does not close a literal. -/
theorem quoted_escape (c : Char) :
  Quoted (escape c)
  := by
  have hdigit {n : Nat} (h : n < 16) : Quoted [hexDigit n] :=
    quoted_singleton (hexDigit_ne n h).1 (hexDigit_ne n h).2
  have hzero : Quoted ['0'] := quoted_singleton (by decide) (by decide)
  unfold escape
  split_ifs with hquote hbackslash
  any_goals apply quoted_pair
  · apply (quoted_pair 'u').append (hzero.append (hzero.append _))
    apply (hdigit (by omega)).append (hdigit (Nat.mod_lt _ (by decide)))
  · apply quoted_singleton hquote hbackslash

theorem quoted_flatMap_escape (text : List Char) :
  Quoted (text.flatMap escape)
  := by
  induction text with
  | nil => exact ⟨rfl, by rintro mark ⟨⟩⟩
  | cons c rest ih =>
      rw [List.flatMap_cons]
      apply (quoted_escape c).append ih

/-! ### Texts that differ in gaps -/

/-- Without a quote, all of a text stands outside literals. -/
theorem marked_of_not_mem {text : List Char} (h : '"' ∉ text) :
  Region.outside.after text = .outside ∧ marked .outside text = text.map (Mark.mk .outside)
  := by
  induction text with
  | nil => exact ⟨rfl, rfl⟩
  | cons c rest ih =>
      rw [List.mem_cons, not_or] at h
      obtain ⟨hafter, hmarked⟩ := ih h.2
      have hnext : Region.outside.next c = .outside := if_neg (Ne.symm h.1)
      constructor
      · rw [Region.after_cons, hnext, hafter]
      · rw [marked, hnext, hmarked, List.map_cons]

/-- Two texts start and end outside literals, and the second one is the first one without its
gaps. -/
structure Squeezed (loose dense : List Char) : Prop where
  after_loose : Region.outside.after loose = .outside
  after_dense : Region.outside.after dense = .outside
  /-- The same characters stand in the same regions. -/
  same : solid loose = marked .outside dense
  /-- What stands outside literals is visible. -/
  visible : ∀ mark ∈ marked .outside dense, mark.region = .outside → isVisible mark.char = true

namespace Squeezed

theorem append {loose dense loose' dense' : List Char} (h : Squeezed loose dense)
    (h' : Squeezed loose' dense') :
  Squeezed (loose ++ loose') (dense ++ dense')
  := by
  constructor
  · rw [Region.after_append, h.after_loose, h'.after_loose]
  · rw [Region.after_append, h.after_dense, h'.after_dense]
  · rw [solid, marked_append, List.filter_append, h.after_loose, marked_append, h.after_dense,
      ← h.same, ← h'.same, solid, solid]
  · rw [marked_append, h.after_dense]
    apply List.forall_mem_append.mpr ⟨h.visible, h'.visible⟩

/-- A gap goes altogether. -/
theorem gap {text : List Char} (h : ∀ c ∈ text, isBlank c = true) :
  Squeezed text []
  := by
  have hquote : '"' ∉ text := fun hmem => absurd (h _ hmem) (by decide)
  obtain ⟨hafter, hmarked⟩ := marked_of_not_mem hquote
  refine ⟨hafter, rfl, ?_, by rintro mark ⟨⟩⟩
  rw [solid, hmarked, marked, List.filter_eq_nil_iff]
  simpa [Mark.isGap] using h

/-- A text that starts and ends outside literals and is visible there stays as it is. -/
theorem self {text : List Char} (hafter : Region.outside.after text = .outside)
    (hvisible : ∀ mark ∈ marked .outside text, mark.region = .outside →
      isVisible mark.char = true) :
  Squeezed text text
  := by
  refine ⟨hafter, hafter, ?_, hvisible⟩
  rw [solid, List.filter_eq_self]
  intro mark hmark
  rw [Mark.isGap, Bool.not_eq_true', Bool.and_eq_false_iff, decide_eq_false_iff_not]
  by_cases houtside : mark.region = .outside
  · right
    apply isBlank_of_isVisible (hvisible mark hmark houtside)
  · left
    apply houtside

/-- A text that is visible and has no quote stays as it is. -/
theorem plain {text : List Char} (h : ∀ c ∈ text, isPlain c = true) :
  Squeezed text text
  := by
  have hquote : '"' ∉ text := fun hmem => (isPlain_iff.mp (h _ hmem)).2 rfl
  obtain ⟨hafter, hmarked⟩ := marked_of_not_mem hquote
  apply self hafter
  rw [hmarked, List.forall_mem_map]
  intro c hc _
  apply (isPlain_iff.mp (h c hc)).1

/-- A literal stays as it is. -/
theorem quote (s : String) :
  Squeezed (quote s) (quote s)
  := by
  have hbody := quoted_flatMap_escape s.toList
  have hafter : Region.outside.after (Json.quote s) = .outside := by
    change Region.inside.after (s.toList.flatMap escape ++ ['"']) = _
    rw [Region.after_append, hbody.after]
    rfl
  have hmarked : marked .outside (Json.quote s)
      = ⟨.outside, '"'⟩ :: (marked .inside (s.toList.flatMap escape) ++ [⟨.inside, '"'⟩]) := by
    change _ :: marked .inside (s.toList.flatMap escape ++ ['"']) = _
    rw [marked_append, hbody.after]
    rfl
  apply self hafter
  rw [hmarked, List.forall_mem_cons, List.forall_mem_append, List.forall_mem_singleton]
  refine ⟨fun _ => rfl, ?_, by rintro ⟨⟩⟩
  intro mark hmark houtside
  exact absurd houtside (hbody.inside mark hmark)

theorem map_char_solid {loose dense : List Char} (h : Squeezed loose dense) :
  (solid loose).map (·.char) = dense
  := by
  rw [h.same, map_char_marked]

end Squeezed

/-! ### Both layouts -/

/-- Characters of numerals are visible, and no quotes. -/
theorem isPlain_of_isNumeric {c : Char} (h : isNumeric c = true) :
  isPlain c = true
  := by
  simp only [isNumeric, Bool.or_eq_true, beq_iff_eq] at h
  rcases h with (((hdigit | rfl) | rfl) | rfl) | rfl
  · rw [isPlain_iff]
    constructor
    · simp only [Char.isDigit, Bool.and_eq_true, decide_eq_true_eq] at hdigit
      rw [isVisible, Bool.and_eq_true, decide_eq_true_eq, decide_eq_true_eq]
      exact ⟨UInt32.le_trans (by decide) hdigit.1, UInt32.le_trans hdigit.2 (by decide)⟩
    · rintro rfl
      cases hdigit
  all_goals rfl

/-- The compact layout has no lines. -/
theorem squeezed_line (depth depth' : Nat) :
  Squeezed (Layout.pretty.line depth) (Layout.compact.line depth')
  := Squeezed.gap (Layout.pretty.isBlank_line depth)

theorem squeezed_colon :
  Squeezed Layout.pretty.colon Layout.compact.colon
  := by
  have hcolon : Squeezed [':'] [':'] := Squeezed.plain (List.forall_mem_singleton.mpr rfl)
  have hblank : Squeezed [' '] [] := Squeezed.gap (List.forall_mem_singleton.mpr rfl)
  apply hcolon.append hblank

/-- Entries that differ in gaps only make arrays or objects that do so. -/
theorem squeezed_block (depth depth' : Nat) {opening closing : Char}
    (hopening : isPlain opening = true) (hclosing : isPlain closing = true)
    {loose dense : List (List Char)} (h : List.Forall₂ Squeezed loose dense) :
  Squeezed (Layout.pretty.block depth opening closing loose)
    (Layout.compact.block depth' opening closing dense)
  := by
  have hsingle {c : Char} (hc : isPlain c = true) : Squeezed [c] [c] :=
    Squeezed.plain (List.forall_mem_singleton.mpr hc)
  have hcomma : Squeezed [','] [','] := hsingle rfl
  have hmore {loose dense : List (List Char)} (h : List.Forall₂ Squeezed loose dense) :
      Squeezed (Layout.pretty.more (depth + 1) loose) (Layout.compact.more (depth' + 1) dense) := by
    induction h with
    | nil => exact Squeezed.gap (by rintro c ⟨⟩)
    | cons hentry _ ih =>
        rw [Layout.more, Layout.more, List.flatMap_cons, List.flatMap_cons]
        apply (hcomma.append ((squeezed_line (depth + 1) (depth' + 1)).append hentry)).append ih
  cases h with
  | nil => apply (hsingle hopening).append (hsingle hclosing)
  | cons hfirst hrest =>
      apply (hsingle hopening).append
      apply (squeezed_line (depth + 1) (depth' + 1)).append
      apply hfirst.append
      apply (hmore hrest).append
      apply (squeezed_line depth depth').append (hsingle hclosing)

/-- The compact text of a value is the pretty one without its gaps. -/
theorem squeezed_write (depth depth' : Nat) (v : Json) :
  Squeezed (v.write .pretty depth) (v.write .compact depth')
  := by
  induction v using valueInduction generalizing depth depth' with
  | null =>
      rw [write, write]
      apply Squeezed.plain (List.all_eq_true.mp rfl)
  | bool b =>
      cases b with
      | false =>
          rw [write, write]
          apply Squeezed.plain (List.all_eq_true.mp rfl)
      | true =>
          rw [write, write]
          apply Squeezed.plain (List.all_eq_true.mp rfl)
  | number n =>
      rw [write, write]
      apply Squeezed.plain
      intro c hc
      apply isPlain_of_isNumeric (isNumeric_writeNumber n c hc)
  | string s =>
      rw [write, write]
      apply Squeezed.quote
  | array items ih =>
      rw [write, write, writeItems_eq_map, writeItems_eq_map]
      apply squeezed_block _ _ rfl rfl
      rw [List.forall₂_map_left_iff, List.forall₂_map_right_iff, List.forall₂_same]
      intro item hitem
      apply ih item hitem
  | object members ih =>
      rw [write, write, writeMembers_eq_map, writeMembers_eq_map]
      apply squeezed_block _ _ rfl rfl
      rw [List.forall₂_map_left_iff, List.forall₂_map_right_iff, List.forall₂_same]
      intro m hm
      rw [writeMember, writeMember]
      apply (Squeezed.quote m.1).append (squeezed_colon.append (ih m hm _ _))

theorem squeezed_text (v : Json) :
  Squeezed (v.text .pretty).toList (v.text .compact).toList
  := by
  rw [text, text, String.toList_ofList, String.toList_ofList]
  apply squeezed_write

end Json

end RecordSchema
