import RecordSchema.Json.Reader.StringLiteral
import RecordSchema.Json.Reader.Numeral

/-!
# The grammar of JSON

A source is the syntax tree of a JSON text: it says what is written, down to the white space, the
escapes in string literals and the digits of numerals. Different sources may stand for the same
value, and a source need not stand for any: a numeral may be too large, and an escape may name
half of a pair of surrogates.
-/

namespace RecordSchema

namespace Json

/-! ### White space -/

/-- A character of white space. -/
inductive Blank where
  | space
  | newline
  | tab
  | carriageReturn

/-- The character itself. -/
def Blank.char : Blank → Char
  | .space => ' '
  | .newline => '\n'
  | .tab => '\t'
  | .carriageReturn => '\r'

/-- The white space in front of, between or behind other signs. -/
abbrev Gap : Type := List Blank

/-- The text of white space. -/
def Gap.text (gap : Gap) : List Char := gap.map Blank.char

/-! ### String literals -/

/-- A sign in a string literal. -/
inductive Letter where
  /-- A character that stands for itself. -/
  | plain (c : Char) (h : c ≠ '"' ∧ c ≠ '\\' ∧ 32 ≤ c.toNat)
  /-- A backslash with a letter that stands for a character. -/
  | escaped (letter c : Char) (h : escapedLetter? letter = some c)
  /-- An escape by four hexadecimal digits. -/
  | numbered (first second third fourth : Char) (n : Nat)
    (h : hexQuad? [first, second, third, fourth] = some n)

namespace Letter

/-- The text of a sign. -/
def text : Letter → List Char
  | .plain c _ => [c]
  | .escaped letter _ _ => ['\\', letter]
  | .numbered first second third fourth _ _ => ['\\', 'u', first, second, third, fourth]

/-- The characters that signs stand for. The first half of a pair of surrogates stands for a
character together with the second half, which follows it. -/
def chars? : List Letter → Option (List Char)
  | [] => some []
  | .plain c _ :: letters => (chars? letters).map (c :: ·)
  | .escaped _ c _ :: letters => (chars? letters).map (c :: ·)
  | .numbered _ _ _ _ n _ :: letters =>
    if isSecondSurrogate n then none
    else if isFirstSurrogate n then
      match letters with
      | .numbered _ _ _ _ m _ :: letters =>
        if isSecondSurrogate m then (chars? letters).map (joinSurrogates n m :: ·) else none
      | _ => none
    else (chars? letters).map (Char.ofNat n :: ·)

/-- The string that signs stand for. -/
def string? (letters : List Letter) : Option String := (chars? letters).map String.ofList

end Letter

/-- The text of a string literal from behind the opening quote. -/
def literalText (letters : List Letter) : List Char := letters.flatMap Letter.text ++ ['"']

/-! ### Numerals -/

/-- One or more digits. -/
structure Digits where
  chars : List Char
  nonempty : chars ≠ []
  digits : ∀ c ∈ chars, c.isDigit = true

/-- The exponent of a numeral. -/
structure Exponent where
  letter : Char
  letter_eq : letter = 'e' ∨ letter = 'E'
  /-- The sign that is written, if one is, and whether it is a minus sign. -/
  sign : Option Bool
  digits : Digits

namespace Exponent

/-- The text of a sign. -/
def signText : Option Bool → List Char
  | none => []
  | some false => ['+']
  | some true => ['-']

/-- The text of an exponent. -/
def text (exponent : Exponent) : List Char :=
  exponent.letter :: (signText exponent.sign ++ exponent.digits.chars)

end Exponent

/-- A numeral as it is written. A zero in front of the point stands alone. -/
structure Figures where
  negative : Bool
  whole : Digits
  whole_zero : whole.chars.head? = some '0' → whole.chars = ['0']
  fraction : Option Digits
  exponent : Option Exponent

namespace Figures

/-- The text of the point and the digits behind it. -/
def fractionText : Option Digits → List Char
  | none => []
  | some digits => '.' :: digits.chars

/-- The text of an exponent, if there is one. -/
def exponentText : Option Exponent → List Char
  | none => []
  | some exponent => exponent.text

/-- The text of a numeral. -/
def text (figures : Figures) : List Char :=
  (if figures.negative then ['-'] else []) ++ (figures.whole.chars
    ++ (fractionText figures.fraction ++ exponentText figures.exponent))

/-- The parts of a numeral as they are read. -/
def numeral (figures : Figures) : Numeral where
  negative := figures.negative
  whole := figures.whole.chars
  fraction := figures.fraction.map (·.chars)
  exponent := figures.exponent.map fun exponent =>
    (exponent.sign.getD false, exponent.digits.chars)

end Figures

/-! ### Values -/

/-- An item of an array, with the white space around it. -/
structure Item (α : Type) where
  before : Gap
  value : α
  after : Gap

/-- A member of an object, with the white space around its parts. -/
structure Member (α : Type) where
  before : Gap
  letters : List Letter
  /-- The white space in front of the colon. -/
  colon : Gap
  gap : Gap
  value : α
  after : Gap

/-- The key of a member, if its literal stands for a string. -/
def Member.key? {α : Type} (m : Member α) : Option String := Letter.string? m.letters

/-- The syntax tree of a JSON value. There may be white space in front of a closing bracket. -/
inductive Source where
  | null
  | bool (b : Bool)
  | numeral (figures : Figures)
  | string (letters : List Letter)
  | array (items : List (Item Source)) (last : Gap)
  | object (members : List (Member Source)) (last : Gap)

/-- The comma in front of an entry, unless it is the first one. -/
def comma (first : Bool) : List Char := if first then [] else [',']

mutual

/-- The text of a value. -/
def Source.text : Source → List Char
  | .null => ['n', 'u', 'l', 'l']
  | .bool true => ['t', 'r', 'u', 'e']
  | .bool false => ['f', 'a', 'l', 's', 'e']
  | .numeral figures => figures.text
  | .string letters => '"' :: literalText letters
  | .array items last => '[' :: (itemsText true items ++ (last.text ++ [']']))
  | .object members last => '{' :: (membersText true members ++ (last.text ++ ['}']))

/-- The text of items, with the commas in front of them. -/
def itemsText : (first : Bool) → List (Item Source) → List Char
  | _, [] => []
  | first, ⟨before, value, after⟩ :: items =>
    comma first ++ (before.text ++ (value.text ++ (after.text ++ itemsText false items)))

/-- The text of members, with the commas in front of them. -/
def membersText : (first : Bool) → List (Member Source) → List Char
  | _, [] => []
  | first, ⟨before, letters, colon, gap, value, after⟩ :: members =>
    comma first ++ (before.text ++ ('"' :: (literalText letters ++ (colon.text ++ (':' ::
      (gap.text ++ (value.text ++ (after.text ++ membersText false members))))))))

end

/-- A JSON text, which may have white space around its value. -/
abbrev Document : Type := Item Source

/-- The text of a document. -/
def Document.text (document : Document) : String :=
  String.ofList (document.before.text ++ (document.value.text ++ document.after.text))

/-! ### Induction on values -/

/-- A statement holds of all values if it holds of those without others in them, and of each array
and object for whose items and values it holds. -/
@[elab_as_elim]
theorem sourceInduction {motive : Source → Prop} (null : motive .null)
    (bool : ∀ b, motive (.bool b)) (numeral : ∀ figures, motive (.numeral figures))
    (string : ∀ letters, motive (.string letters))
    (array : ∀ items last, (∀ item ∈ items, motive item.value) → motive (.array items last))
    (object : ∀ members last, (∀ m ∈ members, motive m.value) → motive (.object members last)) :
    ∀ s : Source, motive s
  | .null => null
  | .bool b => bool b
  | .numeral figures => numeral figures
  | .string letters => string letters
  | .array items last => array items last
      (fun item _ => sourceInduction null bool numeral string array object item.value)
  | .object members last => object members last
      (fun m _ => sourceInduction null bool numeral string array object m.value)
termination_by s => sizeOf s
decreasing_by
  · rename_i hitem
    have := List.sizeOf_lt_of_mem hitem
    cases item
    simp only [Item.mk.sizeOf_spec, Source.array.sizeOf_spec] at this ⊢
    omega
  · rename_i hm
    have := List.sizeOf_lt_of_mem hm
    cases m
    simp only [Member.mk.sizeOf_spec, Source.object.sizeOf_spec] at this ⊢
    omega

end Json

end RecordSchema
