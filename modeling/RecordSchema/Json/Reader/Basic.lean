import RecordSchema.Json.Fault

/-!
# Readers

A reader takes a value from the front of a text and returns it with the rest, or reports the
first fault. This module holds what all readers share: white space, words, the separators of
arrays and objects, and the loop over the items of an array.

The texts inside brackets are read item by item. Every item takes at least one character, so
the number of characters of the whole text bounds every such loop.
-/

namespace RecordSchema

namespace Json

/-- Takes a value from the front of a text and returns it with the rest. -/
abbrev Scan (α : Type) : Type := List Char → Except Fault (α × List Char)

/-- What the readers of one text may use up. -/
structure Room where
  /-- The number of arrays and objects that may still be opened inside each other. -/
  nesting : Nat
  /-- The number of characters of the whole text. -/
  length : Nat

/-- A reader within the room that is left. -/
abbrev Reader (α : Type) : Type := Room → Scan α

/-- The white space of JSON. -/
def isBlank (c : Char) : Bool := c == ' ' || c == '\n' || c == '\t' || c == '\r'

/-- The text after the white space in front of it. -/
def skipBlanks (text : List Char) : List Char := text.dropWhile isBlank

/-- The text after the characters of a word. -/
def expectWord : (word : List Char) → List Char → Except Fault (List Char)
  | [], text => .ok text
  | _ :: _, [] => .error (.here .valueCut [])
  | w :: word, c :: rest =>
    if c = w then expectWord word rest else .error (.next .unknownWord (c :: rest))

/-! ### Separators -/

/-- What stands next inside an array or object. -/
inductive Next where
  /-- An item, or a member from behind the quote that opens its key. -/
  | entry (text : List Char)
  /-- The closing bracket, with the text behind it. -/
  | closing (rest : List Char)

/-- What stands next in an array. -/
def nextItem (first : Bool) (text : List Char) : Except Fault Next :=
  match skipBlanks text with
  | [] => .error (.here .arrayCut [])
  | c :: rest =>
    if c = ']' then .ok (.closing rest)
    else if first then .ok (.entry (c :: rest))
    else if c = ',' then
      match skipBlanks rest with
      | [] => .error (.here .valueCut [])
      | d :: after =>
        if d = ']' then .error (.next .trailingComma (d :: after))
        else .ok (.entry (d :: after))
    else .error (.next .itemSeparator (c :: rest))

/-- What stands next in an object. -/
def nextMember (first : Bool) (text : List Char) : Except Fault Next :=
  match skipBlanks text with
  | [] => .error (.here .objectCut [])
  | c :: rest =>
    if c = '}' then .ok (.closing rest)
    else if first then
      if c = '"' then .ok (.entry rest) else .error (.next .keyNotString (c :: rest))
    else if c = ',' then
      match skipBlanks rest with
      | [] => .error (.here .valueCut [])
      | d :: after =>
        if d = '"' then .ok (.entry after)
        else if d = '}' then .error (.next .trailingComma (d :: after))
        else .error (.next .keyNotString (d :: after))
    else .error (.next .memberSeparator (c :: rest))

/-- The text after the colon that follows a key. -/
def afterKey (text : List Char) : Except Fault (List Char) :=
  match skipBlanks text with
  | [] => .error (.here .objectCut [])
  | c :: rest =>
    if c = ':' then .ok rest else .error (.next .colonWanted (c :: rest))

/-- The items of an array, from behind its opening bracket or behind an item; those before
stand in `before`, the last one first. -/
def itemsFrom {α : Type} (item : Scan α) :
    (budget : Nat) → (first : Bool) → (before : List α) → Scan (List α)
  | 0, _, _, _ => .error (.here .arrayCut [])
  | budget + 1, first, before, text =>
    match nextItem first text with
    | .error fault => .error fault
    | .ok (.closing rest) => .ok (before.reverse, rest)
    | .ok (.entry text) =>
      match item text with
      | .error fault => .error fault
      | .ok (value, rest) => itemsFrom item budget false (value :: before) rest

/-! ### Whole texts -/

/-- The deepest nesting of arrays and objects that is read. -/
def deepest : Nat := 127

/-- The value of a whole text, which may be surrounded by white space. -/
def readWhole {α : Type} (reader : Reader α) (text : String) : Except ReadError α :=
  let chars := text.toList
  match reader ⟨deepest, chars.length⟩ chars with
  | .error fault => .error (fault.inText chars)
  | .ok (value, rest) =>
    match skipBlanks rest with
    | [] => .ok value
    | c :: after => .error ((Fault.next .trailingCharacters (c :: after)).inText chars)

end Json

end RecordSchema
