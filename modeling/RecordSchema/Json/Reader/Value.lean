import RecordSchema.Json.Reader.StringLiteral
import RecordSchema.Json.Reader.Numeral

/-!
# Reading values

The reader of JSON values of any type, and those of strings, booleans, arrays and values that
may be `null`. A value of another type than the one wanted is read to its end before it is
reported, except that an array or object is reported where it opens.
-/

namespace RecordSchema

namespace Json

/-! ### Values of any type -/

/-- A value that is neither array nor object, from its first character on. -/
def scanScalar : Scan Json
  | [] => .error (.here .valueCut [])
  | c :: rest =>
    if c = 'n' then (expectWord ['u', 'l', 'l'] rest).map fun rest => (.null, rest)
    else if c = 't' then (expectWord ['r', 'u', 'e'] rest).map fun rest => (.bool true, rest)
    else if c = 'f' then
      (expectWord ['a', 'l', 's', 'e'] rest).map fun rest => (.bool false, rest)
    else if c = '"' then (scanString rest).map fun (s, rest) => (.string s, rest)
    else if c = '-' ∨ c.isDigit then
      (scanNumber (c :: rest)).map fun (n, rest) => (.number n, rest)
    else .error (.next .valueWanted (c :: rest))

/-- A member of an object, from behind the quote that opens its key. -/
def scanMember {α : Type} (value : Scan α) : Scan (String × α) := fun text => do
  let (key, text) ← scanString text
  let text ← afterKey text
  let (v, rest) ← value text
  pure ((key, v), rest)

/-- The members of an object, from behind its opening brace or behind a member; those before
stand in `before`, the last one first. -/
def membersFrom {α : Type} (value : Scan α) :
    (budget : Nat) → (first : Bool) → (before : List (String × α)) → Scan (List (String × α))
  | 0, _, _, _ => .error (.here .objectCut [])
  | budget + 1, first, before, text =>
    match nextMember first text with
    | .error fault => .error fault
    | .ok (.closing rest) => .ok (before.reverse, rest)
    | .ok (.entry text) =>
      match scanMember value text with
      | .error fault => .error fault
      | .ok (m, rest) => membersFrom value budget false (m :: before) rest

/-- A value whose items and members are read by `inner`. Without it, no array or object may be
opened. -/
def scanValue (length : Nat) (inner : Option (Scan Json)) : Scan Json := fun text =>
  match skipBlanks text with
  | [] => .error (.here .valueCut [])
  | c :: rest =>
    if c = '[' then
      match inner with
      | none => .error (.next .tooDeep (c :: rest))
      | some inner => (itemsFrom inner length true [] rest).map fun (items, rest) =>
        (.array items, rest)
    else if c = '{' then
      match inner with
      | none => .error (.next .tooDeep (c :: rest))
      | some inner => (membersFrom inner length true [] rest).map fun (members, rest) =>
        (.ofMembers members, rest)
    else scanScalar (c :: rest)

/-- A value in which so many arrays and objects may be opened inside each other. -/
def valueWithin (length : Nat) : (nesting : Nat) → Scan Json
  | 0 => scanValue length none
  | nesting + 1 => scanValue length (some (valueWithin length nesting))

/-- A value of any type. -/
def readValue : Reader Json := fun room => valueWithin room.length room.nesting

/-- The value that a whole text gives. -/
def parse (text : String) : Except ReadError Json := readWhole readValue text

/-! ### Values of a given type -/

/-- A value as it is named when another one is wanted. -/
def found : Json → Found
  | .null => .null
  | .bool b => .bool b
  | .number n => .number n
  | .string s => .string s
  | .array _ => .array
  | .object _ => .object

/-- The fault of a text that starts with a value of another type than the one wanted. -/
def mismatch (wanted : String) : List Char → Fault
  | [] => .here .valueCut []
  | c :: rest =>
    if c = '[' then .here (.wrongType .array wanted) (c :: rest)
    else if c = '{' then .here (.wrongType .object wanted) (c :: rest)
    else
      match scanScalar (c :: rest) with
      | .error fault => fault
      | .ok (v, rest) => .here (.wrongType v.found wanted) rest

/-- A string. -/
def readString : Reader String := fun _ text =>
  match skipBlanks text with
  | '"' :: rest => scanString rest
  | other => .error (mismatch "a string" other)

/-- A boolean. -/
def readBool : Reader Bool := fun _ text =>
  match skipBlanks text with
  | 't' :: rest => (expectWord ['r', 'u', 'e'] rest).map fun rest => (true, rest)
  | 'f' :: rest => (expectWord ['a', 'l', 's', 'e'] rest).map fun rest => (false, rest)
  | other => .error (mismatch "a boolean" other)

/-- A value that may be missing: `null` stands for none. -/
def readOptional {α : Type} (reader : Reader α) : Reader (Option α) := fun room text =>
  match skipBlanks text with
  | 'n' :: rest => (expectWord ['u', 'l', 'l'] rest).map fun rest => (none, rest)
  | other => (reader room other).map fun (value, rest) => (some value, rest)

/-- The reader of what stands inside an array or object that opens at the given text, if one
may be opened. -/
def enter {α : Type} (reader : Reader α) (room : Room) (text : List Char) :
    Except Fault (α × List Char) :=
  match room.nesting with
  | 0 => .error (.next .tooDeep text)
  | nesting + 1 => reader { room with nesting } (text.drop 1)

/-- An array of items. -/
def readList {α : Type} (item : Reader α) : Reader (List α) := fun room text =>
  match skipBlanks text with
  | '[' :: rest =>
    enter (fun room => itemsFrom (item room) room.length true []) room ('[' :: rest)
  | other => .error (mismatch "a sequence" other)

end Json

end RecordSchema
