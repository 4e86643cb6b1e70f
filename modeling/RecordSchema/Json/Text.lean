import RecordSchema.Binary64.Decimal
import RecordSchema.Json.Basic

/-!
# JSON text

The text of a JSON value, in two layouts. The compact one has no white space. The pretty one
puts every entry of an array or object on a line of its own, indented by two spaces for each
array or object around it, and a space after each colon. Empty arrays and objects are written
`[]` and `{}` in both.
-/

namespace RecordSchema

namespace Json

/-! ### Strings -/

/-- The lower case hexadecimal digit of a number below sixteen. -/
def hexDigit (n : Nat) : Char :=
  if n < 10 then Char.ofNat ('0'.toNat + n) else Char.ofNat ('a'.toNat + (n - 10))

/-- A character as it stands inside a string literal: the quote, the backslash and the control
characters are escaped, all others stand for themselves. -/
def escape (c : Char) : List Char :=
  if c = '"' then ['\\', '"']
  else if c = '\\' then ['\\', '\\']
  else if c = '\x08' then ['\\', 'b']
  else if c = '\x0c' then ['\\', 'f']
  else if c = '\n' then ['\\', 'n']
  else if c = '\r' then ['\\', 'r']
  else if c = '\t' then ['\\', 't']
  else if c.toNat < 32 then
    ['\\', 'u', '0', '0', hexDigit (c.toNat / 16), hexDigit (c.toNat % 16)]
  else [c]

/-- The string literal of a string. -/
def quote (s : String) : List Char := '"' :: (s.toList.flatMap escape ++ ['"'])

/-! ### Numbers -/

/-- The text of a whole number in decimal. -/
def writeInteger (n : Int) : List Char :=
  if n < 0 then '-' :: Nat.toDigits 10 n.natAbs else Nat.toDigits 10 n.natAbs

/-- The text of a number. -/
def writeNumber : Number → List Char
  | .integer n _ => writeInteger n
  | .double x => x.write

/-! ### Layouts -/

/-- The two layouts of JSON text. -/
inductive Layout where
  | compact
  | pretty
deriving DecidableEq, Inhabited

namespace Layout

/-- The start of a line at the given depth. -/
def line : Layout → Nat → List Char
  | .compact, _ => []
  | .pretty, depth => '\n' :: List.replicate (2 * depth) ' '

/-- What stands between a key and its value. -/
def colon : Layout → List Char
  | .compact => [':']
  | .pretty => [':', ' ']

/-- The entries after the first, each on its line. -/
def more (layout : Layout) (depth : Nat) (entries : List (List Char)) : List Char :=
  entries.flatMap fun entry => ',' :: (layout.line depth ++ entry)

/-- The entries of an array or object of the given depth, between its brackets. -/
def block (layout : Layout) (depth : Nat) (opening closing : Char) :
    List (List Char) → List Char
  | [] => [opening, closing]
  | first :: rest =>
    opening :: (layout.line (depth + 1) ++ (first ++ (layout.more (depth + 1) rest ++
      (layout.line depth ++ [closing]))))

end Layout

mutual

/-- The text of a value that stands at the given depth. -/
def write (layout : Layout) (depth : Nat) : Json → List Char
  | .null => ['n', 'u', 'l', 'l']
  | .bool true => ['t', 'r', 'u', 'e']
  | .bool false => ['f', 'a', 'l', 's', 'e']
  | .number n => writeNumber n
  | .string s => quote s
  | .array items => layout.block depth '[' ']' (writeItems layout (depth + 1) items)
  | .object members =>
    layout.block depth '{' '}' (writeMembers layout (depth + 1) members)

/-- The texts of the items of an array. -/
def writeItems (layout : Layout) (depth : Nat) : List Json → List (List Char)
  | [] => []
  | item :: rest => write layout depth item :: writeItems layout depth rest

/-- The texts of the members of an object. -/
def writeMembers (layout : Layout) (depth : Nat) :
    List (String × Json) → List (List Char)
  | [] => []
  | (key, value) :: rest =>
    (quote key ++ (layout.colon ++ write layout depth value))
      :: writeMembers layout depth rest

end

/-- The text of a value in a layout. -/
def text (layout : Layout) (v : Json) : String := String.ofList (write layout 0 v)

/-- The compact text of a value. -/
def compact (v : Json) : String := text .compact v

end Json

end RecordSchema
