import RecordSchema.Json.Basic

/-!
# Faults in JSON text

What can be wrong with a text, and where. A reader that fails says what it found and how much
of the text it had left; from that the line and the column are counted. Columns count bytes
of UTF-8.
-/

namespace RecordSchema

namespace Json

/-! ### Causes -/

/-- A value that stands where one of another type is wanted. -/
inductive Found where
  | null
  | bool (b : Bool)
  | number (n : Number)
  | string (s : String)
  | array
  | object

/-- What is wrong with a text. -/
inductive Cause where
  /-- The text ends where a value is wanted or within one. -/
  | valueCut
  /-- The text ends within a string. -/
  | stringCut
  /-- The text ends within an array. -/
  | arrayCut
  /-- The text ends within an object. -/
  | objectCut
  /-- No value starts here. -/
  | valueWanted
  /-- A word that starts like a literal name is not one. -/
  | unknownWord
  | invalidNumber
  /-- The magnitude of a number is greater than any double precision number. -/
  | numberOutOfRange
  | controlCharacter
  | invalidEscape
  /-- An escaped surrogate has no partner. -/
  | loneSurrogate
  /-- An escaped first surrogate is not followed by an escape. -/
  | surrogateCut
  /-- The item of an array is followed neither by a comma nor by the end of the array. -/
  | itemSeparator
  /-- The member of an object is followed neither by a comma nor by the end of the object. -/
  | memberSeparator
  /-- The key of an object is not followed by a colon. -/
  | colonWanted
  | trailingComma
  /-- The key of an object is no string. -/
  | keyNotString
  /-- The text goes on after the value. -/
  | trailingCharacters
  /-- Arrays and objects are nested too deeply. -/
  | tooDeep
  /-- A value has another type than the one wanted. -/
  | wrongType (found : Found) (wanted : String)
  /-- A record lacks a member. -/
  | missingField (key : String)
  /-- A record has a member twice. -/
  | duplicateField (key : String)
  /-- An array that stands for a record ends before an element that is needed. -/
  | tooShort (count : Nat) (wanted : String)

/-- A fault, with the rest of the text at the place that is reported and the number of bytes
of it that are counted to the place. -/
structure Fault where
  cause : Cause
  rest : List Char
  ahead : Nat

namespace Fault

/-- The fault lies before the rest. -/
def here (cause : Cause) (rest : List Char) : Fault := ⟨cause, rest, 0⟩

/-- The fault lies at the first byte of the rest, which counts. -/
def next (cause : Cause) (rest : List Char) : Fault := ⟨cause, rest, 1⟩

end Fault

/-! ### Places -/

/-- A place in a text. Lines are counted from one, and the column is the number of bytes
between the start of the line and the place. -/
structure Place where
  line : Nat
  column : Nat
deriving DecidableEq

/-- The number of bytes of a text. -/
def byteCount (text : List Char) : Nat := text.foldl (fun n c => n + c.utf8Size) 0

/-- The place reached after a number of bytes of a text, counted from a place. -/
def Place.advance (place : Place) (bytes : Nat) : List Char → Place
  | [] => place
  | c :: rest =>
    if bytes = 0 then place
    else if c = '\n' then advance ⟨place.line + 1, 0⟩ (bytes - 1) rest
    else advance ⟨place.line, place.column + min bytes c.utf8Size⟩ (bytes - c.utf8Size) rest

/-- The place of a fault in the whole text. -/
def Fault.place (fault : Fault) (text : List Char) : Place :=
  Place.advance ⟨1, 0⟩ (byteCount text - byteCount fault.rest + fault.ahead) text

/-- A fault of a text with its place. -/
structure ReadError where
  cause : Cause
  place : Place

/-- The fault as seen in the whole text. -/
def Fault.inText (fault : Fault) (text : List Char) : ReadError :=
  ⟨fault.cause, fault.place text⟩

end Json

end RecordSchema
