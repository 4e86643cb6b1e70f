import RecordSchema.Json.Reader.Value
import RecordSchema.Json.Reader.Pass

/-!
# Reading records

A record with named slots is read from an object, or from an array that gives its slots in
order. In an object the members may stand in any order, members with other keys are passed
over, and no slot may be given twice. In an array the slots at the end may be left out. Slots
that are not given keep their initial content, unless they are required.
-/

namespace RecordSchema

namespace Json

/-- A slot of a record: its key, and a reader of its content that says how the record
changes. -/
structure Slot (α : Type) where
  key : String
  required : Bool
  read : Reader (α → α)

namespace Slot

variable {α β : Type}

/-- The slot whose content is read by `reader` and stored by `store`. -/
def make (key : String) (required : Bool) (reader : Reader β) (store : β → α → α) : Slot α :=
  ⟨key, required, fun room text =>
    (reader room text).map fun (value, rest) => (store value, rest)⟩

/-- A slot that must be given. -/
def needed (key : String) (reader : Reader β) (store : β → α → α) : Slot α :=
  make key true reader store

/-- A slot that may be left out. -/
def optional (key : String) (reader : Reader β) (store : β → α → α) : Slot α :=
  make key false reader store

end Slot

/-- How a record is read. -/
structure RecordFormat (α : Type) where
  /-- The name of the record in messages. -/
  name : String
  /-- The record before any slot is given. -/
  initial : α
  /-- The slots, in the order in which an array gives them. -/
  slots : List (Slot α)

namespace RecordFormat

variable {α : Type}

/-- The slot with a key. -/
def slot? (format : RecordFormat α) (key : String) : Option (Slot α) :=
  format.slots.find? (·.key == key)

/-- The first required slot whose key has not been given. -/
def missing? (format : RecordFormat α) (given : List String) : Option String :=
  (format.slots.find? fun slot => slot.required && !given.contains slot.key).map (·.key)

/-- The record as it is named where an array is too short for it. -/
def elements (format : RecordFormat α) : String :=
  format.name ++ " with " ++ Nat.repr format.slots.length ++ " elements"

/-! ### From an object -/

/-- The place behind a key that is given twice: behind the white space after it, and behind the
brace if the object ends there. -/
def duplicate (key : String) (text : List Char) : Fault :=
  match skipBlanks text with
  | '}' :: rest => .here (.duplicateField key) rest
  | other => .here (.duplicateField key) other

/-- A member of a record, from behind the quote that opens its key, with the keys that have
been given and the record as it stands. -/
def member (format : RecordFormat α) (room : Room) (given : List String) (record : α) :
    Scan (List String × α) := fun text => do
  let (key, text) ← scanString text
  match format.slot? key with
  | none =>
    let text ← afterKey text
    let rest ← passValue room.length text
    pure ((given, record), rest)
  | some slot =>
    if given.contains key then .error (duplicate key text)
    else
      let text ← afterKey text
      let (change, rest) ← slot.read room text
      pure ((key :: given, change record), rest)

/-- The record that the members of an object give, from behind its opening brace or behind a
member. -/
def fromMembers (format : RecordFormat α) (room : Room) :
    (budget : Nat) → (first : Bool) → (given : List String) → (record : α) → Scan α
  | 0, _, _, _, _ => .error (.here .objectCut [])
  | budget + 1, first, given, record, text =>
    match nextMember first text with
    | .error fault => .error fault
    | .ok (.closing rest) =>
      match format.missing? given with
      | some key => .error (.here (.missingField key) rest)
      | none => .ok (record, rest)
    | .ok (.entry text) =>
      match format.member room given record text with
      | .error fault => .error fault
      | .ok ((given, record), rest) => fromMembers format room budget false given record rest

/-! ### From an array -/

/-- The text behind an array whose elements have all been read. -/
def afterElements (text : List Char) : Except Fault (List Char) :=
  match skipBlanks text with
  | [] => .error (.here .arrayCut [])
  | ']' :: rest => .ok rest
  | ',' :: rest =>
    match skipBlanks rest with
    | ']' :: after => .error (.next .trailingComma (']' :: after))
    | other => .error (.next .trailingCharacters other)
  | other => .error (.next .trailingCharacters other)

/-- The place of the first required slot among slots that start at the given place. -/
def firstRequired? (index : Nat) (slots : List (Slot α)) : Option Nat :=
  (slots.findIdx? (·.required)).map (index + ·)

/-- The record that the elements of an array give for the slots from the given place on. -/
def fromElements (format : RecordFormat α) (room : Room) :
    (slots : List (Slot α)) → (index : Nat) → (record : α) → Scan α
  | [], _, record, text => (afterElements text).map fun rest => (record, rest)
  | slot :: slots, index, record, text =>
    match nextItem (index == 0) text with
    | .error fault => .error fault
    | .ok (.closing rest) =>
      match firstRequired? index (slot :: slots) with
      | some n => .error (.here (.tooShort n format.elements) rest)
      | none => .ok (record, rest)
    | .ok (.entry text) =>
      match slot.read room text with
      | .error fault => .error fault
      | .ok (change, rest) => fromElements format room slots (index + 1) (change record) rest

/-! ### From either -/

/-- A record. -/
def read (format : RecordFormat α) : Reader α := fun room text =>
  match skipBlanks text with
  | '{' :: rest =>
    enter (fun room => format.fromMembers room room.length true [] format.initial) room
      ('{' :: rest)
  | '[' :: rest =>
    enter (fun room => format.fromElements room format.slots 0 format.initial) room
      ('[' :: rest)
  | other => .error (mismatch format.name other)

end RecordFormat

end Json

end RecordSchema
