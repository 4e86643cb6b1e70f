import RecordSchema.Json.Reader.StringLiteral
import RecordSchema.Json.Reader.Numeral

/-!
# Passing over values

The value of a member that is not asked for is passed over. It must be well formed, but it may
be nested to any depth, its numbers may have any magnitude and its escapes need not name
characters. What is open around the place is kept in a list, the innermost first.
-/

namespace RecordSchema

namespace Json

/-- An array or object that is open. -/
inductive Enclosing where
  | array
  | object
deriving DecidableEq

namespace Enclosing

/-- The character that closes it. -/
def closing : Enclosing → Char
  | .array => ']'
  | .object => '}'

/-- The fault of a text that ends inside. -/
def cut : Enclosing → Cause
  | .array => .arrayCut
  | .object => .objectCut

/-- The fault of an entry that is followed neither by a comma nor by the end. -/
def separator : Enclosing → Cause
  | .array => .itemSeparator
  | .object => .memberSeparator

/-- The text of the value of the next entry: in an object, the one behind its key. -/
def value : Enclosing → List Char → Except Fault (List Char)
  | .array, text => .ok text
  | .object, text =>
    match skipBlanks text with
    | [] => .error (.here .objectCut [])
    | '"' :: rest => do
      let (_, rest) ← passString rest
      afterKey rest
    | other => .error (.next .keyNotString other)

end Enclosing

/-- Pass over a value that is neither array nor object, from its first character on. -/
def passScalar : List Char → Except Fault (List Char)
  | [] => .error (.here .valueCut [])
  | c :: rest =>
    if c = 'n' then expectWord ['u', 'l', 'l'] rest
    else if c = 't' then expectWord ['r', 'u', 'e'] rest
    else if c = 'f' then expectWord ['a', 'l', 's', 'e'] rest
    else if c = '"' then (passString rest).map Prod.snd
    else if c = '-' ∨ c.isDigit then (scanNumeral .invalidNumber (c :: rest)).map Prod.snd
    else .error (.next .valueWanted (c :: rest))

/-- What follows behind a value. -/
inductive Following where
  /-- The value of a further entry, inside of what is open. -/
  | value (opened : List Enclosing) (text : List Char)
  /-- The end of an array or object, inside of what is then open. -/
  | closed (opened : List Enclosing) (text : List Char)
  /-- The end of the outermost value. -/
  | finished (text : List Char)

/-- What follows behind a value inside of what is open. -/
def following (opened : List Enclosing) (text : List Char) : Except Fault Following :=
  match opened with
  | [] => .ok (.finished text)
  | e :: outer =>
    match skipBlanks text with
    | [] => .error (.here e.cut [])
    | c :: rest =>
      if c = ',' then (e.value rest).map (.value opened)
      else if c = e.closing then .ok (.closed outer rest)
      else .error (.next e.separator (c :: rest))

/-- What follows behind an opening bracket, which is the first of what is open. -/
def opening (e : Enclosing) (outer : List Enclosing) (text : List Char) :
    Except Fault Following :=
  match skipBlanks text with
  | [] => .error (.here e.cut [])
  | c :: rest =>
    if c = e.closing then .ok (.closed outer rest)
    else (e.value (c :: rest)).map (.value (e :: outer))

/-- What follows behind the scalar or the opening bracket that starts a value. -/
def passStart (opened : List Enclosing) (text : List Char) : Except Fault Following :=
  match skipBlanks text with
  | [] => .error (.here .valueCut [])
  | c :: rest =>
    if c = '[' then opening .array opened rest
    else if c = '{' then opening .object opened rest
    else
      match passScalar (c :: rest) with
      | .error fault => .error fault
      | .ok rest => following opened rest

/-- Pass over the rest of a value. -/
def passFrom : (budget : Nat) → Following → Except Fault (List Char)
  | _, .finished rest => .ok rest
  | 0, _ => .error (.here .valueCut [])
  | budget + 1, .value opened text =>
    match passStart opened text with
    | .error fault => .error fault
    | .ok next => passFrom budget next
  | budget + 1, .closed opened text =>
    match following opened text with
    | .error fault => .error fault
    | .ok next => passFrom budget next

/-- Pass over a value. -/
def passValue (length : Nat) (text : List Char) : Except Fault (List Char) :=
  passFrom (length + 1) (.value [] text)

end Json

end RecordSchema
