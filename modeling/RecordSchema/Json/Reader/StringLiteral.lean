import RecordSchema.Json.Reader.Basic

/-!
# String literals

The string literals of JSON, from behind the opening quote. An escaped character is found
together with the number of characters that its escape takes, which are then passed over.
-/

namespace RecordSchema

namespace Json

/-! ### Escapes by number -/

/-- The value of a hexadecimal digit. -/
def hexValue? (c : Char) : Option Nat :=
  if '0' ≤ c ∧ c ≤ '9' then some (c.toNat - '0'.toNat)
  else if 'a' ≤ c ∧ c ≤ 'f' then some (c.toNat - 'a'.toNat + 10)
  else if 'A' ≤ c ∧ c ≤ 'F' then some (c.toNat - 'A'.toNat + 10)
  else none

/-- The number that four hexadecimal digits give. -/
def hexQuad? : List Char → Option Nat
  | a :: b :: c :: d :: _ => do
    let a ← hexValue? a
    let b ← hexValue? b
    let c ← hexValue? c
    let d ← hexValue? d
    pure (((a * 16 + b) * 16 + c) * 16 + d)
  | _ => none

/-- The number that the next four bytes give. All four are read before they are judged. -/
def hexQuad (text : List Char) : Except Fault Nat :=
  match hexQuad? text with
  | some n => .ok n
  | none =>
    if byteCount (text.take 4) < 4 then .error (.here .stringCut [])
    else .error ⟨.invalidEscape, text, 4⟩

/-- Whether a number is the first half of a pair of surrogates. -/
def isFirstSurrogate (n : Nat) : Bool := 0xD800 ≤ n && n ≤ 0xDBFF

/-- Whether a number is the second half of a pair of surrogates. -/
def isSecondSurrogate (n : Nat) : Bool := 0xDC00 ≤ n && n ≤ 0xDFFF

/-- The character that a pair of surrogates stands for. -/
def joinSurrogates (first second : Nat) : Char :=
  Char.ofNat ((first - 0xD800) * 0x400 + (second - 0xDC00) + 0x10000)

/-- The character of an escape by number, from behind the letter, and the number of characters
taken from there. -/
def numberedEscape (text : List Char) : Except Fault (Char × Nat) :=
  match hexQuad text with
  | .error fault => .error fault
  | .ok n =>
    let rest := text.drop 4
    if isSecondSurrogate n then .error (.here .loneSurrogate rest)
    else if isFirstSurrogate n then
      match rest with
      | [] => .error (.here .stringCut [])
      | '\\' :: [] => .error (.here .stringCut [])
      | '\\' :: 'u' :: text =>
        match hexQuad text with
        | .error fault => .error fault
        | .ok m =>
          if isSecondSurrogate m then .ok (joinSurrogates n m, 10)
          else .error (.here .loneSurrogate (text.drop 4))
      | '\\' :: other => .error (.next .surrogateCut other)
      | other => .error (.next .surrogateCut other)
    else .ok (Char.ofNat n, 4)

/-! ### All escapes -/

/-- The character that a letter behind a backslash stands for. -/
def escapedLetter? (c : Char) : Option Char :=
  if c = '"' ∨ c = '\\' ∨ c = '/' then some c
  else if c = 'b' then some '\x08'
  else if c = 'f' then some '\x0c'
  else if c = 'n' then some '\n'
  else if c = 'r' then some '\r'
  else if c = 't' then some '\t'
  else none

/-- The character of an escape, from behind the backslash, and the number of characters taken
from there; escapes by number are read by `numbered`. -/
def escapeAt (numbered : List Char → Except Fault (Char × Nat)) :
    List Char → Except Fault (Char × Nat)
  | [] => .error (.here .stringCut [])
  | c :: rest =>
    if c = 'u' then (numbered rest).map fun (char, taken) => (char, taken + 1)
    else
      match escapedLetter? c with
      | some char => .ok (char, 1)
      | none => .error (.next .invalidEscape (c :: rest))

/-- The characters of a string literal up to its closing quote. The first `taken` characters
belong to an escape that has been read, those before stand in `before`, the last one first,
and a control character is reported by `control`. -/
def stringFrom (numbered : List Char → Except Fault (Char × Nat))
    (control : List Char → Fault) :
    (taken : Nat) → (before : List Char) → Scan String
  | _, _, [] => .error (.here .stringCut [])
  | taken + 1, before, _ :: rest => stringFrom numbered control taken before rest
  | 0, before, c :: rest =>
    if c = '"' then .ok (String.ofList before.reverse, rest)
    else if c = '\\' then
      match escapeAt numbered rest with
      | .error fault => .error fault
      | .ok (char, taken) => stringFrom numbered control taken (char :: before) rest
    else if c.toNat < 32 then .error (control (c :: rest))
    else stringFrom numbered control 0 (c :: before) rest

/-- The string of a literal, from behind its opening quote. -/
def scanString : Scan String :=
  stringFrom numberedEscape (.next .controlCharacter) 0 []

/-- A string literal whose content does not matter. The escapes by number need no partner, and
a control character is reported in front of it. -/
def passString : Scan String :=
  stringFrom (fun text => (hexQuad text).map fun _ => ('?', 4))
    (.here .controlCharacter) 0 []

end Json

end RecordSchema
