import RecordSchema.Json.Reader.Basic

/-!
# Numerals

The numerals of JSON and the numbers they stand for. A numeral with neither a point nor an
exponent that fits into 64 bits is a whole number. Any other numeral is a double precision
number, found from the leading digits that fit into 64 bits and a power of ten: both are
rounded, and their product or quotient is rounded once more.
-/

namespace RecordSchema

namespace Json

/-! ### Grammar -/

/-- The parts of a numeral. -/
structure Numeral where
  negative : Bool
  whole : List Char
  /-- The digits behind the point, if there is one. -/
  fraction : Option (List Char)
  /-- Whether the exponent is negative, and its digits, if there is one. -/
  exponent : Option (Bool × List Char)

/-- The digits in front of a text, and the rest. -/
def takeDigits (text : List Char) : List Char × List Char :=
  (text.takeWhile Char.isDigit, text.dropWhile Char.isDigit)

/-- The digits in front of the point. A zero stands alone, and `cut` is reported where the text
ends. -/
def scanWhole (cut : Cause) : Scan (List Char)
  | [] => .error (.here cut [])
  | c :: rest =>
    if c = '0' then
      match rest with
      | d :: _ => if d.isDigit then .error (.next .invalidNumber rest) else .ok ([c], rest)
      | [] => .ok ([c], [])
    else if c.isDigit then .ok (takeDigits (c :: rest))
    else .error (.next .invalidNumber (c :: rest))

/-- The point and the digits behind it, if there is a point. -/
def scanFraction (cut : Cause) : Scan (Option (List Char))
  | '.' :: rest =>
    match takeDigits rest with
    | ([], []) => .error (.here cut [])
    | ([], other) => .error (.next .invalidNumber other)
    | (digits, rest) => .ok (some digits, rest)
  | text => .ok (none, text)

/-- The sign in front of an exponent. -/
def scanSign : List Char → Bool × List Char
  | '+' :: rest => (false, rest)
  | '-' :: rest => (true, rest)
  | text => (false, text)

/-- The exponent, if there is one. -/
def scanExponent (cut : Cause) : Scan (Option (Bool × List Char))
  | [] => .ok (none, [])
  | c :: rest =>
    if c = 'e' ∨ c = 'E' then
      let (negative, rest) := scanSign rest
      match takeDigits rest with
      | ([], []) => .error (.here cut [])
      | ([], other) => .error (.next .invalidNumber other)
      | (digits, rest) => .ok (some (negative, digits), rest)
    else .ok (none, c :: rest)

/-- A numeral; `cut` is reported where the text ends before the numeral does. -/
def scanNumeral (cut : Cause) : Scan Numeral := fun text => do
  let (negative, text) :=
    match text with
    | '-' :: rest => (true, rest)
    | other => (false, other)
  let (whole, text) ← scanWhole cut text
  let (fraction, text) ← scanFraction cut text
  let (exponent, text) ← scanExponent cut text
  pure (⟨negative, whole, fraction, exponent⟩, text)

/-! ### Value -/

/-- The value of a digit. -/
def digitValue (c : Char) : Nat := c.toNat - '0'.toNat

/-- The number of values of 64 bits. -/
def wordBound : Nat := 18446744073709551616

/-- The number of values of 31 bits. -/
def exponentBound : Nat := 2147483648

/-- Digits appended to a number as long as it stays below a bound; what is left is not
taken. -/
def gather (bound : Nat) (n : Nat) : List Char → Nat × List Char
  | [] => (n, [])
  | d :: digits =>
    if n * 10 + digitValue d < bound then gather bound (n * 10 + digitValue d) digits
    else (n, d :: digits)

/-- The double precision number nearest to a power of ten, where it is finite. -/
def powerOfTen? (n : Nat) : Option Binary64 := Binary64.ofNat? false (Nat.pow 10 n)

/-- The quotient of a number by a power of ten. No quotient by a power from `10^0` to
`10^308` exceeds the dividend, so it is finite. -/
def overPower (x : Binary64) (n : Nat) : Binary64 :=
  ((powerOfTen? n).bind x.scaleDown?).getD (.zero x.negative)

/-- The quotient of a number by `10^308`, taken a number of times. -/
def overGreatest (x : Binary64) : (times : Nat) → Binary64
  | 0 => x
  | times + 1 => if x.isZero then x else overGreatest (overPower x 308) times

/-- The number `significand * 10^exponent`, if it is finite. The powers of ten go up to
`10^308`; a smaller number is divided by the greatest of them as often as needed. -/
def scaled? (negative : Bool) (significand : Nat) (exponent : Int) : Option Binary64 := do
  let x ← Binary64.ofNat? negative significand
  match exponent with
  | .ofNat n =>
    if n ≤ 308 then x.scaleUp? (← powerOfTen? n)
    else if x.isZero then some x
    else none
  | .negSucc m =>
    let n := m + 1
    let times := (n - 1) / 308
    some (overPower (overGreatest x times) (n - 308 * times))

namespace Numeral

/-- The digits of the number that fit into 64 bits, and the power of ten that they are to be
multiplied with. Digits in front of the point that do not fit count for the power, those
behind it do not count. -/
def leading (numeral : Numeral) : Nat × Int :=
  let (n, left) := gather wordBound 0 numeral.whole
  let fraction := numeral.fraction.getD []
  let (m, unused) := gather wordBound n fraction
  (m, (left.length : Int) - ((fraction.length - unused.length : Nat) : Int))

/-- The whole number of a numeral that has neither a point nor an exponent. There is no
negative zero among the whole numbers. -/
def integer? (numeral : Numeral) : Option Number :=
  match numeral.fraction, numeral.exponent, gather wordBound 0 numeral.whole with
  | none, none, (n, []) =>
    if numeral.negative then if n = 0 then none else Number.ofInt? (-n)
    else Number.ofInt? n
  | _, _, _ => none

/-- The number of a numeral in front of the given rest. An exponent of more than 31 bits makes
the number zero or puts it out of range. -/
def number (numeral : Numeral) (rest : List Char) : Except Fault Number :=
  match numeral.integer? with
  | some n => .ok n
  | none =>
    let (significand, exponent) := numeral.leading
    let (negative, digits) := numeral.exponent.getD (false, [])
    match gather exponentBound 0 digits with
    | (_, _ :: left) =>
      if significand = 0 ∨ negative then .ok (.double (.zero numeral.negative))
      else .error (.here .numberOutOfRange (left ++ rest))
    | (n, []) =>
      let exponent := if negative then exponent - n else exponent + n
      match scaled? numeral.negative significand exponent with
      | some x => .ok (.double x)
      | none => .error (.here .numberOutOfRange rest)

end Numeral

/-- A number. -/
def scanNumber : Scan Number := fun text => do
  let (numeral, rest) ← scanNumeral .valueCut text
  let number ← numeral.number rest
  pure (number, rest)

end Json

end RecordSchema
