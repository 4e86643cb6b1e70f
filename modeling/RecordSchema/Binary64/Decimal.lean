import RecordSchema.Binary64.Basic

/-!
# Decimal text of double precision numbers

A number is written with the fewest decimal digits that determine it: of the decimals with
that many digits that lie nearer to it than to any other number, the nearest one is taken,
and of two equally near the one with the even last digit. The digits stand around a point
when the first of them is at most five places behind it or at most sixteen before it, and in
front of a power of ten otherwise.
-/

namespace RecordSchema

namespace Binary64

/-- The decimal number `digits * 10^(place - 400)`. Counting the places from `10^(-400)`
keeps them natural numbers, and no double precision number needs a lower one. -/
structure Decimal where
  digits : Nat
  place : Nat
deriving DecidableEq, Inhabited

namespace Decimal

/-- The number of decimal digits of a positive number. -/
def length (n : Nat) : Nat := (Nat.toDigits 10 n).length

/-- The place of the first digit of a positive fraction. -/
def leading (r : Fraction) : Nat :=
  if r.denominator ≤ r.numerator then 400 + length (r.numerator / r.denominator) - 1
  else 400 - length ((r.denominator - 1) / r.numerator)

/-- The fraction in units of `10^(place - 400)`. -/
def inUnits (r : Fraction) (place : Nat) : Fraction :=
  if place < 400 then ⟨r.numerator * Nat.pow 10 (400 - place), r.denominator⟩
  else ⟨r.numerator, r.denominator * Nat.pow 10 (place - 400)⟩

/-- Whether the multiple `d` of the unit at a place determines `x`. The decimals that do
reach half way to the neighbours of `x`, and to the middle itself when the significand is
even. Below a power of two the neighbour is half as far away as above it. All is counted in
quarters of the distance to the neighbour above. -/
def determines (x : Binary64) (place d : Nat) : Bool :=
  let r := inUnits x.magnitude place
  let quarter := r.numerator / x.significand
  let below := if x.significand = span ∧ 0 < x.scale then quarter else 2 * quarter
  let least := 4 * r.numerator - below
  let greatest := 4 * r.numerator + 2 * quarter
  let candidate := 4 * d * r.denominator
  if x.significand % 2 = 0 then least ≤ candidate && candidate ≤ greatest
  else least < candidate && candidate < greatest

/-- The multiple of the unit at a place that is nearest to `x` among those that determine it.
If any multiple does, so does one of the two around `x`. -/
def nearest? (x : Binary64) (place : Nat) : Option Nat :=
  let r := inUnits x.magnitude place
  let below := r.numerator / r.denominator
  let excess := 2 * (r.numerator % r.denominator)
  let lowFirst := excess < r.denominator || (excess == r.denominator && below % 2 == 0)
  let inOrder := if lowFirst then [below, below + 1] else [below + 1, below]
  inOrder.find? (determines x place)

/-- The shortest decimal that determines `x`, looked for from one digit on; seventeen digits
always suffice. -/
def shortest (x : Binary64) : Decimal :=
  let first := leading x.magnitude
  let found := (List.range 17).findSome? fun more =>
    (nearest? x (first - more)).map fun d => (⟨d, first - more⟩ : Decimal)
  found.getD ⟨0, 400⟩

end Decimal

/-! ### The text -/

/-- The digits of a decimal from the first to the last that is not zero. -/
def Decimal.significant (d : Decimal) : List Char :=
  ((Nat.toDigits 10 d.digits).reverse.dropWhile (· == '0')).reverse

/-- The text of the digits of a number whose first digit is at the given place, where place
`400` is the one before the point. -/
def layout (digits : List Char) (place : Nat) : List Char :=
  if place < 395 ∨ 416 ≤ place then
    let mantissa :=
      match digits with
      | d :: e :: rest => d :: '.' :: e :: rest
      | short => short
    let exponent :=
      if place < 400 then '-' :: Nat.toDigits 10 (400 - place)
      else '+' :: Nat.toDigits 10 (place - 400)
    mantissa ++ 'e' :: exponent
  else if place < 400 then
    '0' :: '.' :: (List.replicate (399 - place) '0' ++ digits)
  else
    let whole := place - 399
    let before := digits.take whole
    let after := digits.drop whole
    before ++ List.replicate (whole - digits.length) '0'
      ++ '.' :: (if after.isEmpty then ['0'] else after)

/-- The text of a number. -/
def write (x : Binary64) : List Char :=
  let unsigned :=
    if x.isZero then ['0', '.', '0']
    else
      let d := Decimal.shortest x
      layout d.significant (d.place + Decimal.length d.digits - 1)
  if x.negative then '-' :: unsigned else unsigned

end Binary64

end RecordSchema
