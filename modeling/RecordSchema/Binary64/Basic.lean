/-!
# Double precision numbers

The finite numbers of the IEEE 754 format `binary64`. A magnitude is given by its place in
the ascending list of all magnitudes: the place `2^52 * (b + 1) + f`, with `f < 2^52`, is the
number `(2^52 + f) * 2^(b - 1074)`, and a place `f < 2^52` is the number `f * 2^(-1074)`.
All arithmetic is done exactly on natural numbers and rounded once, to the nearest magnitude
and from the middle to the even one.
-/

namespace RecordSchema

/-- The number of finite magnitudes, `2047 * 2^52`. -/
def Binary64.places : Nat := 9218868437227405312

/-- A finite double precision number. The two zeros are different numbers. -/
structure Binary64 where
  /-- Whether the number is written with a minus sign. -/
  negative : Bool
  /-- The place of the magnitude among all magnitudes. -/
  place : Nat
  /-- There is a finite magnitude at the place. -/
  finite : place < Binary64.places
deriving DecidableEq

namespace Binary64

/-- The number of magnitudes that share an exponent, `2^52`. -/
def span : Nat := 4503599627370496

/-- The zero of the given sign. -/
def zero (negative : Bool) : Binary64 := ⟨negative, 0, by decide⟩

instance : Inhabited Binary64 := ⟨zero false⟩

/-- Whether the number is one of the two zeros. -/
def isZero (x : Binary64) : Bool := x.place == 0

/-- Numeric equality: the two zeros are equal, and all else only to itself. -/
def equal (x y : Binary64) : Bool :=
  (x.isZero && y.isZero) || (x.negative == y.negative && x.place == y.place)

/-- The whole number `m` of the magnitude `m * 2^q`. -/
def significand (x : Binary64) : Nat :=
  if x.place < span then x.place else span + x.place % span

/-- The scale `q` of the magnitude `m * 2^q`, counted from `-1074`. -/
def scale (x : Binary64) : Nat :=
  if x.place < span then 0 else x.place / span - 1

/-! ### Fractions -/

/-- A fraction of natural numbers. -/
structure Fraction where
  numerator : Nat
  denominator : Nat

/-- The magnitude as a fraction. -/
def magnitude (x : Binary64) : Fraction :=
  if x.scale < 1074 then ⟨x.significand, Nat.pow 2 (1074 - x.scale)⟩
  else ⟨x.significand * Nat.pow 2 (x.scale - 1074), 1⟩

/-- The nearest whole number to a fraction; from the middle, the even one. -/
def Fraction.nearest (r : Fraction) : Nat :=
  let below := r.numerator / r.denominator
  let excess := 2 * (r.numerator % r.denominator)
  if excess < r.denominator then below
  else if r.denominator < excess then below + 1
  else below + below % 2

/-- The fraction divided by `2^(scale - 1074)`. -/
def Fraction.atScale (r : Fraction) (scale : Nat) : Fraction :=
  if scale < 1074 then ⟨r.numerator * Nat.pow 2 (1074 - scale), r.denominator⟩
  else ⟨r.numerator, r.denominator * Nat.pow 2 (scale - 1074)⟩

/-- The scale at which the whole part of the fraction has 53 binary digits, or the least
scale if it has fewer there. The digits are counted by the two logarithms, which leaves two
scales to choose between. -/
def Fraction.scale (r : Fraction) : Nat :=
  if r.numerator = 0 then 0
  else
    let guess := r.numerator.log2 + 1074 - r.denominator.log2 - 53
    let scaled := r.atScale guess
    if scaled.numerator / scaled.denominator < 2 * span then guess else guess + 1

/-- The place of the magnitude nearest to a fraction, if that magnitude is finite. -/
def Fraction.place? (r : Fraction) : Option { p : Nat // p < places } :=
  let p := r.scale * span + (r.atScale r.scale).nearest
  if h : p < places then some ⟨p, h⟩ else none

/-- The number of the given sign nearest to a fraction, if it is finite. -/
def ofFraction? (negative : Bool) (r : Fraction) : Option Binary64 :=
  r.place?.map fun p => ⟨negative, p.1, p.2⟩

/-- The number nearest to a whole number, if it is finite. -/
def ofNat? (negative : Bool) (n : Nat) : Option Binary64 :=
  ofFraction? negative ⟨n, 1⟩

/-- The rounded product, with the sign of the first factor. -/
def scaleUp? (x y : Binary64) : Option Binary64 :=
  let a := x.magnitude
  let b := y.magnitude
  ofFraction? x.negative ⟨a.numerator * b.numerator, a.denominator * b.denominator⟩

/-- The rounded quotient by a number that is not zero, with the sign of the dividend. -/
def scaleDown? (x y : Binary64) : Option Binary64 :=
  let a := x.magnitude
  let b := y.magnitude
  ofFraction? x.negative ⟨a.numerator * b.denominator, a.denominator * b.numerator⟩

end Binary64

end RecordSchema
