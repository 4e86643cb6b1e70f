import RecordSchema.Binary64.Decimal
import Mathlib.Algebra.Order.Monoid.NatCast
import Mathlib.Order.Monotone.Basic
import Mathlib.Tactic.Positivity
import Mathlib.Tactic.Ring
import Mathlib.Tactic.Use

/-!
# Decimals that determine numbers

A decimal determines a number when it lies between the edges of the number: half way to the next
magnitude on both sides, with the edges themselves where the place of the magnitude is even. So no
decimal determines two magnitudes. Among the decimals of seventeen digits there is one that
determines a given number, so a shortest one is always found. All is compared in whole numbers: the
edges in units of `2^(-1076)`, and decimals after `10^400` has been multiplied out.
-/

namespace RecordSchema

namespace Binary64

/-! ### Edges -/

/-- The significand of the magnitude at a place. -/
def significandAt (place : Nat) : Nat :=
  if place < span then place else span + place % span

/-- The scale of the magnitude at a place. -/
def scaleAt (place : Nat) : Nat := if place < span then 0 else place / span - 1

/-- The middle between the magnitude at a place and the next one, in units of `2^(-1076)`. -/
def edge (place : Nat) : Nat := (4 * significandAt place + 2) * 2 ^ scaleAt place

/-- The distance from a magnitude down to its lower edge, in quarters of the distance to the next
magnitude. Below a power of two magnitudes lie twice as dense. -/
def quartersBelow (place : Nat) : Nat :=
  if significandAt place = span ∧ 0 < scaleAt place then 1 else 2

/-- The next place shares its exponent with a place, or is the first one with the next exponent. -/
theorem division_next (place : Nat) :
  ((place + 1) / span = place / span ∧ (place + 1) % span = place % span + 1)
    ∨ (place % span + 1 = span ∧ (place + 1) / span = place / span + 1 ∧ (place + 1) % span = 0)
  := by
  unfold span
  omega

/-- The next magnitude has the next significand at the same scale. Behind the greatest significand
follows the least one, at the next scale. -/
theorem next_place (place : Nat) :
  (significandAt (place + 1) = significandAt place + 1 ∧ scaleAt (place + 1) = scaleAt place
      ∧ quartersBelow (place + 1) = 2)
    ∨ (significandAt place + 1 = 2 * span ∧ significandAt (place + 1) = span
      ∧ scaleAt (place + 1) = scaleAt place + 1 ∧ quartersBelow (place + 1) = 1)
  := by
  by_cases hnext : place + 1 < span
  · have hplace : place < span := by omega
    left
    simp [quartersBelow, significandAt, scaleAt, hnext, hplace]
  · by_cases hplace : place < span
    · have hfirst : place + 1 = span := by omega
      have hdiv : span / span = 1 := Nat.div_self (by decide)
      left
      simp [quartersBelow, significandAt, scaleAt, hplace, hfirst, hdiv]
    · have hexponent : 1 ≤ place / span :=
        (Nat.one_le_div_iff (by decide)).mpr (by omega)
      rcases division_next place with ⟨hdiv, hmod⟩ | ⟨hlast, hdiv, hmod⟩
      · left
        simp [quartersBelow, significandAt, scaleAt, hnext, hplace, hdiv, hmod, Nat.add_assoc]
      · have hscale : place / span + 1 - 1 = place / span - 1 + 1 := by omega
        right
        simp only [quartersBelow, significandAt, scaleAt, hnext, hplace, hdiv, hmod, hscale,
          if_false, Nat.add_zero, Nat.succ_pos, and_self, if_true, and_true]
        omega

/-- A magnitude other than zero lies as far above the edge of the one before it as the quarters
below it say. -/
theorem edge_eq_next (place : Nat) :
  edge place
    = (4 * significandAt (place + 1) - quartersBelow (place + 1)) * 2 ^ scaleAt (place + 1)
  := by
  rcases next_place place with
    ⟨hsignificand, hscale, hquarters⟩ | ⟨hlast, hfirst, hscale, hquarters⟩
  · rw [edge, hsignificand, hscale, hquarters]
    congr 1
  · have hspan : 0 < span := by decide
    rw [edge, hfirst, hscale, hquarters, Nat.pow_succ, ← Nat.mul_assoc, Nat.mul_right_comm]
    congr 1
    omega

/-- Edges ascend. -/
theorem strictMono_edge : StrictMono edge := by
  apply strictMono_nat_of_lt_succ
  intro place
  rw [edge_eq_next, edge]
  apply Nat.mul_lt_mul_of_pos_right _ (Nat.pow_pos (by decide))
  omega

/-- The significand is even where the place is. -/
theorem significandAt_mod_two (place : Nat) :
  significandAt place % 2 = place % 2
  := by
  rw [significandAt]
  unfold span
  split <;> omega

/-! ### Between edges -/

/-- A number lies between the edges of a magnitude, which are taken so many times; the edges
themselves count where the place of the magnitude is even. -/
def Between (x : Binary64) (times n : Nat) : Prop :=
  if x.place % 2 = 0 then edge (x.place - 1) * times ≤ n ∧ n ≤ edge x.place * times
  else edge (x.place - 1) * times < n ∧ n < edge x.place * times

theorem Between.le {x : Binary64} {times n : Nat} (h : x.Between times n) :
  edge (x.place - 1) * times ≤ n ∧ n ≤ edge x.place * times
  := by
  rw [Between] at h
  split at h
  · apply h
  · exact ⟨h.1.le, h.2.le⟩

/-- What lies between the edges of two magnitudes is not above the upper one of the first. -/
theorem Between.not_lt {x y : Binary64} {times n : Nat} (htimes : 0 < times)
    (hx : x.Between times n) (hy : y.Between times n) :
  ¬ x.place < y.place
  := by
  intro hlt
  -- The upper edge of the lesser magnitude is at most the lower edge of the greater one. If they
  -- are the same, the two places follow each other, so one of them is odd.
  have hle : edge x.place ≤ edge (y.place - 1) := strictMono_edge.monotone (by omega)
  have hge : edge (y.place - 1) * times ≤ edge x.place * times := hy.le.1.trans hx.le.2
  have hedge : edge x.place = edge (y.place - 1) :=
    Nat.le_antisymm hle (Nat.le_of_mul_le_mul_right hge htimes)
  have hplace : x.place = y.place - 1 := strictMono_edge.injective hedge
  by_cases heven : x.place % 2 = 0
  · have hodd : ¬ y.place % 2 = 0 := by omega
    rw [Between, if_neg hodd, ← hedge] at hy
    exact absurd hx.le.2 (Nat.not_le.mpr hy.1)
  · rw [Between, if_neg heven, hedge] at hx
    exact absurd hy.le.1 (Nat.not_le.mpr hx.2)

/-- What lies between the edges of two magnitudes is between those of one place. -/
theorem Between.place_eq {x y : Binary64} {times n : Nat} (htimes : 0 < times)
    (hx : x.Between times n) (hy : y.Between times n) :
  x.place = y.place
  := by
  apply Nat.le_antisymm
  · apply Nat.not_lt.mp (hy.not_lt htimes hx)
  · apply Nat.not_lt.mp (hx.not_lt htimes hy)

/-! ### Edges of numbers -/

theorem significand_pos {x : Binary64} (h : 0 < x.place) :
  0 < x.significand
  := by
  rw [significand]
  split
  · apply h
  · apply Nat.lt_of_lt_of_le (by decide : 0 < span) (Nat.le_add_right _ _)

theorem significand_lt (x : Binary64) :
  x.significand < 2 * span
  := by
  have hmod : x.place % span < span := Nat.mod_lt _ (by decide)
  rw [significand]
  split <;> omega

/-- A magnitude that reaches something is not zero. -/
theorem place_pos_of_le {x : Binary64} {n step : Nat} (hn : 0 < n) (h : n ≤ x.significand * step) :
  0 < x.place
  := by
  apply Nat.pos_of_ne_zero
  intro hzero
  have hsignificand : x.significand = 0 := by
    rw [significand, hzero]
    rfl
  rw [hsignificand, Nat.zero_mul] at h
  omega

/-- The edges of a magnitude other than zero lie half a step above it, and half a step or a quarter
of one below it. They count where its significand is even. -/
theorem between_iff {x : Binary64} (h : 0 < x.place) (times n : Nat) :
  x.Between times n
    ↔ if x.significand % 2 = 0 then
        (4 * x.significand - quartersBelow x.place) * (2 ^ x.scale * times) ≤ n
          ∧ n ≤ (4 * x.significand + 2) * (2 ^ x.scale * times)
      else
        (4 * x.significand - quartersBelow x.place) * (2 ^ x.scale * times) < n
          ∧ n < (4 * x.significand + 2) * (2 ^ x.scale * times)
  := by
  have hlower : edge (x.place - 1)
      = (4 * x.significand - quartersBelow x.place) * 2 ^ x.scale := by
    have hedge := edge_eq_next (x.place - 1)
    rw [Nat.sub_add_cancel h] at hedge
    exact hedge
  have hupper : edge x.place = (4 * x.significand + 2) * 2 ^ x.scale := rfl
  have heven : x.significand % 2 = x.place % 2 := significandAt_mod_two x.place
  rw [Between, hlower, hupper, ← heven, Nat.mul_assoc, Nat.mul_assoc]

/-! ### Decimals that determine a number -/

/-- The number of units of the lowest place in one. -/
def tenths : Nat := 10 ^ 400

/-- The number of least magnitudes in one. -/
def halves : Nat := 2 ^ 1074

theorem tenths_pos :
  0 < tenths
  := by
  unfold tenths
  positivity

theorem halves_pos :
  0 < halves
  := by
  unfold halves
  positivity

/-- The unit of a place, where the least magnitude stands for `10^400`. -/
def unitAt (place : Nat) : Nat := halves * 10 ^ place

theorem unitAt_pos (place : Nat) :
  0 < unitAt place
  := Nat.mul_pos halves_pos (Nat.pow_pos (by decide))

theorem pow_tenths {place : Nat} (h : place < 400) :
  10 ^ (400 - place) * 10 ^ place = tenths
  := by
  rw [tenths, ← Nat.pow_sub_mul_pow 10 h.le]

theorem tenths_pow {place : Nat} (h : ¬ place < 400) :
  10 ^ (place - 400) * tenths = 10 ^ place
  := by
  rw [tenths, ← Nat.pow_sub_mul_pow 10 (Nat.not_lt.mp h)]

theorem pow_halves {scale : Nat} (h : scale < 1074) :
  2 ^ (1074 - scale) * 2 ^ scale = halves
  := by
  rw [halves, ← Nat.pow_sub_mul_pow 2 h.le]

theorem halves_pow {scale : Nat} (h : ¬ scale < 1074) :
  2 ^ (scale - 1074) * halves = 2 ^ scale
  := by
  rw [halves, ← Nat.pow_sub_mul_pow 2 (Nat.not_lt.mp h)]

/-- A magnitude in units of a place is the significand times a step, over a denominator. The step is
to the denominator like the distance to the next magnitude to the unit of the place. -/
theorem exists_inUnits (x : Binary64) (place : Nat) :
  ∃ step denominator common, 0 < common
    ∧ Decimal.inUnits x.magnitude place = ⟨x.significand * step, denominator⟩
    ∧ step * common = 2 ^ x.scale * tenths ∧ denominator * common = unitAt place
  := by
  by_cases hscale : x.scale < 1074
  · by_cases hplace : place < 400
    · refine ⟨10 ^ (400 - place), 2 ^ (1074 - x.scale), 2 ^ x.scale * 10 ^ place, by positivity, ?_⟩
      rw [Binary64.magnitude, if_pos hscale, Decimal.inUnits, if_pos hplace, unitAt,
        ← pow_tenths hplace, ← pow_halves hscale]
      refine ⟨rfl, by ring, by ring⟩
    · refine ⟨1, 2 ^ (1074 - x.scale) * 10 ^ (place - 400), 2 ^ x.scale * tenths,
        Nat.mul_pos (Nat.pow_pos (by decide)) tenths_pos, ?_⟩
      rw [Binary64.magnitude, if_pos hscale, Decimal.inUnits, if_neg hplace, unitAt,
        ← tenths_pow hplace, ← pow_halves hscale]
      refine ⟨by rw [Nat.mul_one]; rfl, by ring, by ring⟩
  · by_cases hplace : place < 400
    · refine ⟨2 ^ (x.scale - 1074) * 10 ^ (400 - place), 1, unitAt place, unitAt_pos place, ?_⟩
      rw [Binary64.magnitude, if_neg hscale, Decimal.inUnits, if_pos hplace, unitAt,
        ← pow_tenths hplace, ← halves_pow hscale]
      refine ⟨by rw [← Nat.mul_assoc]; rfl, by ring, by ring⟩
    · refine ⟨2 ^ (x.scale - 1074), 10 ^ (place - 400), halves * tenths,
        Nat.mul_pos halves_pos tenths_pos, ?_⟩
      rw [Binary64.magnitude, if_neg hscale, Decimal.inUnits, if_neg hplace, unitAt,
        ← tenths_pow hplace, ← halves_pow hscale]
      refine ⟨by rw [Nat.one_mul]; rfl, by ring, by ring⟩

/-- A decimal determines a number exactly when it lies between its edges. -/
theorem determines_iff {x : Binary64} (h : 0 < x.place) (place d : Nat) :
  Decimal.determines x place d = true ↔ x.Between tenths (4 * d * unitAt place)
  := by
  obtain ⟨step, denominator, common, hcommon, hunits, hstep, hdenominator⟩ :=
    x.exists_inUnits place
  have hquarter : x.significand * step / x.significand = step :=
    Nat.mul_div_cancel_left _ (significand_pos h)
  have hbelow : (if x.significand = span ∧ 0 < x.scale then step else 2 * step)
      = quartersBelow x.place * step := by
    have hquarters : quartersBelow x.place
        = if x.significand = span ∧ 0 < x.scale then 1 else 2 := rfl
    rw [hquarters]
    split
    · rw [Nat.one_mul]
    · rfl
  have hlower : (4 * (x.significand * step) - quartersBelow x.place * step) * common
      = (4 * x.significand - quartersBelow x.place) * (2 ^ x.scale * tenths) := by
    rw [← Nat.mul_assoc 4, ← Nat.sub_mul, Nat.mul_assoc, hstep]
  have hupper : (4 * (x.significand * step) + 2 * step) * common
      = (4 * x.significand + 2) * (2 ^ x.scale * tenths) := by
    rw [← Nat.mul_assoc 4, ← Nat.add_mul, Nat.mul_assoc, hstep]
  have hcandidate : 4 * d * denominator * common = 4 * d * unitAt place := by
    rw [Nat.mul_assoc, hdenominator]
  have hle (a b : Nat) : a ≤ b ↔ a * common ≤ b * common :=
    (Nat.mul_le_mul_right_iff hcommon).symm
  have hlt (a b : Nat) : a < b ↔ a * common < b * common :=
    (Nat.mul_lt_mul_right hcommon).symm
  simp only [Decimal.determines, hunits, hquarter, hbelow, between_iff h]
  split
  · rw [Bool.and_eq_true, decide_eq_true_iff, decide_eq_true_iff, hle, hlower, hcandidate,
      hle (4 * d * denominator), hupper, hcandidate]
  · rw [Bool.and_eq_true, decide_eq_true_iff, decide_eq_true_iff, hlt, hlower, hcandidate,
      hlt (4 * d * denominator), hupper, hcandidate]

/-- A decimal that determines two numbers determines one magnitude. -/
theorem place_eq_of_determines {x y : Binary64} (hx : 0 < x.place) (hy : 0 < y.place)
    {place place' d e : Nat} (h : d * 10 ^ place = e * 10 ^ place')
    (hd : Decimal.determines x place d = true) (he : Decimal.determines y place' e = true) :
  x.place = y.place
  := by
  have hsame : 4 * d * unitAt place = 4 * e * unitAt place' := by
    calc 4 * d * unitAt place
        = 4 * halves * (d * 10 ^ place) := by rw [unitAt]; ring
      _ = 4 * halves * (e * 10 ^ place') := by rw [h]
      _ = 4 * e * unitAt place' := by rw [unitAt]; ring
  rw [determines_iff hx, hsame] at hd
  apply hd.place_eq tenths_pos ((determines_iff hy place' e).mp he)

/-! ### Seventeen digits -/

/-- What is at most half a unit away from a number lies between its edges, if the number has at
least seventeen digits in front of the unit. -/
theorem between_of_near {x : Binary64} {n unit : Nat} (hunit : 0 < unit)
    (hdigits : unit * 10 ^ 16 ≤ x.significand * (2 ^ x.scale * tenths))
    (hlow : 2 * (x.significand * (2 ^ x.scale * tenths)) ≤ 2 * n + unit)
    (hhigh : 2 * n ≤ 2 * (x.significand * (2 ^ x.scale * tenths)) + unit) :
  x.Between tenths (4 * n)
  := by
  have hplace : 0 < x.place := place_pos_of_le (by positivity) hdigits
  have hbound := x.significand_lt
  rw [between_iff hplace]
  generalize 2 ^ x.scale * tenths = step at *
  have hsub : (4 * x.significand - quartersBelow x.place) * step
      = 4 * (x.significand * step) - quartersBelow x.place * step := by
    rw [Nat.sub_mul, Nat.mul_assoc]
  have hadd : (4 * x.significand + 2) * step = 4 * (x.significand * step) + 2 * step := by
    rw [Nat.add_mul, Nat.mul_assoc]
  -- The distance between two magnitudes is more than the unit.
  have hstep : unit < step := by
    by_contra hle
    have h : x.significand * step ≤ 9007199254740992 * unit :=
      Nat.mul_le_mul (by unfold span at hbound; omega) (Nat.not_lt.mp hle)
    omega
  rw [hsub, hadd]
  by_cases hquarters : x.significand = span ∧ 0 < x.scale
  · have hone : quartersBelow x.place = 1 := if_pos hquarters
    have hhalf : 2 * unit ≤ step := by
      rw [hquarters.1] at hdigits
      unfold span at hdigits
      omega
    have hspan : x.significand % 2 = 0 := by
      rw [hquarters.1]
      rfl
    rw [if_pos hspan, hone]
    omega
  · have htwo : quartersBelow x.place = 2 := if_neg hquarters
    rw [htwo]
    split <;> omega

/-- At a place sixteen digits behind its first one a number has a nearest decimal that determines
it. -/
theorem nearest?_isSome {x : Binary64} {place : Nat}
    (h : unitAt place * 10 ^ 16 ≤ x.significand * (2 ^ x.scale * tenths)) :
  (Decimal.nearest? x place).isSome = true
  := by
  obtain ⟨step, denominator, common, hcommon, hunits, hstep, hdenominator⟩ :=
    x.exists_inUnits place
  have hplace : 0 < x.place :=
    place_pos_of_le (Nat.mul_pos (unitAt_pos place) (by decide)) h
  have hnumerator : x.significand * step * common = x.significand * (2 ^ x.scale * tenths) := by
    rw [Nat.mul_assoc, hstep]
  have hnear {d : Nat} (hlow : 2 * (x.significand * step) ≤ 2 * (d * denominator) + denominator)
      (hhigh : 2 * (d * denominator) ≤ 2 * (x.significand * step) + denominator) :
      Decimal.determines x place d = true := by
    have hd : d * denominator * common = d * unitAt place := by rw [Nat.mul_assoc, hdenominator]
    rw [determines_iff hplace, Nat.mul_assoc]
    apply between_of_near (unitAt_pos place) h
    · have hscaled := Nat.mul_le_mul_right common hlow
      rw [Nat.add_mul, Nat.mul_assoc, Nat.mul_assoc 2 (d * denominator)] at hscaled
      rwa [hnumerator, hd, hdenominator] at hscaled
    · have hscaled := Nat.mul_le_mul_right common hhigh
      rw [Nat.add_mul, Nat.mul_assoc, Nat.mul_assoc 2 (x.significand * step)] at hscaled
      rwa [hnumerator, hd, hdenominator] at hscaled
  have hdivision := Nat.div_add_mod (x.significand * step) denominator
  rw [Nat.mul_comm denominator] at hdivision
  have hmod : x.significand * step % denominator < denominator := by
    apply Nat.mod_lt
    apply Nat.pos_of_ne_zero
    rintro rfl
    have hunit := unitAt_pos place
    omega
  simp only [Decimal.nearest?, hunits, List.find?_isSome]
  by_cases hexcess : 2 * (x.significand * step % denominator) ≤ denominator
  · refine ⟨x.significand * step / denominator, ?_, hnear (by omega) (by omega)⟩
    split <;> simp
  · have hnext : (x.significand * step / denominator + 1) * denominator
        = x.significand * step / denominator * denominator + denominator := Nat.succ_mul _ _
    refine ⟨x.significand * step / denominator + 1, ?_, hnear (by omega) (by omega)⟩
    split <;> simp

/-- The magnitude of a number, compared with a whole number of least magnitudes. -/
theorem magnitude_cross (x : Binary64) :
  x.magnitude.numerator * halves = x.significand * 2 ^ x.scale * x.magnitude.denominator
    ∧ 0 < x.magnitude.denominator ∧ x.magnitude.denominator ≤ halves
  := by
  rw [Binary64.magnitude]
  by_cases hscale : x.scale < 1074
  · have hhalves : 2 ^ (1074 - x.scale) * 2 ^ x.scale = halves := pow_halves hscale
    have hpos : 0 < 2 ^ x.scale := Nat.pow_pos (by decide)
    rw [if_pos hscale]
    refine ⟨?_, Nat.pow_pos (by decide), ?_⟩
    · change x.significand * halves = x.significand * 2 ^ x.scale * 2 ^ (1074 - x.scale)
      rw [← hhalves]
      ring
    · change 2 ^ (1074 - x.scale) ≤ halves
      rw [← hhalves]
      apply Nat.le_mul_of_pos_right _ hpos
  · have hhalves : 2 ^ (x.scale - 1074) * halves = 2 ^ x.scale := halves_pow hscale
    rw [if_neg hscale]
    refine ⟨?_, Nat.one_pos, halves_pos⟩
    change x.significand * 2 ^ (x.scale - 1074) * halves = x.significand * 2 ^ x.scale * 1
    rw [← hhalves]
    ring

/-- The least magnitude has no more than 384 digits behind the point. -/
theorem halves_lt :
  halves < 10 ^ 384
  := by
  have hthree (k : Nat) : 2 ^ (3 * k) ≤ 10 ^ k := by
    rw [Nat.pow_mul]
    apply Nat.pow_le_pow_left (by decide)
  apply Nat.lt_of_lt_of_le _ (hthree 384)
  unfold halves
  apply Nat.pow_lt_pow_right (by decide) (by decide)

/-- A number has as many digits as needed. -/
theorem Decimal.length_le_iff {n k : Nat} (h : 0 < k) :
  Decimal.length n ≤ k ↔ n < 10 ^ k
  := Nat.length_toDigits_le_iff (by decide) h

theorem Decimal.length_pos (n : Nat) :
  0 < Decimal.length n
  := Nat.length_toDigits_pos

/-- The first digit of a fraction stands at least sixteen places above the lowest place, and a unit
of its place is at most the fraction. -/
theorem Decimal.unit_le {r : Fraction} (hnumerator : 0 < r.numerator)
    (hdenominator : 0 < r.denominator) (hhalves : r.denominator ≤ halves) :
  16 ≤ Decimal.leading r ∧ 10 ^ Decimal.leading r * r.denominator ≤ r.numerator * tenths
  := by
  rw [Decimal.leading]
  split
  · rename_i hle
    have hpos := Decimal.length_pos (r.numerator / r.denominator)
    have hone : 1 ≤ r.numerator / r.denominator := (Nat.one_le_div_iff hdenominator).mpr hle
    obtain ⟨k, hk⟩ : ∃ k, Decimal.length (r.numerator / r.denominator) = k + 1 :=
      ⟨_, (Nat.sub_add_cancel hpos).symm⟩
    have hdigits : 10 ^ k ≤ r.numerator / r.denominator := by
      rcases Nat.eq_zero_or_pos k with rfl | hk0
      · apply hone
      · apply Nat.not_lt.mp
        rw [← Decimal.length_le_iff hk0, hk]
        omega
    have hplace : 400 + (k + 1) - 1 = k + 400 := by omega
    rw [hk, hplace]
    constructor
    · omega
    · calc 10 ^ (k + 400) * r.denominator
          = 10 ^ k * r.denominator * tenths := by
            rw [tenths, Nat.mul_right_comm, ← Nat.pow_add]
        _ ≤ r.numerator * tenths := by
            apply Nat.mul_le_mul_right
            apply (Nat.le_div_iff_mul_le hdenominator).mp hdigits
  · have hle : Decimal.length ((r.denominator - 1) / r.numerator) ≤ 384 := by
      rw [Decimal.length_le_iff (by decide)]
      have hdiv := Nat.div_le_self (r.denominator - 1) r.numerator
      have hlt := halves_lt
      omega
    have hpos := Decimal.length_pos ((r.denominator - 1) / r.numerator)
    generalize hlength : Decimal.length ((r.denominator - 1) / r.numerator) = k at *
    have hdigits : r.denominator ≤ 10 ^ k * r.numerator := by
      have hlt := (Decimal.length_le_iff hpos).mp hlength.le
      have hmul := (Nat.div_lt_iff_lt_mul hnumerator).mp hlt
      omega
    constructor
    · omega
    · calc 10 ^ (400 - k) * r.denominator
          ≤ 10 ^ (400 - k) * (10 ^ k * r.numerator) := Nat.mul_le_mul_left _ hdigits
        _ = r.numerator * tenths := by
            rw [← Nat.mul_assoc, pow_tenths (by omega), Nat.mul_comm]

/-- The shortest decimal of a number other than zero determines it. -/
theorem shortest_determines {x : Binary64} (h : 0 < x.place) :
  Decimal.determines x (Decimal.shortest x).place (Decimal.shortest x).digits = true
  := by
  obtain ⟨hcross, hdenominator, hhalves⟩ := x.magnitude_cross
  have hnumerator : 0 < x.magnitude.numerator := by
    have hpos : 0 < x.significand * 2 ^ x.scale * x.magnitude.denominator :=
      Nat.mul_pos (Nat.mul_pos (significand_pos h) (Nat.pow_pos (by decide))) hdenominator
    rw [← hcross] at hpos
    apply Nat.pos_of_mul_pos_right hpos
  obtain ⟨hleading, hunit⟩ := Decimal.unit_le hnumerator hdenominator hhalves
  have hfirst : unitAt (Decimal.leading x.magnitude - 16) * 10 ^ 16
      ≤ x.significand * (2 ^ x.scale * tenths) := by
    apply Nat.le_of_mul_le_mul_right _ hdenominator
    calc unitAt (Decimal.leading x.magnitude - 16) * 10 ^ 16 * x.magnitude.denominator
        = halves * (10 ^ Decimal.leading x.magnitude * x.magnitude.denominator) := by
          rw [unitAt, Nat.mul_assoc halves, Nat.pow_sub_mul_pow 10 hleading, Nat.mul_assoc]
      _ ≤ halves * (x.magnitude.numerator * tenths) := Nat.mul_le_mul_left _ hunit
      _ = x.magnitude.numerator * halves * tenths := by ring
      _ = x.significand * (2 ^ x.scale * tenths) * x.magnitude.denominator := by
          rw [hcross]
          ring
  obtain ⟨d, hd⟩ := Option.isSome_iff_exists.mp (nearest?_isSome hfirst)
  rw [Decimal.shortest]
  generalize hfound : ((List.range 17).findSome? fun more =>
    (Decimal.nearest? x (Decimal.leading x.magnitude - more)).map fun d =>
      (⟨d, Decimal.leading x.magnitude - more⟩ : Decimal)) = found
  cases found with
  | none =>
      have hnone := List.findSome?_eq_none_iff.mp hfound 16 (by decide)
      rw [hd] at hnone
      cases hnone
  | some decimal =>
      obtain ⟨more, -, hmore⟩ := List.exists_of_findSome?_eq_some hfound
      obtain ⟨e, he, rfl⟩ := Option.map_eq_some_iff.mp hmore
      apply List.find?_some he

end Binary64

end RecordSchema
