import RecordSchema.Proofs.Binary64.Shortest
import RecordSchema.Proofs.Json.Scalars
import Mathlib.Data.List.DropRight

/-!
# Numbers with the same text

The text of a double precision number gives the digits of its shortest decimal, but for zeros at the
end, and the place of the first of them. So it gives the value of that decimal, and with it the
number: numbers with the same text are the same, also in their sign.
-/

namespace RecordSchema

namespace Binary64

/-! ### Zeros around digits -/

/-- Characters without the zeros in front of them and behind them. -/
def trimmed (text : List Char) : List Char := (text.dropWhile (· == '0')).rdropWhile (· == '0')

/-- Digits that neither start nor end with a zero. -/
structure IsSignificant (digits : List Char) : Prop where
  isDigit : ∀ c ∈ digits, c.isDigit = true
  first : ∀ c ∈ digits.head?, c ≠ '0'
  last : ∀ c ∈ digits.getLast?, c ≠ '0'
  ne_nil : digits ≠ []

variable {digits digits' : List Char} {place place' : Nat}

theorem IsSignificant.exists_cons (h : IsSignificant digits) :
  ∃ c rest, digits = c :: rest ∧ c.isDigit = true ∧ c ≠ '0'
  := by
  cases digits with
  | nil => exact absurd rfl h.ne_nil
  | cons c rest => exact ⟨c, rest, rfl, h.isDigit c List.mem_cons_self, h.first c rfl⟩

/-- Zeros around digits are trimmed. -/
theorem trimmed_zeros (h : IsSignificant digits) (before after : Nat) :
  trimmed (List.replicate before '0' ++ (digits ++ List.replicate after '0')) = digits
  := by
  have hzeros (n : Nat) : ∀ c ∈ List.replicate n '0', (c == '0') = true := by
    intro c hc
    rw [List.eq_of_mem_replicate hc]
    rfl
  have hfront : (digits ++ List.replicate after '0').dropWhile (· == '0')
      = digits ++ List.replicate after '0' := by
    obtain ⟨c, rest, rfl, -, hc⟩ := h.exists_cons
    rw [List.cons_append, List.dropWhile_cons_of_neg (by simpa using hc)]
  have hback : digits.rdropWhile (· == '0') = digits := by
    rw [List.rdropWhile_eq_self_iff]
    intro hne
    simpa using h.last _ (List.getLast?_eq_getLast_of_ne_nil hne)
  rw [trimmed, List.dropWhile_append_of_pos (hzeros before), hfront, List.rdropWhile,
    List.reverse_append, List.reverse_replicate, List.dropWhile_append_of_pos (hzeros after)]
  apply hback

/-! ### Parts of the text -/

/-- The digits in front of the exponent, with a point behind the first one. -/
def mantissa : List Char → List Char
  | d :: e :: rest => d :: '.' :: e :: rest
  | short => short

/-- The exponent, with its sign. -/
def exponent (place : Nat) : List Char :=
  if place < 400 then '-' :: Nat.toDigits 10 (400 - place) else '+' :: Nat.toDigits 10 (place - 400)

/-- What stands in front of the point. -/
def whole (digits : List Char) (place : Nat) : List Char :=
  if place < 400 then ['0']
  else digits.take (place - 399) ++ List.replicate (place - 399 - digits.length) '0'

/-- What stands behind the point. -/
def fraction (digits : List Char) (place : Nat) : List Char :=
  if place < 400 then List.replicate (399 - place) '0' ++ digits
  else if (digits.drop (place - 399)).isEmpty then ['0'] else digits.drop (place - 399)

theorem layout_eq (digits : List Char) (place : Nat) :
  layout digits place
    = if place < 395 ∨ 416 ≤ place then mantissa digits ++ 'e' :: exponent place
      else whole digits place ++ '.' :: fraction digits place
  := by
  simp only [layout, exponent, whole, fraction]
  split
  · cases digits with
    | nil => rfl
    | cons d rest => cases rest <;> rfl
  · split <;> rfl

theorem filter_mantissa (h : ∀ c ∈ digits, c.isDigit = true) :
  (mantissa digits).filter (· ≠ '.') = digits
  := by
  have hpoint : digits.filter (· ≠ '.') = digits := by
    apply List.filter_eq_self.mpr
    intro c hc
    have hdigit := h c hc
    rw [decide_eq_true_iff]
    rintro rfl
    cases hdigit
  cases digits with
  | nil => rfl
  | cons d rest =>
      cases rest with
      | nil => exact hpoint
      | cons e rest =>
          have hfilter : (mantissa (d :: e :: rest)).filter (· ≠ '.')
              = (d :: e :: rest).filter (· ≠ '.') := by
            simp [mantissa, List.filter_cons]
          rw [hfilter, hpoint]

theorem mem_mantissa {c : Char} (h : c ∈ mantissa digits) :
  c = '.' ∨ c ∈ digits
  := by
  cases digits with
  | nil => cases h
  | cons d rest =>
      cases rest with
      | nil => exact .inr h
      | cons e rest =>
          simp only [mantissa, List.mem_cons] at h ⊢
          tauto

theorem toDigits_injective {m n : Nat} (h : Nat.toDigits 10 m = Nat.toDigits 10 n) :
  m = n
  := by
  rw [← Nat.ofDigitChars_ten_toDigits (n := m), h, Nat.ofDigitChars_ten_toDigits]

theorem exponent_injective (h : exponent place = exponent place') :
  place = place'
  := by
  rw [exponent, exponent] at h
  split at h
  · split at h
    · have hdigits := toDigits_injective (List.cons.inj h).2
      omega
    · cases (List.cons.inj h).1
  · split at h
    · cases (List.cons.inj h).1
    · have hdigits := toDigits_injective (List.cons.inj h).2
      omega

theorem notMem_of_isDigit {c : Char} (hc : c.isDigit = false) {text : List Char}
    (h : ∀ d ∈ text, d.isDigit = true) :
  c ∉ text
  := by
  intro hmem
  rw [h c hmem] at hc
  cases hc

theorem isDigit_replicate (n : Nat) :
  ∀ c ∈ List.replicate n '0', c.isDigit = true
  := by
  intro c hc
  rw [List.eq_of_mem_replicate hc]
  rfl

theorem isDigit_whole (h : ∀ c ∈ digits, c.isDigit = true) :
  ∀ c ∈ whole digits place, c.isDigit = true
  := by
  rw [whole]
  split
  · simp
  · rw [List.forall_mem_append]
    exact ⟨fun c hc => h c (List.mem_of_mem_take hc), isDigit_replicate _⟩

theorem isDigit_fraction (h : ∀ c ∈ digits, c.isDigit = true) :
  ∀ c ∈ fraction digits place, c.isDigit = true
  := by
  rw [fraction]
  split
  · rw [List.forall_mem_append]
    exact ⟨isDigit_replicate _, h⟩
  · split
    · simp
    · exact fun c hc => h c (List.mem_of_mem_drop hc)

/-- In front of the point and behind it stand the digits, between zeros. -/
theorem trimmed_point (h : IsSignificant digits) (place : Nat) :
  trimmed (whole digits place ++ fraction digits place) = digits
  := by
  rw [whole, fraction]
  split
  · have hzeros := trimmed_zeros h (399 - place + 1) 0
    rw [List.replicate_succ, List.replicate_zero, List.append_nil] at hzeros
    apply hzeros
  · split
    · rename_i hempty
      have hle : digits.length ≤ place - 399 :=
        List.drop_eq_nil_iff.mp (List.isEmpty_iff.mp hempty)
      have hzeros := trimmed_zeros h 0 (place - 399 - digits.length + 1)
      rw [List.replicate_zero, List.nil_append, List.replicate_succ', ← List.append_assoc] at hzeros
      rw [List.take_of_length_le hle]
      apply hzeros
    · rename_i hempty
      have hlt : ¬ digits.length ≤ place - 399 := by
        rw [← List.drop_eq_nil_iff, ← List.isEmpty_iff]
        apply hempty
      have hnone : place - 399 - digits.length = 0 := by omega
      have hzeros := trimmed_zeros h 0 0
      rw [List.replicate_zero, List.nil_append, List.append_nil] at hzeros
      rw [hnone, List.replicate_zero, List.append_nil, List.take_append_drop]
      apply hzeros

/-- The digits around the point give the place of the first of them. -/
theorem place_eq_of_point (h : IsSignificant digits)
    (hwhole : whole digits place = whole digits place')
    (hfraction : fraction digits place = fraction digits place')
    (hplace : ¬ (place < 395 ∨ 416 ≤ place)) (hplace' : ¬ (place' < 395 ∨ 416 ≤ place')) :
  place = place'
  := by
  have hlength {place : Nat} (hlow : ¬ place < 400) :
      (whole digits place).length = place - 399 := by
    rw [whole, if_neg hlow, List.length_append, List.length_take, List.length_replicate]
    omega
  have hfirst {place : Nat} (hlow : ¬ place < 400) : whole digits place ≠ ['0'] := by
    obtain ⟨c, rest, rfl, -, hc⟩ := h.exists_cons
    obtain ⟨k, hk⟩ : ∃ k, place - 399 = k + 1 := ⟨place - 400, by omega⟩
    rw [whole, if_neg hlow, hk, List.take_succ_cons, List.cons_append]
    intro heq
    exact hc (List.cons.inj heq).1
  by_cases hlow : place < 400
  · by_cases hlow' : place' < 400
    · have hsame := congrArg List.length hfraction
      rw [fraction, fraction, if_pos hlow, if_pos hlow', List.length_append, List.length_append,
        List.length_replicate, List.length_replicate] at hsame
      omega
    · rw [whole, if_pos hlow] at hwhole
      exact absurd hwhole.symm (hfirst hlow')
  · by_cases hlow' : place' < 400
    · rw [whole.eq_1 digits place', if_pos hlow'] at hwhole
      exact absurd hwhole (hfirst hlow)
    · have hsame := congrArg List.length hwhole
      rw [hlength hlow, hlength hlow'] at hsame
      omega

/-! ### Layouts -/

theorem notMem_mantissa (h : IsSignificant digits) :
  'e' ∉ mantissa digits
  := by
  intro he
  rcases mem_mantissa he with he | he
  · cases he
  · exact notMem_of_isDigit (by decide) h.isDigit he

theorem notMem_exponent (place : Nat) :
  'e' ∉ exponent place
  := by
  have hdigits (n : Nat) : 'e' ∉ Nat.toDigits 10 n := by
    apply notMem_of_isDigit (by decide)
    intro c hc
    apply Nat.isDigit_of_mem_toDigits (by decide) (by decide) hc
  rw [exponent]
  split <;> simp [hdigits]

/-- Around a point stands no character but digits. -/
theorem notMem_point (h : IsSignificant digits) (place : Nat) {c : Char} (hc : c.isDigit = false) :
  c ∉ whole digits place ∧ c ∉ fraction digits place
  := by
  constructor
  · apply notMem_of_isDigit hc (isDigit_whole h.isDigit)
  · apply notMem_of_isDigit hc (isDigit_fraction h.isDigit)

/-- A number is laid out with an exponent or around a point. -/
theorem mem_layout_iff (h : IsSignificant digits) :
  'e' ∈ layout digits place ↔ place < 395 ∨ 416 ≤ place
  := by
  obtain ⟨hwhole, hfraction⟩ := notMem_point h place (c := 'e') (by decide)
  rw [layout_eq]
  split
  · rename_i hplace
    simp [hplace]
  · rename_i hplace
    simp [hplace, hwhole, hfraction]

/-- The text of digits around a point, or in front of an exponent, gives the digits and the place of
the first of them. -/
theorem layout_injective (h : IsSignificant digits) (h' : IsSignificant digits')
    (heq : layout digits place = layout digits' place') :
  digits = digits' ∧ place = place'
  := by
  have hform : place < 395 ∨ 416 ≤ place ↔ place' < 395 ∨ 416 ≤ place' := by
    rw [← mem_layout_iff h, heq, mem_layout_iff h']
  rw [layout_eq, layout_eq] at heq
  by_cases hplace : place < 395 ∨ 416 ≤ place
  · rw [if_pos hplace, if_pos (hform.mp hplace)] at heq
    obtain ⟨hmantissa, -, hexponent⟩ := (List.append_cons_inj_of_notMem
      (notMem_mantissa h) (notMem_exponent place)).mp heq
    constructor
    · rw [← filter_mantissa h.isDigit, hmantissa, filter_mantissa h'.isDigit]
    · apply exponent_injective hexponent
  · have hplace' := mt hform.mpr hplace
    obtain ⟨hnowhole, hnofraction⟩ := notMem_point h place (c := '.') (by decide)
    rw [if_neg hplace, if_neg hplace'] at heq
    obtain ⟨hwhole, -, hfraction⟩ :=
      (List.append_cons_inj_of_notMem hnowhole hnofraction).mp heq
    have hdigits : digits = digits' := by
      rw [← trimmed_point h place, hwhole, hfraction, trimmed_point h']
    subst hdigits
    use rfl
    apply place_eq_of_point h hwhole hfraction hplace hplace'

/-! ### Shortest decimals -/

/-- The digits of a positive decimal are its significant digits and zeros. -/
theorem exists_toDigits_eq {d : Decimal} (h : 0 < d.digits) :
  IsSignificant d.significant
    ∧ ∃ zeros, Nat.toDigits 10 d.digits = d.significant ++ List.replicate zeros '0'
  := by
  have hsplit : d.significant ++ (Nat.toDigits 10 d.digits).rtakeWhile (· == '0')
      = Nat.toDigits 10 d.digits := List.rdropWhile_append_rtakeWhile
  have hzeros : (Nat.toDigits 10 d.digits).rtakeWhile (· == '0') = List.replicate
      ((Nat.toDigits 10 d.digits).rtakeWhile (· == '0')).length '0' := by
    apply List.eq_replicate_iff.mpr ⟨rfl, _⟩
    intro c hc
    simpa using List.mem_rtakeWhile_imp hc
  have hfirst := Json.head?_toDigits_ne_zero h
  have hne : d.significant ≠ [] := by
    intro hnil
    rw [hnil, List.nil_append] at hsplit
    cases hdigits : Nat.toDigits 10 d.digits with
    | nil => exact absurd hdigits Nat.toDigits_ne_nil
    | cons c rest =>
        rw [hdigits] at hsplit hfirst
        have hc := List.mem_rtakeWhile_imp (hsplit ▸ List.mem_cons_self : c ∈ _)
        apply hfirst
        simpa using hc
  constructor
  case left =>
    constructor
    case isDigit =>
      intro c hc
      apply Nat.isDigit_of_mem_toDigits (b := 10) (by decide) (by decide)
      rw [← hsplit]
      apply List.mem_append_left _ hc
    case first =>
      rintro c hc rfl
      rw [← hsplit, List.head?_append_of_ne_nil _ hne] at hfirst
      exact hfirst hc
    case last =>
      intro c hc
      have hlast : ¬ (d.significant.getLast hne == '0') = true :=
        List.rdropWhile_last_not (· == '0') (Nat.toDigits 10 d.digits) hne
      rw [List.getLast?_eq_getLast_of_ne_nil hne] at hc
      obtain rfl := Option.mem_some_iff.mp hc
      simpa using hlast
    case ne_nil => exact hne
  case right =>
    use ((Nat.toDigits 10 d.digits).rtakeWhile (· == '0')).length
    rw [← hzeros, hsplit]

/-- Positive decimals with the same significant digits, of which the first stands at the same place,
have the same value. -/
theorem value_eq_of_significant {d e : Decimal} (hd : 0 < d.digits) (he : 0 < e.digits)
    (hdigits : d.significant = e.significant)
    (hplace : d.place + Decimal.length d.digits - 1 = e.place + Decimal.length e.digits - 1) :
  d.digits * 10 ^ d.place = e.digits * 10 ^ e.place
  := by
  have hvalue {d : Decimal} {zeros : Nat}
      (h : Nat.toDigits 10 d.digits = d.significant ++ List.replicate zeros '0') :
      d.digits = 10 ^ zeros * Nat.ofDigitChars 10 d.significant 0
        ∧ Decimal.length d.digits = d.significant.length + zeros := by
    constructor
    · rw [← Nat.ofDigitChars_ten_toDigits (n := d.digits), h, Nat.ofDigitChars_append,
        Nat.ofDigitChars_replicate_zero]
    · rw [Decimal.length, h, List.length_append, List.length_replicate]
  obtain ⟨hsignificant, zeros, hzeros⟩ := exists_toDigits_eq hd
  obtain ⟨-, zeros', hzeros'⟩ := exists_toDigits_eq he
  obtain ⟨hnumber, hlength⟩ := hvalue hzeros
  obtain ⟨hnumber', hlength'⟩ := hvalue hzeros'
  have hpos := List.length_pos_iff.mpr hsignificant.ne_nil
  rw [hlength, hlength', ← hdigits] at hplace
  have hsum : zeros + d.place = zeros' + e.place := by omega
  rw [hnumber, hnumber', ← hdigits, Nat.mul_right_comm, ← Nat.pow_add, hsum, Nat.pow_add,
    Nat.mul_right_comm]

/-- The shortest decimal of a number other than zero is positive. -/
theorem shortest_pos {x : Binary64} (h : 0 < x.place) :
  0 < (Decimal.shortest x).digits
  := by
  apply Nat.pos_of_ne_zero
  intro hzero
  have hbetween := (determines_iff h _ _).mp (shortest_determines h)
  have hedge : 0 < edge (x.place - 1) * tenths :=
    Nat.mul_pos (Nat.mul_pos (by omega) (Nat.pow_pos (by decide))) tenths_pos
  have hle := hbetween.le.1
  rw [hzero, Nat.mul_zero, Nat.zero_mul] at hle
  omega

/-! ### Texts -/

/-- The text of a number without its sign. -/
def unsigned (x : Binary64) : List Char :=
  if x.isZero then ['0', '.', '0']
  else layout (Decimal.shortest x).significant
    ((Decimal.shortest x).place + Decimal.length (Decimal.shortest x).digits - 1)

theorem write_eq (x : Binary64) :
  x.write = if x.negative then '-' :: x.unsigned else x.unsigned
  := rfl

theorem place_of_isZero {x : Binary64} :
  x.isZero = true ↔ x.place = 0
  := by
  rw [isZero, beq_iff_eq]

/-- The shortest decimal of a number other than zero has digits to be laid out. -/
theorem isSignificant_shortest {x : Binary64} (h : ¬ x.isZero = true) :
  IsSignificant (Decimal.shortest x).significant
  := by
  rw [place_of_isZero] at h
  apply (exists_toDigits_eq (shortest_pos (Nat.pos_of_ne_zero h))).1

/-- The text of zero is not one of digits around a point. -/
theorem ne_layout_of_zero (h : IsSignificant digits) :
  ['0', '.', '0'] ≠ layout digits place
  := by
  intro heq
  have hnear : ¬ (place < 395 ∨ 416 ≤ place) := by
    rw [← mem_layout_iff h, ← heq]
    decide
  obtain ⟨hnowhole, hnofraction⟩ := notMem_point h place (c := '.') (by decide)
  rw [layout_eq, if_neg hnear, ← List.singleton_append] at heq
  obtain ⟨hwhole, -, hfraction⟩ :=
    (List.append_cons_inj_of_notMem hnowhole hnofraction).mp heq.symm
  have htrimmed := trimmed_point h place
  rw [hwhole, hfraction] at htrimmed
  apply h.ne_nil htrimmed.symm

/-- Numbers with the same text but for the sign have the same magnitude. -/
theorem place_eq_of_unsigned {x y : Binary64} (h : x.unsigned = y.unsigned) :
  x.place = y.place
  := by
  rw [unsigned, unsigned] at h
  by_cases hx : x.isZero = true
  · by_cases hy : y.isZero = true
    · rw [place_of_isZero.mp hx, place_of_isZero.mp hy]
    · rw [if_pos hx, if_neg hy] at h
      exact absurd h (ne_layout_of_zero (isSignificant_shortest hy))
  · by_cases hy : y.isZero = true
    · rw [if_neg hx, if_pos hy] at h
      exact absurd h.symm (ne_layout_of_zero (isSignificant_shortest hx))
    · rw [if_neg hx, if_neg hy] at h
      obtain ⟨hdigits, hplace⟩ :=
        layout_injective (isSignificant_shortest hx) (isSignificant_shortest hy) h
      have hx' : 0 < x.place := Nat.pos_of_ne_zero (mt place_of_isZero.mpr hx)
      have hy' : 0 < y.place := Nat.pos_of_ne_zero (mt place_of_isZero.mpr hy)
      have hvalue := value_eq_of_significant (shortest_pos hx') (shortest_pos hy') hdigits hplace
      apply place_eq_of_determines hx' hy' hvalue
      · apply shortest_determines hx'
      · apply shortest_determines hy'

/-- The text of a number starts with a digit, but for its sign. -/
theorem exists_unsigned_eq_cons (x : Binary64) :
  ∃ c text, x.unsigned = c :: text ∧ c.isDigit = true
  := by
  rw [unsigned]
  split
  · exact ⟨_, _, rfl, by decide⟩
  · rename_i hx
    obtain ⟨c, rest, hdigits, hc, -⟩ := (isSignificant_shortest hx).exists_cons
    rw [hdigits, layout_eq]
    split
    · cases rest with
      | nil => exact ⟨_, _, rfl, hc⟩
      | cons d rest => exact ⟨_, _, rfl, hc⟩
    · rw [whole]
      split
      · exact ⟨_, _, rfl, by decide⟩
      · rename_i hlow
        obtain ⟨k, hk⟩ : ∃ k, (Decimal.shortest x).place
            + Decimal.length (Decimal.shortest x).digits - 1 - 399 = k + 1 :=
          Nat.exists_eq_add_one.mpr (by omega)
        rw [hk]
        exact ⟨_, _, rfl, hc⟩

/-- Numbers with the same text are the same. -/
theorem write_injective {x y : Binary64} (h : x.write = y.write) :
  x = y
  := by
  obtain ⟨c, text, hx, hc⟩ := x.exists_unsigned_eq_cons
  obtain ⟨d, text', hy, hd⟩ := y.exists_unsigned_eq_cons
  have hsign : x.negative = y.negative ∧ x.unsigned = y.unsigned := by
    rw [write_eq, write_eq] at h
    cases hnegative : x.negative with
    | false =>
        cases hnegative' : y.negative with
        | false =>
            rw [hnegative, hnegative'] at h
            exact ⟨rfl, h⟩
        | true =>
            rw [hnegative, hnegative', hx] at h
            obtain rfl : c = '-' := (List.cons.inj h).1
            cases hc
    | true =>
        cases hnegative' : y.negative with
        | false =>
            rw [hnegative, hnegative', hy] at h
            obtain rfl : '-' = d := (List.cons.inj h).1
            cases hd
        | true =>
            rw [hnegative, hnegative'] at h
            exact ⟨rfl, (List.cons.inj h).2⟩
  have hplace := place_eq_of_unsigned hsign.2
  obtain ⟨negative, place, finite⟩ := x
  obtain ⟨negative', place', finite'⟩ := y
  obtain rfl : negative = negative' := hsign.1
  obtain rfl : place = place' := hplace
  rfl

/-- The text of a number has a point or an exponent. -/
theorem exists_mem_write (x : Binary64) :
  ∃ c ∈ x.write, c = '.' ∨ c = 'e'
  := by
  have hunsigned : ∃ c ∈ x.unsigned, c = '.' ∨ c = 'e' := by
    rw [unsigned]
    split
    · exact ⟨'.', by decide, .inl rfl⟩
    · rw [layout_eq]
      split
      · exact ⟨'e', by simp, .inr rfl⟩
      · exact ⟨'.', by simp, .inl rfl⟩
  obtain ⟨c, hmem, hc⟩ := hunsigned
  refine ⟨c, ?_, hc⟩
  rw [write_eq]
  split
  · apply List.mem_cons_of_mem _ hmem
  · apply hmem

end Binary64

end RecordSchema
