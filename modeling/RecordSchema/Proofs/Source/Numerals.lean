import RecordSchema.Proofs.Source.Strings

/-!
# Reading numerals

The parts of a numeral are read as they are written, up to a character that no numeral contains.
Whether a number is read from them does not depend on what follows.
-/

namespace RecordSchema

namespace Json

/-- The text does not go on with a digit. -/
def EndsDigits (text : List Char) : Prop := ∀ c ∈ text.head?, c.isDigit = false

theorem EndsNumeral.endsDigits {text : List Char} (h : EndsNumeral text) :
  EndsDigits text
  := fun c hc => (h c hc).1

/-- Digits are taken up to a character that is none. -/
theorem takeDigits_digits (digits : Digits) {rest : List Char} (hrest : EndsDigits rest) :
  takeDigits (digits.chars ++ rest) = (digits.chars, rest)
  := by
  have htake : rest.takeWhile Char.isDigit = [] ∧ rest.dropWhile Char.isDigit = rest := by
    cases rest with
    | nil => simp
    | cons c rest =>
        have hc := hrest c rfl
        simp [hc]
  rw [takeDigits, List.takeWhile_append_of_pos digits.digits,
    List.dropWhile_append_of_pos digits.digits, htake.1, htake.2, List.append_nil]

/-- One or more digits start with a digit. -/
theorem Digits.exists_cons (digits : Digits) :
  ∃ c after, digits.chars = c :: after ∧ c.isDigit = true
  := by
  obtain ⟨c, after, hchars⟩ := List.exists_cons_of_ne_nil digits.nonempty
  refine ⟨c, after, hchars, digits.digits c ?_⟩
  rw [hchars]
  exact List.mem_cons_self

namespace Figures

/-! ### Parts -/

theorem scanWhole_digits (cut : Cause) {digits : Digits}
    (hzero : digits.chars.head? = some '0' → digits.chars = ['0']) {rest : List Char}
    (hrest : EndsDigits rest) :
  scanWhole cut (digits.chars ++ rest) = .ok (digits.chars, rest)
  := by
  obtain ⟨c, after, hchars, hc⟩ := digits.exists_cons
  by_cases h : c = '0'
  · have hdigits : digits.chars = ['0'] := by
      apply hzero
      rw [hchars, h]
      rfl
    rw [hdigits]
    cases rest with
    | nil => rfl
    | cons d rest =>
        have hd := hrest d rfl
        simp [scanWhole, hd]
  · have htake := takeDigits_digits digits hrest
    rw [hchars, List.cons_append] at htake
    rw [hchars, List.cons_append, scanWhole.eq_def]
    simp only [if_neg h, hc, if_true]
    rw [htake]

/-- What starts an exponent is the letter before its digits. -/
theorem endsDigits_exponentText (exponent : Option Exponent) {rest : List Char}
    (hrest : EndsNumeral rest) :
  EndsDigits (exponentText exponent ++ rest)
  := by
  cases exponent with
  | none => exact hrest.endsDigits
  | some exponent =>
      rintro c ⟨⟩
      rcases exponent.letter_eq with h | h
      · rw [h]
        rfl
      · rw [h]
        rfl

theorem endsDigits_fractionText (fraction : Option Digits) (exponent : Option Exponent)
    {rest : List Char} (hrest : EndsNumeral rest) :
  EndsDigits (fractionText fraction ++ (exponentText exponent ++ rest))
  := by
  cases fraction with
  | none => exact endsDigits_exponentText exponent hrest
  | some digits =>
      rintro c ⟨⟩
      rfl

theorem scanFraction_fractionText (cut : Cause) (fraction : Option Digits)
    (exponent : Option Exponent) {rest : List Char} (hrest : EndsNumeral rest) :
  scanFraction cut (fractionText fraction ++ (exponentText exponent ++ rest))
    = .ok (fraction.map (·.chars), exponentText exponent ++ rest)
  := by
  cases fraction with
  | none =>
      rw [fractionText, List.nil_append, scanFraction]
      · rfl
      · intro tail heq
        cases exponent with
        | none =>
            rw [exponentText, List.nil_append] at heq
            exact absurd rfl (hrest '.' (by rw [heq]; rfl)).2.1
        | some exponent =>
            have hletter : exponent.letter = '.' := (List.cons.inj heq).1
            rcases exponent.letter_eq with h | h
            · rw [h] at hletter
              exact absurd hletter (by decide)
            · rw [h] at hletter
              exact absurd hletter (by decide)
  | some digits =>
      have htake := takeDigits_digits digits (endsDigits_exponentText exponent hrest)
      obtain ⟨c, after, hchars, -⟩ := digits.exists_cons
      rw [hchars] at htake
      simp only [fractionText, List.cons_append, scanFraction, hchars, Option.map_some]
        at htake ⊢
      rw [htake]

/-- A sign in front of digits is read. -/
theorem scanSign_signText (sign : Option Bool) (digits : Digits) (rest : List Char) :
  scanSign (Exponent.signText sign ++ (digits.chars ++ rest))
    = (sign.getD false, digits.chars ++ rest)
  := by
  obtain ⟨c, after, hchars, hc⟩ := digits.exists_cons
  cases sign with
  | some minus =>
      cases minus with
      | true => rfl
      | false => rfl
  | none =>
      rw [Exponent.signText, List.nil_append, hchars, List.cons_append, scanSign]
      · rfl
      · rintro tail ⟨⟩
        cases hc
      · rintro tail ⟨⟩
        cases hc

theorem scanExponent_exponentText (cut : Cause) (exponent : Option Exponent) {rest : List Char}
    (hrest : EndsNumeral rest) :
  scanExponent cut (exponentText exponent ++ rest)
    = .ok (exponent.map fun exponent => (exponent.sign.getD false, exponent.digits.chars), rest)
  := by
  cases exponent with
  | none =>
      cases rest with
      | nil => rfl
      | cons c rest =>
          obtain ⟨-, -, he, hE⟩ := hrest c rfl
          simp [exponentText, scanExponent, he, hE]
  | some exponent =>
      obtain ⟨c, after, hchars, -⟩ := exponent.digits.exists_cons
      have htake := takeDigits_digits exponent.digits hrest.endsDigits
      rw [exponentText, Exponent.text, List.cons_append, List.append_assoc, scanExponent,
        if_pos exponent.letter_eq, scanSign_signText]
      rw [Option.map_some]
      rw [hchars] at htake ⊢
      simp only [htake]

/-! ### Numerals -/

/-- The parts of a numeral are read up to its end. -/
theorem scanParts_text (cut : Cause) (figures : Figures) {rest : List Char}
    (hrest : EndsNumeral rest) :
  scanParts cut figures.negative (figures.whole.chars
      ++ (fractionText figures.fraction ++ (exponentText figures.exponent ++ rest)))
    = .ok (figures.numeral, rest)
  := by
  rw [scanParts, scanWhole_digits cut figures.whole_zero
    (endsDigits_fractionText figures.fraction figures.exponent hrest)]
  simp only [bind, Except.bind, scanFraction_fractionText cut _ _ hrest,
    scanExponent_exponentText cut _ hrest, pure, Except.pure]
  rfl

/-- A numeral is read up to its end. -/
theorem scanNumeral_text (cut : Cause) (figures : Figures) {rest : List Char}
    (hrest : EndsNumeral rest) :
  scanNumeral cut (figures.text ++ rest) = .ok (figures.numeral, rest)
  := by
  have hparts := scanParts_text cut figures hrest
  have htext : figures.text ++ rest = (if figures.negative then ['-'] else [])
      ++ (figures.whole.chars
        ++ (fractionText figures.fraction ++ (exponentText figures.exponent ++ rest))) := by
    simp only [text, List.append_assoc]
  rw [htext]
  cases hnegative : figures.negative with
  | true =>
      rw [hnegative] at hparts
      exact hparts
  | false =>
      rw [hnegative] at hparts
      simp only [Bool.false_eq_true, if_false, List.nil_append]
      rw [scanNumeral_of_ne, hparts]
      obtain ⟨c, after, hchars, hc⟩ := figures.whole.exists_cons
      rw [hchars]
      rintro tail ⟨⟩
      cases hc

/-- Whether a numeral stands for a number does not depend on what follows. -/
theorem toOption_number (numeral : Numeral) (rest rest' : List Char) :
  (numeral.number rest).toOption = (numeral.number rest').toOption
  := by
  -- The scaling is named, so that it is not evaluated when the branches are compared.
  obtain ⟨scaled, hscaled⟩ : ∃ scaled, scaled? numeral.negative = scaled := ⟨_, rfl⟩
  rw [Numeral.number, Numeral.number, hscaled]
  obtain ⟨significand, power⟩ := numeral.leading
  obtain ⟨negative, digits⟩ := numeral.exponent.getD (false, [])
  cases numeral.integer? with
  | some n => rfl
  | none =>
      simp only
      obtain ⟨n, left⟩ := gather exponentBound 0 digits
      cases left with
      | nil =>
          simp only
          cases scaled significand (if negative then power - n else power + n) with
          | none => rfl
          | some x => rfl
      | cons d left =>
          simp only
          split_ifs
          · rfl
          · rfl

/-- The number that a numeral stands for, if it has one. -/
def number? (figures : Figures) : Option Number := (figures.numeral.number []).toOption

/-- A number is read from a numeral if it stands for one. -/
theorem scanNumber_text (figures : Figures) {rest : List Char} (hrest : EndsNumeral rest) :
  (scanNumber (figures.text ++ rest)).toOption = figures.number?.map fun n => (n, rest)
  := by
  rw [number?, toOption_number _ [] rest, scanNumber, scanNumeral_text _ figures hrest]
  simp only [bind, Except.bind]
  cases figures.numeral.number rest with
  | error fault => rfl
  | ok n => rfl

/-- A numeral starts with its sign or with a digit. -/
theorem exists_text_eq (figures : Figures) :
  ∃ c after, figures.text = c :: after ∧ (c = '-' ∨ c.isDigit = true)
  := by
  obtain ⟨c, after, hchars, hc⟩ := figures.whole.exists_cons
  rw [text, hchars]
  cases figures.negative with
  | true => exact ⟨_, _, rfl, .inl rfl⟩
  | false => exact ⟨_, _, rfl, .inr hc⟩

/-- A numeral starts with no other character than a digit or a minus sign. -/
theorem text_append_ne (figures : Figures) (rest : List Char) {c : Char}
    (hminus : c ≠ '-') (hdigit : c.isDigit = false) (after : List Char) :
  figures.text ++ rest ≠ c :: after
  := by
  obtain ⟨d, tail, htext, hd⟩ := figures.exists_text_eq
  intro heq
  rw [htext, List.cons_append] at heq
  obtain rfl := (List.cons.inj heq).1
  rcases hd with hd | hd
  · exact hminus hd
  · rw [hdigit] at hd
    cases hd

end Figures

end Json

end RecordSchema
