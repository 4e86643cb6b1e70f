import RecordSchema.Json.Reader.Value
import RecordSchema.Json.Text
import Mathlib.Tactic.SplitIfs

/-!
# Reading back strings and whole numbers

What is written as a string literal is read as the same string, whatever its characters are,
and what is written as a whole number is read as the same number. A string literal ends by
itself. A numeral ends where the text goes on with a character that no numeral contains.
-/

namespace RecordSchema

namespace Json

/-! ### String literals -/

/-- The characters that an escape takes are passed over. -/
theorem stringFrom_append (numbered : List Char → Except Fault (Char × Nat))
    (control : List Char → Fault) (taken before rest : List Char) :
  stringFrom numbered control taken.length before (taken ++ rest)
    = stringFrom numbered control 0 before rest
  := by
  induction taken with
  | nil => rfl
  | cons c taken ih =>
      rw [List.length_cons, List.cons_append, stringFrom]
      apply ih

/-- The value of a written digit. -/
theorem hexValue?_hexDigit :
  ∀ n < 16, hexValue? (hexDigit n) = some n
  := by
  decide

/-- The escape of a character by its number is read as the character. -/
theorem numberedEscape_of_lt {c : Char} (h : c.toNat < 32) (rest : List Char) :
  numberedEscape ('0' :: '0' :: hexDigit (c.toNat / 16) :: hexDigit (c.toNat % 16) :: rest)
    = .ok (c, 4)
  := by
  have hzero : hexValue? '0' = some 0 := rfl
  have hhigh : hexValue? (hexDigit (c.toNat / 16)) = some (c.toNat / 16) :=
    hexValue?_hexDigit _ (by omega)
  have hlow : hexValue? (hexDigit (c.toNat % 16)) = some (c.toNat % 16) :=
    hexValue?_hexDigit _ (by omega)
  have hnumber : ((0 * 16 + 0) * 16 + c.toNat / 16) * 16 + c.toNat % 16 = c.toNat := by omega
  have hquad : hexQuad ('0' :: '0' :: hexDigit (c.toNat / 16) :: hexDigit (c.toNat % 16) :: rest)
      = .ok c.toNat := by
    simp only [hexQuad, hexQuad?, hzero, hhigh, hlow, bind, Option.bind, pure, hnumber]
  have hfirst : isFirstSurrogate c.toNat = false := by
    simp only [isFirstSurrogate, Bool.and_eq_false_imp, decide_eq_true_eq]
    omega
  have hsecond : isSecondSurrogate c.toNat = false := by
    simp only [isSecondSurrogate, Bool.and_eq_false_imp, decide_eq_true_eq]
    omega
  rw [numberedEscape, hquad]
  simp [hfirst, hsecond, Char.ofNat_toNat]

/-- A written character is read as that character. -/
theorem stringFrom_escape (control : List Char → Fault) (c : Char) (before rest : List Char) :
  stringFrom numberedEscape control 0 before (escape c ++ rest)
    = stringFrom numberedEscape control 0 (c :: before) rest
  := by
  have hletter {letter : Char} (hu : letter ≠ 'u') (hc : escapedLetter? letter = some c) :
      stringFrom numberedEscape control 0 before ('\\' :: letter :: rest)
        = stringFrom numberedEscape control 0 (c :: before) rest := by
    simp [stringFrom, escapeAt, hu, hc]
  rw [escape]
  split_ifs with hquote hbackslash hb hf hn hr ht hcontrol
  · apply hletter (by decide) (by rw [hquote]; rfl)
  · apply hletter (by decide) (by rw [hbackslash]; rfl)
  · apply hletter (by decide) (by rw [hb]; rfl)
  · apply hletter (by decide) (by rw [hf]; rfl)
  · apply hletter (by decide) (by rw [hn]; rfl)
  · apply hletter (by decide) (by rw [hr]; rfl)
  · apply hletter (by decide) (by rw [ht]; rfl)
  · have hescape : escapeAt numberedEscape ('u' :: '0' :: '0' :: hexDigit (c.toNat / 16)
        :: hexDigit (c.toNat % 16) :: rest) = .ok (c, 5) := by
      rw [escapeAt, if_pos rfl, numberedEscape_of_lt hcontrol]
      rfl
    simp only [List.cons_append, List.nil_append]
    rw [stringFrom, if_neg (by decide), if_pos rfl, hescape]
    apply stringFrom_append _ _ ['u', '0', '0', hexDigit (c.toNat / 16), hexDigit (c.toNat % 16)]
  · simp [stringFrom, hquote, hbackslash, hcontrol]

/-- Written characters are read as they were, up to the closing quote. -/
theorem stringFrom_flatMap_escape (control : List Char → Fault) (chars before rest : List Char) :
  stringFrom numberedEscape control 0 before (chars.flatMap escape ++ '"' :: rest)
    = .ok (String.ofList (before.reverse ++ chars), rest)
  := by
  induction chars generalizing before with
  | nil => simp [stringFrom]
  | cons c chars ih =>
      rw [List.flatMap_cons, List.append_assoc, stringFrom_escape, ih]
      simp

/-- A string literal is read as the string that was written. -/
theorem scanString_escape (s : String) (rest : List Char) :
  scanString (s.toList.flatMap escape ++ '"' :: rest) = .ok (s, rest)
  := by
  rw [scanString, stringFrom_flatMap_escape]
  simp

/-! ### Whole numbers -/

/-- No numeral goes on with the text. -/
def EndsNumeral (text : List Char) : Prop :=
  ∀ c ∈ text.head?, c.isDigit = false ∧ c ≠ '.' ∧ c ≠ 'e' ∧ c ≠ 'E'

/-- Digits are taken up to the end of the numeral. -/
theorem takeDigits_append {digits rest : List Char} (hdigits : ∀ c ∈ digits, c.isDigit = true)
    (hrest : EndsNumeral rest) :
  takeDigits (digits ++ rest) = (digits, rest)
  := by
  have htake : rest.takeWhile Char.isDigit = [] ∧ rest.dropWhile Char.isDigit = rest := by
    cases rest with
    | nil => simp
    | cons c rest =>
        have hc := (hrest c rfl).1
        simp [hc]
  rw [takeDigits, List.takeWhile_append_of_pos hdigits, List.dropWhile_append_of_pos hdigits,
    htake.1, htake.2, List.append_nil]

/-- The digits of a positive number start with another digit than zero. -/
theorem head?_toDigits_ne_zero {n : Nat} (h : 0 < n) :
  (Nat.toDigits 10 n).head? ≠ some '0'
  := by
  induction n using Nat.base_induction 10 (by decide) with
  | single m hm =>
      have hdigit : ∀ m < 10, 0 < m → m.digitChar ≠ '0' := by decide
      rw [Nat.toDigits_of_lt_base hm]
      simpa using hdigit m hm h
  | digit m k hk hm ih =>
      rw [← Nat.toDigits_append_toDigits (by decide) hm hk]
      cases hdigits : Nat.toDigits 10 m with
      | nil => exact absurd hdigits Nat.toDigits_ne_nil
      | cons c digits =>
          rw [hdigits] at ih
          apply ih hm

/-- The digits of a number are the part of a numeral in front of its point. -/
theorem scanWhole_toDigits (cut : Cause) (n : Nat) {rest : List Char}
    (hrest : EndsNumeral rest) :
  scanWhole cut (Nat.toDigits 10 n ++ rest) = .ok (Nat.toDigits 10 n, rest)
  := by
  cases n with
  | zero =>
      rw [Nat.toDigits_zero]
      cases rest with
      | nil => rfl
      | cons c rest =>
          have hc := (hrest c rfl).1
          simp [scanWhole, hc]
  | succ n =>
      have hdigits : ∀ c ∈ Nat.toDigits 10 (n + 1), c.isDigit = true := by
        intro c hc
        apply Nat.isDigit_of_mem_toDigits (by decide) (by decide) hc
      have hzero := head?_toDigits_ne_zero n.succ_pos
      have htake := takeDigits_append hdigits hrest
      cases hdigit : Nat.toDigits 10 (n + 1) with
      | nil => exact absurd hdigit Nat.toDigits_ne_nil
      | cons c digits =>
          rw [hdigit] at hdigits hzero htake
          have hc : c.isDigit = true := hdigits c List.mem_cons_self
          have hc' : c ≠ '0' := by simpa using hzero
          simp only [List.cons_append, scanWhole.eq_def, if_neg hc', hc, if_true]
          rw [← List.cons_append, htake]

/-- Digits that give a number below a bound are all taken. -/
theorem gather_of_lt {bound n : Nat} {digits : List Char}
    (h : Nat.ofDigitChars 10 digits n < bound) :
  gather bound n digits = (Nat.ofDigitChars 10 digits n, [])
  := by
  induction digits generalizing n with
  | nil => rfl
  | cons d digits ih =>
      have hstep : Nat.ofDigitChars 10 (d :: digits) n
          = Nat.ofDigitChars 10 digits (n * 10 + digitValue d) := by
        rw [Nat.ofDigitChars_cons, Nat.mul_comm, digitValue]
      rw [hstep] at h ⊢
      have hle : n * 10 + digitValue d ≤ Nat.ofDigitChars 10 digits (n * 10 + digitValue d) := by
        rw [Nat.ofDigitChars_eq_ofDigitChars_zero]
        have hpow : 1 ≤ 10 ^ digits.length := Nat.one_le_pow _ _ (by decide)
        calc n * 10 + digitValue d
            ≤ 10 ^ digits.length * (n * 10 + digitValue d) := Nat.le_mul_of_pos_left _ hpow
          _ ≤ _ := Nat.le_add_right _ _
      rw [gather, if_pos (by omega), ih h]

/-- A numeral from behind its sign. -/
def scanParts (cut : Cause) (negative : Bool) : Scan Numeral := fun text => do
  let (whole, text) ← scanWhole cut text
  let (fraction, text) ← scanFraction cut text
  let (exponent, text) ← scanExponent cut text
  pure (⟨negative, whole, fraction, exponent⟩, text)

theorem scanNumeral_minus (cut : Cause) (text : List Char) :
  scanNumeral cut ('-' :: text) = scanParts cut true text
  := rfl

/-- A numeral without a minus sign starts with its parts. -/
theorem scanNumeral_of_ne (cut : Cause) {text : List Char} (h : ∀ tail, text ≠ '-' :: tail) :
  scanNumeral cut text = scanParts cut false text
  := by
  unfold scanNumeral
  split
  rename_i negative text' heq
  split at heq
  · rename_i tail
    exact absurd rfl (h tail)
  · obtain ⟨rfl, rfl⟩ := Prod.mk.inj heq
    rfl

/-- Digits in front of the end of a numeral are all of its parts: there is neither a point nor an
exponent. -/
theorem scanParts_toDigits (cut : Cause) (n : Nat) {rest : List Char} (hrest : EndsNumeral rest)
    (negative : Bool) :
  scanParts cut negative (Nat.toDigits 10 n ++ rest)
    = .ok (⟨negative, Nat.toDigits 10 n, none, none⟩, rest)
  := by
  have hfraction : scanFraction cut rest = .ok (none, rest) := by
    rw [scanFraction]
    rintro tail rfl
    exact absurd rfl (hrest '.' rfl).2.1
  have hexponent : scanExponent cut rest = .ok (none, rest) := by
    cases rest with
    | nil => rfl
    | cons c rest =>
        obtain ⟨-, -, he, hE⟩ := hrest c rfl
        simp [scanExponent, he, hE]
  rw [scanParts, scanWhole_toDigits cut _ hrest]
  simp only [bind, Except.bind, hfraction, hexponent, pure, Except.pure]

/-- A number in front of the end of a numeral has neither a point nor an exponent. -/
theorem scanNumeral_writeInteger (cut : Cause) (n : Int) {rest : List Char}
    (hrest : EndsNumeral rest) :
  scanNumeral cut (writeInteger n ++ rest)
    = .ok (⟨decide (n < 0), Nat.toDigits 10 n.natAbs, none, none⟩, rest)
  := by
  rw [writeInteger]
  split
  · rename_i h
    rw [decide_eq_true h, List.cons_append, scanNumeral_minus]
    apply scanParts_toDigits cut _ hrest
  · rename_i h
    rw [decide_eq_false h]
    have hminus (tail : List Char) : Nat.toDigits 10 n.natAbs ++ rest ≠ '-' :: tail := by
      intro heq
      cases hdigits : Nat.toDigits 10 n.natAbs with
      | nil => exact absurd hdigits Nat.toDigits_ne_nil
      | cons c digits =>
          rw [hdigits, List.cons_append] at heq
          have hc : c ∈ Nat.toDigits 10 n.natAbs := hdigits ▸ List.mem_cons_self
          have hdigit := Nat.isDigit_of_mem_toDigits (by decide) (by decide) hc
          rw [(List.cons.inj heq).1] at hdigit
          exact absurd hdigit (by decide)
    rw [scanNumeral_of_ne cut hminus]
    apply scanParts_toDigits cut _ hrest

/-- A whole number is read as the number that was written. -/
theorem scanNumber_writeInteger {n : Int} (fits : Fits n) {rest : List Char}
    (hrest : EndsNumeral rest) :
  scanNumber (writeInteger n ++ rest) = .ok (.integer n fits, rest)
  := by
  have hbound : n.natAbs < wordBound := by
    unfold wordBound
    omega
  have hgather : gather wordBound 0 (Nat.toDigits 10 n.natAbs) = (n.natAbs, []) := by
    have hdigits : Nat.ofDigitChars 10 (Nat.toDigits 10 n.natAbs) 0 = n.natAbs :=
      Nat.ofDigitChars_ten_toDigits
    rw [gather_of_lt (by rw [hdigits]; exact hbound), hdigits]
  have hinteger : Numeral.integer? ⟨decide (n < 0), Nat.toDigits 10 n.natAbs, none, none⟩
      = some (.integer n fits) := by
    simp only [Numeral.integer?, hgather]
    by_cases h : n < 0
    · have hn : -(n.natAbs : Int) = n := by omega
      have hne : n.natAbs ≠ 0 := by omega
      rw [if_pos (decide_eq_true h), if_neg hne, hn, Number.ofInt?, dif_pos fits]
    · have hn : (n.natAbs : Int) = n := by omega
      rw [if_neg (by simpa using h), hn, Number.ofInt?, dif_pos fits]
  rw [scanNumber, scanNumeral_writeInteger .valueCut n hrest]
  simp only [bind, Except.bind, Numeral.number, hinteger, pure, Except.pure]

end Json

end RecordSchema
