import RecordSchema.Proofs.Source.Strings

/-!
# Accepted words, literals and numerals

What the readers of words, string literals and numerals take from a text is a word, a literal or a
numeral of the grammar.
-/

namespace RecordSchema

namespace Json

/-! ### White space and words -/

/-- What is skipped is white space. -/
theorem exists_gap (text : List Char) :
  ∃ gap : Gap, text = gap.text ++ skipBlanks text
  := by
  induction text with
  | nil => exact ⟨[], rfl⟩
  | cons c text ih =>
      cases hc : isBlank c with
      | false => exact ⟨[], by simp [skipBlanks, hc, Gap.text]⟩
      | true =>
          obtain ⟨gap, hgap⟩ := ih
          have hblank : ∃ blank : Blank, blank.char = c := by
            simp only [isBlank, Bool.or_eq_true, beq_iff_eq] at hc
            rcases hc with ((rfl | rfl) | rfl) | rfl
            · exact ⟨.space, rfl⟩
            · exact ⟨.newline, rfl⟩
            · exact ⟨.tab, rfl⟩
            · exact ⟨.carriageReturn, rfl⟩
          obtain ⟨blank, rfl⟩ := hblank
          have hskip : skipBlanks (blank.char :: text) = skipBlanks text := by
            simp [skipBlanks, hc]
          refine ⟨blank :: gap, ?_⟩
          rw [hskip]
          exact congrArg (blank.char :: ·) hgap

/-- An expected word stands in front of the rest. -/
theorem eq_append_of_expectWord {word text rest : List Char}
    (h : expectWord word text = .ok rest) :
  text = word ++ rest
  := by
  induction word generalizing text with
  | nil => exact Except.ok.inj h
  | cons w word ih =>
      cases text with
      | nil => cases h
      | cons c text =>
          rw [expectWord] at h
          split_ifs at h with hc
          rw [hc, List.cons_append, ← ih h]

/-! ### String literals -/

/-- Four hexadecimal digits stand in front of the rest. -/
theorem exists_of_hexQuad {text : List Char} {n : Nat} (h : hexQuad text = .ok n) :
  ∃ first second third fourth rest, text = first :: second :: third :: fourth :: rest
    ∧ hexQuad? [first, second, third, fourth] = some n
  := by
  rw [hexQuad] at h
  split at h
  · rename_i m hquad
    obtain rfl := Except.ok.inj h
    obtain _ | ⟨first, _ | ⟨second, _ | ⟨third, _ | ⟨fourth, rest⟩⟩⟩⟩ := text
    · cases hquad
    · cases hquad
    · cases hquad
    · cases hquad
    · exact ⟨first, second, third, fourth, rest, rfl, hquad⟩
  · split_ifs at h

/-- What an escape by number takes is one or two signs. -/
def TakesLetters (numbered : List Char → Except Fault (Char × Nat)) : Prop :=
  ∀ text c taken, numbered text = .ok (c, taken) →
    ∃ letters : List Letter, '\\' :: 'u' :: text = letters.flatMap Letter.text ++ text.drop taken

theorem takesLetters_hexQuad :
  TakesLetters fun text => (hexQuad text).map fun _ => ('?', 4)
  := by
  intro text c taken h
  dsimp only at h
  cases hquad : hexQuad text with
  | error fault =>
      rw [hquad] at h
      cases h
  | ok n =>
      rw [hquad] at h
      obtain ⟨rfl, rfl⟩ := Prod.mk.inj (Except.ok.inj h)
      obtain ⟨first, second, third, fourth, rest, rfl, hfour⟩ := exists_of_hexQuad hquad
      exact ⟨[.numbered first second third fourth n hfour], rfl⟩

theorem takesLetters_numberedEscape :
  TakesLetters numberedEscape
  := by
  intro text c taken h
  rw [numberedEscape] at h
  cases hquad : hexQuad text with
  | error fault =>
      rw [hquad] at h
      cases h
  | ok n =>
      obtain ⟨first, second, third, fourth, rest, rfl, hfour⟩ := exists_of_hexQuad hquad
      simp only [hquad, List.drop_succ_cons, List.drop_zero] at h
      split_ifs at h with hsecond hfirst
      · split at h
        · cases h
        · cases h
        · rename_i text'
          cases hquad' : hexQuad text' with
          | error fault =>
              rw [hquad'] at h
              cases h
          | ok m =>
              obtain ⟨first', second', third', fourth', rest', rfl, hfour'⟩ :=
                exists_of_hexQuad hquad'
              simp only [hquad'] at h
              split_ifs at h
              obtain ⟨rfl, rfl⟩ := Prod.mk.inj (Except.ok.inj h)
              exact ⟨[.numbered first second third fourth n hfour,
                .numbered first' second' third' fourth' m hfour'], rfl⟩
        · cases h
        · cases h
      · obtain ⟨rfl, rfl⟩ := Prod.mk.inj (Except.ok.inj h)
        exact ⟨[.numbered first second third fourth n hfour], rfl⟩

/-- What an escape takes is one or two signs, together with the backslash. -/
theorem exists_of_escapeAt {numbered : List Char → Except Fault (Char × Nat)}
    (hnumbered : TakesLetters numbered) {text : List Char} {c : Char} {taken : Nat}
    (h : escapeAt numbered text = .ok (c, taken)) :
  ∃ letters : List Letter, '\\' :: text = letters.flatMap Letter.text ++ text.drop taken
  := by
  cases text with
  | nil => cases h
  | cons letter text =>
      rw [escapeAt] at h
      by_cases hu : letter = 'u'
      · subst hu
        rw [if_pos rfl] at h
        cases hescape : numbered text with
        | error fault =>
            rw [hescape] at h
            cases h
        | ok result =>
            rw [hescape] at h
            obtain ⟨rfl, rfl⟩ := Prod.mk.inj (Except.ok.inj h)
            apply hnumbered text _ _ hescape
      · rw [if_neg hu] at h
        cases hletter : escapedLetter? letter with
        | none =>
            rw [hletter] at h
            cases h
        | some char =>
            rw [hletter] at h
            obtain ⟨rfl, rfl⟩ := Prod.mk.inj (Except.ok.inj h)
            exact ⟨[.escaped letter char hletter], rfl⟩

/-- What is taken up to a closing quote is a string literal. -/
theorem exists_literalText {numbered : List Char → Except Fault (Char × Nat)}
    (hnumbered : TakesLetters numbered) {control : List Char → Fault} {taken : Nat}
    {before text rest : List Char} {s : String}
    (h : stringFrom numbered control taken before text = .ok (s, rest)) :
  ∃ letters, text.drop taken = literalText letters ++ rest
  := by
  induction text generalizing taken before with
  | nil =>
      rw [stringFrom] at h
      cases h
  | cons c text ih =>
      cases taken with
      | succ taken =>
          rw [stringFrom] at h
          exact ih h
      | zero =>
          rw [List.drop_zero]
          rw [stringFrom] at h
          split_ifs at h with hquote hbackslash hcontrol
          · obtain ⟨-, rfl⟩ := Prod.mk.inj (Except.ok.inj h)
            exact ⟨[], by rw [hquote]; rfl⟩
          · cases hescape : escapeAt numbered text with
            | error fault =>
                rw [hescape] at h
                cases h
            | ok result =>
                rw [hescape] at h
                obtain ⟨letters, hletters⟩ := ih h
                obtain ⟨first, hfirst⟩ := exists_of_escapeAt hnumbered hescape
                refine ⟨first ++ letters, ?_⟩
                rw [hbackslash, hfirst, hletters]
                simp [literalText]
          · obtain ⟨letters, hletters⟩ := ih h
            refine ⟨.plain c ⟨hquote, hbackslash, by omega⟩ :: letters, ?_⟩
            rw [show text = literalText letters ++ rest from hletters]
            rfl

theorem exists_of_scanString {text rest : List Char} {s : String}
    (h : scanString text = .ok (s, rest)) :
  ∃ letters, text = literalText letters ++ rest
  := exists_literalText takesLetters_numberedEscape h

theorem exists_of_passString {text rest : List Char} {s : String}
    (h : passString text = .ok (s, rest)) :
  ∃ letters, text = literalText letters ++ rest
  := exists_literalText takesLetters_hexQuad h

/-! ### Numerals -/

theorem exists_digits {text : List Char} {c : Char} {digits rest : List Char}
    (h : takeDigits text = (c :: digits, rest)) :
  ∃ taken : Digits, taken.chars = c :: digits ∧ text = taken.chars ++ rest
  := by
  obtain ⟨hdigits, rfl⟩ := Prod.mk.inj h
  have hall : ∀ d ∈ c :: digits, d.isDigit = true := by
    rw [← hdigits]
    exact List.all_eq_true.mp List.all_takeWhile
  have htext : text = (c :: digits) ++ text.dropWhile Char.isDigit := by
    rw [← hdigits, List.takeWhile_append_dropWhile]
  exact ⟨⟨c :: digits, List.cons_ne_nil _ _, hall⟩, rfl, htext⟩

/-- What is read in front of the point are digits, and a zero stands alone. -/
theorem exists_of_scanWhole {cut : Cause} {text whole rest : List Char}
    (h : scanWhole cut text = .ok (whole, rest)) :
  ∃ digits : Digits, (digits.chars.head? = some '0' → digits.chars = ['0'])
    ∧ text = digits.chars ++ rest
  := by
  cases text with
  | nil => cases h
  | cons c text =>
      rw [scanWhole.eq_def] at h
      dsimp only at h
      split_ifs at h with hzero hdigit
      · have hrest : text = rest := by
          cases text with
          | nil => exact (Prod.mk.inj (Except.ok.inj h)).2
          | cons d text =>
              dsimp only at h
              split_ifs at h
              exact (Prod.mk.inj (Except.ok.inj h)).2
        rw [hzero, hrest]
        exact ⟨⟨['0'], List.cons_ne_nil _ _, List.forall_mem_singleton.mpr rfl⟩, fun _ => rfl, rfl⟩
      · have htake : takeDigits (c :: text)
            = (c :: text.takeWhile Char.isDigit, text.dropWhile Char.isDigit) := by
          simp [takeDigits, hdigit]
        obtain ⟨digits, hchars, htext⟩ := exists_digits htake
        rw [htake] at h
        obtain ⟨-, rfl⟩ := Prod.mk.inj (Except.ok.inj h)
        refine ⟨digits, ?_, htext⟩
        rw [hchars]
        intro heq
        exact absurd (Option.some.inj heq) hzero

theorem exists_of_scanFraction {cut : Cause} {text rest : List Char}
    {fraction : Option (List Char)} (h : scanFraction cut text = .ok (fraction, rest)) :
  ∃ digits, text = Figures.fractionText digits ++ rest
  := by
  rw [scanFraction.eq_def] at h
  split at h
  · split at h
    · cases h
    · cases h
    · rename_i digits rest' _ hnil htake
      obtain ⟨-, rfl⟩ := Prod.mk.inj (Except.ok.inj h)
      cases digits with
      | nil => exact absurd rfl hnil
      | cons c digits =>
          obtain ⟨taken, -, rfl⟩ := exists_digits htake
          exact ⟨some taken, rfl⟩
  · obtain ⟨-, rfl⟩ := Prod.mk.inj (Except.ok.inj h)
    exact ⟨none, rfl⟩

theorem exists_of_scanSign {text rest : List Char} {negative : Bool}
    (h : scanSign text = (negative, rest)) :
  ∃ sign, text = Exponent.signText sign ++ rest
  := by
  rw [scanSign.eq_def] at h
  split at h
  · obtain ⟨-, rfl⟩ := Prod.mk.inj h
    exact ⟨some false, rfl⟩
  · obtain ⟨-, rfl⟩ := Prod.mk.inj h
    exact ⟨some true, rfl⟩
  · obtain ⟨-, rfl⟩ := Prod.mk.inj h
    exact ⟨none, rfl⟩

theorem exists_of_scanExponent {cut : Cause} {text rest : List Char}
    {exponent : Option (Bool × List Char)} (h : scanExponent cut text = .ok (exponent, rest)) :
  ∃ exponent, text = Figures.exponentText exponent ++ rest
  := by
  cases text with
  | nil =>
      obtain ⟨-, rfl⟩ := Prod.mk.inj (Except.ok.inj h)
      exact ⟨none, rfl⟩
  | cons c text =>
      rw [scanExponent] at h
      split_ifs at h with hc
      · generalize hscan : scanSign text = signed at h
        obtain ⟨negative, behind⟩ := signed
        obtain ⟨sign, rfl⟩ := exists_of_scanSign hscan
        dsimp only at h
        split at h
        · cases h
        · cases h
        · rename_i digits rest' _ hnil htake
          obtain ⟨-, rfl⟩ := Prod.mk.inj (Except.ok.inj h)
          cases digits with
          | nil => exact absurd rfl hnil
          | cons d digits =>
              obtain ⟨taken, -, rfl⟩ := exists_digits htake
              refine ⟨some ⟨c, hc, sign, taken⟩, ?_⟩
              rw [Figures.exponentText, Exponent.text, List.cons_append, List.append_assoc]
      · obtain ⟨-, rfl⟩ := Prod.mk.inj (Except.ok.inj h)
        exact ⟨none, rfl⟩

/-- What is taken as the parts of a numeral are those of one. -/
theorem exists_of_scanParts {cut : Cause} {negative : Bool} {text rest : List Char}
    {numeral : Numeral} (h : scanParts cut negative text = .ok (numeral, rest)) :
  ∃ figures : Figures, (if negative then ['-'] else []) ++ text = figures.text ++ rest
  := by
  obtain ⟨⟨whole, text₁⟩, hwhole, h⟩ := bind_eq_ok_iff.mp h
  obtain ⟨⟨fraction, text₂⟩, hfraction, h⟩ := bind_eq_ok_iff.mp h
  obtain ⟨⟨exponent, text₃⟩, hexponent, h⟩ := bind_eq_ok_iff.mp h
  obtain ⟨-, rfl⟩ := Prod.mk.inj (Except.ok.inj h)
  obtain ⟨digits, hzero, rfl⟩ := exists_of_scanWhole hwhole
  obtain ⟨points, rfl⟩ := exists_of_scanFraction hfraction
  obtain ⟨power, rfl⟩ := exists_of_scanExponent hexponent
  refine ⟨⟨negative, digits, hzero, points, power⟩, ?_⟩
  simp only [Figures.text, List.append_assoc]

/-- What is taken as a numeral is one. -/
theorem exists_of_scanNumeral {cut : Cause} {text rest : List Char} {numeral : Numeral}
    (h : scanNumeral cut text = .ok (numeral, rest)) :
  ∃ figures : Figures, text = figures.text ++ rest
  := by
  by_cases hminus : ∃ tail, text = '-' :: tail
  · obtain ⟨tail, rfl⟩ := hminus
    exact exists_of_scanParts ((scanNumeral_minus cut tail).symm.trans h)
  · rw [scanNumeral_of_ne cut fun tail heq => hminus ⟨tail, heq⟩] at h
    exact exists_of_scanParts h

end Json

end RecordSchema
