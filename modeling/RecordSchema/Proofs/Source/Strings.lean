import RecordSchema.Proofs.Json.Scalars
import RecordSchema.Proofs.Results
import RecordSchema.Proofs.Source.Basic

/-!
# Reading string literals

A string literal is read as the string that its signs stand for, and is refused where they stand
for none. Where its content does not matter it is passed over in any case.
-/

namespace RecordSchema

namespace Json

/-! ### Signs -/

section Signs

variable (numbered : List Char → Except Fault (Char × Nat)) (control : List Char → Fault)

/-- A plain character is taken as it is. -/
theorem stringFrom_plain {c : Char} (h : c ≠ '"' ∧ c ≠ '\\' ∧ 32 ≤ c.toNat)
    (before rest : List Char) :
  stringFrom numbered control 0 before (c :: rest)
    = stringFrom numbered control 0 (c :: before) rest
  := by
  have hcontrol : ¬ c.toNat < 32 := by omega
  rw [stringFrom, if_neg h.1, if_neg h.2.1, if_neg hcontrol]

/-- The letter of an escape is taken as the character that it stands for. -/
theorem stringFrom_escaped {letter c : Char} (h : escapedLetter? letter = some c)
    (before rest : List Char) :
  stringFrom numbered control 0 before ('\\' :: letter :: rest)
    = stringFrom numbered control 0 (c :: before) rest
  := by
  have hu : letter ≠ 'u' := by
    rintro rfl
    cases h
  rw [stringFrom, if_neg (by decide), if_pos rfl, escapeAt, if_neg hu, h]
  apply stringFrom_append numbered control [letter]

/-- What an escape by number takes is passed over, and its character is taken. -/
theorem stringFrom_numbered (taken rest : List Char) {c : Char}
    (h : numbered (taken ++ rest) = .ok (c, taken.length)) (before : List Char) :
  stringFrom numbered control 0 before ('\\' :: 'u' :: (taken ++ rest))
    = stringFrom numbered control 0 (c :: before) rest
  := by
  rw [stringFrom, if_neg (by decide), if_pos rfl, escapeAt, if_pos rfl, h]
  apply stringFrom_append numbered control ('u' :: taken)

/-- A fault in an escape by number is a fault of the literal. -/
theorem stringFrom_numbered_error {rest : List Char} {fault : Fault}
    (h : numbered rest = .error fault) (before : List Char) :
  stringFrom numbered control 0 before ('\\' :: 'u' :: rest) = .error fault
  := by
  rw [stringFrom, if_neg (by decide), if_pos rfl, escapeAt, if_pos rfl, h]
  rfl

end Signs

/-! ### Escapes by number -/

theorem hexQuad_eq {first second third fourth : Char} {n : Nat}
    (h : hexQuad? [first, second, third, fourth] = some n) (rest : List Char) :
  hexQuad (first :: second :: third :: fourth :: rest) = .ok n
  := by
  have hquad : hexQuad? (first :: second :: third :: fourth :: rest) = some n := h
  rw [hexQuad, hquad]

/-- A number that is no surrogate stands for a character by itself. -/
theorem numberedEscape_single {first second third fourth : Char} {n : Nat}
    (h : hexQuad? [first, second, third, fourth] = some n)
    (hsecond : ¬ isSecondSurrogate n = true) (hfirst : ¬ isFirstSurrogate n = true)
    (rest : List Char) :
  numberedEscape (first :: second :: third :: fourth :: rest) = .ok (Char.ofNat n, 4)
  := by
  simp only [numberedEscape, hexQuad_eq h, hsecond, hfirst, if_false, Bool.false_eq_true]

/-- The second half of a pair of surrogates is refused in the first place. -/
theorem numberedEscape_second {first second third fourth : Char} {n : Nat}
    (h : hexQuad? [first, second, third, fourth] = some n)
    (hsecond : isSecondSurrogate n = true) (rest : List Char) :
  numberedEscape (first :: second :: third :: fourth :: rest)
    = .error (.here .loneSurrogate rest)
  := by
  simp only [numberedEscape, hexQuad_eq h, hsecond, if_true]
  rfl

/-- Two halves of a pair of surrogates stand for a character together. -/
theorem numberedEscape_pair {first second third fourth first' second' third' fourth' : Char}
    {n m : Nat} (h : hexQuad? [first, second, third, fourth] = some n)
    (hsecond : ¬ isSecondSurrogate n = true) (hfirst : isFirstSurrogate n = true)
    (h' : hexQuad? [first', second', third', fourth'] = some m) (rest : List Char) :
  numberedEscape (first :: second :: third :: fourth :: '\\' :: 'u' :: first' :: second' :: third'
      :: fourth' :: rest)
    = if isSecondSurrogate m then .ok (joinSurrogates n m, 10)
      else .error (.here .loneSurrogate rest)
  := by
  simp only [numberedEscape, hexQuad_eq h, hsecond, hfirst, if_false, if_true,
    Bool.false_eq_true, List.drop_succ_cons, List.drop_zero, hexQuad_eq h']

/-- The first half of a pair of surrogates is refused without the second one. -/
theorem numberedEscape_lone {first second third fourth : Char} {n : Nat}
    (h : hexQuad? [first, second, third, fourth] = some n)
    (hsecond : ¬ isSecondSurrogate n = true) (hfirst : isFirstSurrogate n = true)
    {rest : List Char} (hrest : ∀ after, rest ≠ '\\' :: 'u' :: after) :
  ∃ fault, numberedEscape (first :: second :: third :: fourth :: rest) = .error fault
  := by
  simp only [numberedEscape, hexQuad_eq h, hsecond, hfirst, if_false, if_true,
    Bool.false_eq_true, List.drop_succ_cons, List.drop_zero]
  split
  · exact ⟨_, rfl⟩
  · exact ⟨_, rfl⟩
  · exact absurd rfl (hrest _)
  · exact ⟨_, rfl⟩
  · exact ⟨_, rfl⟩

/-! ### The characters of signs -/

section Characters

variable {first second third fourth : Char} {n : Nat}
  (h : hexQuad? [first, second, third, fourth] = some n) (letters : List Letter)

/-- Signs that begin with the second half of a pair of surrogates stand for nothing. -/
theorem Letter.chars?_second (hsecond : isSecondSurrogate n = true) :
  chars? (.numbered first second third fourth n h :: letters) = none
  := by
  rw [chars?.eq_def]
  exact if_pos hsecond

/-- Signs that begin with the first half of a pair of surrogates stand for nothing without the
second half. -/
theorem Letter.chars?_lone (hsecond : ¬ isSecondSurrogate n = true)
    (hfirst : isFirstSurrogate n = true)
    (hnone : ∀ first second third fourth m hm letters', letters
      = .numbered first second third fourth m hm :: letters' → False) :
  chars? (.numbered first second third fourth n h :: letters) = none
  := by
  rw [chars?.eq_def]
  simp only [hsecond, hfirst, if_true, if_false, Bool.false_eq_true]

/-- A number that is no surrogate stands for a character by itself. -/
theorem Letter.chars?_single (hsecond : ¬ isSecondSurrogate n = true)
    (hfirst : ¬ isFirstSurrogate n = true) :
  chars? (.numbered first second third fourth n h :: letters)
    = (chars? letters).map (Char.ofNat n :: ·)
  := by
  rw [chars?.eq_def]
  exact (if_neg hsecond).trans (if_neg hfirst)

end Characters

/-! ### Literals -/

theorem literalText_append (letters : List Letter) (rest : List Char) :
  literalText letters ++ rest = letters.flatMap Letter.text ++ '"' :: rest
  := by
  simp [literalText]

/-- Where the characters do not matter, all signs are passed over up to the closing quote. -/
theorem stringFrom_passed (letters : List Letter) (before rest : List Char) :
  (stringFrom (fun text => (hexQuad text).map fun _ => ('?', 4)) (.here .controlCharacter) 0 before
    (letters.flatMap Letter.text ++ '"' :: rest)).map Prod.snd = .ok rest
  := by
  induction letters generalizing before with
  | nil => rfl
  | cons letter letters ih =>
      rw [List.flatMap_cons, List.append_assoc]
      cases letter with
      | plain c h => rw [Letter.text, List.singleton_append, stringFrom_plain _ _ h, ih]
      | escaped letter c h =>
          rw [Letter.text, List.cons_append, List.singleton_append, stringFrom_escaped _ _ h, ih]
      | numbered first second third fourth n h =>
          have hnumber : (hexQuad ([first, second, third, fourth]
              ++ (letters.flatMap Letter.text ++ '"' :: rest))).map (fun _ => ('?', 4))
                = .ok ('?', 4) := congrArg _ (hexQuad_eq h _)
          have htaken := stringFrom_numbered (fun text => (hexQuad text).map fun _ => ('?', 4))
            (.here .controlCharacter) [first, second, third, fourth]
            (letters.flatMap Letter.text ++ '"' :: rest) hnumber before
          exact (congrArg _ htaken).trans (ih ('?' :: before))

/-- A literal is passed over up to its closing quote. -/
theorem passString_literal (letters : List Letter) (rest : List Char) :
  (passString (literalText letters ++ rest)).map Prod.snd = .ok rest
  := by
  rw [passString, literalText_append, stringFrom_passed]

/-- Behind the first half of a pair of surrogates, only an escape by number is read as its
second half. -/
theorem flatMap_text_ne {letters : List Letter}
    (h : ∀ first second third fourth n hn letters', letters
      = .numbered first second third fourth n hn :: letters' → False) (rest after : List Char) :
  letters.flatMap Letter.text ++ '"' :: rest ≠ '\\' :: 'u' :: after
  := by
  intro heq
  cases letters with
  | nil => cases heq
  | cons letter letters =>
      cases letter with
      | plain c hc => exact hc.2.1 (List.cons.inj heq).1
      | escaped letter c hc =>
          obtain rfl := (List.cons.inj (List.cons.inj heq).2).1
          cases hc
      | numbered first second third fourth n hn => exact h _ _ _ _ _ _ _ rfl

/-- Behind characters that are taken already, the signs up to a closing quote are read as the
characters that they stand for, and refused if they stand for none. -/
theorem stringFrom_signs (letters : List Letter) (before rest : List Char) :
  (stringFrom numberedEscape (.next .controlCharacter) 0 before
    (letters.flatMap Letter.text ++ '"' :: rest)).toOption
    = (Letter.chars? letters).map fun chars => (String.ofList (before.reverse ++ chars), rest)
  := by
  induction letters using Letter.chars?.induct generalizing before with
  | case1 => simp [stringFrom, Letter.chars?]
  | case2 c h letters ih =>
      rw [List.flatMap_cons, List.append_assoc, Letter.text, List.singleton_append,
        stringFrom_plain _ _ h, ih, Letter.chars?]
      simp [Function.comp_def]
  | case3 letter c h letters ih =>
      rw [List.flatMap_cons, List.append_assoc, Letter.text, List.cons_append,
        List.singleton_append, stringFrom_escaped _ _ h, ih, Letter.chars?]
      simp [Function.comp_def]
  | case4 first second third fourth n h letters hsecond =>
      have hnumber := numberedEscape_second h hsecond
        (letters.flatMap Letter.text ++ '"' :: rest)
      have hfault := stringFrom_numbered_error numberedEscape (.next .controlCharacter) hnumber
        before
      rw [Letter.chars?_second h letters hsecond]
      exact congrArg Except.toOption hfault
  | case5 first second third fourth n h hsecond hfirst first' second' third' fourth' m h'
      letters hm ih =>
      have hnumber := numberedEscape_pair h hsecond hfirst h'
        (letters.flatMap Letter.text ++ '"' :: rest)
      rw [if_pos hm] at hnumber
      have htaken := stringFrom_numbered numberedEscape (.next .controlCharacter)
        [first, second, third, fourth, '\\', 'u', first', second', third', fourth']
        (letters.flatMap Letter.text ++ '"' :: rest) hnumber before
      rw [Letter.chars?, if_neg hsecond, if_pos hfirst]
      simp only [hm, if_true]
      refine (congrArg Except.toOption htaken).trans ?_
      rw [ih]
      simp [Function.comp_def]
  | case6 first second third fourth n h hsecond hfirst first' second' third' fourth' m h'
      letters hm =>
      have hnumber := numberedEscape_pair h hsecond hfirst h'
        (letters.flatMap Letter.text ++ '"' :: rest)
      rw [if_neg hm] at hnumber
      have hfault := stringFrom_numbered_error numberedEscape (.next .controlCharacter) hnumber
        before
      rw [Letter.chars?, if_neg hsecond, if_pos hfirst]
      simp only [hm]
      exact congrArg Except.toOption hfault
  | case7 first second third fourth n h letters hsecond hfirst hnone =>
      obtain ⟨fault, hnumber⟩ := numberedEscape_lone h hsecond hfirst
        (flatMap_text_ne hnone rest)
      have hfault := stringFrom_numbered_error numberedEscape (.next .controlCharacter) hnumber
        before
      rw [Letter.chars?_lone h letters hsecond hfirst hnone]
      exact congrArg Except.toOption hfault
  | case8 first second third fourth n h letters hsecond hfirst ih =>
      have hnumber := numberedEscape_single h hsecond hfirst
        (letters.flatMap Letter.text ++ '"' :: rest)
      have htaken := stringFrom_numbered numberedEscape (.next .controlCharacter)
        [first, second, third, fourth] (letters.flatMap Letter.text ++ '"' :: rest) hnumber
        before
      rw [Letter.chars?_single h letters hsecond hfirst]
      refine (congrArg Except.toOption htaken).trans ?_
      rw [ih]
      simp [Function.comp_def]

/-- A literal is read as the string that its signs stand for, and refused if they stand for
none. -/
theorem scanString_literal (letters : List Letter) (rest : List Char) :
  (scanString (literalText letters ++ rest)).toOption
    = (Letter.string? letters).map fun s => (s, rest)
  := by
  rw [scanString, literalText_append, stringFrom_signs, Letter.string?, Option.map_map]
  rfl

end Json

end RecordSchema
