import RecordSchema.Proofs.Build.Choices
import Mathlib.Computability.RegularExpressions
import Mathlib.Data.List.Infix
import Mathlib.Tactic.Use

/-!
# Meaning of patterns

A pattern is read as a regular expression: of characters that stand for themselves, groups,
optional parts and alternatives. It is looked for anywhere in a text. So read, the pattern of
selections is found in a text exactly when one of the choices stands somewhere in the text, unless a
choice has a character that does not stand for itself.
-/

namespace RecordSchema

/-! ### Reading patterns -/

/-- The characters that do not stand for themselves in a pattern. -/
def specialCharacters : List Char :=
  ['\\', '^', '$', '.', '|', '?', '*', '+', '(', ')', '[', ']', '\x7b', '\x7d']

/-- A text of characters that stand for themselves. -/
def IsLiteral (s : String) : Prop := ∀ c ∈ s.toList, c ∉ specialCharacters

instance (s : String) : Decidable (IsLiteral s) :=
  List.decidableBAll (fun c => c ∉ specialCharacters) s.toList

/-- A group whose end has not been read yet. -/
structure OpenGroup where
  /-- Any of the alternatives that have been read to their end. -/
  complete : RegularExpression Char := 0
  /-- The parts of the alternative that is being read, the last one first. -/
  parts : List (RegularExpression Char) := []

namespace OpenGroup

/-- The group with one more part. -/
def add (group : OpenGroup) (part : RegularExpression Char) : OpenGroup :=
  { group with parts := part :: group.parts }

/-- The expression of the group if it ends here. -/
def expression (group : OpenGroup) : RegularExpression Char :=
  group.complete + group.parts.reverse.prod

end OpenGroup

/-- The regular expression of the rest of a pattern inside of a group, with the groups around it,
the innermost first. Characters that neither stand for themselves nor form groups, optional parts or
alternatives are not read. -/
def readPattern (outer : List OpenGroup) (group : OpenGroup) :
    List Char → Option (RegularExpression Char)
  | [] =>
    match outer with
    | [] => some group.expression
    | _ :: _ => none
  | c :: rest =>
    if c = '(' then readPattern (group :: outer) {} rest
    else if c = ')' then
      match outer with
      | [] => none
      | before :: outer => readPattern outer (before.add group.expression) rest
    else if c = '|' then readPattern outer { complete := group.expression } rest
    else if c = '?' then
      match group.parts with
      | [] => none
      | part :: parts => readPattern outer { group with parts := (1 + part) :: parts } rest
    else if c ∈ specialCharacters then none
    else readPattern outer (group.add (.char c)) rest

/-- The regular expression of a pattern. -/
def patternExpression? (pattern : String) : Option (RegularExpression Char) :=
  readPattern [] {} pattern.toList

/-- Somewhere in a text stands a word that the expression matches. -/
def FoundIn (expression : RegularExpression Char) (s : String) : Prop :=
  ∃ word ∈ expression.matches', word <:+: s.toList

/-! ### Reading alternatives -/

section

variable (outer : List OpenGroup) (group : OpenGroup)

/-- A character that stands for itself is a part. -/
theorem readPattern_cons_of_not_mem {c : Char} (h : c ∉ specialCharacters) (rest : List Char) :
  readPattern outer group (c :: rest) = readPattern outer (group.add (.char c)) rest
  := by
  have hnot (d : Char) (hd : d ∈ specialCharacters) : c ≠ d := by
    rintro rfl
    exact h hd
  rw [readPattern.eq_def]
  dsimp only
  rw [if_neg (hnot '(' (by decide)), if_neg (hnot ')' (by decide)), if_neg (hnot '|' (by decide)),
    if_neg (hnot '?' (by decide)), if_neg h]

/-- Characters that stand for themselves are parts of their own. -/
theorem readPattern_literal {chars : List Char} (h : ∀ c ∈ chars, c ∉ specialCharacters)
    (rest : List Char) :
  readPattern outer group (chars ++ rest)
    = readPattern outer { group with parts := (chars.map .char).reverse ++ group.parts } rest
  := by
  induction chars generalizing group with
  | nil => rfl
  | cons c chars ih =>
      obtain ⟨hc, hchars⟩ := List.forall_mem_cons.mp h
      rw [List.cons_append, readPattern_cons_of_not_mem _ _ hc, ih _ hchars]
      simp [OpenGroup.add]

/-- The expression of a value, behind a comma or not. -/
def alternativeExpression (value : String) : RegularExpression Char :=
  0 + ((1 + .char ',') * ((0 + (value.toList.map .char).prod) * 1))

/-- An alternative is read as a part. -/
theorem readPattern_alternative {value : String} (h : IsLiteral value) (rest : List Char) :
  readPattern outer group ((alternative value).toList ++ rest)
    = readPattern outer (group.add (alternativeExpression value)) rest
  := by
  have hopen :
      readPattern outer group ('(' :: ',' :: '?' :: '(' :: (value.toList ++ ')' :: ')' :: rest))
        = readPattern ({ parts := [1 + .char ','] } :: group :: outer) {}
            (value.toList ++ ')' :: ')' :: rest) := rfl
  have hclose (parts : List (RegularExpression Char)) :
      readPattern ({ parts := [1 + .char ','] } :: group :: outer) { parts } (')' :: ')' :: rest)
        = readPattern outer (group.add (0 + ((1 + .char ',') * ((0 + parts.reverse.prod) * 1))))
            rest := rfl
  have htext : (alternative value).toList ++ rest
      = '(' :: ',' :: '?' :: '(' :: (value.toList ++ ')' :: ')' :: rest) := by
    simp [alternative]
  rw [htext, hopen, readPattern_literal _ _ h, List.append_nil, hclose, List.reverse_reverse,
    alternativeExpression]

/-- Characters that stand for themselves match what they spell. -/
theorem mem_matches'_literal {chars word : List Char} :
  word ∈ (chars.map RegularExpression.char).prod.matches' ↔ word = chars
  := by
  induction chars generalizing word with
  | nil => simp [RegularExpression.matches'_epsilon, Language.mem_one]
  | cons c chars ih =>
      rw [List.map_cons, List.prod_cons, RegularExpression.matches'_mul,
        RegularExpression.matches'_char, Language.mem_mul]
      simp only [ih]
      constructor
      · rintro ⟨_, rfl, _, rfl, rfl⟩
        rfl
      · rintro rfl
        exact ⟨[c], rfl, chars, rfl, rfl⟩

/-- The expression of a value matches the value, behind a comma or not. -/
theorem mem_matches'_alternativeExpression {value : String} {word : List Char} :
  word ∈ (alternativeExpression value).matches'
    ↔ word = value.toList ∨ word = ',' :: value.toList
  := by
  simp only [alternativeExpression, RegularExpression.matches'_add,
    RegularExpression.matches'_mul, RegularExpression.matches'_zero,
    RegularExpression.matches'_epsilon, RegularExpression.matches'_char, zero_add, mul_one,
    add_mul, one_mul, Language.mem_add, mem_matches'_literal, Language.mem_mul]
  apply or_congr_right
  constructor
  · rintro ⟨_, rfl, _, rfl, rfl⟩
    rfl
  · rintro rfl
    exact ⟨[','], rfl, value.toList, rfl, rfl⟩

/-- Alternatives between bars are read as a group that matches what the values do and what the group
matched before them. -/
theorem readPattern_alternatives {values : List String} (hvalues : values ≠ [])
    (h : ∀ value ∈ values, IsLiteral value) (hparts : group.parts = []) :
  ∃ after : OpenGroup,
    (∀ rest, readPattern outer group
        (['|'].intercalate (values.map fun value => (alternative value).toList) ++ rest)
      = readPattern outer after rest)
    ∧ ∀ word, word ∈ after.expression.matches' ↔ word ∈ group.complete.matches'
      ∨ ∃ value ∈ values, word = value.toList ∨ word = ',' :: value.toList
  := by
  induction values generalizing group with
  | nil => exact absurd rfl hvalues
  | cons value values ih =>
      obtain ⟨hvalue, hrest⟩ := List.forall_mem_cons.mp h
      have hexpression (word : List Char) :
          word ∈ (group.add (alternativeExpression value)).expression.matches'
            ↔ word ∈ group.complete.matches'
              ∨ (word = value.toList ∨ word = ',' :: value.toList) := by
        rw [OpenGroup.expression, OpenGroup.add, hparts, RegularExpression.matches'_add,
          Language.mem_add, ← mem_matches'_alternativeExpression]
        simp [RegularExpression.matches'_mul]
      cases values with
      | nil =>
          use group.add (alternativeExpression value)
          constructor
          · intro rest
            rw [List.map_singleton, List.intercalate_singleton,
              readPattern_alternative _ _ hvalue]
          · intro word
            rw [hexpression]
            simp
      | cons next values =>
          obtain ⟨after, hread, hafter⟩ := ih
            { complete := (group.add (alternativeExpression value)).expression }
            (List.cons_ne_nil _ _) hrest rfl
          use after
          constructor
          · intro rest
            rw [← hread, List.map_cons, List.map_cons, List.intercalate_cons_cons,
              List.append_assoc, List.append_assoc, readPattern_alternative _ _ hvalue]
            rfl
          · intro word
            rw [hafter, hexpression, List.exists_mem_cons_iff _ value, or_assoc]

end

/-! ### Selections -/

/-- What is found in a text is any of the values: with a comma before it, or without one. -/
theorem foundIn_iff {expression : RegularExpression Char} {values : List String}
    (h : ∀ word, word ∈ expression.matches'
      ↔ ∃ value ∈ values, word = value.toList ∨ word = ',' :: value.toList) {s : String} :
  FoundIn expression s ↔ ∃ value ∈ values, value.toList <:+: s.toList
  := by
  constructor
  · rintro ⟨word, hword, hinfix⟩
    obtain ⟨value, hvalue, rfl | rfl⟩ := (h word).mp hword
    · use value, hvalue
    · use value, hvalue
      apply (List.suffix_cons _ _).isInfix.trans hinfix
  · rintro ⟨value, hvalue, hinfix⟩
    use value.toList
    constructor
    · apply (h _).mpr
      use value, hvalue
      left
      rfl
    · apply hinfix

/-- The pattern of choices matches the values of the choices. -/
theorem exists_expression_selectionPattern {choices : List Choice} (hchoices : choices ≠ [])
    (h : ∀ choice ∈ choices, IsLiteral choice.value) :
  ∃ expression, patternExpression? (selectionPattern (some choices)) = some expression
    ∧ ∀ word, word ∈ expression.matches'
      ↔ ∃ value ∈ choices.map (·.value), word = value.toList ∨ word = ',' :: value.toList
  := by
  have hvalues : (choices.map (·.value)).eraseDups ≠ [] := by
    obtain ⟨choice, hchoice⟩ := List.exists_mem_of_ne_nil _ hchoices
    apply List.ne_nil_of_mem (a := choice.value)
    apply List.mem_eraseDups.mpr (List.mem_map_of_mem hchoice)
  have hliteral : ∀ value ∈ (choices.map (·.value)).eraseDups, IsLiteral value := by
    intro value hvalue
    rw [List.mem_eraseDups, List.mem_map] at hvalue
    obtain ⟨choice, hchoice, rfl⟩ := hvalue
    apply h choice hchoice
  obtain ⟨after, hread, hafter⟩ := readPattern_alternatives [{}] {} hvalues hliteral rfl
  refine ⟨0 + after.expression * 1, ?_, ?_⟩
  · have htext : (selectionPattern (some choices)).toList
        = '(' :: (['|'].intercalate ((choices.map (·.value)).eraseDups.map
          fun value => (alternative value).toList) ++ [')']) := by
      simp [selectionPattern, alternatives_eq, distinctValues, String.toList_intercalate,
        Function.comp_def]
    rw [patternExpression?, htext]
    exact hread [')']
  · intro word
    simp only [RegularExpression.matches'_add, RegularExpression.matches'_mul,
      RegularExpression.matches'_zero, RegularExpression.matches'_epsilon, zero_add, mul_one,
      hafter, Language.notMem_zero, false_or, List.mem_eraseDups]

/-- A selection of values, with commas between them, starts with one of the values. -/
theorem exists_prefix_intercalate {picked : List String} (h : picked ≠ []) :
  ∃ value ∈ picked, value.toList <+: (",".intercalate picked).toList
  := by
  obtain ⟨value, rest, rfl⟩ := List.exists_cons_of_ne_nil h
  use value, List.mem_cons_self
  rw [String.toList_intercalate, List.map_cons]
  cases rest with
  | nil => simp
  | cons next rest =>
      rw [List.map_cons, List.intercalate_cons_cons, List.append_assoc]
      apply List.prefix_append

/-- The pattern of selections is found in a text exactly when one of the values stands in it, if no
character of a value has a meaning of its own in patterns. So it is found in all selections, in any
order and with any repetition. Without choices it is found in every text. -/
theorem foundIn_selectionPattern :
  (∀ choices : List Choice, choices ≠ [] → (∀ choice ∈ choices, IsLiteral choice.value) →
    ∃ expression, patternExpression? (selectionPattern (some choices)) = some expression
      ∧ (∀ s, FoundIn expression s ↔ ∃ choice ∈ choices, choice.value.toList <:+: s.toList)
      ∧ ∀ picked : List String, picked ≠ [] →
        (∀ value ∈ picked, ∃ choice ∈ choices, choice.value = value) →
          FoundIn expression (",".intercalate picked))
    ∧ ∀ choices : Option (List Choice), choices.getD [] = [] →
      ∃ expression, patternExpression? (selectionPattern choices) = some expression
        ∧ ∀ s, FoundIn expression s
  := by
  constructor
  · intro choices hchoices hliteral
    obtain ⟨expression, hread, hwords⟩ := exists_expression_selectionPattern hchoices hliteral
    have hfound (s : String) : FoundIn expression s
        ↔ ∃ choice ∈ choices, choice.value.toList <:+: s.toList := by
      simp [foundIn_iff hwords]
    use expression, hread, hfound
    intro picked hpicked hvalues
    obtain ⟨value, hvalue, hprefix⟩ := exists_prefix_intercalate hpicked
    obtain ⟨choice, hchoice, rfl⟩ := hvalues value hvalue
    apply (hfound _).mpr
    use choice, hchoice
    apply hprefix.isInfix
  · have hempty {expression : RegularExpression Char} (h : [] ∈ expression.matches') (s : String) :
        FoundIn expression s := ⟨[], h, List.nil_infix⟩
    intro choices hchoices
    cases choices with
    | none =>
        refine ⟨0 + 1, rfl, hempty ?_⟩
        simp
    | some choices =>
        obtain rfl : choices = [] := hchoices
        refine ⟨0 + (0 + 1) * 1, rfl, hempty ?_⟩
        simp

/-- Topics of which one is listed twice and one has a comma in it. -/
def topics : List Choice := [{ value := "Tech" }, { value := "R&D, Labs" }, { value := "Tech" }]

/-- The pattern of the topics is found in their selections and not in a text without a topic. -/
theorem foundIn_selectionPattern_topics :
  topics ≠ [] ∧ (∀ choice ∈ topics, IsLiteral choice.value)
    ∧ selectionPattern (some topics) = "((,?(Tech))|(,?(R&D, Labs)))"
    ∧ ∃ expression, patternExpression? (selectionPattern (some topics)) = some expression
      ∧ FoundIn expression "R&D, Labs,Tech" ∧ ¬ FoundIn expression "R&D,Labs"
  := by
  have hliteral : ∀ choice ∈ topics, IsLiteral choice.value := by
    simp only [topics, List.forall_mem_cons]
    refine ⟨by decide, by decide, by decide, List.forall_mem_nil _⟩
  obtain ⟨expression, hread, hfound, hpicked⟩ :=
    foundIn_selectionPattern.1 topics (by decide) hliteral
  refine ⟨by decide, hliteral, by cbv, expression, hread, ?_, ?_⟩
  · apply hpicked ["R&D, Labs", "Tech"] (by decide) (by decide)
  · rw [hfound]
    decide

end RecordSchema
