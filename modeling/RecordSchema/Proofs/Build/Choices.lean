import RecordSchema.Build.Field
import RecordSchema.Proofs.Occurrences
import RecordSchema.Proofs.StringSet

/-!
# Choices

The set of choices and the pattern of their selections have the same values. In the pattern the
alternatives are compared, and not the values, but different values have different alternatives. So
there is one alternative for each value, in the order in which the values first occur.
-/

namespace RecordSchema

/-- The different values of choices, in the order in which they first occur. -/
def distinctValues (choices : List Choice) : List String :=
  (choices.map (·.value)).eraseDups

/-- Different values have different alternatives, whatever characters they consist of. -/
theorem alternative_injective :
  Function.Injective alternative
  := by
  intro value other h
  have hchars : (alternative value).toList = (alternative other).toList := by rw [h]
  simp only [alternative, String.toList_append, List.append_assoc, List.append_cancel_left_eq,
    List.append_cancel_right_eq] at hchars
  apply String.toList_injective hchars

/-- There is one alternative for each of the different values. -/
theorem alternatives_eq (choices : List Choice) :
  alternatives choices = (distinctValues choices).map alternative
  := by
  rw [distinctValues, ← eraseDups_map alternative_injective, List.map_map]
  rfl

/-- The members of the set of choices are their values. -/
theorem mem_choiceSet {choices : Option (List Choice)} {value : String} :
  value ∈ choiceSet choices ↔ ∃ choice ∈ choices.getD [], choice.value = value
  := by
  simp [choiceSet]

/-- Choices with the same values form the same set. -/
theorem choiceSet_congr {choices others : Option (List Choice)}
    (h : ∀ value, value ∈ (choices.getD []).map (·.value)
      ↔ value ∈ (others.getD []).map (·.value)) :
  choiceSet choices = choiceSet others
  := by
  apply StringSet.eq_of_mem_iff
  intro value
  rw [choiceSet, choiceSet, StringSet.mem_ofList, StringSet.mem_ofList, h]

/-- The pattern with an alternative for each of some values: the value in parentheses, behind a
comma or not. -/
def patternOf (values : List String) : String :=
  "(" ++ "|".intercalate (values.map fun value => "(,?(" ++ value ++ "))") ++ ")"

/-- The pattern of selections has an alternative for each of the different values. -/
theorem selectionPattern_some (choices : List Choice) :
  selectionPattern (some choices) = patternOf (distinctValues choices)
  := by
  rw [selectionPattern, alternatives_eq]
  rfl

/-- The pattern of selections has an alternative for each of the values of the choices once, in the
order in which they first occur, and these values are the members of the set of choices. So a value
that repeats an earlier one changes neither of them, and to reorder the choices is to reorder the
alternatives and leaves the set as it is. -/
theorem selectionPattern_values (choices : List Choice) :
  ∃ values, FirstOccurrences (choices.map (·.value)) values
    ∧ selectionPattern (some choices) = patternOf values
    ∧ (∀ value, value ∈ choiceSet (some choices) ↔ value ∈ values)
    ∧ (∀ before rest repeated, choices = before ++ rest →
      (∃ choice ∈ before, choice.value = repeated.value) →
      selectionPattern (some (before ++ repeated :: rest)) = selectionPattern (some choices)
        ∧ choiceSet (some (before ++ repeated :: rest)) = choiceSet (some choices))
    ∧ ∀ others, choices.Perm others →
      choiceSet (some others) = choiceSet (some choices)
        ∧ ∃ reordered, values.Perm reordered
          ∧ FirstOccurrences (others.map (·.value)) reordered
          ∧ selectionPattern (some others) = patternOf reordered
  := by
  have hfirst := firstOccurrences_eraseDups (choices.map (·.value))
  refine ⟨distinctValues choices, hfirst, selectionPattern_some choices, ?_, ?_, ?_⟩
  · intro value
    rw [mem_choiceSet, Option.getD_some, ← List.mem_map, distinctValues, hfirst.mem]
  · rintro before rest repeated rfl ⟨choice, hchoice, hvalue⟩
    have hmem : repeated.value ∈ before.map (·.value) := by
      rw [← hvalue]
      apply List.mem_map_of_mem hchoice
    constructor
    · rw [selectionPattern_some, selectionPattern_some, distinctValues, distinctValues,
        List.map_append, List.map_cons, eraseDups_append_cons_of_mem hmem, List.map_append]
    · apply choiceSet_congr
      intro value
      rw [Option.getD_some, Option.getD_some, List.map_append, List.map_cons,
        ← List.mem_eraseDups, eraseDups_append_cons_of_mem hmem, List.mem_eraseDups,
        List.map_append]
  · intro others hothers
    have hvalues : (choices.map (·.value)).Perm (others.map (·.value)) := hothers.map _
    constructor
    · apply choiceSet_congr
      intro value
      apply hvalues.symm.mem_iff
    · use distinctValues others, perm_eraseDups hvalues, firstOccurrences_eraseDups _,
        selectionPattern_some others

/-- Choices of which one looks like the alternatives for two others. -/
def nestedChoices : List Choice := [{ value := "a))|(,?(b" }, { value := "b" }, { value := "a" }]

/-- The choices and those that they look like have three alternatives. A repetition at the end is
not seen, and the same choices in another order have the same set. -/
theorem selectionPattern_values_nested :
  (∃ choice ∈ nestedChoices, choice.value = "b")
    ∧ selectionPattern (some (nestedChoices ++ [{ value := "b", label := some "B" }]))
      = selectionPattern (some nestedChoices)
    ∧ selectionPattern (some nestedChoices) = "((,?(a))|(,?(b))|(,?(b))|(,?(a)))"
    ∧ nestedChoices.Perm nestedChoices.reverse
    ∧ choiceSet (some nestedChoices.reverse) = choiceSet (some nestedChoices)
  := by
  have hchoice : ∃ choice ∈ nestedChoices, choice.value = "b" := by
    use { value := "b" }
    simp [nestedChoices]
  have hperm := nestedChoices.reverse_perm.symm
  obtain ⟨values, -, -, -, hrepeated, hreordered⟩ := selectionPattern_values nestedChoices
  refine ⟨hchoice, ?_, by cbv, hperm, (hreordered _ hperm).1⟩
  apply (hrepeated nestedChoices [] _ (List.append_nil _).symm hchoice).1

end RecordSchema
