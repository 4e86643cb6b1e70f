import RecordSchema.Proofs.Source.Entries

/-!
# What readers take from values

Strings are taken from string literals, booleans from their words, lists from arrays. A value of
any type is taken if its numerals and literals stand for something and its arrays and objects are
not nested too deeply.
-/

namespace RecordSchema

namespace Json

variable {α : Type}

theorem skipBlanks_skipBlanks (text : List Char) :
  skipBlanks (skipBlanks text) = skipBlanks text
  := by
  induction text with
  | nil => rfl
  | cons c text ih =>
      cases hc : isBlank c with
      | true =>
          rw [show c :: text = [c] ++ text from rfl, skipBlanks_append (by simpa using hc), ih]
      | false => rw [skipBlanks_cons hc, skipBlanks_cons hc]

/-! ### Strings and booleans -/

/-- The string that a value is. -/
def Source.string? : Source → Option String
  | .string letters => Letter.string? letters
  | _ => none

/-- The truth value that a value is. -/
def Source.bool? : Source → Option Bool
  | .bool b => some b
  | _ => none

theorem takes_readString (nesting : Nat) (s : Source) :
  Takes readString nesting s s.string?
  := by
  apply Takes.of_skipBlanks
  · intro room text
    rw [readString, readString, skipBlanks_skipBlanks]
  · intro length _ rest hrest
    cases s with
    | null => rfl
    | bool b => cases b <;> rfl
    | array items last => rfl
    | object members last => rfl
    | string letters => exact scanString_literal letters rest
    | numeral figures =>
        rw [readString, skipBlanks_source]
        split
        · rename_i after heq
          exact absurd heq (figures.text_append_ne rest (by decide) (by decide) after)
        · rfl

theorem takes_readBool (nesting : Nat) (s : Source) :
  Takes readBool nesting s s.bool?
  := by
  apply Takes.of_skipBlanks
  · intro room text
    rw [readBool, readBool, skipBlanks_skipBlanks]
  · intro length _ rest hrest
    cases s with
    | null => rfl
    | bool b => cases b <;> rfl
    | array items last => rfl
    | object members last => rfl
    | string letters => rfl
    | numeral figures =>
        rw [readBool, skipBlanks_source]
        split
        · rename_i after heq
          exact absurd heq (figures.text_append_ne rest (by decide) (by decide) after)
        · rename_i after heq
          exact absurd heq (figures.text_append_ne rest (by decide) (by decide) after)
        · rfl

theorem settled_readString :
  Settled readString
  := fun nesting s => ⟨_, takes_readString nesting s⟩

theorem settled_readBool :
  Settled readBool
  := fun nesting s => ⟨_, takes_readBool nesting s⟩

/-! ### Values that may be missing -/

/-- `null` stands for none. -/
theorem takes_readOptional_null (reader : Reader α) (nesting : Nat) :
  Takes (readOptional reader) nesting .null (some none)
  := by
  apply Takes.of_skipBlanks
  · intro room text
    rw [readOptional, readOptional, skipBlanks_skipBlanks]
  · intro length _ rest hrest
    rfl

/-- Another value than `null` is taken as it is. -/
theorem takes_readOptional {reader : Reader α} {nesting : Nat} {s : Source} {content : Option α}
    (h : Takes reader nesting s content) (hs : s ≠ .null) :
  Takes (readOptional reader) nesting s (content.map some)
  := by
  apply Takes.of_skipBlanks
  · intro room text
    rw [readOptional, readOptional, skipBlanks_skipBlanks]
  · intro length hlength rest hrest
    have hn : ∀ after, s.text ++ rest ≠ 'n' :: after := by
      cases s with
      | null => exact absurd rfl hs
      | bool b => cases b <;> rintro after ⟨⟩
      | array items last => rintro after ⟨⟩
      | object members last => rintro after ⟨⟩
      | string letters => rintro after ⟨⟩
      | numeral figures => exact figures.text_append_ne rest (by decide) (by decide)
    have hread := h length hlength [] rest hrest
    rw [Gap.text_nil, List.nil_append] at hread
    rw [readOptional, skipBlanks_source]
    split
    · rename_i after heq
      exact absurd heq (hn after)
    · rw [toOption_map, hread]
      simp [Function.comp_def]

theorem Settled.optional {reader : Reader α} (h : Settled reader) :
  Settled (readOptional reader)
  := by
  intro nesting s
  by_cases hs : s = .null
  · subst hs
    exact ⟨_, takes_readOptional_null reader nesting⟩
  · exact ⟨_, takes_readOptional (h.takes nesting s) hs⟩

/-! ### Lists -/

/-- A list is taken from an array if none of its items is refused. -/
theorem takes_readList {item : Reader α} (h : Settled item) (nesting : Nat)
    (items : List (Item Source)) (last : Gap) :
  Takes (readList item) (nesting + 1) (.array items last)
    (items.mapM fun entry => taken item nesting entry.value)
  := by
  apply Takes.of_skipBlanks
  · intro room text
    rw [readList, readList, skipBlanks_skipBlanks]
  · intro length hlength rest hrest
    obtain ⟨hbudget, hitems⟩ := length_array hlength
    have hfinds : ∀ entry ∈ items,
        Finds (item ⟨nesting, length⟩) entry.value (taken item nesting entry.value) :=
      fun entry hentry => h.takes nesting entry.value length (hitems entry hentry)
    have hread := itemsFrom_itemsText hfinds hbudget true [] [] last rest
    rw [Source.text_array_append]
    refine Eq.trans ?_ hread
    rfl

theorem Settled.list {item : Reader α} (h : Settled item) :
  Settled (readList item)
  := by
  intro nesting s
  have hskip (room : Room) (text : List Char) :
      readList item room text = readList item room (skipBlanks text) := by
    rw [readList, readList, skipBlanks_skipBlanks]
  cases s with
  | null => exact ⟨none, .of_skipBlanks hskip fun _ _ _ _ => rfl⟩
  | bool b => cases b <;> exact ⟨none, .of_skipBlanks hskip fun _ _ _ _ => rfl⟩
  | array items last =>
      cases nesting with
      | zero => exact ⟨none, .of_skipBlanks hskip fun _ _ _ _ => rfl⟩
      | succ nesting => exact ⟨_, takes_readList h nesting items last⟩
  | object members last => exact ⟨none, .of_skipBlanks hskip fun _ _ _ _ => rfl⟩
  | string letters => exact ⟨none, .of_skipBlanks hskip fun _ _ _ _ => rfl⟩
  | numeral figures =>
      refine ⟨none, .of_skipBlanks hskip fun length _ rest _ => ?_⟩
      rw [readList, skipBlanks_source]
      split
      · rename_i after heq
        exact absurd heq (figures.text_append_ne rest (by decide) (by decide) after)
      · rfl

/-! ### Values of any type -/

theorem scanScalar_figures (figures : Figures) {rest : List Char} (hrest : EndsNumeral rest) :
  (scanScalar (figures.text ++ rest)).toOption
    = figures.number?.map fun n => (.number n, rest)
  := by
  obtain ⟨c, after, htext, hc⟩ := figures.exists_text_eq
  have hne (d : Char) (hminus : d ≠ '-') (hdigit : d.isDigit = false) : c ≠ d := by
    rintro rfl
    exact figures.text_append_ne [] hminus hdigit after (by rw [htext, List.append_nil])
  have hnumber := figures.scanNumber_text hrest
  rw [htext, List.cons_append] at hnumber ⊢
  rw [scanScalar, if_neg (hne 'n' (by decide) (by decide)),
    if_neg (hne 't' (by decide) (by decide)), if_neg (hne 'f' (by decide) (by decide)),
    if_neg (hne '"' (by decide) (by decide)), if_pos hc, toOption_map, hnumber, Option.map_map]
  rfl

theorem scanScalar_literal (letters : List Letter) (rest : List Char) :
  (scanScalar ('"' :: (literalText letters ++ rest))).toOption
    = (Letter.string? letters).map fun s => (.string s, rest)
  := by
  rw [scanScalar, if_neg (by decide), if_neg (by decide), if_neg (by decide), if_pos rfl,
    toOption_map, scanString_literal, Option.map_map]
  rfl

/-- A scalar is taken by the reader of scalars. -/
theorem takes_readValue_scalar {nesting : Nat} {s : Source} {content : Option Json}
    (hstart : ∀ rest after, s.text ++ rest ≠ '[' :: after ∧ s.text ++ rest ≠ '{' :: after)
    (h : ∀ rest, EndsNumeral rest →
      (scanScalar (s.text ++ rest)).toOption = content.map fun v => (v, rest)) :
  Takes readValue nesting s content
  := by
  apply Takes.of_skipBlanks
  · intro room text
    rw [readValue_eq, scanValue, scanValue, skipBlanks_skipBlanks]
  · intro length _ rest hrest
    obtain ⟨c, after, htext, -⟩ := s.exists_text_eq
    have hread := h rest hrest
    obtain ⟨harray, hobject⟩ := hstart rest (after ++ rest)
    rw [htext, List.cons_append] at harray hobject hread
    have hc : c ≠ '[' := fun heq => harray (by rw [heq])
    have hc' : c ≠ '{' := fun heq => hobject (by rw [heq])
    rw [readValue_eq, scanValue, skipBlanks_source, htext, List.cons_append]
    simp only [if_neg hc, if_neg hc', hread]

/-- The reader of values takes the same from a value wherever it stands. -/
theorem settled_readValue :
  Settled readValue
  := by
  intro nesting s
  have hskip (room : Room) (text : List Char) :
      readValue room text = readValue room (skipBlanks text) := by
    rw [readValue_eq, scanValue, scanValue, skipBlanks_skipBlanks]
  induction s using sourceInduction generalizing nesting with
  | null =>
      refine ⟨some .null, takes_readValue_scalar ?_ ?_⟩
      · exact fun _ _ => ⟨by rintro ⟨⟩, by rintro ⟨⟩⟩
      · exact fun _ _ => rfl
  | bool b =>
      refine ⟨some (.bool b), takes_readValue_scalar ?_ ?_⟩
      · cases b with
        | true => exact fun _ _ => ⟨by rintro ⟨⟩, by rintro ⟨⟩⟩
        | false => exact fun _ _ => ⟨by rintro ⟨⟩, by rintro ⟨⟩⟩
      · cases b with
        | true => exact fun _ _ => rfl
        | false => exact fun _ _ => rfl
  | numeral figures =>
      refine ⟨figures.number?.map .number, takes_readValue_scalar ?_ ?_⟩
      · intro rest after
        exact ⟨figures.text_append_ne rest (by decide) (by decide) after,
          figures.text_append_ne rest (by decide) (by decide) after⟩
      · intro rest hrest
        rw [Option.map_map]
        exact scanScalar_figures figures hrest
  | string letters =>
      refine ⟨(Letter.string? letters).map .string, takes_readValue_scalar ?_ ?_⟩
      · exact fun _ _ => ⟨by rintro ⟨⟩, by rintro ⟨⟩⟩
      · intro rest hrest
        rw [Option.map_map]
        exact scanScalar_literal letters rest
  | array items last ih =>
      cases nesting with
      | zero => exact ⟨none, .of_skipBlanks hskip fun _ _ _ _ => rfl⟩
      | succ inner =>
          refine ⟨(items.mapM fun item => taken readValue inner item.value).map .array,
            .of_skipBlanks hskip fun length hlength rest hrest => ?_⟩
          obtain ⟨hbudget, hitems⟩ := length_array hlength
          have hfinds : ∀ item ∈ items, Finds (readValue ⟨inner, length⟩) item.value
              (taken readValue inner item.value) := by
            intro item hitem
            obtain ⟨content, hcontent⟩ := ih item hitem inner
            rw [hcontent.taken_eq]
            exact hcontent length (hitems item hitem)
          have hread := itemsFrom_itemsText hfinds hbudget true [] [] last rest
          rw [readValue_eq, scanValue, skipBlanks_source, Source.text_array_append]
          simp only [if_true, toOption_map]
          rw [Gap.text_nil, List.nil_append] at hread
          rw [hread, Option.map_map, Option.map_map]
          rfl
  | object members last ih =>
      cases nesting with
      | zero => exact ⟨none, .of_skipBlanks hskip fun _ _ _ _ => rfl⟩
      | succ inner =>
          refine ⟨(members.mapM (Member.content (taken readValue inner))).map .ofMembers,
            .of_skipBlanks hskip fun length hlength rest hrest => ?_⟩
          obtain ⟨hbudget, hmembers⟩ := length_object hlength
          have hfinds : ∀ m ∈ members, Finds (readValue ⟨inner, length⟩) m.value
              (taken readValue inner m.value) := by
            intro m hm
            obtain ⟨content, hcontent⟩ := ih m hm inner
            rw [hcontent.taken_eq]
            exact hcontent length (hmembers m hm)
          have hread := membersFrom_membersText hfinds hbudget true [] [] last rest
          rw [readValue_eq, scanValue, skipBlanks_source, Source.text_object_append]
          simp only [if_neg (show '{' ≠ '[' by decide), if_true, toOption_map]
          rw [Gap.text_nil, List.nil_append] at hread
          rw [hread, Option.map_map, Option.map_map]
          rfl

end Json

end RecordSchema
