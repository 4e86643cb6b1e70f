import RecordSchema.Proofs.Json.Values
import RecordSchema.Proofs.Source.Numerals

/-!
# Values where they stand

What a reader takes from a value should not depend on where the value stands: neither on the white
space in front of it, nor on what follows it, nor on the length of the whole text. If this holds of
the items of an array, it holds of the array, and the same goes for the members of an object.
-/

namespace RecordSchema

namespace Json

variable {α β : Type}

/-! ### White space -/

theorem Gap.isBlank_of_mem_text {gap : Gap} {c : Char} (h : c ∈ gap.text) :
  isBlank c = true
  := by
  obtain ⟨blank, -, rfl⟩ := List.mem_map.mp h
  cases blank with
  | space => rfl
  | newline => rfl
  | tab => rfl
  | carriageReturn => rfl

@[simp]
theorem skipBlanks_gap (gap : Gap) (text : List Char) :
  skipBlanks (gap.text ++ text) = skipBlanks text
  := skipBlanks_append (fun _ => Gap.isBlank_of_mem_text) text

@[simp]
theorem Gap.text_nil :
  Gap.text [] = []
  := rfl

/-- White space ends a numeral, and what follows it does. -/
theorem endsNumeral_gap (gap : Gap) {rest : List Char} (h : EndsNumeral rest) :
  EndsNumeral (gap.text ++ rest)
  := by
  cases gap with
  | nil => exact h
  | cons blank gap =>
      rintro c ⟨⟩
      cases blank with
      | space => decide
      | newline => decide
      | tab => decide
      | carriageReturn => decide

theorem endsNumeral_comma (rest : List Char) :
  EndsNumeral (',' :: rest)
  := by
  rintro c ⟨⟩
  decide

/-- There is no white space in front of a value, and no closing bracket. -/
theorem Source.exists_text_eq (s : Source) :
  ∃ c after, s.text = c :: after ∧ isBlank c = false ∧ c ≠ ']' ∧ c ≠ '}'
  := by
  cases s with
  | null => exact ⟨_, _, rfl, by decide⟩
  | bool b =>
      cases b with
      | true => exact ⟨_, _, rfl, by decide⟩
      | false => exact ⟨_, _, rfl, by decide⟩
  | string letters => exact ⟨_, _, rfl, by decide⟩
  | array items last => exact ⟨_, _, rfl, by decide⟩
  | object members last => exact ⟨_, _, rfl, by decide⟩
  | numeral figures =>
      obtain ⟨c, after, htext, hc⟩ := figures.exists_text_eq
      refine ⟨c, after, htext, ?_⟩
      rcases hc with rfl | hc
      · decide
      · have hne (d : Char) (hd : d.isDigit = false) : c ≠ d := by
          rintro rfl
          rw [hd] at hc
          cases hc
        refine ⟨?_, hne _ (by decide), hne _ (by decide)⟩
        simp [isBlank, hne ' ' (by decide), hne '\n' (by decide), hne '\t' (by decide),
          hne '\r' (by decide)]

@[simp]
theorem skipBlanks_source (s : Source) (rest : List Char) :
  skipBlanks (s.text ++ rest) = s.text ++ rest
  := by
  obtain ⟨c, after, htext, hc, -⟩ := s.exists_text_eq
  rw [htext]
  apply skipBlanks_cons hc

/-! ### What is taken from a value -/

/-- What a scanner takes from a value, whatever surrounds it: its content, or nothing if it
refuses the value. -/
def Finds (scan : Scan α) (s : Source) (content : Option α) : Prop :=
  ∀ (gap : Gap) (rest : List Char), EndsNumeral rest →
    (scan (gap.text ++ (s.text ++ rest))).toOption = content.map fun a => (a, rest)

/-- What a reader takes from a value in every text in which it stands. -/
def Takes (reader : Reader α) (nesting : Nat) (s : Source) (content : Option α) : Prop :=
  ∀ length, s.text.length ≤ length → Finds (reader ⟨nesting, length⟩) s content

/-- What a reader takes from the text of a value by itself. -/
def taken (reader : Reader α) (nesting : Nat) (s : Source) : Option α :=
  (reader ⟨nesting, s.text.length⟩ s.text).toOption.map Prod.fst

theorem Takes.taken_eq {reader : Reader α} {nesting : Nat} {s : Source} {content : Option α}
    (h : Takes reader nesting s content) :
  taken reader nesting s = content
  := by
  have halone := h s.text.length (Nat.le_refl _) [] [] (by simp [EndsNumeral])
  simp only [Gap.text_nil, List.nil_append, List.append_nil] at halone
  rw [taken, halone]
  simp [Function.comp_def]

/-- A reader takes the same from a value wherever it stands. -/
def Settled (reader : Reader α) : Prop := ∀ nesting s, ∃ content, Takes reader nesting s content

theorem Settled.takes {reader : Reader α} (h : Settled reader) (nesting : Nat) (s : Source) :
  Takes reader nesting s (taken reader nesting s)
  := by
  obtain ⟨content, hcontent⟩ := h nesting s
  rw [hcontent.taken_eq]
  apply hcontent

/-- A reader that looks at a value from its first character on takes the same from it wherever it
stands if it does so without white space in front. -/
theorem Takes.of_skipBlanks {reader : Reader α} {nesting : Nat} {s : Source} {content : Option α}
    (hskip : ∀ room text, reader room text = reader room (skipBlanks text))
    (h : ∀ length, s.text.length ≤ length → ∀ rest, EndsNumeral rest →
      (reader ⟨nesting, length⟩ (s.text ++ rest)).toOption = content.map fun a => (a, rest)) :
  Takes reader nesting s content
  := by
  intro length hlength gap rest hrest
  rw [hskip, skipBlanks_gap, skipBlanks_source]
  apply h length hlength rest hrest

/-! ### Items and members -/

/-- An item comes next. -/
theorem nextItem_item (gap : Gap) (first : Bool) (item : Item Source) (rest : List Char) :
  nextItem first (gap.text ++ (comma first ++ (item.before.text ++ (item.value.text ++ rest))))
    = .ok (.entry (item.value.text ++ rest))
  := by
  obtain ⟨c, after, htext, hc, hclosing, -⟩ := item.value.exists_text_eq
  cases first with
  | true =>
      rw [nextItem, comma, if_pos rfl, List.nil_append, skipBlanks_gap, skipBlanks_gap,
        skipBlanks_source, htext]
      simp [hclosing]
  | false =>
      rw [nextItem, comma, if_neg Bool.false_ne_true, List.singleton_append, skipBlanks_gap,
        skipBlanks_cons (by decide)]
      simp only [skipBlanks_gap, skipBlanks_source]
      rw [htext]
      simp [hclosing]

/-- The end of an array comes next. -/
theorem nextItem_last (gap last : Gap) (first : Bool) (rest : List Char) :
  nextItem first (gap.text ++ (last.text ++ ']' :: rest)) = .ok (.closing rest)
  := by
  rw [nextItem, skipBlanks_gap, skipBlanks_gap]
  rfl

/-- What follows an item ends a numeral. -/
theorem endsNumeral_items (items : List (Item Source)) (last : Gap) (rest : List Char) :
  EndsNumeral (itemsText false items ++ (last.text ++ ']' :: rest))
  := by
  cases items with
  | nil =>
      apply endsNumeral_gap
      rintro c ⟨⟩
      decide
  | cons item items => apply endsNumeral_comma

theorem itemsText_cons (first : Bool) (item : Item Source) (items : List (Item Source))
    (rest : List Char) :
  itemsText first (item :: items) ++ rest
    = comma first ++ (item.before.text ++ (item.value.text
      ++ (item.after.text ++ (itemsText false items ++ rest))))
  := by
  simp only [itemsText, List.append_assoc]

/-- The items of an array are taken one by one, up to the bracket, if none of them is refused. -/
theorem itemsFrom_itemsText {scan : Scan α} {content : Source → Option α}
    {items : List (Item Source)}
    (h : ∀ item ∈ items, Finds scan item.value (content item.value)) {budget : Nat}
    (hbudget : items.length < budget) (first : Bool) (before : List α) (gap last : Gap)
    (rest : List Char) :
  (itemsFrom scan budget first before
      (gap.text ++ (itemsText first items ++ (last.text ++ ']' :: rest)))).toOption
    = (items.mapM fun item => content item.value).map fun values =>
      (before.reverse ++ values, rest)
  := by
  induction items generalizing before budget first gap with
  | nil =>
      obtain ⟨budget, rfl⟩ := Nat.exists_eq_add_one.mpr hbudget
      rw [itemsText, List.nil_append, itemsFrom, nextItem_last]
      simp
  | cons item items ih =>
      obtain ⟨hitem, hitems⟩ := List.forall_mem_cons.mp h
      obtain ⟨budget, rfl⟩ := Nat.exists_eq_add_one.mpr (Nat.zero_lt_of_lt hbudget)
      have hread := hitem []
        (item.after.text ++ (itemsText false items ++ (last.text ++ ']' :: rest)))
        (endsNumeral_gap _ (endsNumeral_items items last rest))
      rw [Gap.text_nil, List.nil_append] at hread
      rw [itemsText_cons, itemsFrom, nextItem_item]
      simp only [List.mapM_cons]
      cases hcontent : content item.value with
      | none =>
          rw [hcontent] at hread
          obtain ⟨fault, hscan⟩ := toOption_eq_none.mp hread
          simp only [hscan]
          rfl
      | some a =>
          rw [hcontent] at hread
          have hscan := toOption_eq_some.mp hread
          simp only [hscan]
          rw [ih hitems (by simpa using hbudget)]
          cases items.mapM fun item => content item.value with
          | none => rfl
          | some values => simp

/-- A member comes next. -/
theorem nextMember_member (gap before : Gap) (first : Bool) (rest : List Char) :
  nextMember first (gap.text ++ (comma first ++ (before.text ++ '"' :: rest)))
    = .ok (.entry rest)
  := by
  have hquote : skipBlanks ('"' :: rest) = '"' :: rest := skipBlanks_cons (by decide) rest
  cases first with
  | true =>
      rw [nextMember, comma, if_pos rfl, List.nil_append, skipBlanks_gap, skipBlanks_gap, hquote]
      rfl
  | false =>
      rw [nextMember, comma, if_neg Bool.false_ne_true, List.singleton_append, skipBlanks_gap,
        skipBlanks_cons (by decide)]
      simp only [skipBlanks_gap, hquote]
      rfl

/-- The end of an object comes next. -/
theorem nextMember_last (gap last : Gap) (first : Bool) (rest : List Char) :
  nextMember first (gap.text ++ (last.text ++ '}' :: rest)) = .ok (.closing rest)
  := by
  rw [nextMember, skipBlanks_gap, skipBlanks_gap]
  rfl

theorem afterKey_colon (colon : Gap) (rest : List Char) :
  afterKey (colon.text ++ ':' :: rest) = .ok rest
  := by
  rw [afterKey, skipBlanks_gap]
  rfl

/-- What follows a member ends a numeral. -/
theorem endsNumeral_members (members : List (Member Source)) (last : Gap) (rest : List Char) :
  EndsNumeral (membersText false members ++ (last.text ++ '}' :: rest))
  := by
  cases members with
  | nil =>
      apply endsNumeral_gap
      rintro c ⟨⟩
      decide
  | cons m members => apply endsNumeral_comma

/-- The text of a member from behind the quote that opens its key. -/
def Member.text (m : Member Source) : List Char :=
  literalText m.letters ++ (m.colon.text ++ ':' :: (m.gap.text ++ m.value.text))

theorem membersText_cons (first : Bool) (m : Member Source) (members : List (Member Source))
    (rest : List Char) :
  membersText first (m :: members) ++ rest
    = comma first ++ (m.before.text ++ '"' :: (m.text
      ++ (m.after.text ++ (membersText false members ++ rest))))
  := by
  simp only [membersText, Member.text, List.append_assoc, List.cons_append]

/-- What is taken from a member: its key and the content of its value. -/
def Member.content (content : Source → Option α) (m : Member Source) : Option (String × α) :=
  m.key?.bind fun key => (content m.value).map fun value => (key, value)

/-- A member is taken if its key stands for a string and its value is not refused. -/
theorem scanMember_text {scan : Scan α} {content : Source → Option α} (m : Member Source)
    (h : Finds scan m.value (content m.value)) {rest : List Char} (hrest : EndsNumeral rest) :
  (scanMember scan (m.text ++ rest)).toOption
    = (m.content content).map fun value => (value, rest)
  := by
  have hkey := scanString_literal m.letters
    (m.colon.text ++ (':' :: (m.gap.text ++ (m.value.text ++ rest))))
  have htext : m.text ++ rest = literalText m.letters
      ++ (m.colon.text ++ (':' :: (m.gap.text ++ (m.value.text ++ rest)))) := by
    simp only [Member.text, List.append_assoc, List.cons_append]
  rw [htext, scanMember, Member.content, Member.key?]
  cases hstring : Letter.string? m.letters with
  | none =>
      rw [hstring] at hkey
      obtain ⟨fault, hscan⟩ := toOption_eq_none.mp hkey
      rw [hscan]
      rfl
  | some key =>
      rw [hstring] at hkey
      have hscan := toOption_eq_some.mp hkey
      have hvalue := h m.gap rest hrest
      simp only [hscan, bind, Except.bind, afterKey_colon]
      cases hcontent : content m.value with
      | none =>
          rw [hcontent] at hvalue
          obtain ⟨fault, hfault⟩ := toOption_eq_none.mp hvalue
          rw [hfault]
          rfl
      | some a =>
          rw [hcontent] at hvalue
          have hok := toOption_eq_some.mp hvalue
          rw [hok]
          rfl

/-- The members of an object are taken one by one, up to the brace, if none of them is refused. -/
theorem membersFrom_membersText {scan : Scan α} {content : Source → Option α}
    {members : List (Member Source)}
    (h : ∀ m ∈ members, Finds scan m.value (content m.value)) {budget : Nat}
    (hbudget : members.length < budget) (first : Bool) (before : List (String × α))
    (gap last : Gap) (rest : List Char) :
  (membersFrom scan budget first before
      (gap.text ++ (membersText first members ++ (last.text ++ '}' :: rest)))).toOption
    = (members.mapM (Member.content content)).map fun values => (before.reverse ++ values, rest)
  := by
  induction members generalizing before budget first gap with
  | nil =>
      obtain ⟨budget, rfl⟩ := Nat.exists_eq_add_one.mpr hbudget
      rw [membersText, List.nil_append, membersFrom, nextMember_last]
      simp
  | cons m members ih =>
      obtain ⟨hm, hmembers⟩ := List.forall_mem_cons.mp h
      obtain ⟨budget, rfl⟩ := Nat.exists_eq_add_one.mpr (Nat.zero_lt_of_lt hbudget)
      have hread := scanMember_text m hm
        (endsNumeral_gap m.after (endsNumeral_members members last rest))
      rw [membersText_cons, membersFrom, nextMember_member]
      simp only [List.mapM_cons]
      cases hfound : m.content content with
      | none =>
          rw [hfound] at hread
          obtain ⟨fault, hscan⟩ := toOption_eq_none.mp hread
          simp only [hscan]
          rfl
      | some value =>
          rw [hfound] at hread
          have hscan := toOption_eq_some.mp hread
          simp only [hscan]
          rw [ih hmembers (by simpa using hbudget)]
          cases members.mapM (Member.content content) with
          | none => rfl
          | some values => simp

/-! ### Arrays and objects -/

theorem Source.text_array_append (items : List (Item Source)) (last : Gap) (rest : List Char) :
  (Source.array items last).text ++ rest
    = '[' :: (itemsText true items ++ (last.text ++ ']' :: rest))
  := by
  simp only [Source.text, List.cons_append, List.append_assoc, List.nil_append]

theorem Source.text_object_append (members : List (Member Source)) (last : Gap)
    (rest : List Char) :
  (Source.object members last).text ++ rest
    = '{' :: (membersText true members ++ (last.text ++ '}' :: rest))
  := by
  simp only [Source.text, List.cons_append, List.append_assoc, List.nil_append]

theorem length_le_itemsText (first : Bool) (items : List (Item Source)) :
  items.length ≤ (itemsText first items).length
  := by
  induction items generalizing first with
  | nil => exact Nat.zero_le _
  | cons item items ih =>
      obtain ⟨c, after, htext, -⟩ := item.value.exists_text_eq
      have := ih false
      simp only [itemsText, htext, List.length_append, List.length_cons]
      omega

theorem length_text_le_itemsText {item : Item Source} {items : List (Item Source)}
    (h : item ∈ items) (first : Bool) :
  item.value.text.length ≤ (itemsText first items).length
  := by
  induction h generalizing first with
  | head items =>
      simp only [itemsText, List.length_append]
      omega
  | tail other _ ih =>
      have := ih false
      simp only [itemsText, List.length_append]
      omega

theorem length_le_membersText (first : Bool) (members : List (Member Source)) :
  members.length ≤ (membersText first members).length
  := by
  induction members generalizing first with
  | nil => exact Nat.zero_le _
  | cons m members ih =>
      have := ih false
      simp only [membersText, List.length_append, List.length_cons]
      omega

theorem length_text_le_membersText {m : Member Source} {members : List (Member Source)}
    (h : m ∈ members) (first : Bool) :
  m.value.text.length ≤ (membersText first members).length
  := by
  induction h generalizing first with
  | head members =>
      simp only [membersText, List.length_append, List.length_cons]
      omega
  | tail other _ ih =>
      have := ih false
      simp only [membersText, List.length_append, List.length_cons]
      omega

/-- There is room for the items of an array where there is room for the array. -/
theorem length_array {items : List (Item Source)} {last : Gap} {length : Nat}
    (h : (Source.array items last).text.length ≤ length) :
  items.length < length ∧ ∀ item ∈ items, item.value.text.length ≤ length
  := by
  have hlength := length_le_itemsText true items
  simp only [Source.text, List.length_cons, List.length_append] at h
  constructor
  · omega
  · intro item hitem
    have := length_text_le_itemsText hitem true
    omega

/-- There is room for the members of an object where there is room for the object. -/
theorem length_object {members : List (Member Source)} {last : Gap} {length : Nat}
    (h : (Source.object members last).text.length ≤ length) :
  members.length < length ∧ ∀ m ∈ members, m.value.text.length ≤ length
  := by
  have hlength := length_le_membersText true members
  simp only [Source.text, List.length_cons, List.length_append] at h
  constructor
  · omega
  · intro m hm
    have := length_text_le_membersText hm true
    omega

end Json

end RecordSchema
