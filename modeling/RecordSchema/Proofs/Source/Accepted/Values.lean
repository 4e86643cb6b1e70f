import RecordSchema.Proofs.Source.Accepted.Tokens
import RecordSchema.Proofs.Source.Entries

/-!
# Accepted values

What readers of values take from a text is a value of the grammar, with its items and members:
nothing else is accepted.
-/

namespace RecordSchema

namespace Json

variable {α : Type}

/-- A text starts with a value in front of the rest. -/
def Starts (text rest : List Char) : Prop :=
  ∃ (gap : Gap) (s : Source), text = gap.text ++ (s.text ++ rest)

/-- What a scanner takes is a value. -/
def TakesValue (scan : Scan α) : Prop := ∀ text a rest, scan text = .ok (a, rest) → Starts text rest

theorem Starts.of_text {s : Source} {text rest : List Char} (h : text = s.text ++ rest) :
  Starts text rest
  := ⟨[], s, h⟩

/-- White space in front of a value does not matter. -/
theorem Starts.of_skipBlanks {text rest : List Char} (h : Starts (skipBlanks text) rest) :
  Starts text rest
  := by
  obtain ⟨gap, hgap⟩ := exists_gap text
  obtain ⟨gap', s, hs⟩ := h
  refine ⟨gap ++ gap', s, ?_⟩
  rw [hgap, hs, Gap.text, Gap.text, Gap.text, List.map_append, List.append_assoc]

/-! ### Scalars -/

theorem starts_of_scanScalar {text rest : List Char} {v : Json}
    (h : scanScalar text = .ok (v, rest)) :
  Starts text rest
  := by
  cases text with
  | nil => cases h
  | cons c text =>
      rw [scanScalar] at h
      split_ifs at h with hn ht hf hquote hnumber
      · obtain ⟨_, hword, heq⟩ := map_eq_ok_iff.mp h
        obtain ⟨-, rfl⟩ := Prod.mk.inj heq
        exact .of_text (s := .null) (by rw [hn, eq_append_of_expectWord hword]; rfl)
      · obtain ⟨_, hword, heq⟩ := map_eq_ok_iff.mp h
        obtain ⟨-, rfl⟩ := Prod.mk.inj heq
        exact .of_text (s := .bool true) (by rw [ht, eq_append_of_expectWord hword]; rfl)
      · obtain ⟨_, hword, heq⟩ := map_eq_ok_iff.mp h
        obtain ⟨-, rfl⟩ := Prod.mk.inj heq
        exact .of_text (s := .bool false) (by rw [hf, eq_append_of_expectWord hword]; rfl)
      · obtain ⟨⟨s, _⟩, hstring, heq⟩ := map_eq_ok_iff.mp h
        obtain ⟨-, rfl⟩ := Prod.mk.inj heq
        obtain ⟨letters, rfl⟩ := exists_of_scanString hstring
        exact .of_text (s := .string letters) (by rw [hquote]; rfl)
      · obtain ⟨⟨n, _⟩, hscan, heq⟩ := map_eq_ok_iff.mp h
        obtain ⟨-, rfl⟩ := Prod.mk.inj heq
        obtain ⟨⟨numeral, _⟩, hnumeral, hvalue⟩ := bind_eq_ok_iff.mp hscan
        obtain ⟨_, -, hresult⟩ := bind_eq_ok_iff.mp hvalue
        obtain ⟨-, rfl⟩ := Prod.mk.inj (Except.ok.inj hresult)
        obtain ⟨figures, hfigures⟩ := exists_of_scanNumeral hnumeral
        exact .of_text (s := .numeral figures) hfigures

/-! ### Items -/

/-- The text of items up to the closing bracket. -/
def ItemsTo (first : Bool) (text rest : List Char) : Prop :=
  ∃ (gap : Gap) (items : List (Item Source)) (last : Gap),
    text = gap.text ++ (itemsText first items ++ (last.text ++ ']' :: rest))

/-- The text of members up to the closing brace. -/
def MembersTo (first : Bool) (text rest : List Char) : Prop :=
  ∃ (gap : Gap) (members : List (Member Source)) (last : Gap),
    text = gap.text ++ (membersText first members ++ (last.text ++ '}' :: rest))

/-- A value and the items behind it are items. -/
theorem ItemsTo.cons (gap before : Gap) (first : Bool) {text behind rest : List Char}
    (h : Starts text behind) (hitems : ItemsTo false behind rest) :
  ItemsTo first (gap.text ++ (comma first ++ (before.text ++ text))) rest
  := by
  obtain ⟨gap', s, rfl⟩ := h
  obtain ⟨after, items, last, rfl⟩ := hitems
  refine ⟨gap, ⟨before ++ gap', s, after⟩ :: items, last, ?_⟩
  rw [itemsText_cons]
  simp only [Gap.text, List.map_append, List.append_assoc]

theorem ItemsTo.nil (gap : Gap) (first : Bool) (rest : List Char) :
  ItemsTo first (gap.text ++ ']' :: rest) rest
  := ⟨gap, [], [], rfl⟩

/-- An entry of an array stands behind a comma, unless it is the first one. -/
theorem eq_of_nextItem_entry {first : Bool} {text entry : List Char}
    (h : nextItem first text = .ok (.entry entry)) :
  ∃ gap before : Gap, text = gap.text ++ (comma first ++ (before.text ++ entry))
  := by
  obtain ⟨gap, hgap⟩ := exists_gap text
  refine ⟨gap, ?_⟩
  rw [nextItem] at h
  cases hskip : skipBlanks text with
  | nil =>
      rw [hskip] at h
      cases h
  | cons c behind =>
      rw [hskip] at hgap h
      dsimp only at h
      split_ifs at h with hclosing hfirst hcomma
      · cases h
      · obtain rfl := Next.entry.inj (Except.ok.inj h)
        exact ⟨[], by rw [hgap, hfirst]; rfl⟩
      · obtain ⟨before, hbefore⟩ := exists_gap behind
        cases hbehind : skipBlanks behind with
        | nil =>
            rw [hbehind] at h
            cases h
        | cons d after =>
            rw [hbehind] at hbefore h
            dsimp only at h
            split_ifs at h
            obtain rfl := Next.entry.inj (Except.ok.inj h)
            refine ⟨before, ?_⟩
            rw [hgap, hcomma, hbefore, comma, if_neg hfirst]
            rfl

theorem eq_of_nextItem_closing {first : Bool} {text rest : List Char}
    (h : nextItem first text = .ok (.closing rest)) :
  ∃ gap : Gap, text = gap.text ++ ']' :: rest
  := by
  obtain ⟨gap, hgap⟩ := exists_gap text
  refine ⟨gap, ?_⟩
  rw [nextItem] at h
  cases hskip : skipBlanks text with
  | nil =>
      rw [hskip] at h
      cases h
  | cons c behind =>
      rw [hskip] at hgap h
      dsimp only at h
      split_ifs at h with hclosing hfirst hcomma
      · obtain rfl := Next.closing.inj (Except.ok.inj h)
        rw [hgap, hclosing]
      · cases h
      · split at h
        · cases h
        · split_ifs at h
          cases h

/-- What is read item by item are items. -/
theorem itemsTo_of_itemsFrom {scan : Scan α} (hscan : TakesValue scan) {budget : Nat}
    {first : Bool} {before values : List α} {text rest : List Char}
    (h : itemsFrom scan budget first before text = .ok (values, rest)) :
  ItemsTo first text rest
  := by
  induction budget generalizing first before text with
  | zero => cases h
  | succ budget ih =>
      rw [itemsFrom] at h
      cases hnext : nextItem first text with
      | error fault =>
          rw [hnext] at h
          cases h
      | ok next =>
          rw [hnext] at h
          cases next with
          | closing behind =>
              obtain ⟨-, rfl⟩ := Prod.mk.inj (Except.ok.inj h)
              obtain ⟨gap, rfl⟩ := eq_of_nextItem_closing hnext
              exact .nil gap first behind
          | entry entry =>
              dsimp only at h
              cases hitem : scan entry with
              | error fault =>
                  rw [hitem] at h
                  cases h
              | ok result =>
                  rw [hitem] at h
                  obtain ⟨gap, before', rfl⟩ := eq_of_nextItem_entry hnext
                  exact .cons gap before' first (hscan entry _ _ hitem) (ih h)

/-! ### Members -/

/-- A member and the members behind it are members. -/
theorem MembersTo.cons (gap before colon : Gap) (first : Bool) (letters : List Letter)
    {text behind rest : List Char} (h : Starts text behind)
    (hmembers : MembersTo false behind rest) :
  MembersTo first (gap.text ++ (comma first ++ (before.text ++ '"' :: (literalText letters
    ++ (colon.text ++ ':' :: text))))) rest
  := by
  obtain ⟨gap', s, rfl⟩ := h
  obtain ⟨after, members, last, rfl⟩ := hmembers
  refine ⟨gap, ⟨before, letters, colon, gap', s, after⟩ :: members, last, ?_⟩
  rw [membersText_cons]
  simp only [Member.text, List.append_assoc, List.cons_append]

theorem MembersTo.nil (gap : Gap) (first : Bool) (rest : List Char) :
  MembersTo first (gap.text ++ '}' :: rest) rest
  := ⟨gap, [], [], rfl⟩

/-- A member of an object stands behind a comma, unless it is the first one. -/
theorem eq_of_nextMember_entry {first : Bool} {text entry : List Char}
    (h : nextMember first text = .ok (.entry entry)) :
  ∃ gap before : Gap, text = gap.text ++ (comma first ++ (before.text ++ '"' :: entry))
  := by
  obtain ⟨gap, hgap⟩ := exists_gap text
  refine ⟨gap, ?_⟩
  rw [nextMember] at h
  cases hskip : skipBlanks text with
  | nil =>
      rw [hskip] at h
      cases h
  | cons c behind =>
      rw [hskip] at hgap h
      dsimp only at h
      split_ifs at h with hclosing hfirst hquote hcomma
      · cases h
      · obtain rfl := Next.entry.inj (Except.ok.inj h)
        exact ⟨[], by rw [hgap, hfirst, hquote]; rfl⟩
      · obtain ⟨before, hbefore⟩ := exists_gap behind
        cases hbehind : skipBlanks behind with
        | nil =>
            rw [hbehind] at h
            cases h
        | cons d after =>
            rw [hbehind] at hbefore h
            dsimp only at h
            split_ifs at h with hquote
            obtain rfl := Next.entry.inj (Except.ok.inj h)
            refine ⟨before, ?_⟩
            rw [hgap, hcomma, hbefore, hquote, comma, if_neg hfirst]
            rfl

theorem eq_of_nextMember_closing {first : Bool} {text rest : List Char}
    (h : nextMember first text = .ok (.closing rest)) :
  ∃ gap : Gap, text = gap.text ++ '}' :: rest
  := by
  obtain ⟨gap, hgap⟩ := exists_gap text
  refine ⟨gap, ?_⟩
  rw [nextMember] at h
  cases hskip : skipBlanks text with
  | nil =>
      rw [hskip] at h
      cases h
  | cons c behind =>
      rw [hskip] at hgap h
      dsimp only at h
      split_ifs at h with hclosing hfirst hquote hcomma
      · obtain rfl := Next.closing.inj (Except.ok.inj h)
        rw [hgap, hclosing]
      · cases h
      · split at h
        · cases h
        · split_ifs at h
          cases h

theorem eq_of_afterKey {text rest : List Char} (h : afterKey text = .ok rest) :
  ∃ colon : Gap, text = colon.text ++ ':' :: rest
  := by
  obtain ⟨colon, hcolon⟩ := exists_gap text
  refine ⟨colon, ?_⟩
  rw [afterKey] at h
  cases hskip : skipBlanks text with
  | nil =>
      rw [hskip] at h
      cases h
  | cons c behind =>
      rw [hskip] at hcolon h
      dsimp only at h
      split_ifs at h with hc
      obtain rfl := Except.ok.inj h
      rw [hcolon, hc]

/-- What is read member by member are members. -/
theorem membersTo_of_membersFrom {scan : Scan α} (hscan : TakesValue scan) {budget : Nat}
    {first : Bool} {before values : List (String × α)} {text rest : List Char}
    (h : membersFrom scan budget first before text = .ok (values, rest)) :
  MembersTo first text rest
  := by
  induction budget generalizing first before text with
  | zero => cases h
  | succ budget ih =>
      rw [membersFrom] at h
      cases hnext : nextMember first text with
      | error fault =>
          rw [hnext] at h
          cases h
      | ok next =>
          rw [hnext] at h
          cases next with
          | closing behind =>
              obtain ⟨-, rfl⟩ := Prod.mk.inj (Except.ok.inj h)
              obtain ⟨gap, rfl⟩ := eq_of_nextMember_closing hnext
              exact .nil gap first behind
          | entry entry =>
              dsimp only at h
              cases hmember : scanMember scan entry with
              | error fault =>
                  rw [hmember] at h
                  cases h
              | ok result =>
                  rw [hmember] at h
                  obtain ⟨gap, before', rfl⟩ := eq_of_nextMember_entry hnext
                  obtain ⟨⟨key, _⟩, hkey, hmember⟩ := bind_eq_ok_iff.mp hmember
                  obtain ⟨_, hcolon, hmember⟩ := bind_eq_ok_iff.mp hmember
                  obtain ⟨⟨value, _⟩, hvalue, hmember⟩ := bind_eq_ok_iff.mp hmember
                  obtain rfl := Except.ok.inj hmember
                  obtain ⟨letters, rfl⟩ := exists_of_scanString hkey
                  obtain ⟨colon, rfl⟩ := eq_of_afterKey hcolon
                  exact .cons gap before' colon first letters (hscan _ _ _ hvalue) (ih h)

/-! ### Arrays and objects -/

theorem ItemsTo.starts {text rest : List Char} (h : ItemsTo true text rest) :
  Starts ('[' :: text) rest
  := by
  obtain ⟨gap, items, last, rfl⟩ := h
  cases items with
  | nil =>
      refine .of_text (s := .array [] (gap ++ last)) ?_
      rw [Source.text_array_append]
      simp only [itemsText, List.nil_append, Gap.text, List.map_append, List.append_assoc]
  | cons item items =>
      refine .of_text (s := .array ({ item with before := gap ++ item.before } :: items) last) ?_
      rw [Source.text_array_append, itemsText_cons, itemsText_cons]
      simp only [comma, if_true, List.nil_append, Gap.text, List.map_append, List.append_assoc]

theorem MembersTo.starts {text rest : List Char} (h : MembersTo true text rest) :
  Starts ('{' :: text) rest
  := by
  obtain ⟨gap, members, last, rfl⟩ := h
  cases members with
  | nil =>
      refine .of_text (s := .object [] (gap ++ last)) ?_
      rw [Source.text_object_append]
      simp only [membersText, List.nil_append, Gap.text, List.map_append, List.append_assoc]
  | cons m members =>
      refine .of_text (s := .object ({ m with before := gap ++ m.before } :: members) last) ?_
      rw [Source.text_object_append, membersText_cons, membersText_cons]
      simp only [Member.text, comma, if_true, List.nil_append, Gap.text, List.map_append,
        List.append_assoc]

/-! ### Readers -/

/-- What a reader takes is a value. -/
def Accepts (reader : Reader α) : Prop := ∀ room, TakesValue (reader room)

/-- The reader of values takes a value if the one of what stands inside it does. -/
theorem takesValue_scanValue {length : Nat} {inner : Option (Scan Json)}
    (hinner : ∀ scan ∈ inner, TakesValue scan) :
  TakesValue (scanValue length inner)
  := by
  intro text v rest h
  apply Starts.of_skipBlanks
  rw [scanValue] at h
  cases hskip : skipBlanks text with
  | nil =>
      rw [hskip] at h
      cases h
  | cons c behind =>
      rw [hskip] at h
      dsimp only at h
      split_ifs at h with harray hobject
      · subst harray
        cases inner with
        | none => cases h
        | some scan =>
            obtain ⟨⟨items, _⟩, hitems, hresult⟩ := map_eq_ok_iff.mp h
            obtain ⟨-, rfl⟩ := Prod.mk.inj hresult
            exact (itemsTo_of_itemsFrom (hinner scan rfl) hitems).starts
      · subst hobject
        cases inner with
        | none => cases h
        | some scan =>
            obtain ⟨⟨members, _⟩, hmembers, hresult⟩ := map_eq_ok_iff.mp h
            obtain ⟨-, rfl⟩ := Prod.mk.inj hresult
            exact (membersTo_of_membersFrom (hinner scan rfl) hmembers).starts
      · exact starts_of_scanScalar h

theorem accepts_readValue :
  Accepts readValue
  := by
  rintro ⟨nesting, length⟩
  induction nesting with
  | zero =>
      rw [readValue_eq]
      apply takesValue_scanValue
      rintro scan ⟨⟩
  | succ nesting ih =>
      rw [readValue_eq]
      apply takesValue_scanValue
      rintro scan ⟨⟩
      exact ih

theorem accepts_readString :
  Accepts readString
  := by
  intro room text s rest h
  apply Starts.of_skipBlanks
  rw [readString] at h
  split at h
  · rename_i text' heq
    obtain ⟨letters, rfl⟩ := exists_of_scanString h
    exact .of_text (s := .string letters) (by rw [heq]; rfl)
  · cases h

theorem accepts_readBool :
  Accepts readBool
  := by
  intro room text b rest h
  apply Starts.of_skipBlanks
  rw [readBool] at h
  split at h
  · rename_i text' heq
    obtain ⟨_, hword, hresult⟩ := map_eq_ok_iff.mp h
    obtain ⟨-, rfl⟩ := Prod.mk.inj hresult
    exact .of_text (s := .bool true) (by rw [heq, eq_append_of_expectWord hword]; rfl)
  · rename_i text' heq
    obtain ⟨_, hword, hresult⟩ := map_eq_ok_iff.mp h
    obtain ⟨-, rfl⟩ := Prod.mk.inj hresult
    exact .of_text (s := .bool false) (by rw [heq, eq_append_of_expectWord hword]; rfl)
  · cases h

theorem Accepts.optional {reader : Reader α} (h : Accepts reader) :
  Accepts (readOptional reader)
  := by
  intro room text b rest hread
  apply Starts.of_skipBlanks
  rw [readOptional] at hread
  split at hread
  · rename_i text' heq
    obtain ⟨_, hword, hresult⟩ := map_eq_ok_iff.mp hread
    obtain ⟨-, rfl⟩ := Prod.mk.inj hresult
    exact .of_text (s := .null) (by rw [heq, eq_append_of_expectWord hword]; rfl)
  · obtain ⟨⟨a, _⟩, hvalue, hresult⟩ := map_eq_ok_iff.mp hread
    obtain ⟨-, rfl⟩ := Prod.mk.inj hresult
    exact h room _ _ _ hvalue

theorem Accepts.list {item : Reader α} (h : Accepts item) :
  Accepts (readList item)
  := by
  rintro ⟨nesting, length⟩ text values rest hread
  apply Starts.of_skipBlanks
  rw [readList] at hread
  split at hread
  · rename_i text' heq
    rw [heq]
    cases nesting with
    | zero => cases hread
    | succ nesting =>
        apply ItemsTo.starts
        exact itemsTo_of_itemsFrom (h ⟨nesting, length⟩) hread
  · cases hread

end Json

end RecordSchema
