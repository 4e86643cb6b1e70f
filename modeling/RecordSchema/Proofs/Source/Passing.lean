import RecordSchema.Json.Reader.Pass
import RecordSchema.Proofs.Source.Entries

/-!
# Passing over values

Every value is passed over to its end, whatever its numerals and literals stand for and however
deep its arrays and objects are nested. Each sign that opens, closes or stands for a value is one
step, so there are no more steps than characters.
-/

namespace RecordSchema

namespace Json

/-- Pass over the rest of what is open, from behind a value. -/
def resume (budget : Nat) (opened : List Enclosing) (text : List Char) :
    Except Fault (List Char) :=
  match following opened text with
  | .error fault => .error fault
  | .ok next => passFrom budget next

/-- A value is passed over in no more steps than it has characters. -/
def Passes (s : Source) : Prop :=
  ∃ cost ≤ s.text.length, ∀ (budget : Nat) (opened : List Enclosing) (gap : Gap)
    (rest : List Char), EndsNumeral rest →
    passFrom (budget + cost) (.value opened (gap.text ++ (s.text ++ rest)))
      = resume budget opened rest

/-! ### Scalars -/

/-- A value that is neither array nor object is passed over in one step. -/
theorem Passes.scalar {s : Source} (hstart : ∀ rest after,
      s.text ++ rest ≠ '[' :: after ∧ s.text ++ rest ≠ '{' :: after)
    (h : ∀ rest, EndsNumeral rest → passScalar (s.text ++ rest) = .ok rest) :
  Passes s
  := by
  obtain ⟨c, after, htext, -⟩ := s.exists_text_eq
  refine ⟨1, by simp [htext], ?_⟩
  intro budget opened gap rest hrest
  have hpass := h rest hrest
  obtain ⟨harray, hobject⟩ := hstart rest (after ++ rest)
  rw [htext, List.cons_append] at harray hobject hpass
  have hc : c ≠ '[' := fun heq => harray (by rw [heq])
  have hc' : c ≠ '{' := fun heq => hobject (by rw [heq])
  rw [passFrom, passStart, skipBlanks_gap, skipBlanks_source, htext, List.cons_append]
  simp only [if_neg hc, if_neg hc', hpass]
  rfl

theorem passScalar_figures (figures : Figures) {rest : List Char} (hrest : EndsNumeral rest) :
  passScalar (figures.text ++ rest) = .ok rest
  := by
  obtain ⟨c, after, htext, hc⟩ := figures.exists_text_eq
  have hne (d : Char) (hminus : d ≠ '-') (hdigit : d.isDigit = false) : c ≠ d := by
    rintro rfl
    exact figures.text_append_ne [] hminus hdigit after (by rw [htext, List.append_nil])
  have hnumeral := figures.scanNumeral_text .invalidNumber hrest
  rw [htext, List.cons_append] at hnumeral ⊢
  rw [passScalar, if_neg (hne 'n' (by decide) (by decide)),
    if_neg (hne 't' (by decide) (by decide)), if_neg (hne 'f' (by decide) (by decide)),
    if_neg (hne '"' (by decide) (by decide)), if_pos hc, hnumeral]
  rfl

/-! ### Entries -/

/-- How the entries of an array or object are written: each up to the end of its value, white space
behind it, and as a list in which each stands behind a comma. -/
structure Entries (e : Enclosing) (β : Type) where
  entry : β → List Char
  value : β → Source
  after : β → Gap
  text : List β → List Char
  text_nil : text [] = []
  text_cons : ∀ b bs, text (b :: bs) = ',' :: (entry b ++ ((after b).text ++ text bs))
  exists_value : ∀ b rest, ∃ gap : Gap,
    e.value (entry b ++ rest) = .ok (gap.text ++ ((value b).text ++ rest))
  length_value : ∀ b, (value b).text.length ≤ (entry b).length

namespace Entries

variable {β : Type} {e : Enclosing} (entries : Entries e β)

/-- A number in front of further entries ends there. -/
theorem endsNumeral (bs : List β) (last : Gap) (rest : List Char) :
  EndsNumeral (entries.text bs ++ (last.text ++ e.closing :: rest))
  := by
  cases bs with
  | nil =>
      rw [entries.text_nil]
      apply endsNumeral_gap
      rintro c ⟨⟩
      cases e with
      | array => decide
      | object => decide
  | cons b bs =>
      rw [entries.text_cons]
      apply endsNumeral_comma

/-- The entries behind the first one are passed over up to the closing bracket, and so is the
bracket. -/
theorem resume_text {bs : List β} (h : ∀ b ∈ bs, Passes (entries.value b)) :
  ∃ cost ≤ (entries.text bs).length, ∀ (budget : Nat) (opened : List Enclosing) (gap last : Gap)
    (rest : List Char),
    resume (budget + cost + 1) (e :: opened)
        (gap.text ++ (entries.text bs ++ (last.text ++ e.closing :: rest)))
      = resume budget opened rest
  := by
  have hclosing (rest : List Char) : skipBlanks (e.closing :: rest) = e.closing :: rest := by
    apply skipBlanks_cons
    cases e with
    | array => decide
    | object => decide
  have hcomma : e.closing ≠ ',' := by
    cases e with
    | array => decide
    | object => decide
  induction bs with
  | nil =>
      refine ⟨0, Nat.zero_le _, ?_⟩
      intro budget opened gap last rest
      rw [entries.text_nil, List.nil_append, resume, following, skipBlanks_gap, skipBlanks_gap,
        hclosing]
      simp only [if_neg hcomma, if_true, passFrom]
      rfl
  | cons b bs ih =>
      obtain ⟨hb, hbs⟩ := List.forall_mem_cons.mp h
      obtain ⟨cost, hcost, hpass⟩ := hb
      obtain ⟨costs, hcosts, hrest⟩ := ih hbs
      refine ⟨costs + cost, ?_, ?_⟩
      · have := entries.length_value b
        simp only [entries.text_cons, List.length_cons, List.length_append]
        omega
      · intro budget opened gap last rest
        obtain ⟨gap', hvalue⟩ := entries.exists_value b
          ((entries.after b).text ++ (entries.text bs ++ (last.text ++ e.closing :: rest)))
        have hbudget : budget + (costs + cost) + 1 = budget + costs + 1 + cost := by omega
        rw [resume, following, skipBlanks_gap, entries.text_cons]
        simp only [List.cons_append, List.append_assoc]
        rw [skipBlanks_cons (by decide)]
        simp only [if_true, hvalue, Except.map]
        rw [hbudget, hpass _ _ _ _ (endsNumeral_gap _ (entries.endsNumeral bs last rest)), hrest]

/-- An array or object is passed over if its entries are: `hstart` says where the value of the first
one stands. -/
theorem passes {s : Source} (b : β) (bs : List β) (last : Gap)
    (hlength : (entries.value b).text.length + (entries.text bs).length + 2 ≤ s.text.length)
    (hstart : ∀ opened (gap : Gap) rest, ∃ gap' : Gap,
      passStart opened (gap.text ++ (s.text ++ rest))
        = .ok (.value (e :: opened) (gap'.text ++ ((entries.value b).text
          ++ ((entries.after b).text ++ (entries.text bs ++ (last.text ++ e.closing :: rest)))))))
    (h : ∀ b' ∈ b :: bs, Passes (entries.value b')) :
  Passes s
  := by
  obtain ⟨⟨cost, hcost, hpass⟩, hbs⟩ := List.forall_mem_cons.mp h
  obtain ⟨costs, hcosts, hresume⟩ := entries.resume_text hbs
  refine ⟨cost + costs + 2, by omega, ?_⟩
  intro budget opened gap rest hrest
  obtain ⟨gap', hvalue⟩ := hstart opened gap rest
  have hbudget : budget + (cost + costs + 2) = budget + costs + 1 + cost + 1 := by omega
  rw [hbudget, passFrom]
  simp only [hvalue]
  rw [hpass _ _ _ _ (endsNumeral_gap _ (entries.endsNumeral bs last rest)), hresume]

end Entries

/-! ### Arrays and objects -/

/-- The value of a member stands behind its key. -/
theorem exists_value_member (m : Member Source) (rest : List Char) :
  ∃ gap : Gap, Enclosing.object.value ((m.before.text ++ '"' :: m.text) ++ rest)
    = .ok (gap.text ++ (m.value.text ++ rest))
  := by
  refine ⟨m.gap, ?_⟩
  have hkey := passString_literal m.letters
    (m.colon.text ++ (':' :: (m.gap.text ++ (m.value.text ++ rest))))
  simp only [Member.text, List.append_assoc, List.cons_append]
  rw [Enclosing.value, skipBlanks_gap, skipBlanks_cons (by decide)]
  simp only [bind, Except.bind]
  cases hpass : passString (literalText m.letters
      ++ (m.colon.text ++ (':' :: (m.gap.text ++ (m.value.text ++ rest))))) with
  | error fault =>
      rw [hpass] at hkey
      cases hkey
  | ok result =>
      rw [hpass] at hkey
      obtain ⟨s, after⟩ := result
      obtain rfl : after = _ := Except.ok.inj hkey
      exact afterKey_colon _ _

theorem length_value_member (m : Member Source) :
  m.value.text.length ≤ (m.before.text ++ '"' :: m.text).length
  := by
  simp only [Member.text, List.length_append, List.length_cons]
  omega

/-- The items of an array as its entries. -/
def itemEntries : Entries .array (Item Source) where
  entry item := item.before.text ++ item.value.text
  value := Item.value
  after := Item.after
  text := itemsText false
  text_nil := rfl
  text_cons := by
    intro item rest
    simp only [itemsText, comma, List.append_assoc, if_neg Bool.false_ne_true,
      List.singleton_append]
  exists_value := by
    intro item rest
    exact ⟨item.before, by rw [List.append_assoc]; rfl⟩
  length_value := by
    intro item
    simp only [List.length_append, Nat.le_add_left]

/-- The members of an object as its entries. -/
def memberEntries : Entries .object (Member Source) where
  entry m := m.before.text ++ '"' :: m.text
  value := Member.value
  after := Member.after
  text := membersText false
  text_nil := rfl
  text_cons := by
    intro m rest
    simp only [membersText, Member.text, comma, List.append_assoc, if_neg Bool.false_ne_true,
      List.nil_append, List.cons_append]
  exists_value := exists_value_member
  length_value := length_value_member

theorem Passes.array {items : List (Item Source)} (last : Gap)
    (h : ∀ item ∈ items, Passes item.value) :
  Passes (.array items last)
  := by
  cases items with
  | nil =>
      refine ⟨2, by simp [Source.text, itemsText], ?_⟩
      intro budget opened gap rest hrest
      rw [passFrom, passStart, skipBlanks_gap, skipBlanks_source, Source.text_array_append]
      simp only [itemsText, List.nil_append, if_true]
      rw [opening, skipBlanks_gap, skipBlanks_cons (by decide)]
      rfl
  | cons item items =>
      refine itemEntries.passes item items last ?_ ?_ h
      · simp only [itemEntries, Source.text, itemsText, List.length_cons, List.length_append,
          List.length_nil]
        omega
      · intro opened gap rest
        obtain ⟨c, after, htext, hc, hclosing, -⟩ := item.value.exists_text_eq
        refine ⟨[], ?_⟩
        rw [passStart, skipBlanks_gap, skipBlanks_source, Source.text_array_append, itemsText_cons]
        simp only [if_true, comma, List.nil_append]
        rw [opening, skipBlanks_gap, skipBlanks_source, htext]
        simp only [itemEntries, htext, List.cons_append, Enclosing.closing, hclosing, if_false,
          Enclosing.value, Except.map, Gap.text_nil, List.nil_append]

theorem Passes.object {members : List (Member Source)} (last : Gap)
    (h : ∀ m ∈ members, Passes m.value) :
  Passes (.object members last)
  := by
  cases members with
  | nil =>
      refine ⟨2, by simp [Source.text, membersText], ?_⟩
      intro budget opened gap rest hrest
      rw [passFrom, passStart, skipBlanks_gap, skipBlanks_source, Source.text_object_append]
      simp only [membersText, List.nil_append, if_true]
      rw [if_neg (by decide), opening, skipBlanks_gap, skipBlanks_cons (by decide)]
      rfl
  | cons m members =>
      refine memberEntries.passes m members last ?_ ?_ h
      · simp only [memberEntries, Source.text, membersText, List.length_cons, List.length_append,
          List.length_nil]
        omega
      · intro opened gap rest
        obtain ⟨gap', hvalue⟩ := exists_value_member { m with before := [] }
          (m.after.text ++ (membersText false members ++ (last.text ++ '}' :: rest)))
        refine ⟨gap', ?_⟩
        rw [passStart, skipBlanks_gap, skipBlanks_source, Source.text_object_append,
          membersText_cons]
        simp only [if_true, comma, List.nil_append]
        rw [if_neg (by decide), opening, skipBlanks_gap, skipBlanks_cons (by decide)]
        simp only [Enclosing.closing, show '"' ≠ '}' by decide, if_false]
        have hentry := congrArg (Except.map (Following.value (.object :: opened))) hvalue
        simp only [Gap.text_nil, List.nil_append, List.cons_append] at hentry
        exact hentry

/-- Every value is passed over. -/
theorem passes (s : Source) :
  Passes s
  := by
  induction s using sourceInduction with
  | null => exact .scalar (fun _ _ => ⟨nofun, nofun⟩) fun _ _ => rfl
  | bool b =>
      cases b with
      | true => exact .scalar (fun _ _ => ⟨nofun, nofun⟩) fun _ _ => rfl
      | false => exact .scalar (fun _ _ => ⟨nofun, nofun⟩) fun _ _ => rfl
  | numeral figures =>
      apply Passes.scalar
      · intro rest after
        exact ⟨figures.text_append_ne rest (by decide) (by decide) after,
          figures.text_append_ne rest (by decide) (by decide) after⟩
      · intro rest hrest
        exact passScalar_figures figures hrest
  | string letters =>
      apply Passes.scalar
      · exact fun _ _ => ⟨nofun, nofun⟩
      · exact fun rest _ => passString_literal letters rest
  | array items last ih => exact .array last ih
  | object members last ih => exact .object last ih

/-- Where there is room for a value it is passed over. -/
theorem passValue_text (s : Source) {length : Nat} (hlength : s.text.length ≤ length) (gap : Gap)
    {rest : List Char} (hrest : EndsNumeral rest) :
  passValue length (gap.text ++ (s.text ++ rest)) = .ok rest
  := by
  obtain ⟨cost, hcost, hpass⟩ := passes s
  obtain ⟨budget, hbudget⟩ := Nat.exists_eq_add_of_le (hcost.trans hlength)
  rw [passValue, show length + 1 = budget + 1 + cost by omega, hpass _ _ _ _ hrest]
  rfl

end Json

end RecordSchema
