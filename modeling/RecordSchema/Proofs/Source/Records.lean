import RecordSchema.Json.Reader.Record
import RecordSchema.Proofs.Source.Passing
import RecordSchema.Proofs.Source.Readers
import Mathlib.Data.Finset.Insert

/-!
# What records are read from

A record is taken from the members of an object one by one: a member whose key is that of a slot
changes the record, and is refused if the slot has been given before; another member leaves the
record as it is. In the end no required slot may be missing. From an array, a record is taken slot
by slot.
-/

namespace RecordSchema

namespace Json

variable {α β : Type}

/-- A slot takes the content that its reader takes, and stores it. -/
theorem Slot.takes_make {reader : Reader β} {nesting : Nat} {s : Source} {content : Option β}
    (h : Takes reader nesting s content) (key : String) (required : Bool)
    (store : β → α → α) :
  Takes (Slot.make key required reader store).read nesting s (content.map store)
  := by
  intro length hlength gap rest hrest
  simp only [Slot.make, toOption_map, h length hlength gap rest hrest, Option.map_map]
  rfl

theorem Settled.make {reader : Reader β} (h : Settled reader) (key : String) (required : Bool)
    (store : β → α → α) :
  Settled (Slot.make key required reader store).read
  := fun nesting s => ⟨_, Slot.takes_make (h.takes nesting s) key required store⟩

namespace RecordFormat

variable (format : RecordFormat α) (nesting : Nat)

/-! ### From objects -/

/-- The keys that have been given and the record, after a further member. -/
def fill (state : Finset String × α) (m : Member Source) : Option (Finset String × α) :=
  m.key?.bind fun key =>
    match format.slot? key with
    | none => some state
    | some slot =>
      if key ∈ state.1 then none
      else (taken slot.read nesting m.value).map fun change =>
        (insert key state.1, change state.2)

/-- The record, if no required slot is missing. -/
def finish (state : Finset String × α) : Option α :=
  if ∀ slot ∈ format.slots, slot.required = true → slot.key ∈ state.1 then some state.2 else none

/-- The record that members give. -/
def ofMembers? (members : List (Member Source)) : Option α :=
  (members.foldlM (format.fill nesting) (∅, format.initial)).bind format.finish

/-! ### From arrays -/

/-- The record that items give for the slots that remain. -/
def ofItems? : List (Slot α) → List (Item Source) → α → Option α
  | [], [], record => some record
  | [], _ :: _, _ => none
  | slots@(_ :: _), [], record =>
    if ∀ slot ∈ slots, slot.required = false then some record else none
  | slot :: slots, item :: items, record =>
    (taken slot.read nesting item.value).bind fun change => ofItems? slots items (change record)

/-! ### Reading members -/

variable {format} {nesting}

theorem finish_toFinset (given : List String) (record : α) :
  format.finish (given.toFinset, record)
    = if format.missing? given = none then some record else none
  := by
  have hiff : (∀ slot ∈ format.slots, slot.required = true → slot.key ∈ given.toFinset)
      ↔ format.missing? given = none := by
    rw [missing?, Option.map_eq_none_iff, List.find?_eq_none]
    simp
  rw [finish]
  simp only [hiff]

/-- A member fills a slot of the record or leaves it as it is. -/
theorem member_text (nesting : Nat) (hslots : ∀ slot ∈ format.slots, Settled slot.read)
    {length : Nat} (m : Member Source) (hlength : m.value.text.length ≤ length)
    (given : List String) (record : α) {rest : List Char} (hrest : EndsNumeral rest) :
  (format.member ⟨nesting, length⟩ given record (m.text ++ rest)).toOption.map
      (fun result => ((result.1.1.toFinset, result.1.2), result.2))
    = (format.fill nesting (given.toFinset, record) m).map fun state => (state, rest)
  := by
  have hkey := scanString_literal m.letters
    (m.colon.text ++ (':' :: (m.gap.text ++ (m.value.text ++ rest))))
  have htext : m.text ++ rest = literalText m.letters
      ++ (m.colon.text ++ (':' :: (m.gap.text ++ (m.value.text ++ rest)))) := by
    simp only [Member.text, List.append_assoc, List.cons_append]
  rw [htext, member, fill, Member.key?]
  cases hstring : Letter.string? m.letters with
  | none =>
      rw [hstring] at hkey
      obtain ⟨fault, hscan⟩ := toOption_eq_none.mp hkey
      rw [hscan]
      rfl
  | some key =>
      rw [hstring] at hkey
      have hscan := toOption_eq_some.mp hkey
      simp only [hscan, bind, Except.bind, Option.bind]
      cases hslot : format.slot? key with
      | none =>
          simp only [afterKey_colon, passValue_text m.value hlength m.gap hrest]
          rfl
      | some slot =>
          by_cases hgiven : key ∈ given
          · simp [hgiven]
          · have hread := (hslots slot (List.mem_of_find?_eq_some hslot)).takes nesting m.value
              length hlength m.gap rest hrest
            simp only [List.contains_eq_mem, hgiven, decide_false, Bool.false_eq_true, if_false,
              List.mem_toFinset, afterKey_colon]
            cases htaken : taken slot.read nesting m.value with
            | none =>
                rw [htaken] at hread
                obtain ⟨fault, hfault⟩ := toOption_eq_none.mp hread
                rw [hfault]
                rfl
            | some change =>
                rw [htaken] at hread
                have hok := toOption_eq_some.mp hread
                rw [hok]
                simp [pure, Except.pure]

/-- Members are read one by one, up to the brace. -/
theorem fromMembers_membersText (nesting : Nat)
    (hslots : ∀ slot ∈ format.slots, Settled slot.read) {length : Nat}
    {members : List (Member Source)} (hlength : ∀ m ∈ members, m.value.text.length ≤ length)
    {budget : Nat}
    (hbudget : members.length < budget) (first : Bool) (given : List String) (record : α)
    (gap last : Gap) (rest : List Char) :
  (format.fromMembers ⟨nesting, length⟩ budget first given record
      (gap.text ++ (membersText first members ++ (last.text ++ '}' :: rest)))).toOption
    = ((members.foldlM (format.fill nesting) (given.toFinset, record)).bind format.finish).map
      fun record => (record, rest)
  := by
  induction members generalizing budget first given record gap with
  | nil =>
      obtain ⟨budget, rfl⟩ := Nat.exists_eq_add_one.mpr hbudget
      rw [membersText, List.nil_append, fromMembers, nextMember_last]
      simp only [List.foldlM_nil, pure, Option.bind, finish_toFinset]
      cases format.missing? given with
      | none => rfl
      | some key => rfl
  | cons m members ih =>
      obtain ⟨hm, hmembers⟩ := List.forall_mem_cons.mp hlength
      obtain ⟨budget, rfl⟩ := Nat.exists_eq_add_one.mpr (Nat.zero_lt_of_lt hbudget)
      have hread := member_text nesting hslots m hm given record
        (endsNumeral_gap m.after (endsNumeral_members members last rest))
      rw [membersText_cons, fromMembers, nextMember_member]
      simp only [List.foldlM_cons]
      cases hfill : format.fill nesting (given.toFinset, record) m with
      | none =>
          rw [hfill, Option.map_none, Option.map_eq_none_iff] at hread
          obtain ⟨fault, hscan⟩ := toOption_eq_none.mp hread
          simp only [hscan]
          rfl
      | some state =>
          rw [hfill, Option.map_some, Option.map_eq_some_iff] at hread
          obtain ⟨⟨⟨given', record'⟩, rest'⟩, hscan, heq⟩ := hread
          obtain ⟨rfl, rfl⟩ := Prod.mk.inj heq
          simp only [toOption_eq_some.mp hscan]
          rw [ih hmembers (by simpa using hbudget)]
          rfl

/-! ### Reading items -/

/-- The text behind the last slot of a record is that of the closing bracket. -/
theorem afterElements_itemsText (gap last : Gap) (first : Bool) (items : List (Item Source))
    (rest : List Char) :
  (afterElements (gap.text ++ (itemsText first items ++ (last.text ++ ']' :: rest)))).toOption
    = if items = [] then some rest else none
  := by
  cases items with
  | nil =>
      rw [itemsText, List.nil_append, afterElements, skipBlanks_gap, skipBlanks_gap]
      rfl
  | cons item items =>
      obtain ⟨c, after, htext, hc, hclosing, -⟩ := item.value.exists_text_eq
      have hne : ∀ after, skipBlanks (gap.text
          ++ (itemsText first (item :: items) ++ (last.text ++ ']' :: rest))) ≠ ']' :: after := by
        intro after
        rw [skipBlanks_gap, itemsText_cons]
        cases first with
        | true =>
            rw [comma, if_pos rfl, List.nil_append, skipBlanks_gap, skipBlanks_source, htext]
            rintro ⟨⟩
            exact hclosing rfl
        | false =>
            rw [comma, if_neg Bool.false_ne_true, List.singleton_append,
              skipBlanks_cons (by decide)]
            exact nofun
      rw [if_neg (List.cons_ne_nil item items), afterElements]
      split
      · rfl
      · rename_i after heq
        exact absurd heq (hne after)
      · split
        · rfl
        · rfl
      · rfl

/-- Slots are read from items one by one, up to the bracket. -/
theorem fromElements_itemsText (format : RecordFormat α) (nesting : Nat) {slots : List (Slot α)}
    (hslots : ∀ slot ∈ slots, Settled slot.read) {length : Nat} {items : List (Item Source)}
    (hlength : ∀ item ∈ items, item.value.text.length ≤ length) (index : Nat) (record : α)
    (gap last : Gap) (rest : List Char) :
  (format.fromElements ⟨nesting, length⟩ slots index record
      (gap.text ++ (itemsText (index == 0) items ++ (last.text ++ ']' :: rest)))).toOption
    = (ofItems? nesting slots items record).map fun record => (record, rest)
  := by
  induction slots generalizing items index record gap with
  | nil =>
      rw [fromElements, toOption_map, afterElements_itemsText]
      cases items with
      | nil => rfl
      | cons item items => rfl
  | cons slot slots ih =>
      obtain ⟨hslot, hslots⟩ := List.forall_mem_cons.mp hslots
      cases items with
      | nil =>
          have hiff : firstRequired? index (slot :: slots) = none
              ↔ ∀ other ∈ slot :: slots, other.required = false := by
            rw [firstRequired?, Option.map_eq_none_iff, List.findIdx?_eq_none_iff]
          rw [itemsText, List.nil_append, fromElements, nextItem_last, ofItems?]
          cases hrequired : firstRequired? index (slot :: slots) with
          | none =>
              rw [if_pos (hiff.mp hrequired)]
              rfl
          | some n =>
              have hnot : ¬ ∀ other ∈ slot :: slots, other.required = false := by
                rw [← hiff, hrequired]
                exact Option.some_ne_none n
              rw [if_neg hnot]
              rfl
      | cons item items =>
          obtain ⟨hitem, hitems⟩ := List.forall_mem_cons.mp hlength
          have hread := hslot.takes nesting item.value length hitem []
            (item.after.text ++ (itemsText false items ++ (last.text ++ ']' :: rest)))
            (endsNumeral_gap _ (endsNumeral_items items last rest))
          rw [Gap.text_nil, List.nil_append] at hread
          rw [itemsText_cons, fromElements, nextItem_item, ofItems?]
          cases htaken : taken slot.read nesting item.value with
          | none =>
              rw [htaken] at hread
              obtain ⟨fault, hfault⟩ := toOption_eq_none.mp hread
              simp only [hfault]
              rfl
          | some change =>
              rw [htaken] at hread
              simp only [toOption_eq_some.mp hread]
              exact ih hslots hitems (index + 1) (change record) item.after

/-! ### Reading records -/

theorem read_skipBlanks (room : Room) (text : List Char) :
  format.read room text = format.read room (skipBlanks text)
  := by
  rw [read, read, skipBlanks_skipBlanks]

/-- A record is taken from the members of an object. -/
theorem takes_object (hslots : ∀ slot ∈ format.slots, Settled slot.read)
    (members : List (Member Source)) (last : Gap) :
  Takes format.read (nesting + 1) (.object members last) (format.ofMembers? nesting members)
  := by
  refine .of_skipBlanks read_skipBlanks fun length hlength rest hrest => ?_
  obtain ⟨hbudget, hmembers⟩ := length_object hlength
  have hread := fromMembers_membersText nesting hslots hmembers hbudget true []
    format.initial [] last rest
  rw [Source.text_object_append]
  refine Eq.trans ?_ hread
  rfl

/-- A record is taken from the items of an array. -/
theorem takes_array (hslots : ∀ slot ∈ format.slots, Settled slot.read)
    (items : List (Item Source)) (last : Gap) :
  Takes format.read (nesting + 1) (.array items last)
    (ofItems? nesting format.slots items format.initial)
  := by
  refine .of_skipBlanks read_skipBlanks fun length hlength rest hrest => ?_
  have hread := fromElements_itemsText format nesting hslots
    (length_array hlength).2 0 format.initial [] last rest
  rw [Source.text_array_append]
  refine Eq.trans ?_ hread
  rfl

/-- The reader of a record takes the same from a value wherever it stands, if the readers of its
slots do. -/
theorem settled_read (hslots : ∀ slot ∈ format.slots, Settled slot.read) :
  Settled format.read
  := by
  intro nesting s
  match s, nesting with
  | .object members last, nesting + 1 => exact ⟨_, takes_object hslots members last⟩
  | .array items last, nesting + 1 => exact ⟨_, takes_array hslots items last⟩
  | .object members last, 0 => exact ⟨none, .of_skipBlanks read_skipBlanks fun _ _ _ _ => rfl⟩
  | .array items last, 0 => exact ⟨none, .of_skipBlanks read_skipBlanks fun _ _ _ _ => rfl⟩
  | .null, _ => exact ⟨none, .of_skipBlanks read_skipBlanks fun _ _ _ _ => rfl⟩
  | .bool true, _ => exact ⟨none, .of_skipBlanks read_skipBlanks fun _ _ _ _ => rfl⟩
  | .bool false, _ => exact ⟨none, .of_skipBlanks read_skipBlanks fun _ _ _ _ => rfl⟩
  | .string letters, _ => exact ⟨none, .of_skipBlanks read_skipBlanks fun _ _ _ _ => rfl⟩
  | .numeral figures, _ =>
      refine ⟨none, .of_skipBlanks read_skipBlanks fun length _ rest _ => ?_⟩
      rw [read, skipBlanks_source]
      split
      · rename_i after heq
        exact absurd heq (figures.text_append_ne rest (by decide) (by decide) after)
      · rename_i after heq
        exact absurd heq (figures.text_append_ne rest (by decide) (by decide) after)
      · rfl

end RecordFormat

end Json

end RecordSchema
