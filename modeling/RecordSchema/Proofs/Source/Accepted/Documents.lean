import RecordSchema.Proofs.Source.Accepted.Passing
import RecordSchema.Proofs.Source.Records

/-!
# Accepted documents

What a record is read from is an object or array of the grammar, and a whole text that is accepted
is a document. Whether a document is accepted depends on its value alone.
-/

namespace RecordSchema

namespace Json

variable {α β : Type}

/-! ### Records -/

theorem Accepts.make {reader : Reader β} (h : Accepts reader) (key : String) (required : Bool)
    (store : β → α → α) :
  Accepts (Slot.make key required reader store).read
  := by
  intro room text change rest hread
  obtain ⟨⟨b, _⟩, hvalue, hresult⟩ := map_eq_ok_iff.mp hread
  obtain ⟨-, rfl⟩ := Prod.mk.inj hresult
  exact h room _ _ _ hvalue

namespace RecordFormat

variable {format : RecordFormat α}

/-- What is read as a member of a record is a key with a value. -/
theorem exists_of_member (hslots : ∀ slot ∈ format.slots, Accepts slot.read) {room : Room}
    {given : List String} {record : α} {text rest : List Char} {state : List String × α}
    (h : format.member room given record text = .ok (state, rest)) :
  ∃ (letters : List Letter) (colon : Gap) (value : List Char),
    text = literalText letters ++ (colon.text ++ ':' :: value) ∧ Starts value rest
  := by
  obtain ⟨⟨key, behind⟩, hkey, hmember⟩ := bind_eq_ok_iff.mp h
  obtain ⟨letters, hletters⟩ := exists_of_scanString hkey
  dsimp only at hmember
  cases hslot : format.slot? key with
  | none =>
      rw [hslot] at hmember
      obtain ⟨value, hcolon, hvalue⟩ := bind_eq_ok_iff.mp hmember
      obtain ⟨_, hpass, hresult⟩ := bind_eq_ok_iff.mp hvalue
      obtain ⟨-, rfl⟩ := Prod.mk.inj (Except.ok.inj hresult)
      obtain ⟨colon, rfl⟩ := eq_of_afterKey hcolon
      exact ⟨letters, colon, value, hletters, starts_of_passValue hpass⟩
  | some slot =>
      rw [hslot] at hmember
      dsimp only at hmember
      split_ifs at hmember
      obtain ⟨value, hcolon, hvalue⟩ := bind_eq_ok_iff.mp hmember
      obtain ⟨⟨change, _⟩, hread, hresult⟩ := bind_eq_ok_iff.mp hvalue
      obtain ⟨-, rfl⟩ := Prod.mk.inj (Except.ok.inj hresult)
      obtain ⟨colon, rfl⟩ := eq_of_afterKey hcolon
      exact ⟨letters, colon, value, hletters,
        hslots slot (List.mem_of_find?_eq_some hslot) room _ _ _ hread⟩

/-- What a record is read from member by member are members. -/
theorem membersTo_of_fromMembers (hslots : ∀ slot ∈ format.slots, Accepts slot.read)
    {room : Room} {budget : Nat} {first : Bool} {given : List String} {before record : α}
    {text rest : List Char}
    (h : format.fromMembers room budget first given before text = .ok (record, rest)) :
  MembersTo first text rest
  := by
  induction budget generalizing first given before text with
  | zero => cases h
  | succ budget ih =>
      rw [fromMembers] at h
      cases hnext : nextMember first text with
      | error fault =>
          rw [hnext] at h
          cases h
      | ok next =>
          rw [hnext] at h
          cases next with
          | closing behind =>
              dsimp only at h
              split at h
              · cases h
              · obtain ⟨-, rfl⟩ := Prod.mk.inj (Except.ok.inj h)
                obtain ⟨gap, rfl⟩ := eq_of_nextMember_closing hnext
                exact .nil gap first behind
          | entry entry =>
              dsimp only at h
              cases hmember : format.member room given before entry with
              | error fault =>
                  rw [hmember] at h
                  cases h
              | ok result =>
                  rw [hmember] at h
                  obtain ⟨gap, before', rfl⟩ := eq_of_nextMember_entry hnext
                  obtain ⟨letters, colon, value, rfl, hstarts⟩ := exists_of_member hslots hmember
                  exact .cons gap before' colon first letters hstarts (ih h)

theorem itemsTo_of_afterElements {first : Bool} {text rest : List Char}
    (h : afterElements text = .ok rest) :
  ItemsTo first text rest
  := by
  obtain ⟨gap, hgap⟩ := exists_gap text
  rw [afterElements] at h
  split at h
  · cases h
  · rename_i behind heq
    obtain rfl := Except.ok.inj h
    rw [hgap, heq]
    exact .nil gap first behind
  · split at h
    · cases h
    · cases h
  · cases h

/-- What a record is read from slot by slot are items. -/
theorem itemsTo_of_fromElements {room : Room} {slots : List (Slot α)}
    (hslots : ∀ slot ∈ slots, Accepts slot.read) {index : Nat} {before record : α}
    {text rest : List Char}
    (h : format.fromElements room slots index before text = .ok (record, rest)) :
  ItemsTo (index == 0) text rest
  := by
  induction slots generalizing index before text with
  | nil =>
      obtain ⟨_, hafter, hresult⟩ := map_eq_ok_iff.mp h
      obtain ⟨-, rfl⟩ := Prod.mk.inj hresult
      exact itemsTo_of_afterElements hafter
  | cons slot slots ih =>
      obtain ⟨hslot, hrest⟩ := List.forall_mem_cons.mp hslots
      rw [fromElements] at h
      cases hnext : nextItem (index == 0) text with
      | error fault =>
          rw [hnext] at h
          cases h
      | ok next =>
          rw [hnext] at h
          cases next with
          | closing behind =>
              dsimp only at h
              split at h
              · cases h
              · obtain ⟨-, rfl⟩ := Prod.mk.inj (Except.ok.inj h)
                obtain ⟨gap, rfl⟩ := eq_of_nextItem_closing hnext
                exact .nil gap _ behind
          | entry entry =>
              dsimp only at h
              cases hitem : slot.read room entry with
              | error fault =>
                  rw [hitem] at h
                  cases h
              | ok result =>
                  rw [hitem] at h
                  obtain ⟨gap, before', rfl⟩ := eq_of_nextItem_entry hnext
                  exact .cons gap before' _ (hslot room entry _ _ hitem) (ih hrest h)

/-- What a record is read from is a value, if what its slots are read from are values. -/
theorem accepts_read (hslots : ∀ slot ∈ format.slots, Accepts slot.read) :
  Accepts format.read
  := by
  rintro ⟨nesting, length⟩ text record rest h
  apply Starts.of_skipBlanks
  rw [read] at h
  split at h
  · rename_i behind heq
    rw [heq]
    cases nesting with
    | zero => cases h
    | succ nesting => exact (membersTo_of_fromMembers hslots h).starts
  · rename_i behind heq
    rw [heq]
    cases nesting with
    | zero => cases h
    | succ nesting => exact (itemsTo_of_fromElements hslots h).starts
  · cases h

end RecordFormat

/-! ### Documents -/

/-- Whether a document is accepted, and as what, is a matter of its value. -/
theorem readWhole_document {reader : Reader α} (h : Settled reader) (document : Document) :
  (readWhole reader document.text).toOption = taken reader deepest document.value
  := by
  let chars := document.before.text ++ (document.value.text ++ document.after.text)
  have hlength : document.value.text.length ≤ chars.length := by
    simp only [chars, List.length_append]
    omega
  have hends : EndsNumeral document.after.text := by
    simpa using endsNumeral_gap document.after (show EndsNumeral [] by simp [EndsNumeral])
  have hread := h.takes deepest document.value chars.length hlength document.before
    document.after.text hends
  have hchars : document.text.toList = chars := String.toList_ofList
  rw [readWhole, hchars]
  cases htaken : taken reader deepest document.value with
  | none =>
      rw [htaken] at hread
      obtain ⟨fault, hfault⟩ := toOption_eq_none.mp hread
      simp only [chars, hfault]
      rfl
  | some a =>
      rw [htaken] at hread
      have hskip : skipBlanks document.after.text = [] := by
        simpa [skipBlanks] using skipBlanks_gap document.after []
      simp only [chars, toOption_eq_some.mp hread, hskip]
      rfl

/-- An accepted text is a document. -/
theorem exists_document {reader : Reader α} (h : Accepts reader) {text : String} {a : α}
    (hread : readWhole reader text = .ok a) :
  ∃ document : Document, document.text = text
  := by
  rw [readWhole] at hread
  cases hreader : reader ⟨deepest, text.toList.length⟩ text.toList with
  | error fault =>
      simp only [hreader] at hread
      cases hread
  | ok result =>
      obtain ⟨value, rest⟩ := result
      simp only [hreader] at hread
      obtain ⟨before, s, htext⟩ := h _ _ _ _ hreader
      obtain ⟨after, hafter⟩ := exists_gap rest
      cases hskip : skipBlanks rest with
      | cons c behind =>
          rw [hskip] at hread
          cases hread
      | nil =>
          rw [hskip, List.append_nil] at hafter
          refine ⟨⟨before, s, after⟩, ?_⟩
          rw [Document.text, ← hafter, ← htext, String.ofList_toList]

end Json

end RecordSchema
