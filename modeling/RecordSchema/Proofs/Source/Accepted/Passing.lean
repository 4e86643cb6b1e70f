import RecordSchema.Json.Reader.Pass
import RecordSchema.Proofs.Source.Accepted.Values

/-!
# Values that are passed over

What is passed over is a value of the grammar. The arrays and objects that are open around a place
say what the text behind it has to close: the entries that are left of the innermost one, then those
of the next one, and so on.
-/

namespace RecordSchema

namespace Json

theorem starts_of_passScalar {text rest : List Char} (h : passScalar text = .ok rest) :
  Starts text rest
  := by
  cases text with
  | nil => cases h
  | cons c text =>
      rw [passScalar] at h
      split_ifs at h with hn ht hf hquote hnumber
      · exact .of_text (s := .null) (by rw [hn, eq_append_of_expectWord h]; rfl)
      · exact .of_text (s := .bool true) (by rw [ht, eq_append_of_expectWord h]; rfl)
      · exact .of_text (s := .bool false) (by rw [hf, eq_append_of_expectWord h]; rfl)
      · obtain ⟨⟨s, _⟩, hstring, rfl⟩ := map_eq_ok_iff.mp h
        obtain ⟨letters, rfl⟩ := exists_of_passString hstring
        exact .of_text (s := .string letters) (by rw [hquote]; rfl)
      · obtain ⟨⟨numeral, _⟩, hnumeral, rfl⟩ := map_eq_ok_iff.mp h
        obtain ⟨figures, hfigures⟩ := exists_of_scanNumeral hnumeral
        exact .of_text (s := .numeral figures) hfigures

/-- A text closes what is open, the innermost first, in front of the rest. -/
def Closes : List Enclosing → (text rest : List Char) → Prop
  | [], text, rest => text = rest
  | .array :: outer, text, rest => ∃ behind, ItemsTo false text behind ∧ Closes outer behind rest
  | .object :: outer, text, rest =>
    ∃ behind, MembersTo false text behind ∧ Closes outer behind rest

/-- What follows is closed in front of the rest. -/
def Following.Finishes (rest : List Char) : Following → Prop
  | .value opened text => ∃ behind, Starts text behind ∧ Closes opened behind rest
  | .closed opened text => Closes opened text rest
  | .finished text => text = rest

/-- The value of a further member stands behind its key. -/
theorem eq_of_value_object {text value : List Char}
    (h : Enclosing.object.value text = .ok value) :
  ∃ (before colon : Gap) (letters : List Letter),
    text = before.text ++ '"' :: (literalText letters ++ (colon.text ++ ':' :: value))
  := by
  obtain ⟨before, hbefore⟩ := exists_gap text
  rw [Enclosing.value] at h
  split at h
  · cases h
  · rename_i behind heq
    obtain ⟨⟨s, _⟩, hstring, hcolon⟩ := bind_eq_ok_iff.mp h
    obtain ⟨letters, rfl⟩ := exists_of_passString hstring
    obtain ⟨colon, rfl⟩ := eq_of_afterKey hcolon
    exact ⟨before, colon, letters, by rw [hbefore, heq]⟩
  · cases h

/-- Whatever follows behind a value closes what is open. -/
theorem closes_of_following {opened : List Enclosing} {text rest : List Char} {next : Following}
    (h : following opened text = .ok next) (hnext : next.Finishes rest) :
  Closes opened text rest
  := by
  cases opened with
  | nil =>
      obtain rfl := Except.ok.inj h
      exact hnext
  | cons e outer =>
      obtain ⟨gap, hgap⟩ := exists_gap text
      rw [following] at h
      cases hskip : skipBlanks text with
      | nil =>
          rw [hskip] at h
          cases h
      | cons c behind =>
          rw [hskip] at h hgap
          dsimp only at h
          split_ifs at h with hcomma hclosing
          · obtain ⟨value, hvalue, rfl⟩ := map_eq_ok_iff.mp h
            obtain ⟨behind', hstarts, hcloses⟩ := hnext
            cases e with
            | array =>
                obtain rfl := Except.ok.inj hvalue
                obtain ⟨last, hitems, hcloses⟩ := hcloses
                refine ⟨last, ?_, hcloses⟩
                rw [hgap, hcomma]
                exact .cons gap [] false hstarts hitems
            | object =>
                obtain ⟨before, colon, letters, rfl⟩ := eq_of_value_object hvalue
                obtain ⟨last, hmembers, hcloses⟩ := hcloses
                refine ⟨last, ?_, hcloses⟩
                rw [hgap, hcomma]
                exact .cons gap before colon false letters hstarts hmembers
          · obtain rfl := Except.ok.inj h
            cases e with
            | array =>
                refine ⟨behind, ?_, hnext⟩
                rw [hgap, hclosing]
                exact .nil gap false behind
            | object =>
                refine ⟨behind, ?_, hnext⟩
                rw [hgap, hclosing]
                exact .nil gap false behind

/-- What follows behind an opening bracket is an array or object. -/
theorem starts_of_opening {e : Enclosing} {outer : List Enclosing} {text rest : List Char}
    {next : Following} (h : opening e outer text = .ok next) (hnext : next.Finishes rest) :
  ∃ behind, Starts ((match e with | .array => '[' | .object => '{') :: text) behind
    ∧ Closes outer behind rest
  := by
  obtain ⟨gap, hgap⟩ := exists_gap text
  rw [opening] at h
  cases hskip : skipBlanks text with
  | nil =>
      rw [hskip] at h
      cases h
  | cons c behind =>
      rw [hskip] at h hgap
      dsimp only at h
      split_ifs at h with hclosing
      · obtain rfl := Except.ok.inj h
        rw [hgap, hclosing]
        cases e with
        | array => exact ⟨behind, (ItemsTo.nil gap true behind).starts, hnext⟩
        | object => exact ⟨behind, (MembersTo.nil gap true behind).starts, hnext⟩
      · obtain ⟨value, hvalue, rfl⟩ := map_eq_ok_iff.mp h
        obtain ⟨behind', hstarts, hcloses⟩ := hnext
        rw [hgap]
        cases e with
        | array =>
            obtain rfl := Except.ok.inj hvalue
            obtain ⟨last, hitems, hcloses⟩ := hcloses
            exact ⟨last, (ItemsTo.cons gap [] true hstarts hitems).starts, hcloses⟩
        | object =>
            obtain ⟨before, colon, letters, heq⟩ := eq_of_value_object hvalue
            obtain ⟨last, hmembers, hcloses⟩ := hcloses
            rw [heq]
            exact ⟨last, (MembersTo.cons gap before colon true letters hstarts hmembers).starts,
              hcloses⟩

/-- Where a value is begun, and what follows is closed, the value starts there. -/
theorem starts_of_passStart {opened : List Enclosing} {text rest : List Char} {next : Following}
    (h : passStart opened text = .ok next) (hnext : next.Finishes rest) :
  ∃ behind, Starts text behind ∧ Closes opened behind rest
  := by
  suffices hskipped : ∃ behind, Starts (skipBlanks text) behind ∧ Closes opened behind rest by
    obtain ⟨behind, hstarts, hcloses⟩ := hskipped
    exact ⟨behind, hstarts.of_skipBlanks, hcloses⟩
  rw [passStart] at h
  cases hskip : skipBlanks text with
  | nil =>
      rw [hskip] at h
      cases h
  | cons c behind =>
      rw [hskip] at h
      dsimp only at h
      split_ifs at h with harray hobject
      · rw [harray]
        exact starts_of_opening (e := .array) h hnext
      · rw [hobject]
        exact starts_of_opening (e := .object) h hnext
      · cases hscalar : passScalar (c :: behind) with
        | error fault =>
            rw [hscalar] at h
            cases h
        | ok behind' =>
            rw [hscalar] at h
            exact ⟨behind', starts_of_passScalar hscalar, closes_of_following h hnext⟩

/-- What is passed over is closed. -/
theorem finishes_of_passFrom {budget : Nat} {next : Following} {rest : List Char}
    (h : passFrom budget next = .ok rest) :
  next.Finishes rest
  := by
  induction budget generalizing next with
  | zero =>
      cases next with
      | finished text => exact Except.ok.inj h
      | value opened text => cases h
      | closed opened text => cases h
  | succ budget ih =>
      cases next with
      | finished text => exact Except.ok.inj h
      | closed opened text =>
          rw [passFrom] at h
          cases hfollowing : following opened text with
          | error fault =>
              rw [hfollowing] at h
              cases h
          | ok next =>
              rw [hfollowing] at h
              exact closes_of_following hfollowing (ih h)
      | value opened text =>
          rw [passFrom] at h
          cases hstart : passStart opened text with
          | error fault =>
              rw [hstart] at h
              cases h
          | ok next =>
              rw [hstart] at h
              exact starts_of_passStart hstart (ih h)

/-- What is passed over is a value. -/
theorem starts_of_passValue {length : Nat} {text rest : List Char}
    (h : passValue length text = .ok rest) :
  Starts text rest
  := by
  obtain ⟨behind, hstarts, rfl⟩ := finishes_of_passFrom h
  exact hstarts

end Json

end RecordSchema
