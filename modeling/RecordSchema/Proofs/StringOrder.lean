import Mathlib.Data.String.Basic
import Mathlib.Order.Basic
import Mathlib.Tactic.SplitIfs

/-!
# The order of strings

Strings are ordered by their characters, from the first one on. This is the order of their bytes in
UTF-8: of two different characters the smaller one has the smaller bytes, and neither starts with
all bytes of the other.
-/

namespace RecordSchema

/-- The bytes of a string in UTF-8. -/
def utf8 (s : String) : List UInt8 := s.toUTF8.data.toList

theorem utf8_eq_flatMap (s : String) :
  utf8 s = s.toList.flatMap String.utf8EncodeChar
  := by
  rw [utf8, String.toUTF8_eq_toByteArray, ← String.utf8Encode_toList, List.utf8Encode,
    List.data_toByteArray]

/-- The bytes of a smaller character are smaller, whatever is behind them. -/
theorem utf8EncodeChar_append_lt {c d : Char} (h : c < d) (x y : List UInt8) :
  String.utf8EncodeChar c ++ x < String.utf8EncodeChar d ++ y
  := by
  have hlt : c.val.toNat < d.val.toNat := h
  have hbound : d.val.toNat < 1114112 := by
    rcases d.valid with h | h
    · have : d.val.toNat < 55296 := h
      omega
    · exact h.2
  unfold String.utf8EncodeChar
  generalize c.val.toNat = v at *
  generalize d.val.toNat = w at *
  have hdigits (n : Nat) : n / 4096 = n / 64 / 64 ∧ n / 262144 = n / 64 / 64 / 64 := by omega
  simp only [hdigits]
  clear hdigits
  -- Between characters of different lengths the first bytes decide, and otherwise the first digit
  -- to the base 64 in which the two numbers differ.
  split_ifs <;>
    simp only [List.cons_append, List.nil_append, List.cons_lt_cons_iff, UInt8.lt_iff_toNat_lt,
      ← UInt8.toNat_inj, UInt8.toNat_ofNat'] <;>
    omega

theorem flatMap_utf8EncodeChar_lt {l m : List Char} (h : l < m) :
  l.flatMap String.utf8EncodeChar < m.flatMap String.utf8EncodeChar
  := by
  induction l generalizing m with
  | nil =>
      cases m with
      | nil => cases h
      | cons d m =>
          obtain ⟨b, bytes, hd⟩ :=
            List.exists_cons_of_ne_nil (String.utf8EncodeChar_ne_nil (c := d))
          rw [List.flatMap_nil, List.flatMap_cons, hd]
          apply List.nil_lt_cons
  | cons c l ih =>
      cases m with
      | nil => cases h
      | cons d m =>
          rw [List.flatMap_cons, List.flatMap_cons]
          rcases List.cons_lt_cons_iff.mp h with hlt | ⟨rfl, hlt⟩
          · apply utf8EncodeChar_append_lt hlt
          · apply List.append_left_lt (ih hlt)

/-- Strings are ordered as their bytes in UTF-8 are. -/
theorem lt_iff_utf8_lt {s t : String} :
  s < t ↔ utf8 s < utf8 t
  := by
  have hlt {s t : String} (h : s < t) : utf8 s < utf8 t := by
    rw [utf8_eq_flatMap, utf8_eq_flatMap]
    apply flatMap_utf8EncodeChar_lt (String.lt_iff_toList_lt.mp h)
  constructor
  · apply hlt
  · intro h
    rcases lt_trichotomy s t with hst | rfl | hts
    · apply hst
    · exact absurd h (List.lt_irrefl _)
    · exact absurd h (List.lt_asymm (hlt hts))

end RecordSchema
