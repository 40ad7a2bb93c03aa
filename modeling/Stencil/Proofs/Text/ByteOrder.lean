import Mathlib.Tactic.SplitIfs
import Stencil.Entries

/-!
# The order of names is the order of their bytes

Names are compared character by character.  The bytes that encode a character are never a
beginning of those of another, and a smaller character has smaller bytes at the first place
where the two differ.  So comparing the bytes of two names gives the same result as comparing
their characters.
-/

namespace Stencil

namespace Text

/-- The bytes that encode a text. -/
def bytes (text : String) : List UInt8 :=
  text.toByteArray.data.toList

theorem bytes_eq_flatMap (text : String) :
    bytes text = text.toList.flatMap String.utf8EncodeChar := by
  rw [bytes, ← String.utf8Encode_toList, List.utf8Encode, List.data_toByteArray]

/-- A smaller character has smaller bytes, whatever follows them. -/
theorem utf8EncodeChar_append_lt {a b : Char} (h : a < b) (as bs : List UInt8) :
    String.utf8EncodeChar a ++ as < String.utf8EncodeChar b ++ bs := by
  have hval : a.val.toNat < b.val.toNat := h
  have hbound : b.val.toNat < 0x110000 := by
    rcases b.valid with hlow | ⟨-, hhigh⟩
    · exact Nat.lt_trans hlow (by decide)
    · exact hhigh
  -- Each byte is a digit to the base 64, so the divisions are chained.
  have hsecond (n : Nat) : n / 4096 = n / 64 / 64 := (Nat.div_div_eq_div_mul n 64 64).symm
  have hthird (n : Nat) : n / 262144 = n / 64 / 64 / 64 := by
    rw [Nat.div_div_eq_div_mul, Nat.div_div_eq_div_mul]
  simp only [String.utf8EncodeChar, hsecond, hthird]
  split_ifs <;>
    simp only [List.cons_append, List.nil_append, List.cons_lt_cons_iff, UInt8.lt_iff_toNat_lt,
      ← UInt8.toNat_inj, UInt8.toNat_ofNat'] <;>
    omega

theorem utf8EncodeChar_ne_nil (c : Char) : String.utf8EncodeChar c ≠ [] := by
  rw [← List.length_pos_iff, String.length_utf8EncodeChar]
  exact c.utf8Size_pos

theorem flatMap_utf8EncodeChar_lt {as bs : List Char} (h : as < bs) :
    as.flatMap String.utf8EncodeChar < bs.flatMap String.utf8EncodeChar := by
  induction h with
  | @nil b bs =>
      obtain ⟨byte, rest, hbytes⟩ := List.exists_cons_of_ne_nil (utf8EncodeChar_ne_nil b)
      rw [List.flatMap_cons, hbytes]
      exact List.nil_lt_cons byte _
  | rel hab => exact utf8EncodeChar_append_lt hab _ _
  | cons hrest ih => exact List.append_left_lt ih

/-- Names are in the order of their bytes. -/
theorem bytes_lt_of_lt {name other : String} (h : name < other) : bytes name < bytes other := by
  rw [bytes_eq_flatMap, bytes_eq_flatMap]
  exact flatMap_utf8EncodeChar_lt (String.lt_iff.mp h)

end Text

end Stencil
