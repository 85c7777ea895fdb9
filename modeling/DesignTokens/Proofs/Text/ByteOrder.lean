import DesignTokens.Keyed
import Mathlib.Data.Char
import Mathlib.Data.List.Lex

/-!
# The order of texts is the order of their bytes

Texts are compared by code point, character by character. `lt_iff_bytes`: this is the order of
their UTF-8 forms, compared byte by byte. UTF-8 keeps the order because the form of a lesser
character is less at the first byte in which the two forms differ (`encodeChar_append_lt`).
-/

set_option autoImplicit false

namespace DesignTokens.Text

/-- The bytes of a text in UTF-8. -/
def bytes (text : String) : List UInt8 :=
  text.toUTF8.data.toList

/-- The bytes of a text are those of its characters, one after the other. -/
theorem bytes_eq_flatMap (text : String) :
    bytes text = text.toList.flatMap String.utf8EncodeChar := by
  rw [bytes, String.toUTF8_eq_toByteArray, ← String.utf8Encode_toList, List.utf8Encode]
  simp

/-- The form of a lesser character is less, whatever follows the two. A form of more bytes
starts with a greater one, and two of the same length differ first where the six bits that they
hold there differ. -/
theorem encodeChar_append_lt {c d : Char} (h : c < d) (x y : List UInt8) :
    String.utf8EncodeChar c ++ x < String.utf8EncodeChar d ++ y := by
  have hlt : c.val.toNat < d.val.toNat := h
  have hd : d.val.toNat < 0x110000 := by
    rcases d.valid with hd | hd
    · omega
    · exact hd.2
  -- the bits of a form are cut off six at a time
  have cut : ∀ n : Nat, n / 4096 = n / 64 / 64 ∧ n / 262144 = n / 64 / 64 / 64 := by
    intro n
    omega
  -- one case for each pair of lengths; a longer form starts with a greater byte
  unfold String.utf8EncodeChar
  simp only
  split_ifs <;>
    simp only [List.cons_append, List.nil_append, List.cons_lt_cons_iff, UInt8.lt_iff_toNat_lt,
      ← UInt8.toNat_inj, UInt8.toNat_ofNat', cut] <;>
    omega

/-- A common start does not change the order of two lists of bytes. -/
theorem append_lt_append_iff (x : List UInt8) {y z : List UInt8} :
    x ++ y < x ++ z ↔ y < z := by
  induction x with
  | nil => simp
  | cons b x ih => simp [ih]

/-- UTF-8 keeps the order of texts, because it does so for single characters and none is encoded as
the start of another. -/
theorem flatMap_encodeChar_lt_iff (s t : List Char) :
    s.flatMap String.utf8EncodeChar < t.flatMap String.utf8EncodeChar ↔ s < t := by
  induction s generalizing t with
  | nil =>
    cases t with
    | nil => simp
    | cons d t =>
      cases h : String.utf8EncodeChar d with
      | nil => exact absurd h String.utf8EncodeChar_ne_nil
      | cons b rest => simp [h]
  | cons c s ih =>
    cases t with
    | nil => simp
    | cons d t =>
      simp only [List.flatMap_cons, List.cons_lt_cons_iff]
      -- the first characters decide, unless they are the same
      rcases lt_trichotomy c d with h | h | h
      · simp [h, encodeChar_append_lt h]
      · subst h
        simp [append_lt_append_iff, ih]
      · have hback := encodeChar_append_lt h (t.flatMap String.utf8EncodeChar)
          (s.flatMap String.utf8EncodeChar)
        simp only [lt_asymm h, ne_of_gt h, false_and, or_self, iff_false, List.not_lt]
        exact List.le_of_lt hback

/-- A text comes before another exactly if its bytes come before the other's. So it makes no
difference that names are compared here by their characters. -/
theorem lt_iff_bytes (a b : String) : a < b ↔ bytes a < bytes b := by
  rw [bytes_eq_flatMap, bytes_eq_flatMap, flatMap_encodeChar_lt_iff]
  exact Iff.rfl

end DesignTokens.Text
