import PhotoGallery.Text.Lines
import Mathlib.Data.String.Basic

/-!
# The order of UTF-8 bytes

Texts are ordered by their characters.  Their bytes come in the same order, because the
bytes of a smaller character are smaller at the first place where they differ.
-/

namespace PhotoGallery.Text

theorem encode_eq_flatMap (text : String) :
    encode text = text.toList.flatMap String.utf8EncodeChar := by
  rw [encode, String.toUTF8_eq_toByteArray, ← String.utf8Encode_toList, List.utf8Encode]
  simp

/-- A smaller character begins smaller bytes, whatever follows. -/
theorem encodeChar_append_lt {first second : Char} (less : first < second)
    (rest other : List UInt8) :
    String.utf8EncodeChar first ++ rest < String.utf8EncodeChar second ++ other := by
  have codes : first.val.toNat < second.val.toNat := UInt32.lt_iff_toNat_lt.mp less
  have bound : second.val.toNat < 0x110000 := by
    have valid := second.valid
    simp only [UInt32.isValidChar, Nat.isValidChar] at valid
    omega
  -- Leading bytes are ordered by the number of bytes that they announce.
  simp only [String.utf8EncodeChar]
  split_ifs
  all_goals
    simp only [List.cons_append, List.cons_lt_cons_iff, UInt8.lt_iff_toNat_lt,
      ← UInt8.toNat_inj, UInt8.toNat_ofNat', Nat.reducePow]
    simp (disch := omega) only [Nat.mod_eq_of_lt]
    omega

theorem flatMap_encodeChar_lt {first second : List Char} (less : first < second) :
    first.flatMap String.utf8EncodeChar < second.flatMap String.utf8EncodeChar := by
  induction first generalizing second with
  | nil =>
      cases second with
      | nil => exact absurd less (List.not_lt_nil [])
      | cons character later =>
          rw [List.flatMap_cons, List.flatMap_nil]
          cases bytes : String.utf8EncodeChar character with
          | nil => exact absurd bytes String.utf8EncodeChar_ne_nil
          | cons byte more => exact List.nil_lt_cons _ _
  | cons character rest ih =>
      cases second with
      | nil => exact absurd less (List.not_lt_nil _)
      | cons other later =>
          rw [List.flatMap_cons, List.flatMap_cons]
          rcases List.cons_lt_cons_iff.mp less with smaller | ⟨rfl, restLess⟩
          · exact encodeChar_append_lt smaller _ _
          · exact List.append_left_lt (ih restLess)

theorem encode_lt_encode {first second : String} (less : first < second) :
    encode first < encode second := by
  rw [encode_eq_flatMap, encode_eq_flatMap]
  exact flatMap_encodeChar_lt (String.lt_iff_toList_lt.mp less)

/-- Texts and their bytes come in the same order. -/
theorem encode_lt_encode_iff {first second : String} :
    encode first < encode second ↔ first < second := by
  refine ⟨?_, encode_lt_encode⟩
  intro less
  rcases lt_trichotomy first second with smaller | rfl | greater
  · exact smaller
  · exact absurd less (List.lt_irrefl _)
  · exact absurd (encode_lt_encode greater) (List.lt_asymm less)

end PhotoGallery.Text
