import PhotoGallery.Proofs.Text.ByteOrder
import PhotoGallery.Proofs.Text.Lines
import PhotoGallery.Proofs.Text.Trim

/-!
# Characters, bytes and lines

Only a line feed has the byte of a line feed among its bytes, so a text is cut at the same
places whether its characters or its bytes are looked at.
-/

namespace PhotoGallery.Text

theorem encode_ofList_append (first second : List Char) :
    encode (String.ofList (first ++ second)) =
      encode (String.ofList first) ++ encode (String.ofList second) := by
  simp [encode_eq_flatMap]

theorem decode?_encode (text : String) : decode? (encode text) = some text := by
  have sameBytes : (⟨(encode text).toArray⟩ : ByteArray) = text.toByteArray := rfl
  rw [decode?, sameBytes, String.fromUTF8?, dif_pos text.isValidUTF8]
  rfl

/-- A byte below 128 is a character of its own. -/
theorem mem_encodeChar_iff {byte : UInt8} (small : byte.toNat < 128) (character : Char) :
    byte ∈ String.utf8EncodeChar character ↔ character.toNat = byte.toNat := by
  have bound : character.toNat < 0x110000 := by
    have valid := character.valid
    simp only [UInt32.isValidChar, Nat.isValidChar] at valid
    unfold Char.toNat
    omega
  simp only [String.utf8EncodeChar, ← Char.toNat_val] at bound ⊢
  split_ifs
  all_goals
    simp only [List.mem_cons, List.not_mem_nil, or_false, ← UInt8.toNat_inj, UInt8.toNat_ofNat',
      Nat.reducePow]
    omega

theorem lineFeed_mem_encode_iff {text : List Char} :
    lineFeed ∈ encode (String.ofList text) ↔ '\n' ∈ text := by
  rw [encode_eq_flatMap, String.toList_ofList, List.mem_flatMap]
  constructor
  · rintro ⟨character, member, isByte⟩
    have isFeed : character = '\n' := by
      apply Char.toNat_inj.mp
      exact (mem_encodeChar_iff (by decide) character).mp isByte
    exact isFeed ▸ member
  · intro member
    exact ⟨'\n', member, by decide⟩

theorem getLast?_encode_ne_return {text : List Char} (bare : text.getLast? ≠ some '\r') :
    (encode (String.ofList text)).getLast? ≠ some carriageReturn := by
  intro isLast
  rw [encode_eq_flatMap, String.toList_ofList] at isLast
  rcases List.eq_nil_or_concat' text with rfl | ⟨front, character, rfl⟩
  · simp at isLast
  · have nonempty : String.utf8EncodeChar character ≠ [] := String.utf8EncodeChar_ne_nil
    rw [List.flatMap_append, List.flatMap_singleton, List.getLast?_append_of_ne_nil _ nonempty]
      at isLast
    have isReturn : character = '\r' := by
      apply Char.toNat_inj.mp
      exact (mem_encodeChar_iff (by decide) character).mp (List.mem_of_getLast? isLast)
    simp [isReturn] at bare

end PhotoGallery.Text
