import ApexiDevices.Shared.Bytes

set_option autoImplicit false

/-!
# UTF-8

A character takes one to four bytes. A byte below 0x80 is a character of its own.
-/

namespace Device

def utf8 (text : String) : Bytes := text.toList.flatMap String.utf8EncodeChar

namespace Utf8

theorem high_bytes {char : Char} (high : ¬char.val.toNat ≤ 0x7f) :
    ∀ byte ∈ String.utf8EncodeChar char, 0x80 ≤ byte.toNat := by
  rw [String.utf8EncodeChar, if_neg high]
  split
  case isTrue =>
    simp only [List.forall_mem_cons, List.not_mem_nil, false_imp_iff, implies_true, and_true, UInt8.toNat_ofNat']
    omega
  case isFalse =>
    split
    all_goals
      simp only [List.forall_mem_cons, List.not_mem_nil, false_imp_iff, implies_true, and_true, UInt8.toNat_ofNat']
      omega

theorem encoded_low {char : Char} (low : char.toNat < 0x80) : String.utf8EncodeChar char = [UInt8.ofNat char.toNat] := by
  have code : char.toNat = char.val.toNat := rfl
  rw [String.utf8EncodeChar, if_pos (by omega), code]

theorem low_byte {char : Char} {byte : UInt8} (member : byte ∈ String.utf8EncodeChar char) (low : byte.toNat < 0x80) :
    byte.toNat = char.toNat := by
  by_cases small : char.toNat < 0x80
  · rw [encoded_low small] at member
    rw [List.mem_singleton.mp member, UInt8.toNat_ofNat']
    omega
  · have code : char.toNat = char.val.toNat := rfl
    have high := high_bytes (by omega) byte member
    omega

theorem mem_utf8 {text : String} {byte : UInt8} :
    byte ∈ utf8 text ↔ ∃ char ∈ text.toList, byte ∈ String.utf8EncodeChar char :=
  List.mem_flatMap

theorem low_char {text : String} {byte : UInt8} (member : byte ∈ utf8 text) (low : byte.toNat < 0x80) :
    ∃ char ∈ text.toList, char.toNat = byte.toNat := by
  obtain ⟨char, own, part⟩ := mem_utf8.mp member
  exact ⟨char, own, (low_byte part low).symm⟩

theorem length_le (text : String) : text.length ≤ (utf8 text).length := by
  rw [← String.length_toList, utf8]
  induction text.toList with
  | nil => rfl
  | cons char rest ih =>
    have first : 0 < (String.utf8EncodeChar char).length := List.length_pos_of_ne_nil String.utf8EncodeChar_ne_nil
    rw [List.flatMap_cons, List.length_append, List.length_cons]
    omega

theorem low_chars {chars : List Char} (low : ∀ char ∈ chars, char.toNat < 0x80) :
    chars.flatMap String.utf8EncodeChar = chars.map fun char => UInt8.ofNat char.toNat := by
  induction chars with
  | nil => rfl
  | cons char rest ih =>
    rw [List.flatMap_cons, List.map_cons, encoded_low (low char (by simp)), ih fun other member => low other (by simp [member])]
    rfl

theorem utf8_ascii {text : String} (low : ∀ char ∈ text.toList, char.toNat < 0x80) : utf8 text = ascii text :=
  low_chars low

theorem utf8_append (first second : String) : utf8 (first ++ second) = utf8 first ++ utf8 second := by
  rw [utf8, String.toList_append, List.flatMap_append, utf8, utf8]

theorem utf8_array (text : String) : (⟨⟨utf8 text⟩⟩ : ByteArray) = text.toByteArray := by
  rw [← String.utf8Encode_toList, List.utf8Encode, utf8]
  apply ByteArray.ext
  apply Array.ext'
  rw [List.toList_data_toByteArray]

theorem fromUTF8_utf8 (text : String) : String.fromUTF8? ⟨⟨utf8 text⟩⟩ = some text := by
  rw [utf8_array, String.fromUTF8?, dif_pos text.isValidUTF8]
  rfl

theorem le_length (text : String) : (utf8 text).length ≤ 4 * text.length := by
  rw [← String.length_toList, utf8]
  induction text.toList with
  | nil => rfl
  | cons char rest ih =>
    have first : (String.utf8EncodeChar char).length ≤ 4 := by
      rw [String.length_utf8EncodeChar]
      exact Char.utf8Size_le_four char
    rw [List.flatMap_cons, List.length_append, List.length_cons]
    omega

end Utf8

end Device
