import Guidebook.Text.Bytes

namespace Guidebook
namespace Bytes

/-!
# The first byte of a text

A character of ASCII is written as one byte, and every other character starts with a
byte that is no such character.  So bytes that are a text start with the byte of an
ASCII character exactly when the text starts with the character.  Nothing of the kind
can be said of bytes that are no text.
-/

/-- Bytes that are read as a text are the bytes of the text. -/
theorem eq_ofText_of_text? {bytes : Bytes} {text : String} (read : text? bytes = some text) :
    bytes = ofText text := by
  rw [text?, String.fromUTF8?] at read
  split at read
  · cases read
    rfl
  · cases read

theorem ofText_eq_flatMap (text : String) :
    ofText text = text.toList.flatMap String.utf8EncodeChar := by
  have encoded : text.toUTF8 = text.toList.utf8Encode := String.utf8Encode_toList.symm
  rw [ofText, encoded, List.utf8Encode, List.data_toByteArray]

/-- Only an ASCII character is written with its own number as the first byte. -/
theorem head?_utf8EncodeChar_iff {character ascii : Char} (small : ascii.toNat < 128) :
    (String.utf8EncodeChar character).head? = some (UInt8.ofNat ascii.toNat) ↔
      character = ascii := by
  have numbered : character.val.toNat = ascii.toNat ↔ character = ascii :=
    ⟨fun same => Char.toNat_inj.mp same, fun same => same ▸ rfl⟩
  rw [← numbered, String.utf8EncodeChar]
  -- A first byte of more than one is at least 192, which is no character of ASCII.
  repeat' split
  all_goals
    simp only [List.head?_cons, Option.some.injEq, ← UInt8.toNat_inj, UInt8.toNat_ofNat']
    omega

/-- A text starts with an ASCII character when its bytes do. -/
theorem head?_toList_iff {bytes : Bytes} {text : String} (read : text? bytes = some text)
    {ascii : Char} (small : ascii.toNat < 128) :
    text.toList.head? = some ascii ↔ bytes.head? = some (UInt8.ofNat ascii.toNat) := by
  rw [eq_ofText_of_text? read, ofText_eq_flatMap]
  cases text.toList with
  | nil => simp
  | cons first rest =>
      have written : (String.utf8EncodeChar first).head? ≠ none :=
        fun none => String.utf8EncodeChar_ne_nil (List.head?_eq_none_iff.mp none)
      rw [List.flatMap_cons, List.head?_append, List.head?_cons, Option.some.injEq,
        ← head?_utf8EncodeChar_iff small]
      cases leads : (String.utf8EncodeChar first).head? with
      | none => exact absurd leads written
      | some byte => simp

end Bytes
end Guidebook
