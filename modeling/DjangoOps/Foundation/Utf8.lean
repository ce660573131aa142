import Mathlib.Data.List.TakeDrop

namespace DjangoOps
namespace Utf8

/-!
# Texts and their bytes

A strict reader refuses bytes that are no UTF-8.  A lenient one takes the
replacement character for each byte that starts no character, and goes on with
the next byte.  Both return a text from its own bytes.
-/

def bytes (text : String) : List UInt8 := text.toUTF8.data.toList

/-- U+FFFD -/
def replacement : Char := Char.ofNat 0xFFFD

/-- The character that the bytes start with, which takes four of them at most. -/
def first? (bytes : List UInt8) : Option Char := (bytes.take 4).toByteArray.utf8DecodeChar? 0

/-- The characters of the bytes behind those that are left out. -/
def decode : Nat -> List UInt8 -> List Char
  | _, [] => []
  | skipped + 1, _ :: rest => decode skipped rest
  | 0, byte :: rest =>
      match first? (byte :: rest) with
      | some char => char :: decode (char.utf8Size - 1) rest
      | none => replacement :: decode 0 rest

/-- The lenient reader. -/
def text (bytes : List UInt8) : String := String.ofList (decode 0 bytes)

theorem bytes_eq (text : String) : bytes text = text.toList.flatMap String.utf8EncodeChar := by
  have encoded : text.toUTF8 = (text.toList.flatMap String.utf8EncodeChar).toByteArray := by
    rw [← List.utf8Encode, String.utf8Encode_toList, String.toUTF8_eq_toByteArray]
  unfold bytes
  rw [encoded, List.toList_data_toByteArray]

theorem first?_encodeChar (char : Char) (rest : List UInt8) :
    first? (String.utf8EncodeChar char ++ rest) = some char := by
  unfold first?
  rw [List.take_append, List.take_of_length_le (by
    rw [String.length_utf8EncodeChar]
    exact char.utf8Size_le_four), List.toByteArray_append]
  exact ByteArray.utf8DecodeChar?_utf8EncodeChar_append

theorem decode_append (skipped rest : List UInt8) :
    decode skipped.length (skipped ++ rest) = decode 0 rest := by
  induction skipped with
  | nil => rfl
  | cons byte more inductionHypothesis => exact inductionHypothesis

theorem decode_encodeChar (char : Char) (rest : List UInt8) :
    decode 0 (String.utf8EncodeChar char ++ rest) = char :: decode 0 rest := by
  have found := first?_encodeChar char rest
  have length : (String.utf8EncodeChar char).length = char.utf8Size :=
    String.length_utf8EncodeChar char
  cases encoded : String.utf8EncodeChar char with
  | nil =>
      rw [encoded] at length
      exact absurd length.symm (Nat.ne_of_gt char.utf8Size_pos)
  | cons byte more =>
      rw [encoded] at found length
      rw [List.cons_append] at found ⊢
      rw [decode, found]
      dsimp only
      rw [← length, List.length_cons, Nat.add_sub_cancel, decode_append]

/-- A text is returned from its bytes. -/
theorem text_bytes (value : String) : text (bytes value) = value := by
  have decoded : forall chars : List Char,
      decode 0 (chars.flatMap String.utf8EncodeChar) = chars := by
    intro chars
    induction chars with
    | nil => rfl
    | cons char rest inductionHypothesis =>
        rw [List.flatMap_cons, decode_encodeChar, inductionHypothesis]
  unfold text
  rw [bytes_eq, decoded, String.ofList_toList]

/-- So does the strict reader. -/
theorem fromUTF8?_bytes (value : String) :
    String.fromUTF8? ⟨(bytes value).toArray⟩ = some value := by
  unfold bytes
  rw [Array.toArray_toList]
  unfold String.fromUTF8?
  exact dif_pos value.isValidUTF8

end Utf8
end DjangoOps
