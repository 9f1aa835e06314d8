/-
# Lines of encoded text

In UTF-8 the byte of a line end encodes a line end and is part of no other
character.  Cutting encoded text into lines therefore gives the encodings of the
lines of the text, and a line that is cut out of any bytes, if it is text at all,
has no line end in it.
-/

import BooleanRetrieval.Proofs.Text.Split
import BooleanRetrieval.Storage

namespace BooleanRetrieval.Text

/-- The bytes of a sequence of characters. -/
def encode (chars : List Char) : List UInt8 :=
  chars.flatMap String.utf8EncodeChar

/-- Whether a byte ends a line. -/
def isLineEnd (byte : UInt8) : Bool :=
  byte = '\n'.toUInt8

theorem toList_data_toUTF8 (text : String) : text.toUTF8.data.toList = encode text.toList := by
  rw [String.toUTF8_eq_toByteArray, ← String.utf8Encode_toList, List.utf8Encode,
    List.toList_data_toByteArray, encode]

/-- Only a line end is encoded with the byte of a line end. -/
theorem eq_newline_of_mem_utf8EncodeChar {c : Char} {byte : UInt8}
    (hbyte : byte ∈ String.utf8EncodeChar c) (hend : isLineEnd byte) : c = '\n' := by
  obtain rfl : byte = 10 := of_decide_eq_true hend
  have hbound : c.val.toNat < 0x110000 := by
    have hvalid := c.valid
    simp only [UInt32.isValidChar, Nat.isValidChar] at hvalid
    omega
  have hcode : c.val.toNat = 10 := by
    -- Every byte of a longer encoding is at least 128.
    simp only [String.utf8EncodeChar] at hbyte
    generalize c.val.toNat = code at hbyte hbound ⊢
    split at hbyte
    · simp [← UInt8.toNat_inj] at hbyte
      omega
    · split at hbyte
      · simp [← UInt8.toNat_inj] at hbyte
        omega
      · split at hbyte
        · simp [← UInt8.toNat_inj] at hbyte
          omega
        · simp [← UInt8.toNat_inj] at hbyte
          omega
  exact Char.ext (UInt32.toNat_inj.mp hcode)

/-- The pieces between line ends, encoded, are the pieces of the encoding. -/
theorem piecesBetween_encode (chars : List Char) :
    piecesBetween isLineEnd (encode chars) = (piecesBetween (· = '\n') chars).map encode := by
  induction chars with
  | nil => rfl
  | cons c rest ih =>
      obtain ⟨piece, pieces, hpieces⟩ :=
        List.exists_cons_of_ne_nil (piecesBetween_ne_nil (· = '\n') rest)
      rw [hpieces] at ih
      rw [encode, List.flatMap_cons, piecesBetween_cons, hpieces]
      by_cases hc : c = '\n'
      · subst hc
        have hcut := piecesBetween_append_mark (show isLineEnd '\n'.toUInt8 from rfl)
          [] (encode rest)
        rw [ih] at hcut
        exact hcut
      · have hclear : ∀ byte ∈ String.utf8EncodeChar c, isLineEnd byte = false := fun byte hbyte =>
          Bool.eq_false_iff.mpr fun hend => hc (eq_newline_of_mem_utf8EncodeChar hbyte hend)
        rw [← encode, piecesBetween_append_of_no_mark hclear ih]
        simp [consPiece, hc, encode]

/-- The lines of encoded text are the encoded lines. -/
theorem linesBy_encode (chars : List Char) :
    linesBy isLineEnd (encode chars) = (linesBy (· = '\n') chars).map encode := by
  have hempty (piece : List Char) : (encode piece).isEmpty = piece.isEmpty := by
    cases piece <;> simp [encode]
  simp only [linesBy, piecesBetween_encode, List.getLast?_map, Option.any_map, hempty]
  split
  · rw [List.map_dropLast]
  · rfl

/-- Encoded text can be decoded. -/
theorem decodeText_encode (chars : List Char) :
    decodeText ⟨(encode chars).toArray⟩ = .ok (.ofList chars) := by
  have hbytes : (⟨(encode chars).toArray⟩ : ByteArray) = (String.ofList chars).toByteArray := by
    rw [String.toByteArray_ofList, List.utf8Encode]
    exact ByteArray.ext List.data_toByteArray.symm
  rw [decodeText, hbytes, String.fromUTF8?, dif_pos (String.ofList chars).isValidUTF8]
  rfl

/-- What can be decoded is encoded text. -/
theorem encode_of_decodeText {bytes : List UInt8} {text : String}
    (hdecode : decodeText ⟨bytes.toArray⟩ = .ok text) : encode text.toList = bytes := by
  simp only [decodeText, String.fromUTF8?] at hdecode
  split at hdecode
  · next decoded hdecoded =>
      obtain ⟨hvalid, hsome⟩ := Option.dite_none_right_eq_some.mp hdecoded
      obtain rfl := Option.some.inj hsome
      obtain rfl := Except.ok.inj hdecode
      rw [← toList_data_toUTF8]
      rfl
  · simp at hdecode

end BooleanRetrieval.Text
