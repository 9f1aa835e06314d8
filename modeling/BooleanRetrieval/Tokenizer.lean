/-
# Tokenizers

A tokenizer cuts a text into segments, keeps those that hold a letter or a digit,
and numbers them.  A word that is too long is passed over and takes no number;
its length is measured as it stands in the text, before lower-casing.
-/

import BooleanRetrieval.Text.Lowercase
import BooleanRetrieval.Text.Segment
import BooleanRetrieval.Token

namespace BooleanRetrieval

/-- The number of bytes of a sequence of characters in UTF-8. -/
def Text.byteCount (chars : List Char) : Nat :=
  chars.foldl (fun count c => count + c.utf8Size) 0

/-- Whether a segment is a word: it holds an alphabetic or a numeric character. -/
def Text.isWord (segment : List Char) : Bool :=
  segment.any fun c => isAlphabetic c || isNumeric c

/-- The settings of a tokenizer. -/
structure Tokenizer where
  lowercase : Bool := true
  /-- The most bytes that a word may have. -/
  maxLength : Nat := 255

namespace Tokenizer

/-- The segments of a text with the byte each starts at, from `offset` on. -/
def withOffsets (offset : Nat) : List (List Char) → List (Nat × List Char)
  | [] => []
  | segment :: rest => (offset, segment) :: withOffsets (offset + Text.byteCount segment) rest

/-- The words of a text that are short enough, with the byte each starts at. -/
def words (tokenizer : Tokenizer) (text : String) : List (Nat × String) :=
  (withOffsets 0 (Text.segments text.toList)).filterMap fun (offset, segment) =>
    if Text.isWord segment && Text.byteCount segment ≤ tokenizer.maxLength then
      some (offset, .ofList segment)
    else none

/-- The tokens of a text. -/
def tokenize (tokenizer : Tokenizer) (text : String) : List Token :=
  (tokenizer.words text).zipIdx.map fun ((offset, word), position) =>
    .ofText (if tokenizer.lowercase then Text.lower word else word) position offset

end Tokenizer

end BooleanRetrieval
