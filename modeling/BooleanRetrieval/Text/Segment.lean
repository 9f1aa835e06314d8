/-
# Segments of a text

A text is cut at its word boundaries by the Unicode rules: letters and digits
hang together, also across a mark such as an apostrophe or a decimal point when
the right character follows it; combining marks stay with what they are attached
to; all else stands alone.  A segment is grown to the right one character at a
time, and what may follow depends on its `Tail` only.

Two decisions go beyond the rules' wording.  A pictograph held by a zero-width
joiner ends its segment, even one that is a letter as well.  The joiner holds
its pictograph also while a mark waits for the letter or digit after it.
-/

import BooleanRetrieval.Text.BreakClass
import BooleanRetrieval.Text.Pictographic

namespace BooleanRetrieval.Text

/-- What a segment ends with, transparent characters aside. -/
inductive Tail where
  | letter
  | hebrew
  | numeric
  | katakana
  | connector
  /-- A regional indicator that is still alone. -/
  | loneRegional
  | space
  /-- A Hebrew letter and an apostrophe: complete, but a letter may follow. -/
  | hebrewApostrophe
  /-- A mark that belongs to the segment only if a letter follows. -/
  | awaitsLetter
  /-- A mark that belongs to the segment only if a Hebrew letter follows. -/
  | awaitsHebrew
  /-- A mark that belongs to the segment only if a digit follows. -/
  | awaitsNumeric
  /-- Nothing but transparent characters can follow. -/
  | closed
  deriving DecidableEq

/-- How a character relates to the segment before it. -/
inductive Junction where
  /-- It belongs to the segment, which then ends with the given tail. -/
  | joins (tail : Tail)
  /-- It belongs to the segment if what the given tail awaits follows. -/
  | joinsIfConfirmed (tail : Tail)
  /-- It starts another segment. -/
  | parts

namespace Tail

/-- Whether the segment is complete only after one more character. -/
def isAwaiting : Tail → Bool
  | awaitsLetter | awaitsHebrew | awaitsNumeric => true
  | _ => false

/-- The tail after a transparent character: a space no longer joins the next. -/
def afterTransparent : Tail → Tail
  | space => closed
  | tail => tail

/-- The tail of a segment of one character. -/
def ofClass : BreakClass → Tail
  | .letter => letter
  | .hebrew => hebrew
  | .numeric => numeric
  | .katakana => katakana
  | .connector => connector
  | .regional => loneRegional
  | .space => space
  | _ => closed

/-- What letters, digits and connectors do after one another. -/
def afterWordCharacter : BreakClass → Junction
  | .letter => .joins letter
  | .hebrew => .joins hebrew
  | .numeric => .joins numeric
  | .connector => .joins connector
  | _ => .parts

/-- How a character that is not transparent follows a tail. -/
def junction : Tail → BreakClass → Junction
  | letter, .midLetter | letter, .midNumLetter | letter, .singleQuote
  | hebrew, .midLetter | hebrew, .midNumLetter => .joinsIfConfirmed awaitsLetter
  | hebrew, .singleQuote => .joins hebrewApostrophe
  | hebrew, .doubleQuote => .joinsIfConfirmed awaitsHebrew
  | numeric, .midNumber | numeric, .midNumLetter | numeric, .singleQuote =>
    .joinsIfConfirmed awaitsNumeric
  | letter, kind | hebrew, kind | numeric, kind => afterWordCharacter kind
  | katakana, .katakana | connector, .katakana => .joins katakana
  | katakana, .connector => .joins connector
  | connector, kind => afterWordCharacter kind
  | awaitsLetter, .letter | hebrewApostrophe, .letter => .joins letter
  | awaitsLetter, .hebrew | hebrewApostrophe, .hebrew | awaitsHebrew, .hebrew => .joins hebrew
  | awaitsNumeric, .numeric => .joins numeric
  | loneRegional, .regional => .joins closed
  | space, .space => .joins space
  | _, _ => .parts

/-- How many of the following characters belong to a segment with the given
tail; nothing if the tail awaits a character that does not come.  `afterJoiner`
says that a zero-width joiner is the last character so far. -/
def reach (tail : Tail) (afterJoiner : Bool) : List Char → Option Nat
  | [] => if tail.isAwaiting then none else some 0
  | c :: rest =>
    match breakClass c with
    | .joiner => (reach tail.afterTransparent true rest).map (· + 1)
    | .transparent => (reach tail.afterTransparent false rest).map (· + 1)
    | kind =>
      if afterJoiner && isPictographic c then (reach closed false rest).map (· + 1)
      else
        match tail.junction kind with
        | .joins next => (reach next false rest).map (· + 1)
        | .joinsIfConfirmed next => some (((reach next false rest).map (· + 1)).getD 0)
        | .parts => if tail.isAwaiting then none else some 0

end Tail

/-- How many of the characters after `c` belong to the segment that `c` opens.
Line ends hold no transparent character, and a carriage return holds only its
line feed. -/
def segmentReach (c : Char) (rest : List Char) : Nat :=
  match breakClass c with
  | .carriageReturn => if rest.head?.any (breakClass · = .lineFeed) then 1 else 0
  | .lineFeed | .newline => 0
  | kind => ((Tail.ofClass kind).reach (kind = .joiner) rest).getD 0

/-- The segments of a text, after those already found, the latest of them first. -/
def segmentsAfter (found : List (List Char)) : List Char → List (List Char)
  | [] => found.reverse
  | c :: rest =>
    let count := segmentReach c rest
    segmentsAfter ((c :: rest.take count) :: found) (rest.drop count)
termination_by chars => chars.length
decreasing_by simp only [List.length_drop, List.length_cons]; omega

/-- The segments of a text, in order. -/
def segments (chars : List Char) : List (List Char) :=
  segmentsAfter [] chars

/-- Searching for segments neither loses nor adds a character. -/
theorem flatten_segmentsAfter (found : List (List Char)) (chars : List Char) :
    (segmentsAfter found chars).flatten = found.reverse.flatten ++ chars := by
  fun_induction segmentsAfter found chars with
  | case1 => simp
  | case2 found c rest count ih => simp [ih]

/-- The segments of a text make up the text. -/
@[simp] theorem flatten_segments (chars : List Char) : (segments chars).flatten = chars := by
  simp [segments, flatten_segmentsAfter]

end BooleanRetrieval.Text
