/-
# Cutting text at blanks and line ends

Trimming, splitting at white space, and splitting at a separator.  The
functions on lists of characters carry the meaning; those on strings wrap them.
-/

import BooleanRetrieval.Text.Blank

namespace BooleanRetrieval.Text

/-- A list without its trailing blanks. -/
def dropBlankEnd (chars : List Char) : List Char :=
  (chars.reverse.dropWhile isBlank).reverse

/-- A text without its trailing blanks. -/
def trimEnd (text : String) : String :=
  .ofList (dropBlankEnd text.toList)

/-- A text without its leading and trailing blanks. -/
def trim (text : String) : String :=
  .ofList (dropBlankEnd (text.toList.dropWhile isBlank))

/-- One more element in front of the pieces: a mark opens a new piece, any other
element joins the first. -/
def consPiece {α : Type} (isMark : α → Bool) (x : α) : List (List α) → List (List α)
  | [] => if isMark x then [[], []] else [[x]]
  | piece :: pieces => if isMark x then [] :: piece :: pieces else (x :: piece) :: pieces

/-- The pieces between the marks of a sequence; there is always at least one
piece, and pieces may be empty. -/
def piecesBetween {α : Type} (isMark : α → Bool) (sequence : List α) : List (List α) :=
  sequence.foldr (consPiece isMark) [[]]

@[simp] theorem piecesBetween_nil {α : Type} (isMark : α → Bool) :
    piecesBetween isMark [] = [[]] := rfl

@[simp] theorem piecesBetween_cons {α : Type} (isMark : α → Bool) (x : α) (rest : List α) :
    piecesBetween isMark (x :: rest) = consPiece isMark x (piecesBetween isMark rest) := rfl

/-- The maximal runs of non-blank characters. -/
def blankSeparated (chars : List Char) : List (List Char) :=
  (piecesBetween isBlank chars).filter (!·.isEmpty)

/-- The lines of a sequence in which `isEnd` ends a line: the last line needs no
end, and an end at the very end opens no further line. -/
def linesBy {α : Type} (isEnd : α → Bool) (sequence : List α) : List (List α) :=
  let pieces := piecesBetween isEnd sequence
  if pieces.getLast?.any (·.isEmpty) then pieces.dropLast else pieces

/-- What comes before and after the first occurrence of `mark`, if it occurs. -/
def splitAtFirst? (mark : List Char) : List Char → Option (List Char × List Char)
  | [] => if mark.isEmpty then some ([], []) else none
  | c :: rest =>
    if mark.isPrefixOf (c :: rest) then some ([], (c :: rest).drop mark.length)
    else (splitAtFirst? mark rest).map fun (before, after) => (c :: before, after)

end BooleanRetrieval.Text
