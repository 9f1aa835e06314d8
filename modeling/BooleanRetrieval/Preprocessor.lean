/-
# Preprocessors

A preprocessor turns a text into index terms.  Documents and query terms pass
through the same one, so that they meet in one space of terms.
-/

import BooleanRetrieval.Text.Split

namespace BooleanRetrieval

/-- A function from texts to their terms, in order and with repetitions. -/
structure Preprocessor where
  terms : String → List String

namespace Preprocessor

/-- The index term that stands for a query term: the first of its terms. -/
def normalize (preprocessor : Preprocessor) (term : String) : Option String :=
  (preprocessor.terms term).head?

/-- The blank-separated words of a text, each spelt backwards. -/
def reversed : Preprocessor where
  terms text := (Text.blankSeparated text.toList).map fun word => .ofList word.reverse

/-- The pieces between the places where `separator`, which is not empty, occurs,
sought from the left; `piece` is the beginning of the first piece, last character
first. -/
def piecesAt (separator : List Char) (piece : List Char) : List Char → List String
  | [] => [.ofList piece.reverse]
  | c :: rest =>
    if separator.isPrefixOf (c :: rest) then
      .ofList piece.reverse :: piecesAt separator [] (rest.drop (separator.length - 1))
    else piecesAt separator (c :: piece) rest
termination_by chars => chars.length
decreasing_by all_goals (simp only [List.length_drop, List.length_cons]; omega)

/-- The pieces of a text between the occurrences of a separator, the empty ones
included.  The empty separator occurs around every character. -/
def splitting (separator : String) : Preprocessor where
  terms text :=
    if separator.isEmpty then "" :: (text.toList.map String.singleton ++ [""])
    else piecesAt separator.toList [] text.toList

end Preprocessor

end BooleanRetrieval
