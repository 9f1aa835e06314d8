/-
# Lower case

Full lower-casing of a text.  Every character maps by itself, with two
exceptions to "one character to one": capital I with a dot above becomes two
characters, and capital sigma takes its final form at the end of a word.  A
capital sigma ends a word when a cased character precedes it and none follows,
looking through case-ignorable characters on both sides.
-/

import BooleanRetrieval.Text.Capital
import BooleanRetrieval.Text.Cased

namespace BooleanRetrieval.Text

/-- The lower case of one character outside any context. -/
def lowerChar (c : Char) : List Char :=
  if c = 'İ' then ['i', '\u0307'] else [lowerCounterpart c]

/-- Whether the first character that is not case-ignorable is cased. -/
def meetsCased (chars : List Char) : Bool :=
  match chars.dropWhile isCaseIgnorable with
  | c :: _ => isCased c
  | [] => false

/-- The lower case of a text that follows `before`, whose nearest character
comes first. -/
def lowerAfter (before : List Char) : List Char → List Char
  | [] => []
  | c :: rest =>
    let lowered :=
      if c = 'Σ' then [if meetsCased before && !meetsCased rest then 'ς' else 'σ']
      else lowerChar c
    lowered ++ lowerAfter (c :: before) rest

/-- The lower case of a text. -/
def lower (text : String) : String :=
  .ofList (lowerAfter [] text.toList)

end BooleanRetrieval.Text
