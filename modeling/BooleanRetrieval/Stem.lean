/-
# Stemming

The stem of a word in one of the languages that have a stemmer.
-/

import BooleanRetrieval.Stem.English
import BooleanRetrieval.Stem.Portuguese

namespace BooleanRetrieval

/-- A language with a stemmer. -/
inductive Language where
  | english
  | portuguese
  deriving DecidableEq

/-- The stem of a word, which is expected in lower case. -/
def Language.stem (language : Language) (word : String) : String :=
  match language with
  | .english => .ofList (Stem.English.stem word.toList)
  | .portuguese => .ofList (Stem.Portuguese.stem word.toList)

end BooleanRetrieval
