/-
# Terms

Index terms are texts.  They are ordered without regard to case, and by code
point among those that differ in case only.  A term can be stored if it is not
empty and holds no blank character.
-/

import BooleanRetrieval.Text.Blank
import BooleanRetrieval.Text.Lowercase

namespace BooleanRetrieval

/-- The order of terms in an index file. -/
def termOrder (first second : String) : Ordering :=
  (compare (Text.lower first) (Text.lower second)).then (compare first second)

/-- Terms in their order; equal terms keep their places. -/
def sortTerms (terms : List String) : List String :=
  terms.mergeSort fun first second => (termOrder first second).isLE

/-- Whether an index can hold a term. -/
def isStorable (term : String) : Bool :=
  !term.isEmpty && !term.toList.any Text.isBlank

end BooleanRetrieval
