/-
# Stop words

Words too common to be worth indexing.  A text with an upper-case character is
looked up in lower case, any other text as it is.
-/

import BooleanRetrieval.Text.Lowercase
import BooleanRetrieval.Text.Uppercase

namespace BooleanRetrieval

/-- A list of words to leave out. -/
structure StopWords where
  words : List String
  deriving DecidableEq

namespace StopWords

/-- Whether a text is on the list. -/
def contains (list : StopWords) (text : String) : Bool :=
  list.words.contains (if text.toList.any Text.isUppercase then Text.lower text else text)

/-- The stop words of English. -/
def english : StopWords where
  words := [
    "a", "an", "and", "are", "as", "at", "be", "by", "for", "from", "has", "he", "in", "is",
    "it", "its", "of", "on", "that", "the", "to", "was", "will", "with"]

/-- The stop words of Portuguese. -/
def portuguese : StopWords where
  words := [
    "a", "à", "ao", "aos", "aquela", "aquelas", "aquele", "aqueles", "aquilo", "as", "às",
    "até", "com", "como", "da", "das", "de", "dela", "delas", "dele", "deles", "depois", "do",
    "dos", "e", "é", "ela", "elas", "ele", "eles", "em", "entre", "era", "essa", "essas",
    "esse", "esses", "esta", "está", "estas", "este", "estes", "eu", "foi", "há", "isso",
    "isto", "já", "lhe", "lhes", "mais", "mas", "me", "mesmo", "meu", "minha", "muito", "na",
    "nas", "nem", "no", "nos", "nós", "não", "nossa", "nosso", "num", "numa", "o", "os", "ou",
    "para", "pela", "pelas", "pelo", "pelos", "por", "qual", "quando", "que", "quem", "se",
    "sem", "ser", "seu", "seus", "só", "sua", "suas", "também", "te", "tem", "um", "uma",
    "umas", "uns", "você", "vocês"]

end StopWords

end BooleanRetrieval
