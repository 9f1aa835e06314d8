/-
# Analyzers

An analyzer is a tokenizer and a chain of filters.  The presets for English and
Portuguese keep words of letters, leave out stop words and stem the rest.
-/

import BooleanRetrieval.Preprocessor
import BooleanRetrieval.Stem
import BooleanRetrieval.StopWords
import BooleanRetrieval.Tokenizer

namespace BooleanRetrieval

/-- A stage that drops tokens or changes their texts. -/
inductive Filter where
  /-- Keep the tokens whose kind is a word. -/
  | alphabetic
  /-- Leave out the listed words. -/
  | stopWords (list : StopWords)
  /-- Put the stem in place of the text; a token without a stem goes. -/
  | stemmer (language : Language)

namespace Filter

/-- The name of a filter in the description of a pipeline. -/
def name : Filter → String
  | alphabetic => "alphabetic"
  | stopWords _ => "stop_words"
  | stemmer _ => "stemmer"

/-- A token with its stem as text.  Its kind stays that of the word. -/
def stemToken (language : Language) (token : Token) : Token :=
  let text := language.stem token.text
  { token with text, length := text.utf8ByteSize }

/-- The tokens that a filter lets through, as it leaves them. -/
def apply (filter : Filter) (tokens : List Token) : List Token :=
  match filter with
  | alphabetic => tokens.filter (·.kind = .word)
  | stopWords list => tokens.filter fun token => !list.contains token.text
  | stemmer language => (tokens.map (stemToken language)).filter fun token => !token.text.isEmpty

end Filter

/-- A tokenizer, the filters behind it, and a name. -/
structure Analyzer where
  name : String
  tokenizer : Tokenizer
  filters : List Filter

namespace Analyzer

/-- The names of the stages in order. -/
def pipeline (analyzer : Analyzer) : String :=
  " > ".intercalate ("standard" :: analyzer.filters.map (·.name))

/-- The tokens of a text. -/
def analyze (analyzer : Analyzer) (text : String) : List Token :=
  analyzer.filters.foldl (fun tokens filter => filter.apply tokens)
    (analyzer.tokenizer.tokenize text)

/-- The texts of the tokens of a text. -/
def terms (analyzer : Analyzer) (text : String) : List String :=
  (analyzer.analyze text).map (·.text)

/-- An analyzer as a source of index terms. -/
def toPreprocessor (analyzer : Analyzer) : Preprocessor where
  terms := analyzer.terms

/-- Words as they are. -/
def simple (lowercase : Bool) : Analyzer where
  name := "simple"
  tokenizer := { lowercase }
  filters := []

/-- Stems of the English words that carry meaning. -/
def english (lowercase : Bool) : Analyzer where
  name := "english"
  tokenizer := { lowercase }
  filters := [.alphabetic, .stopWords .english, .stemmer .english]

/-- Stems of the Portuguese words that carry meaning. -/
def portuguese (lowercase : Bool) : Analyzer where
  name := "portuguese"
  tokenizer := { lowercase }
  filters := [.alphabetic, .stopWords .portuguese, .stemmer .portuguese]

end Analyzer

end BooleanRetrieval
