/-
# Search results

A result file gives the number of matches and then names one match on each line,
in the order of ids.
-/

import BooleanRetrieval.Corpus
import BooleanRetrieval.Error

namespace BooleanRetrieval

/-- How a result file names a document. -/
inductive PathStyle where
  /-- By its path as the manifest has it. -/
  | full
  /-- By the last name in its path. -/
  | fileName
  deriving DecidableEq

/-- The name of a document. -/
def PathStyle.nameOf (style : PathStyle) (document : Document) : String :=
  match style with
  | full => document.path
  | fileName => document.fileName

namespace Results

/-- The lines for the given matches, up to the first that is no document of the
corpus, and the error if there is one. -/
def nameMatches (corpus : Corpus) (style : PathStyle) : List Nat → List String × Option Error
  | [] => ([], none)
  | id :: rest =>
    match corpus.get? id with
    | none => ([], some (.foreignDocument id))
    | some document =>
      let (names, failure) := nameMatches corpus style rest
      (style.nameOf document :: names, failure)

/-- The text of a result file as far as it can be written, and the error that cuts
it short. -/
def render (hits : DocSet) (corpus : Corpus) (style : PathStyle) : String × Option Error :=
  let (names, failure) := nameMatches corpus style hits.toList
  (String.join ((toString hits.size :: names).map (· ++ "\n")), failure)

end Results

end BooleanRetrieval
