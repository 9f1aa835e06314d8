/-
# Corpora

A corpus is an ordered list of document paths; the document at position `i`,
counted from 1, has the id `i`.  A manifest lists the paths, one to a line.
-/

import BooleanRetrieval.DocSet
import BooleanRetrieval.Path

namespace BooleanRetrieval

/-- A document: its id and where its text is. -/
structure Document where
  id : Nat
  path : String
  deriving DecidableEq

/-- The last name in the path of a document, else the whole path. -/
def Document.fileName (document : Document) : String :=
  (Path.ofText document.path).lastName?.getD document.path

/-- The paths of the documents in order. -/
structure Corpus where
  paths : Array String
  deriving DecidableEq

namespace Corpus

/-- The corpus of the listed paths. -/
def ofPaths (paths : List String) : Corpus :=
  ⟨paths.toArray⟩

/-- The lines of a manifest that are not blank, without trailing blanks. -/
def ofManifest (text : String) : Corpus :=
  let lines := (Text.linesBy (· = '\n') text.toList).map Text.dropBlankEnd
  ofPaths ((lines.filter (!·.isEmpty)).map String.ofList)

/-- The number of documents. -/
def size (corpus : Corpus) : Nat :=
  corpus.paths.size

/-- The documents in order. -/
def documents (corpus : Corpus) : List Document :=
  (corpus.paths.toList.zipIdx 1).map fun (path, id) => ⟨id, path⟩

/-- The document of an id. -/
def get? (corpus : Corpus) (id : Nat) : Option Document :=
  if id = 0 then none else corpus.paths[id - 1]?.map (⟨id, ·⟩)

/-- The ids of all documents. -/
def ids (corpus : Corpus) : DocSet :=
  .upTo corpus.size

end Corpus

end BooleanRetrieval
