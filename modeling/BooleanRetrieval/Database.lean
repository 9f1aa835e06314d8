/-
# Databases

A database is a corpus, the index of its documents, and what it takes to query
them.  Query terms go through the preprocessor that made the index, unless the
configuration says otherwise; a term that the preprocessor drops becomes the empty
term, which no index holds.

The batch job reads the query first, so that an unreadable query leaves no output;
it writes the index before it looks at the query, so that a malformed query leaves
no result file.
-/

import BooleanRetrieval.Config
import BooleanRetrieval.Index.File
import BooleanRetrieval.Query.Evaluation
import BooleanRetrieval.Query.Parser
import BooleanRetrieval.Registry

namespace BooleanRetrieval

/-- A corpus that can be queried. -/
structure Database where
  config : Config
  corpus : Corpus
  preprocessor : Preprocessor
  index : Index

variable {m : Type → Type} [Monad m] [Storage m]

/-- The text of a document. -/
def Document.load (document : Document) : ExceptT Error m String :=
  (readText document.path).adapt (.document document.id document.path)

/-- The corpus of a manifest file. -/
def Corpus.load (path : String) : ExceptT Error m Corpus := do
  return .ofManifest (← (readText path).adapt (.manifest path))

/-- The index of a corpus, whose documents are read in order. -/
def Corpus.buildIndex (corpus : Corpus) (preprocessor : Preprocessor) : ExceptT Error m Index :=
  corpus.documents.foldlM
    (fun index document => do
      return index.addDocument preprocessor document.id (← document.load))
    .empty

/-- The query in a file, without the blanks around it. -/
def Query.loadText (path : String) : ExceptT Error m String := do
  return Text.trim (← (readText path).adapt (.queryFile path))

/-- The index in a file.  A directory is found only when its content is read. -/
def Index.load (path : String) : ExceptT Error m Index := do
  let content ← (Storage.read path).adapt fun cause =>
    if cause = .isDirectory then .content cause else .indexFile path cause
  MonadExcept.ofExcept (Index.read content)

namespace Database

/-- The database of a corpus. -/
def build (corpus : Corpus) (preprocessor : Preprocessor) (config : Config) :
    ExceptT Error m Database := do
  return { config, corpus, preprocessor, index := ← corpus.buildIndex preprocessor }

/-- The database of a manifest file, with the analyzer that the configuration
names. -/
def load (manifest : String) (config : Config) : ExceptT Error m Database := do
  let analyzer ← MonadExcept.ofExcept ((Registry.presets config.lowercase).get config.analyzer)
  build (← Corpus.load manifest) analyzer.toPreprocessor config

/-- The index and the documents of a database. -/
def collection (database : Database) : Collection :=
  ⟨database.index, database.corpus.ids⟩

/-- The term of the index that stands for a query term. -/
def indexTerm (database : Database) (term : String) : String :=
  (database.preprocessor.normalize term).getD ""

/-- The query that a text denotes, with the terms that the index has for it. -/
def parseQuery (database : Database) (text : String) : Except Error Query := do
  let query ← Query.parse database.config.lowercase text
  return if database.config.analyzeQueryTerms then query.mapTerms database.indexTerm else query

/-- The documents that satisfy a query. -/
def search (database : Database) (text : String) : Except Error DocSet := do
  return database.collection.satisfy (← database.parseQuery text)

/-- Write the index to its file. -/
def saveIndex (database : Database) : ExceptT Error m Unit :=
  let path := database.config.indexPath
  (Storage.write path database.index.render.toUTF8).adapt (.indexFile path)

/-- Write matches to the result file, as far as they are documents of the corpus. -/
def saveResults (database : Database) (hits : DocSet) : ExceptT Error m Unit := do
  let path := database.config.resultPath
  let (text, failure) := Results.render hits database.corpus database.config.resultPaths
  (Storage.write path text.toUTF8).adapt (.resultFile path)
  if let some error := failure then throw error

/-- The batch job: index a corpus, answer a query, and write both to files. -/
def run (manifest queryFile : String) (config : Config) : ExceptT Error m DocSet := do
  let query ← Query.loadText queryFile
  let database ← Database.load manifest config
  database.saveIndex
  let hits ← MonadExcept.ofExcept (database.search query)
  database.saveResults hits
  return hits

end Database

end BooleanRetrieval
