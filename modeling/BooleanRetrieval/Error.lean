/-
# Errors

Everything that can go wrong, by cause.  A message names the kind of the error
and then says what happened.
-/

import BooleanRetrieval.Storage

namespace BooleanRetrieval

/-- The class of an error. -/
inductive ErrorKind where
  | io
  | parse
  | invalidArgument
  | missingManifest
  | missingDocument
  | danglingOperator
  | danglingNegation
  deriving DecidableEq

/-- The word for a class of errors. -/
def ErrorKind.name : ErrorKind → String
  | io => "Io"
  | parse => "Parse"
  | invalidArgument => "InvalidArgument"
  | missingManifest => "MissingManifest"
  | missingDocument => "MissingDocument"
  | danglingOperator => "DanglingOperator"
  | danglingNegation => "DanglingNegation"

/-- What went wrong. -/
inductive Error where
  | queryFile (path : String) (cause : FileError)
  | manifest (path : String) (cause : FileError)
  | document (id : Nat) (path : String) (cause : FileError)
  | indexFile (path : String) (cause : FileError)
  | resultFile (path : String) (cause : FileError)
  /-- A file was opened but its content could not be used. -/
  | content (cause : FileError)
  /-- A line of an index file, counted from 1, is not an entry. -/
  | malformedEntry (line : Nat) (text : String)
  /-- A line of an index file, counted from 1, defines a term again. -/
  | duplicateTerm (line : Nat) (term : String)
  | malformedConfig
  | unknownAnalyzer (name : String) (known : List String)
  /-- A match is no document of the corpus. -/
  | foreignDocument (id : Nat)
  /-- A query term begins or ends with the sign for "and". -/
  | danglingOperator (term : String)
  /-- A negation has no term after it. -/
  | danglingNegation
  deriving DecidableEq

namespace Error

/-- The class of an error. -/
def kind : Error → ErrorKind
  | queryFile .. | indexFile .. | resultFile .. | content _ => .io
  | manifest .. => .missingManifest
  | document .. => .missingDocument
  | malformedEntry .. | duplicateTerm .. | malformedConfig => .parse
  | unknownAnalyzer .. | foreignDocument _ => .invalidArgument
  | danglingOperator _ => .danglingOperator
  | danglingNegation => .danglingNegation

/-- What happened, without the class. -/
def context : Error → String
  | queryFile path cause => s!"query file {path}: {cause.message}"
  | manifest path cause => s!"{path}: {cause.message}"
  | document id path cause => s!"document {id} ({path}): {cause.message}"
  | indexFile path cause => s!"index file {path}: {cause.message}"
  | resultFile path cause => s!"result file {path}: {cause.message}"
  | content cause => cause.message
  | malformedEntry line text => s!"line {line}: malformed index entry '{text}'"
  | duplicateTerm line term => s!"line {line}: duplicate term '{term}'"
  | malformedConfig => "config"
  | unknownAnalyzer name known =>
    let names := ", ".intercalate known
    s!"analyzer '{name}' not found (known: {names})"
  | foreignDocument id => s!"document {id} is not in the corpus"
  | danglingOperator term =>
    s!"'{term}' is not an operator here; terms in a group are already ANDed"
  | danglingNegation => "'!' must be followed by a term"

/-- The wording of an error. -/
def message (error : Error) : String :=
  s!"{error.kind.name}: {error.context}"

/-- Whether the text of a query is at fault, rather than a file. -/
def isQueryError (error : Error) : Bool :=
  error.kind = .danglingOperator || error.kind = .danglingNegation

end Error

end BooleanRetrieval
