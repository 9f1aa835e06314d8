/-
# Configuration

The settings of a batch job, written as a JSON object.  Any field may be missing
and then has its default; fields of other names are passed over, whatever their
value; a field given twice is an error.  An array is read as the values of the
fields in their order.
-/

import BooleanRetrieval.Error
import BooleanRetrieval.Json.Text
import BooleanRetrieval.Path
import BooleanRetrieval.Results

namespace BooleanRetrieval

/-- The settings of a batch job. -/
structure Config where
  indexPath : String := "indice.txt"
  resultPath : String := "resposta.txt"
  /-- The name of the analyzer. -/
  analyzer : String := "portuguese"
  lowercase : Bool := true
  /-- Whether query terms pass through the analyzer. -/
  analyzeQueryTerms : Bool := true
  resultPaths : PathStyle := .full
  deriving DecidableEq

namespace Config

/-- Whether two configurations have the same settings.  Their paths may be spelled
differently. -/
def agrees (first second : Config) : Bool :=
  Path.sameText first.indexPath second.indexPath &&
  Path.sameText first.resultPath second.resultPath &&
  first = { second with indexPath := first.indexPath, resultPath := first.resultPath }

@[simp] theorem agrees_self (config : Config) : config.agrees config := by
  simp [agrees]

/-- A field of a configuration. -/
inductive Field where
  | indexPath
  | resultPath
  | analyzer
  | lowercase
  | analyzeQueryTerms
  | resultPaths
  deriving DecidableEq

/-- The name of a field. -/
def Field.name : Field → String
  | indexPath => "index_path"
  | resultPath => "result_path"
  | analyzer => "analyzer"
  | lowercase => "lowercase"
  | analyzeQueryTerms => "analyze_query_terms"
  | resultPaths => "result_paths"

/-- The fields in order. -/
def Field.all : List Field :=
  [indexPath, resultPath, analyzer, lowercase, analyzeQueryTerms, resultPaths]

/-- The field of a name. -/
def Field.ofName? (name : String) : Option Field :=
  all.find? (·.name = name)

/-- The name of a path style. -/
def styleName : PathStyle → String
  | .full => "full"
  | .fileName => "file_name"

/-- The path style of a name. -/
def style? (name : String) : Option PathStyle :=
  [PathStyle.full, .fileName].find? (styleName · = name)

/-- Read a path style: its name, or an object with its name as the only key and no
value. -/
def styleValue? (chars : List Char) : Option (PathStyle × List Char) :=
  match Json.dropSpace chars with
  | '{' :: rest => do
    let (name, rest) ← Json.stringValue? rest
    let style ← style? name
    let rest ← Json.expect ":" (Json.dropSpace rest)
    let rest ← Json.expect "null" (Json.dropSpace rest)
    let rest ← Json.expect "\x7d" (Json.dropSpace rest)
    return (style, rest)
  | chars => do
    let (name, rest) ← Json.stringValue? chars
    return (← style? name, rest)

/-- Read the value of a field and set it. -/
def readField (config : Config) (field : Field) (chars : List Char) :
    Option (Config × List Char) :=
  match field with
  | .indexPath => do
    let (value, rest) ← Json.stringValue? chars
    return ({ config with indexPath := value }, rest)
  | .resultPath => do
    let (value, rest) ← Json.stringValue? chars
    return ({ config with resultPath := value }, rest)
  | .analyzer => do
    let (value, rest) ← Json.stringValue? chars
    return ({ config with analyzer := value }, rest)
  | .lowercase => do
    let (value, rest) ← Json.boolValue? chars
    return ({ config with lowercase := value }, rest)
  | .analyzeQueryTerms => do
    let (value, rest) ← Json.boolValue? chars
    return ({ config with analyzeQueryTerms := value }, rest)
  | .resultPaths => do
    let (value, rest) ← styleValue? chars
    return ({ config with resultPaths := value }, rest)

/-- Read the value of a member of the object: set the field of its name, or pass it
over if there is no such field.  A field of `seen` was set before. -/
def readMember (config : Config) (seen : List Field) (name : String) (chars : List Char) :
    Option (Config × List Field × List Char) :=
  match Field.ofName? name with
  | none => do return (config, seen, ← Json.skipValue chars)
  | some field =>
    if seen.contains field then none
    else do
      let (config, rest) ← config.readField field chars
      return (config, field :: seen, rest)

/-- Read the members of the object from a key on, at most `count` of them. -/
def readMembers : Nat → Config → List Field → List Char → Option (Config × List Char)
  | 0, _, _, _ => none
  | count + 1, config, seen, chars => do
    let (name, rest) ← Json.stringValue? chars
    let rest ← Json.expect ":" (Json.dropSpace rest)
    let (config, seen, rest) ← config.readMember seen name rest
    match Json.dropSpace rest with
    | '}' :: rest => some (config, rest)
    | ',' :: rest => readMembers count config seen rest
    | _ => none

/-- Read the values of the given fields from an array, after one of its elements. -/
def readElements (config : Config) : List Field → List Char → Option (Config × List Char)
  | [], chars => do return (config, ← Json.expect "]" (Json.dropSpace chars))
  | field :: fields, chars =>
    match Json.dropSpace chars with
    | ']' :: rest => some (config, rest)
    | ',' :: rest => do
      let (config, rest) ← config.readField field rest
      config.readElements fields rest
    | _ => none

/-- Read an array of values of the fields, after its opening bracket. -/
def readArray (chars : List Char) : Option (Config × List Char) :=
  match Json.dropSpace chars with
  | ']' :: rest => some ({}, rest)
  | _ => do
    let (config, rest) ← readField {} .indexPath chars
    config.readElements (Field.all.drop 1) rest

/-- Read a configuration from the front of a text. -/
def readFrom (chars : List Char) : Option (Config × List Char) :=
  match Json.dropSpace chars with
  | '[' :: rest => readArray rest
  | '{' :: rest =>
    match Json.dropSpace rest with
    | '}' :: rest => some ({}, rest)
    | _ => readMembers rest.length {} [] rest
  | _ => none

/-- The configuration that a text denotes. -/
def read (text : String) : Except Error Config :=
  match readFrom text.toList with
  | some (config, rest) =>
    if Json.dropSpace rest = [] then .ok config else .error .malformedConfig
  | none => .error .malformedConfig

/-- The value of a field as JSON text. -/
def renderField (config : Config) : Field → String
  | .indexPath => Json.quote config.indexPath
  | .resultPath => Json.quote config.resultPath
  | .analyzer => Json.quote config.analyzer
  | .lowercase => toString config.lowercase
  | .analyzeQueryTerms => toString config.analyzeQueryTerms
  | .resultPaths => Json.quote (styleName config.resultPaths)

/-- A configuration as JSON text. -/
def render (config : Config) : String :=
  let members := Field.all.map fun field =>
    Json.quote field.name ++ ":" ++ config.renderField field
  "\x7b" ++ ",".intercalate members ++ "\x7d"

/-- Read the configuration of a file. -/
def load {m : Type → Type} [Monad m] [Storage m] (path : String) : ExceptT Error m Config := do
  MonadExcept.ofExcept (read (← (readText path).adapt .content))

end Config

end BooleanRetrieval
