/-
# The command line

A command names a manifest and a query file, and may override the configuration.
Words are read from the left.  An option takes the word after it, or what follows
an equals sign, as its value; a double dash makes all further words plain.  A
plain word, or an option with its value in the next word, is settled only when the
next word that is understood comes, so a word that is not understood is reported
first.
-/

import BooleanRetrieval.Database
import BooleanRetrieval.Text.Control

namespace BooleanRetrieval.CommandLine

/-- What a value on the command line is for. -/
inductive Parameter where
  | manifest
  | queryFile
  | config
  | indexOut
  | resultOut
  | analyzer
  deriving DecidableEq

/-- Whether a value is a path, which may not be empty. -/
def Parameter.isPath : Parameter → Bool
  | analyzer => false
  | _ => true

/-- The option of a name. -/
def option? (name : String) : Option Parameter :=
  match name with
  | "config" => some .config
  | "index-out" => some .indexOut
  | "result-out" => some .resultOut
  | "analyzer" => some .analyzer
  | _ => none

/-- A command that is answered without a corpus. -/
inductive Notice where
  | help
  | version
  deriving DecidableEq

/-- A word that works by itself. -/
inductive Flag where
  | fileNames
  | notice (notice : Notice)
  deriving DecidableEq

/-- The flag of a long name. -/
def flag? (name : String) : Option Flag :=
  match name with
  | "file-names" => some .fileNames
  | "help" => some (.notice .help)
  | "version" => some (.notice .version)
  | _ => none

/-- The flag of a letter. -/
def letterFlag? (letter : Char) : Option Flag :=
  match letter with
  | 'h' => some (.notice .help)
  | 'V' => some (.notice .version)
  | _ => none

/-- Why a command line ends before its job. -/
inductive Halt where
  /-- It asks for a notice. -/
  | notice (notice : Notice)
  /-- It is not formed as it must be; the form is shown. -/
  | misused
  /-- A value is missing or empty; the form is not shown. -/
  | valueMissing
  deriving DecidableEq

/-- What has been read of a command line. -/
structure Reading where
  /-- The settled values. -/
  values : List (Parameter × String)
  fileNames : Bool
  /-- The parameter to settle next, with its value if that has come. -/
  unsettled : Option (Parameter × Option String)
  /-- Plain words still expected. -/
  expected : List Parameter

namespace Reading

/-- Nothing has been read. -/
def start : Reading where
  values := []
  fileNames := false
  unsettled := none
  expected := [.manifest, .queryFile]

/-- Give a parameter its value. -/
def assign (reading : Reading) (parameter : Parameter) (value : String) : Except Halt Reading :=
  if reading.values.any (·.1 = parameter) then .error .misused
  else if parameter.isPath && value.isEmpty then .error .valueMissing
  else .ok { reading with values := (parameter, value) :: reading.values }

/-- Settle what is unsettled. -/
def settle (reading : Reading) : Except Halt Reading :=
  match reading.unsettled with
  | none => .ok reading
  | some (_, none) => .error .valueMissing
  | some (parameter, some value) => { reading with unsettled := none }.assign parameter value

/-- Read a flag. -/
def readFlag (reading : Reading) (flag : Flag) : Except Halt Reading := do
  let reading ← reading.settle
  match flag with
  | .notice notice => .error (.notice notice)
  | .fileNames => if reading.fileNames then .error .misused else .ok { reading with fileNames := true }

/-- Read a word after two dashes: a name, and a value if an equals sign follows it. -/
def readLong (reading : Reading) (name : String) (value? : Option String) :
    Except Halt Reading :=
  match option? name, flag? name, value? with
  | some parameter, _, some value => do (← reading.settle).assign parameter value
  | some parameter, _, none => do return { ← reading.settle with unsettled := some (parameter, none) }
  | none, some flag, none => reading.readFlag flag
  | none, some _, some _ | none, none, _ => .error .misused

/-- Read a plain word. -/
def readPlain (reading : Reading) (word : String) : Except Halt Reading :=
  match reading.expected with
  | [] => .error .misused
  | parameter :: expected => do
    return { ← reading.settle with unsettled := some (parameter, some word), expected }

/-- Read a word before any double dash. -/
def readWord (reading : Reading) (word : String) : Except Halt Reading :=
  match word.toList with
  | '-' :: '-' :: rest =>
    match Text.splitAtFirst? ['='] rest with
    | some (name, value) => reading.readLong (.ofList name) (some (.ofList value))
    | none => reading.readLong (.ofList rest) none
  | '-' :: letter :: _ =>
    match letterFlag? letter with
    | some flag => reading.readFlag flag
    | none => .error .misused
  | _ =>
    match reading.unsettled with
    | some (parameter, none) => .ok { reading with unsettled := some (parameter, some word) }
    | _ => reading.readPlain word

/-- Read all words. -/
def readWords (reading : Reading) : List String → Except Halt Reading
  | [] => reading.settle
  | word :: words =>
    if word = "--" then do (← words.foldlM readPlain reading).settle
    else do readWords (← reading.readWord word) words

/-- The value of a parameter. -/
def value? (reading : Reading) (parameter : Parameter) : Option String :=
  reading.values.lookup parameter

end Reading

/-- A batch job and how it departs from its configuration. -/
structure Job where
  manifest : String
  queryFile : String
  /-- The file of the configuration. -/
  config : Option String
  indexOut : Option String
  resultOut : Option String
  analyzer : Option String
  fileNames : Bool

/-- The job that a command line asks for. -/
def parse (words : List String) : Except Halt Job := do
  let reading ← Reading.start.readWords words
  match reading.value? .manifest, reading.value? .queryFile with
  | some manifest, some queryFile =>
    return {
      manifest, queryFile
      config := reading.value? .config
      indexOut := reading.value? .indexOut
      resultOut := reading.value? .resultOut
      analyzer := reading.value? .analyzer
      fileNames := reading.fileNames }
  | _, _ => .error .misused

namespace Job

/-- A configuration with the job's departures from it. -/
def override (job : Job) (config : Config) : Config :=
  { config with
    indexPath := job.indexOut.getD config.indexPath
    resultPath := job.resultOut.getD config.resultPath
    analyzer := job.analyzer.getD config.analyzer
    resultPaths := if job.fileNames then .fileName else config.resultPaths }

/-- The words for an error that ends a job, given what the job was doing. -/
def describe (doing : String) (error : Error) : String :=
  let report := s!"{doing}: {error.message}"
  if error.isQueryError then s!"query rejected, no result file written: {report}" else report

variable {m : Type → Type} [Monad m] [Storage m]

/-- The configuration of a job before its departures. -/
def baseConfig (job : Job) : ExceptT Error m Config :=
  match job.config with
  | some path => Config.load path
  | none => pure {}

/-- Carry out a job; the error is in words. -/
def perform (job : Job) : ExceptT String m DocSet := do
  let path := job.config.getD ""
  let config ← job.baseConfig.adapt (describe s!"loading config {path}")
  (Database.run job.manifest job.queryFile (job.override config)).adapt
    (describe s!"querying corpus {job.manifest}")

end Job

/-- How a command ends. -/
inductive Outcome where
  | done
  | notice (notice : Notice)
  | misused
  | valueMissing
  /-- The job failed; the reason is in words for a terminal. -/
  | failed (reason : String)

/-- The exit code of a command. -/
def Outcome.exitCode : Outcome → UInt32
  | done | notice _ => 0
  | misused | valueMissing | failed _ => 1

/-- Carry out a command. -/
def run {m : Type → Type} [Monad m] [Storage m] (words : List String) : m Outcome :=
  match parse words with
  | .error (.notice notice) => pure (.notice notice)
  | .error .misused => pure .misused
  | .error .valueMissing => pure .valueMissing
  | .ok job => do
    match ← job.perform.run with
    | .ok _ => return .done
    | .error reason => return .failed (Text.showControls reason)

/-- The name and version of the program. -/
def versionText : String := "booldex 0.1.0\n"

/-- The form of a command. -/
def usageText : String :=
  "Usage: booldex [OPTIONS] <MANIFEST> <QUERY_FILE>\n"

/-- The notice on how to use the program. -/
def helpText : String :=
  String.join [
    "Boolean retrieval over a document corpus\n\n", usageText,
    "\nArguments:\n",
    "  <MANIFEST>    Corpus manifest: one document path per line\n",
    "  <QUERY_FILE>  File holding the query, e.g. `cat dog | !bird`\n",
    "\nOptions:\n",
    "      --config <CONFIG>          JSON config file; flags below override it\n",
    "      --index-out <INDEX_OUT>    Where to write the inverted index [default: indice.txt]\n",
    "      --result-out <RESULT_OUT>  Where to write the matching documents ",
    "[default: resposta.txt]\n",
    "      --analyzer <ANALYZER>      Text analyzer (portuguese, english, simple)\n",
    "      --file-names               List matches by file name instead of manifest path\n",
    "  -h, --help                     Print help\n",
    "  -V, --version                  Print version\n"]

/-- What a command prints. -/
def Outcome.printed : Outcome → String
  | notice .help => helpText
  | notice .version => versionText
  | done | misused | valueMissing | failed _ => ""

/-- What a command reports on the side. -/
def Outcome.reported : Outcome → String
  | misused => usageText
  | valueMissing => "error: a value is required\n"
  | failed reason => s!"ERROR {reason}\n"
  | done | notice _ => ""

end BooleanRetrieval.CommandLine
