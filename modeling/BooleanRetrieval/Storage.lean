/-
# Storage

What the program needs from a file system: to read a whole file and to replace
one.  Both may fail for a stated cause.
-/

namespace BooleanRetrieval

/-- Why a file could not be read or written. -/
inductive FileError where
  | notFound
  /-- A file stands where the path needs a directory. -/
  | notDirectory
  /-- The path names a directory. -/
  | isDirectory
  | nameTooLong
  /-- The path holds a NUL character. -/
  | nulInPath
  /-- The content is not UTF-8. -/
  | notText
  /-- Another cause, in the words of the system. -/
  | other (text : String)
  deriving DecidableEq

/-- The wording of a cause. -/
def FileError.message : FileError → String
  | notFound => "No such file or directory (os error 2)"
  | notDirectory => "Not a directory (os error 20)"
  | isDirectory => "Is a directory (os error 21)"
  | nameTooLong => "File name too long (os error 36)"
  | nulInPath => "file name contained an unexpected NUL byte"
  | notText => "stream did not contain valid UTF-8"
  | other text => text

/-- Access to files by path, in the course of a computation of type `m`. -/
class Storage (m : Type → Type) where
  /-- The content of a file. -/
  read : String → ExceptT FileError m ByteArray
  /-- Make a file of the given content, in place of one that is there. -/
  write : String → ByteArray → ExceptT FileError m Unit

/-- The text that bytes encode in UTF-8. -/
def decodeText (bytes : ByteArray) : Except FileError String :=
  match String.fromUTF8? bytes with
  | some text => .ok text
  | none => .error .notText

/-- The content of a file as text. -/
def readText {m : Type → Type} [Monad m] [Storage m] (path : String) :
    ExceptT FileError m String := do
  MonadExcept.ofExcept (decodeText (← Storage.read path))

end BooleanRetrieval
