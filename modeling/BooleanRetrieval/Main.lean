/-
# The program

The command line on the files of the system.
-/

import BooleanRetrieval.CommandLine

namespace BooleanRetrieval

/-- The cause that an error of the system stands for. -/
def FileError.ofSystem : IO.Error → FileError
  | .noFileOrDirectory .. => .notFound
  | error => .other (toString error)

/-- The files of the system. -/
instance : Storage IO where
  read path := ExceptT.mk do
    try return .ok (← IO.FS.readBinFile path)
    catch error => return .error (.ofSystem error)
  write path content := ExceptT.mk do
    try return .ok (← IO.FS.writeBinFile path content)
    catch error => return .error (.ofSystem error)

end BooleanRetrieval

open BooleanRetrieval CommandLine in
/-- Carry out the command that the words of the command line make up. -/
def main (words : List String) : IO UInt32 := do
  let outcome ← run words
  IO.print outcome.printed
  IO.eprint outcome.reported
  return outcome.exitCode
