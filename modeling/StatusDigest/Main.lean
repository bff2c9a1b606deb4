import StatusDigest.CommandLine.Run
import Std.Time.DateTime.Timestamp

/-!
# The program

The operating system answers for files, the environment and the time; everything else is decided
by `CommandLine.perform`. Nothing is written of the log.
-/

namespace StatusDigest.Main

open Dump

/-- The system's text for an error and its number. -/
def systemReason (details : String) (number : UInt32) : String :=
  details ++ " (os error " ++ Decimal.naturalText number.toNat ++ ")"

/-- The reason behind an error of the operating system. -/
def reasonOf : IO.Error → String
  | .noFileOrDirectory _ number details => systemReason details number
  | .permissionDenied _ number details => systemReason details number
  | .inappropriateType _ number details => systemReason details number
  | .invalidArgument _ number details => systemReason details number
  | error => error.toString

/-- Reads a file from its start; a read that fails leaves its reason in the source. -/
def readSource (handle : IO.FS.Handle) : IO Source := do
  try
    let bytes ← handle.readBinToEnd
    return .ofBytes bytes.toList
  catch error =>
    return { chunks := [], failure := some (reasonOf error) }

/-- Opens and reads a file. -/
def openFile (path : String) : IO (Except String Source) := do
  try
    let handle ← IO.FS.Handle.mk path .read
    return .ok (← readSource handle)
  catch error =>
    return .error (reasonOf error)

/-- The values of the environment variables that the program asks for. -/
def environment : IO CommandLine.Environment := do
  let names := [Settings.pathVariable, LogFilter.environmentVariable]
  let values ← names.mapM fun name => return (name, ← IO.getEnv name)
  return fun name => (values.lookup name).join

/-- Writes no remark. Which ones a filter lets through, and how a line of the log looks, would be up
to a library for logs. -/
def silentWriter : Log.Writer :=
  fun _ _ => ""

end StatusDigest.Main

open StatusDigest in
/-- Runs the program with the arguments of its command line. -/
def main (arguments : List String) : IO UInt32 := do
  let now ← Std.Time.Timestamp.now
  let seconds := Int64.ofInt now.toSecondsSinceUnixEpoch.val
  let course ← CommandLine.perform Main.openFile (← Main.environment) seconds arguments
  IO.print course.outcome.output
  IO.eprint (course.errorText Main.silentWriter)
  if course.outcome.exitCode = 2 then
    IO.eprint "error: invalid arguments\n\nFor more information, try '--help'.\n"
  return course.outcome.exitCode
