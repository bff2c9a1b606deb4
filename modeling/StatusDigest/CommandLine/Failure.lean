import StatusDigest.Failure
import StatusDigest.LogFilter
import StatusDigest.Settings.Document

/-!
# Failures of a run

A run that fails says what it could not do, and then the causes, from the nearest to the farthest.
A single cause is indented; several causes are numbered as well. The further lines of a cause are
indented like its first line.
-/

namespace StatusDigest.CommandLine

/-- Why a run fails. -/
inductive Failure where
  /-- There are no settings. -/
  | settings (failure : Settings.Failure)
  /-- The log filter on the command line has a fault. -/
  | logOption (fault : LogFilter.Fault)
  /-- The log filter in the settings has a fault. -/
  | logSetting (fault : LogFilter.Fault)
  /-- The daemon's configuration does not lead to a status file. -/
  | locating (config : String) (failure : StatusFailure)
  | reading (path : String) (failure : StatusFailure)
  /-- Values of variables are wanted, but there is no list of variables. -/
  | noVariables
deriving DecidableEq, Repr

/-- The texts of a failed read and of the reason behind it. -/
def statusCauses (failure : StatusFailure) : List String :=
  failure.message :: failure.reason?.toList

namespace Failure

/-- What could not be done. -/
def summary : Failure → String
  | .settings failure => failure.message
  | .logOption _ => "invalid --log-level"
  | .logSetting _ => "invalid logging.filter"
  | .locating config _ => "locating status file via " ++ config
  | .reading path _ => "reading status file " ++ path
  | .noVariables => "MRTG mode needs a variable list (--data or output.mrtg_variables)"

/-- The causes, the nearest one first. -/
def causes : Failure → List String
  | .settings _ | .noVariables => []
  | .logOption fault | .logSetting fault => fault.causes
  | .locating _ failure | .reading _ failure => statusCauses failure

/-- A text whose first line follows a mark, and whose further lines are indented as deep. -/
def indented (mark text : String) : String :=
  let lines := (Text.pieces '\n' text.toList).map String.ofList
  let margin := String.ofList (List.replicate mark.length ' ')
  mark ++ String.intercalate ("\n" ++ margin) lines

/-- The mark of a cause among several. -/
def numberMark (number : Nat) : String :=
  let digits := Nat.toDigits 10 number
  String.ofList (List.replicate (5 - digits.length) ' ' ++ digits) ++ ": "

/-- The lines about the causes. -/
def causesText : List String → String
  | [] => ""
  | [cause] => "\n\nCaused by:\n" ++ indented "    " cause
  | causes =>
    "\n\nCaused by:\n" ++
      String.intercalate "\n" (causes.mapIdx fun number cause =>
        indented (numberMark number) cause)

/-- The whole text of a failure. -/
def text (failure : Failure) : String :=
  "Error: " ++ failure.summary ++ causesText failure.causes ++ "\n"

end Failure

end StatusDigest.CommandLine
