import StatusDigest.Dump.Line
import StatusDigest.Failure
import StatusDigest.Files.Access
import StatusDigest.Files.Path
import StatusDigest.Snapshot.Remarks

/-!
# Finding and reading the status file

The daemon's configuration names the status file in a directive, `status_file` or one of two
older names. The last such directive with a value counts, whichever name it has. A relative path
is taken from the directory of the configuration. Once the status file is found there is a remark
on it, and there are remarks while it is read.
-/

namespace StatusDigest

open Dump

/-- The names of the directive that names the status file. -/
def statusFileKeys : List String :=
  ["status_file", "status_log", "xsddefault_status_log"]

/-- The value of a stripped line, if it is a directive that names the status file. -/
def statusFile? (line : List Char) : Option String :=
  if isIdle line then none
  else
    match assignment? line with
    | some (key, value) => if key ∈ statusFileKeys then some value else none
    | none => none

/-- The value of the last line that is a directive that names the status file. -/
def lastStatusFile? (lines : List (List Char)) : Option String :=
  lines.foldl (fun found line => statusFile? line <|> found) none

/-- The status file that a configuration names, or the reason why the configuration cannot be
read. -/
def scanConfig (source : Source) : Except String (Option String) :=
  match source.failure with
  | some reason => .error reason
  | none => .ok (lastStatusFile? (source.lines.map lineText))

/-- The path of the status file that the configuration at a path names. -/
def statusFileOf (config : String) (source : Source) : Except StatusFailure String :=
  match scanConfig source with
  | .error reason => .error (.readFailed reason)
  | .ok none => .error (.noStatusFile config)
  | .ok (some value) => .ok (Files.join ((Files.parent? config).getD "") value)

/-- Finds the status file through the configuration at a path. What is remarked then is
`locatedRemark`. -/
def locate {m : Type → Type} [Monad m] (files : Files.Opener m) (config : String) :
    m (Except StatusFailure String) := do
  match ← files config with
  | .error reason => return .error (.cannotOpen config reason)
  | .ok source => return statusFileOf config source

/-- The remark on the status file that a configuration has led to. -/
def locatedRemark (config statusFile : String) : Remark where
  level := .debug
  origin := "nagstats::main_config"
  message := "status file located"
  values := [("config", config), ("status_file", statusFile)]

/-- Reads the status file at a path, seen from the time `now`, and remarks on it. -/
def readStatusRemarking {m : Type → Type} [Monad m] (files : Files.Opener m) (path : String)
    (now : Int64) : m (Except StatusFailure Snapshot × List Remark) := do
  match ← files path with
  | .error reason => return (.error (.cannotOpen path reason), [])
  | .ok source =>
    let remarks := (Snapshot.remarks source now).map (Remark.whileReading path)
    return (Snapshot.ofSource source now, remarks)

/-- Reads the status file at a path, seen from the time `now`. -/
def readStatus {m : Type → Type} [Monad m] (files : Files.Opener m) (path : String)
    (now : Int64) : m (Except StatusFailure Snapshot) :=
  Prod.fst <$> readStatusRemarking files path now

end StatusDigest
