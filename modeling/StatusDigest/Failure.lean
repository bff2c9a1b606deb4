/-!
# Why a status read fails

Malformed lines and malformed numbers are tolerated, so that only three things can go wrong:
a file cannot be opened, reading it breaks off, or the daemon's configuration names no status
file.
-/

namespace StatusDigest

/-- The ways in which locating or reading the status file fails. -/
inductive StatusFailure where
  /-- The file at `path` could not be opened, for the reason that the system gives. -/
  | cannotOpen (path reason : String)
  /-- Reading broke off, for the reason that the system gives. -/
  | readFailed (reason : String)
  /-- The daemon configuration at `config` has no directive that names a status file. -/
  | noStatusFile (config : String)
deriving DecidableEq, Repr

/-- The text of a failure. -/
def StatusFailure.message : StatusFailure → String
  | .cannotOpen path reason => "cannot open '" ++ path ++ "': " ++ reason
  | .readFailed reason => "read failed: " ++ reason
  | .noStatusFile config => "no status file configured in '" ++ config ++ "'"

/-- The system's reason behind a failure, where there is one. -/
def StatusFailure.reason? : StatusFailure → Option String
  | .cannotOpen _ reason => some reason
  | .readFailed reason => some reason
  | .noStatusFile _ => none

end StatusDigest
