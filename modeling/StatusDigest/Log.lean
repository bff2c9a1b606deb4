/-!
# The log

While the program works, it remarks on what it does and on what it meets. Its remarks go to a log,
which is opened with a filter. Remarks have no effect on anything else.

Which remarks a filter lets through and how they are written is not decided here: it is up to a
`Log.Writer`, which gets all that a remark says. The time at which a remark is made is left out.
-/

namespace StatusDigest

/-- How much a remark goes into detail. -/
inductive Level where
  | info
  | debug
  | trace
deriving DecidableEq, Repr

/-- A remark. -/
structure Remark where
  level : Level
  /-- The part of the program that makes the remark. -/
  origin : String
  message : String
  /-- The values that are named in the remark. -/
  values : List (String × String)
  /-- The path of the status file that is being read meanwhile. -/
  reading : Option String := none
deriving DecidableEq, Repr

/-- The same remark, made while the status file at a path is read. -/
def Remark.whileReading (path : String) (remark : Remark) : Remark :=
  { remark with reading := path }

/-- A log: the filter that it was opened with, and all remarks since then. -/
structure Log where
  filter : String
  remarks : List Remark := []
deriving DecidableEq, Repr

namespace Log

/-- The log with more remarks at its end. -/
def add (log : Log) (remarks : List Remark) : Log :=
  { log with remarks := log.remarks ++ remarks }

/-- The log with more remarks before all others. -/
def withFirst (remarks : List Remark) (log : Log) : Log :=
  { log with remarks := remarks ++ log.remarks }

/-- How a remark is written under a filter. One that the filter does not let through has no
text. -/
abbrev Writer := String → Remark → String

/-- What is written of a log. -/
def text (write : Writer) (log : Log) : String :=
  String.join (log.remarks.map (write log.filter))

end Log

end StatusDigest
