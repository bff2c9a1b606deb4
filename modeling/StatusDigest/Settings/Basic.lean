import StatusDigest.Text.Blank
import StatusDigest.Text.Pieces
import StatusDigest.Text.Quoted

/-!
# Settings

The settings say where the program finds its files and how it writes, as far as the command line
leaves that open. Every setting has a default.

* `Settings.flaw?` is the first condition that settings do not meet, in the order in which the
  conditions are listed.
-/

namespace StatusDigest

/-- The settings of the program. -/
structure Settings where
  /-- The daemon's configuration, which names the status file. -/
  mainConfig : String := "/usr/local/nagios/etc/nagios.cfg"
  /-- The status file itself, if the daemon's configuration need not be asked. -/
  statusFile : Option String := none
  /-- What follows each value of a list of variables. -/
  delimiter : String := "\n"
  /-- The list of variables, if there is one. -/
  variableList : Option String := none
  /-- The directives that say what is logged. -/
  logFilter : String := "warn"
deriving DecidableEq, Repr

namespace Settings

/-- A condition that settings do not meet. -/
inductive Flaw where
  | emptyMainConfig
  | emptyStatusFile
  | emptyDelimiter
  /-- The list of variables names none. -/
  | namesNothing (list : String)
  | blankLogFilter
deriving DecidableEq, Repr

/-- The text of a condition that is not met. -/
def Flaw.message : Flaw → String
  | .emptyMainConfig => "paths.main_config_file must be non-empty"
  | .emptyStatusFile => "paths.status_file must be non-empty when set"
  | .emptyDelimiter => "output.mrtg_delimiter must be non-empty"
  | .namesNothing list =>
    "output.mrtg_variables must name at least one variable, got Some(" ++
      Text.quoted list ++ ")"
  | .blankLogFilter => "logging.filter must be non-empty"

/-- Whether a list with commas between its names has a name that is not blank. -/
def namesSomething (list : String) : Bool :=
  (Text.pieces ',' list.toList).any fun piece => !Text.allBlank piece

/-- The flaw, if a condition is not met. -/
def require (condition : Bool) (flaw : Flaw) : Option Flaw :=
  if condition then none else some flaw

/-- The first condition that the settings do not meet. -/
def flaw? (settings : Settings) : Option Flaw :=
  require (settings.mainConfig ≠ "") .emptyMainConfig <|>
  require (settings.statusFile ≠ some "") .emptyStatusFile <|>
  require (settings.delimiter ≠ "") .emptyDelimiter <|>
  (settings.variableList.bind fun list => require (namesSomething list) (.namesNothing list)) <|>
  require (!Text.allBlank settings.logFilter.toList) .blankLogFilter

/-- The defaults meet all conditions. -/
example : ({} : Settings).flaw? = none := by decide +kernel

end Settings

end StatusDigest
