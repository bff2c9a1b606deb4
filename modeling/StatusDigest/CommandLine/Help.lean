import StatusDigest.Banner
import StatusDigest.CommandLine.Options

/-!
# Answers about the program itself

The help lists all options with their names and what they are for, in the order in which they are
declared. What they are for stands in one column.
-/

namespace StatusDigest.CommandLine

/-- What the help says about an option: the name of its value, if it has one, and its use. -/
structure Explanation where
  value : Option String
  use : String
deriving DecidableEq, Repr

/-- What the help says about the option of a role. -/
def Role.explanation : Role → Explanation
  | .parameter .config => ⟨"CONFIG", "Daemon main config used to find the status file"⟩
  | .parameter .statusFile => ⟨"STATSFILE", "Status file to read; skips the main config lookup"⟩
  | .switch .mrtg => ⟨none, "Print MRTG values instead of the report"⟩
  | .parameter .variableList => ⟨"VARS", "Comma-separated MRTG variables"⟩
  | .parameter .delimiter => ⟨"DELIMITER", "Written after each MRTG value"⟩
  | .switch .json => ⟨none, "Print the snapshot as JSON"⟩
  | .switch .license => ⟨none, "Print license terms and exit"⟩
  | .parameter .logFilter =>
    ⟨"LOG_LEVEL", "Log filter (trace, debug, info, warn, error or EnvFilter directives)"⟩
  | .query .help => ⟨none, "Print help"⟩
  | .query .version => ⟨none, "Print version"⟩

/-- The names of an option, with the name of its value. -/
def Entry.usage (entry : Entry) : String :=
  let letter :=
    match entry.letter with
    | some letter => "-" ++ String.singleton letter ++ ", "
    | none => "    "
  let value :=
    match entry.role.explanation.value with
    | some value => " <" ++ value ++ ">"
    | none => ""
  letter ++ "--" ++ entry.name ++ value

/-- The line about an option; the names take up so many columns. -/
def Entry.line (width : Nat) (entry : Entry) : String :=
  let usage := entry.usage
  "  " ++ usage ++ String.ofList (List.replicate (width - usage.length + 2) ' ') ++
    entry.role.explanation.use ++ "\n"

/-- The help. -/
def helpText : String :=
  let width := (entries.map fun entry => entry.usage.length).foldl max 0
  "Monitoring daemon status-file statistics - human report and MRTG values\n\n" ++
    "Usage: " ++ programName ++ " [OPTIONS]\n\nOptions:\n" ++
    String.join (entries.map (Entry.line width))

/-- The answer to a question. -/
def Query.answer : Query → String
  | .help => helpText
  | .version => versionText

end StatusDigest.CommandLine
