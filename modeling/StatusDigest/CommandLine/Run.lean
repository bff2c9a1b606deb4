import StatusDigest.Banner
import StatusDigest.CommandLine.Failure
import StatusDigest.CommandLine.Help
import StatusDigest.CommandLine.Options
import StatusDigest.Locate
import StatusDigest.Mrtg.Value
import StatusDigest.Report.Basic
import StatusDigest.Snapshot.Json

/-!
# A run of the program

A run loads the settings, checks what is to be logged, finds and reads the status file, and prints
values of variables, the snapshot, or the report. Where an option and a setting say the same thing
the option counts. The log is opened when its filter has been checked, and takes the remarks on the
way from there.

Files are opened by whoever runs the program, and what is printed and logged is kept as the state of
the run, so that a run in a tree of files is a plain value.
-/

namespace StatusDigest.CommandLine

/-- The values of the environment variables. -/
abbrev Environment := String → Option String

/-- Checks the log filter in force: the option, or else a valid one of the environment, or else the
setting. -/
def checkLogFilter (options : Options) (environment : Environment) (settings : Settings) :
    Except Failure Unit :=
  match options.logFilter with
  | some filter => (LogFilter.check filter).mapError .logOption
  | none =>
    if (environment LogFilter.environmentVariable).any LogFilter.isValid then .ok ()
    else (LogFilter.check settings.logFilter).mapError .logSetting

/-- The log filter that counts: the option, or else a valid one of the environment, or else the
setting. -/
def filterInForce (options : Options) (environment : Environment) (settings : Settings) : String :=
  match options.logFilter with
  | some filter => filter
  | none =>
    ((environment LogFilter.environmentVariable).filter LogFilter.isValid).getD settings.logFilter

/-- Where the status file is. -/
inductive Whereabouts where
  /-- The status file has this path. -/
  | file (path : String)
  /-- The daemon's configuration at this path names the status file. -/
  | namedBy (config : String)
deriving DecidableEq, Repr

/-- Where options and settings say the status file is. -/
def whereabouts (options : Options) (settings : Settings) : Whereabouts :=
  match options.statusFile, options.config, settings.statusFile with
  | some path, _, _ => .file path
  | none, some config, _ => .namedBy config
  | none, none, some path => .file path
  | none, none, none => .namedBy settings.mainConfig

/-- The path of the status file. -/
def Whereabouts.resolve {m : Type → Type} [Monad m] (files : Files.Opener m) :
    Whereabouts → m (Except Failure String)
  | .file path => return .ok path
  | .namedBy config => do
    match ← locate files config with
    | .error failure => return .error (.locating config failure)
    | .ok path => return .ok path

/-- What is remarked when the status file has been found at a path. -/
def Whereabouts.remarks (statusFile : String) : Whereabouts → List Remark
  | .file _ => []
  | .namedBy config => [locatedRemark config statusFile]

/-! ## Sessions -/

/-- What has been printed and logged by now. There need not be a log yet. -/
structure Transcript where
  output : String := ""
  log : Option Log := none
deriving DecidableEq, Repr

namespace Transcript

/-- Prints a text behind what has been printed. -/
def print (transcript : Transcript) (text : String) : Transcript :=
  { transcript with output := transcript.output ++ text }

/-- Logs remarks. They are lost if there is no log. -/
def remark (transcript : Transcript) (remarks : List Remark) : Transcript :=
  { transcript with log := transcript.log.map (·.add remarks) }

end Transcript

/-- A session asks for files, prints and logs, and may fail. What it has printed and logged by then
stays. -/
abbrev Session (m : Type → Type) := ExceptT Failure (StateT Transcript m)

/-- Prints a text. -/
def print {m : Type → Type} [Monad m] (text : String) : Session m Unit :=
  .mk fun transcript => return (.ok (), transcript.print text)

/-- Opens the log. -/
def openLog {m : Type → Type} [Monad m] (filter : String) : Session m Unit :=
  .mk fun transcript => return (.ok (), { transcript with log := some { filter } })

/-- Logs remarks. -/
def remark {m : Type → Type} [Monad m] (remarks : List Remark) : Session m Unit :=
  .mk fun transcript => return (.ok (), transcript.remark remarks)

/-- Goes on with an answer; a reason why there is none becomes a failure. Remarks on the way to the
answer are logged in either case. -/
def requireRemarking {m : Type → Type} [Monad m] {α ε : Type} (explain : ε → Failure)
    (answer : m (Except ε α × List Remark)) : Session m α :=
  .mk fun transcript => do
    let (answer, remarks) ← answer
    return (answer.mapError explain, transcript.remark remarks)

/-- Goes on with an answer that is not remarked on. -/
def require {m : Type → Type} [Monad m] {α ε : Type} (explain : ε → Failure)
    (answer : m (Except ε α)) : Session m α :=
  .mk fun transcript => return ((← answer).mapError explain, transcript)

/-- Prints what is wanted of a snapshot. -/
def present {m : Type → Type} [Monad m] (options : Options) (settings : Settings)
    (snapshot : Snapshot) (statusFile : String) (now : Int64) : Session m Unit :=
  if options.mrtg then
    match options.variableList <|> settings.variableList with
    | some list => print (snapshot.mrtg list (options.delimiter.getD settings.delimiter) now)
    | none => throw .noVariables
  else if options.json then print (snapshot.toJson ++ "\n")
  else do
    print (banner ++ "\n")
    print (snapshot.report statusFile now)

/-- The part of a run behind the opening of the log: the status file is at some place. -/
def work {m : Type → Type} [Monad m] (files : Files.Opener m) (now : Int64) (place : Whereabouts)
    (options : Options) (settings : Settings) : Session m Unit := do
  let path ← require id (place.resolve files)
  remark (place.remarks path)
  let snapshot ← requireRemarking (.reading path) (readStatusRemarking files path now)
  present options settings snapshot path now

/-- The part of a run behind the loading of the settings. -/
def runUnder {m : Type → Type} [Monad m] (files : Files.Opener m) (environment : Environment)
    (now : Int64) (options : Options) (settings : Settings) : Session m Unit := do
  require id (return checkLogFilter options environment settings)
  openLog (filterInForce options environment settings)
  work files now (whereabouts options settings) options settings

/-- A run at the time `now`. The licence terms need neither settings nor files. -/
def run {m : Type → Type} [Monad m] (files : Files.Opener m) (environment : Environment)
    (now : Int64) (options : Options) : Session m Unit :=
  if options.license then print license
  else do
    let settings ← require .settings (Settings.load files (environment Settings.pathVariable))
    runUnder files environment now options settings

/-! ## The program -/

/-- How the program ends. -/
inductive Outcome where
  | printed (output : String)
  /-- The run fails after it has printed the output. -/
  | failed (failure : Failure) (output : String)
  /-- The arguments are not valid. -/
  | misused
deriving DecidableEq, Repr

/-- The exit code. -/
def Outcome.exitCode : Outcome → UInt32
  | .printed _ => 0
  | .failed _ _ => 1
  | .misused => 2

/-- What the program prints. -/
def Outcome.output : Outcome → String
  | .printed output | .failed _ output => output
  | .misused => ""

/-- Why the program failed. -/
def Outcome.failure? : Outcome → Option Failure
  | .failed failure _ => some failure
  | .printed _ | .misused => none

/-- The course of the program: how it ends, and its log, if it came to open one. -/
structure Course where
  outcome : Outcome
  log : Option Log := none
deriving DecidableEq, Repr

namespace Course

/-- What stands on standard error after a run: what is written of the log, and then the failure. -/
def errorText (write : Log.Writer) (course : Course) : String :=
  course.log.elim "" (Log.text write) ++ course.outcome.failure?.elim "" Failure.text

/-- The same course, but for more remarks before all others. -/
def withFirst (remarks : List Remark) (course : Course) : Course :=
  { course with log := course.log.map (Log.withFirst remarks) }

end Course

/-- The program with the given arguments. -/
def perform {m : Type → Type} [Monad m] (files : Files.Opener m) (environment : Environment)
    (now : Int64) (arguments : List String) : m Course :=
  match Request.ofArguments? arguments with
  | none => return { outcome := .misused }
  | some (.answer query) => return { outcome := .printed query.answer }
  | some (.run options) => do
    match ← (run files environment now options).run.run {} with
    | (.ok (), { output, log }) => return { outcome := .printed output, log }
    | (.error failure, { output, log }) => return { outcome := .failed failure output, log }

/-- The program with the given arguments, apart from its log. -/
def execute {m : Type → Type} [Monad m] (files : Files.Opener m) (environment : Environment)
    (now : Int64) (arguments : List String) : m Outcome :=
  Course.outcome <$> perform files environment now arguments

end StatusDigest.CommandLine
