import StatusDigest.Proofs.CommandLine.Stages
import StatusDigest.Proofs.Snapshot.Remarking
import Mathlib

/-!
# What a run prints and logs, or why it fails

A session prints while it runs, so that a failure could come behind something printed. A run never
fails so late:

* `AllOrNothing` says that a session logs some remarks, and prints the whole of a text, or fails and
  has printed nothing. There is one rule for each step of a session;
* `answer` and `logOf` are a run as a plain value and its log, without anything printed or logged on
  the way. `allOrNothing_work` puts them together from the rules, and `perform_of_run` is the whole
  program in terms of them;
* `Prints` says which text is printed, by the conditions on the stages of the run; `prints_iff`;
* `logOf_eq_some_iff` are the conditions for a log. As soon as there is a snapshot, the log tells of
  its entries: `filter_info_workRemarks`.
-/

namespace StatusDigest.CommandLine

open Dump

/-! ## Transcripts -/

namespace Transcript

variable (transcript : Transcript)

theorem remark_nil : transcript.remark [] = transcript := by
  obtain ⟨output, log⟩ := transcript
  cases log <;> simp [remark, Log.add]

theorem remark_remark (first second : List Remark) :
    (transcript.remark first).remark second = transcript.remark (first ++ second) := by
  obtain ⟨output, log⟩ := transcript
  cases log <;> simp [remark, Log.add]

theorem print_print (first second : String) :
    (transcript.print first).print second = transcript.print (first ++ second) := by
  simp only [print, String.append_assoc]

/-- The end of a session: it prints the whole of a text behind all else, or it fails and prints
nothing more. -/
def ending (transcript : Transcript) : Except Failure String → Except Failure Unit × Transcript
  | .ok text => (.ok (), transcript.print text)
  | .error failure => (.error failure, transcript)

end Transcript

/-! ## Sessions that print all or nothing -/

section Sessions

variable {α ε : Type} {next : α → Session Id Unit} {answer : α → Except Failure String}

/-- The session logs the remarks. It prints the whole text, or fails and prints nothing. -/
def AllOrNothing (session : Session Id Unit) (answer : Except Failure String)
    (remarks : List Remark) : Prop :=
  ∀ transcript, (session.run.run transcript).run = (transcript.remark remarks).ending answer

theorem allOrNothing_print (text : String) : AllOrNothing (print text) (.ok text) [] := by
  intro transcript
  simp only [transcript.remark_nil]
  rfl

theorem allOrNothing_throw (failure : Failure) :
    AllOrNothing (throw failure) (.error failure) [] := by
  intro transcript
  simp only [transcript.remark_nil]
  rfl

/-- What is printed first stands first. Nothing may fail behind it. -/
theorem AllOrNothing.followed {first second : Session Id Unit} {text more : String}
    (hfirst : AllOrNothing first (.ok text) []) (hsecond : AllOrNothing second (.ok more) []) :
    AllOrNothing (do first; second) (.ok (text ++ more)) [] := by
  intro transcript
  have hrun : ((do first; second : Session Id Unit).run.run transcript).run =
      (second.run.run (transcript.print text)).run := by
    have hprinted := hfirst transcript
    simp only [transcript.remark_nil] at hprinted
    simp only [ExceptT.run_bind, StateT.run_bind]
    rw [show first.run.run transcript = (.ok (), transcript.print text) from hprinted]
    rfl
  rw [hrun, hsecond]
  simp only [Transcript.remark_nil, Transcript.ending, Transcript.print_print]

/-- What is logged first stands first. -/
theorem AllOrNothing.remarked {session : Session Id Unit} {answer : Except Failure String}
    {more : List Remark} (h : AllOrNothing session answer more) (remarks : List Remark) :
    AllOrNothing (do remark remarks; session) answer (remarks ++ more) := by
  intro transcript
  have hrun := h (transcript.remark remarks)
  rw [Transcript.remark_remark] at hrun
  exact hrun

/-- A session that requires an answer fails for the reason why there is none, or goes on with the
answer. -/
theorem allOrNothing_require {explain : ε → Failure} {required : Id (Except ε α)}
    {remarks : α → List Remark} (hnext : ∀ a, AllOrNothing (next a) (answer a) (remarks a)) :
    AllOrNothing (require explain required >>= next)
      (required.run.mapError explain >>= answer) (required.run.toOption.elim [] remarks) := by
  intro transcript
  cases required with
  | error reason =>
    show _ = (_, transcript.remark [])
    rw [transcript.remark_nil]
    rfl
  | ok a => exact hnext a transcript

/-- Remarks on the way to an answer are logged whether there is one or not. Here there are no others
behind them. -/
theorem allOrNothing_requireRemarking {explain : ε → Failure}
    {required : Id (Except ε α × List Remark)} (hnext : ∀ a, AllOrNothing (next a) (answer a) []) :
    AllOrNothing (requireRemarking explain required >>= next)
      (required.run.1.mapError explain >>= answer) required.run.2 := by
  intro transcript
  obtain ⟨result, remarks⟩ := required
  cases result with
  | error reason => rfl
  | ok a =>
    have hrun := hnext a (transcript.remark remarks)
    rw [Transcript.remark_nil] at hrun
    exact hrun

end Sessions

/-! ## Runs as plain values -/

/-- What is printed of a snapshot, unless there is no list of variables. -/
def presentation (options : Options) (settings : Settings) (snapshot : Snapshot)
    (statusFile : String) (now : Int64) : Except Failure String :=
  if options.mrtg then
    match options.variableList <|> settings.variableList with
    | some list => .ok (snapshot.mrtg list (options.delimiter.getD settings.delimiter) now)
    | none => .error .noVariables
  else if options.json then .ok (snapshot.toJson ++ "\n")
  else .ok (banner ++ "\n" ++ snapshot.report statusFile now)

/-- What is printed of the status file at a place, or why the run fails there. -/
def workAnswer (files : Files.Opener Id) (now : Int64) (place : Whereabouts) (options : Options)
    (settings : Settings) : Except Failure String := do
  let path ← (place.resolve files).run
  let snapshot ← (readStatus files path now).run.mapError (.reading path)
  presentation options settings snapshot path now

/-- What is logged on the way to the status file at a place and while it is read. -/
def workRemarks (files : Files.Opener Id) (now : Int64) (place : Whereabouts) : List Remark :=
  (place.resolve files).run.toOption.elim [] fun path =>
    place.remarks path ++ (readStatusRemarking files path now).run.2

/-- What a run prints under some settings, or why it fails. -/
def answerUnder (files : Files.Opener Id) (environment : Environment) (now : Int64)
    (options : Options) (settings : Settings) : Except Failure String := do
  checkLogFilter options environment settings
  workAnswer files now (whereabouts options settings) options settings

/-- The log of a run under some settings. -/
def logUnder (files : Files.Opener Id) (environment : Environment) (now : Int64)
    (options : Options) (settings : Settings) : Option Log :=
  (checkLogFilter options environment settings).toOption.map fun _ =>
    { filter := filterInForce options environment settings
      remarks := workRemarks files now (whereabouts options settings) }

/-- What a run prints, or why it fails. -/
def answer (files : Files.Opener Id) (environment : Environment) (now : Int64)
    (options : Options) : Except Failure String :=
  if options.license then .ok license
  else do
    let settings ←
      (Settings.load files (environment Settings.pathVariable)).run.mapError .settings
    answerUnder files environment now options settings

/-- The log of a run. -/
def logOf (files : Files.Opener Id) (environment : Environment) (now : Int64)
    (options : Options) : Option Log :=
  if options.license then none
  else
    (Settings.load files (environment Settings.pathVariable)).run.toOption.bind fun settings =>
      logUnder files environment now options settings

section Runs

variable {files : Files.Opener Id} {environment : Environment} {options : Options}
  {settings : Settings} {snapshot : Snapshot} {path : String} {now : Int64} {place : Whereabouts}

theorem allOrNothing_present :
    AllOrNothing (present options settings snapshot path now)
      (presentation options settings snapshot path now) [] := by
  unfold present presentation
  split
  · cases options.variableList <|> settings.variableList with
    | some list => exact allOrNothing_print _
    | none => exact allOrNothing_throw _
  · split
    · exact allOrNothing_print _
    · exact (allOrNothing_print _).followed (allOrNothing_print _)

theorem allOrNothing_work :
    AllOrNothing (work files now place options settings)
      (workAnswer files now place options settings) (workRemarks files now place) := by
  have hresolve : (place.resolve files).run.mapError id = (place.resolve files).run := by
    cases (place.resolve files).run <;> rfl
  unfold work workAnswer
  rw [← hresolve]
  refine allOrNothing_require fun path => ?_
  exact (allOrNothing_requireRemarking fun snapshot => allOrNothing_present).remarked _

theorem runUnder_eq : ((runUnder files environment now options settings).run.run {}).run =
    ({ log := logUnder files environment now options settings } : Transcript).ending
      (answerUnder files environment now options settings) := by
  unfold runUnder answerUnder logUnder
  cases checkLogFilter options environment settings with
  | error failure => rfl
  | ok _ => exact allOrNothing_work { log := some { filter := filterInForce .. } }

/-- A run prints its answer or nothing, and has its log. -/
theorem run_eq : ((run files environment now options).run.run {}).run =
    ({ log := logOf files environment now options } : Transcript).ending
      (answer files environment now options) := by
  unfold run answer logOf
  cases options.license with
  | true => rfl
  | false =>
    cases hload : (Settings.load files (environment Settings.pathVariable)).run with
    | error failure =>
      rw [show Settings.load files (environment Settings.pathVariable) = .error failure from hload]
      rfl
    | ok settings =>
      rw [show Settings.load files (environment Settings.pathVariable) = .ok settings from hload]
      exact runUnder_eq

/-- How a program ends that prints all or nothing. -/
def Outcome.ofAnswer : Except Failure String → Outcome
  | .ok text => .printed text
  | .error failure => .failed failure ""

/-- The course of a run. -/
def course (files : Files.Opener Id) (environment : Environment) (now : Int64)
    (options : Options) : Course where
  outcome := .ofAnswer (answer files environment now options)
  log := logOf files environment now options

/-- Arguments that ask for a run have its course. -/
theorem perform_of_run {arguments : List String}
    (haccepted : Request.ofArguments? arguments = some (.run options)) :
    (perform files environment now arguments).run = course files environment now options := by
  simp only [perform, haccepted, Id.run_bind, run_eq, course]
  cases answer files environment now options <;> rfl

/-- Arguments that ask for a run have its answer for their outcome. -/
theorem execute_of_run {arguments : List String}
    (haccepted : Request.ofArguments? arguments = some (.run options)) :
    (execute files environment now arguments).run =
      .ofAnswer (answer files environment now options) := by
  rw [execute, Id.run_map, perform_of_run haccepted, course]

/-! ## Runs that print -/

/-- A run has a log once its log filter has been found valid, however it goes on. -/
theorem logOf_eq_some_iff {log : Log} :
    logOf files environment now options = some log ↔
      options.license = false ∧ ∃ settings, SettingsInForce files environment settings ∧
        LogFilter.isValid (filterInForce options environment settings) = true ∧
        log = { filter := filterInForce options environment settings
                remarks := workRemarks files now (whereabouts options settings) } := by
  cases hlicense : options.license with
  | true => simp [logOf, hlicense]
  | false =>
    simp only [logOf, logUnder, hlicense, Bool.false_eq_true, ↓reduceIte, true_and,
      Option.bind_eq_some_iff, Option.map_eq_some_iff, Except.toOption_eq_some, settingsInForce_iff,
      ← checkLogFilter_eq_ok_iff]
    constructor
    · rintro ⟨settings, hload, _, hcheck, rfl⟩
      exact ⟨settings, hload, hcheck, rfl⟩
    · rintro ⟨settings, hload, hcheck, rfl⟩
      exact ⟨settings, hload, (), hcheck, rfl⟩

/-- A status file that has a snapshot has its entries remarked on, once and for information. -/
theorem filter_info_workRemarks (located : StatusFileAt files options settings path)
    (digested : SnapshotAt files path now snapshot) :
    (workRemarks files now (whereabouts options settings)).filter (·.level = .info) =
      [(snapshot.entriesRemark .info "status file read").whileReading path] := by
  cases digested with
  | @digest source opened ends =>
    have hread : (readStatusRemarking files path now).run.2 =
        (Snapshot.remarks source now).map (Remark.whileReading path) := by
      rw [readStatusRemarking, opened]
      rfl
    have hplace : ((whereabouts options settings).remarks path).filter (·.level = .info) = [] := by
      cases whereabouts options settings <;> rfl
    -- to say what is read meanwhile does not change a level
    have hlevel : (fun remark : Remark => decide (remark.level = .info)) ∘
        Remark.whileReading path = fun remark => decide (remark.level = .info) := rfl
    rw [workRemarks, statusFileAt_iff.1 located, Except.toOption, Option.elim_some,
      List.filter_append, hplace, hread, List.nil_append, List.filter_map, hlevel,
      Snapshot.filter_info_remarks, (Source.answers_of_ends ends).digest]
    rfl

end Runs

end StatusDigest.CommandLine
