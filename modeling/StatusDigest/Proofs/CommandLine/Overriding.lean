import StatusDigest.Files.Tree
import StatusDigest.Proofs.CommandLine.Answering
import Mathlib

/-!
# Who says where the status file is

An option for the status file counts before one for the configuration, options count before
settings, and among the settings the status file counts before the configuration. What does not
count has no effect at all:

* `course_congr`: two runs that find the same status file, and find it the same, have the same
  course, however each of them has found it, but for what is remarked on the way;
* `Overriding` lists what this means for the options and for the settings, and
  `SettingsInForce.overriding` shows it for all settings. What one remark more means for standard
  error is said by `Course.errorText_withFirst`;
* two limits are shown by `overriding_limits`. A configuration that does not lead to a status file
  lets the run fail, but only after the log filter has been found valid. One that does is remarked
  on, and the status file itself is not.
-/

namespace StatusDigest

/-- The settings agree in all that does not say where the status file is. -/
def Settings.SameButPaths (settings other : Settings) : Prop :=
  ∃ mainConfig statusFile, other = { settings with mainConfig, statusFile }

namespace CommandLine

/-- The options agree in all that does not say where the status file is. -/
def Options.SameButPaths (options other : Options) : Prop :=
  ∃ config statusFile, other = { options with config, statusFile }

variable {files files' : Files.Opener Id} {environment environment' : Environment}
  {options options' : Options} {settings settings' : Settings} {now : Int64}

/-! ## Remarks before all others -/

namespace Course

variable (course : Course) (write : Log.Writer) (remarks : List Remark)

theorem withFirst_nil : course.withFirst [] = course := by
  obtain ⟨outcome, log⟩ := course
  cases log <;> rfl

/-- On standard error it only makes a difference what is written of the remarks, if there is a
log. -/
theorem errorText_withFirst : (course.withFirst remarks).errorText write =
    (course.log.elim "" fun log => String.join (remarks.map (write log.filter))) ++
      course.errorText write := by
  obtain ⟨outcome, log⟩ := course
  cases log with
  | none => simp [errorText, withFirst]
  | some log =>
    simp [errorText, withFirst, Log.text, Log.withFirst, String.append_assoc]

/-- One more remark is seen if anything is written of it. -/
theorem errorText_withFirst_ne {course : Course} {write : Log.Writer} {remark : Remark}
    {filter : String} (hopened : course.log.map Log.filter = some filter)
    (hwritten : write filter remark ≠ "") :
    (course.withFirst [remark]).errorText write ≠ course.errorText write := by
  obtain ⟨log, hlog, rfl⟩ := Option.map_eq_some_iff.1 hopened
  rw [errorText_withFirst, hlog, Option.elim_some]
  intro hsame
  have hnothing := (String.append_left_inj _).1 (hsame.trans String.empty_append.symm)
  exact hwritten (by simpa using hnothing)

end Course

/-! ## Runs that find the same status file -/

theorem SettingsInForce.answer_eq (h : SettingsInForce files environment settings) :
    answer files environment now options =
      if options.license then .ok license
      else answerUnder files environment now options settings := by
  rw [answer, settingsInForce_iff.1 h]
  rfl

theorem SettingsInForce.logOf_eq (h : SettingsInForce files environment settings) :
    logOf files environment now options =
      if options.license then none else logUnder files environment now options settings := by
  rw [logOf, settingsInForce_iff.1 h]
  rfl

/-- Runs that find and read the same have the same course, but for what the first one remarks before
all others. -/
theorem course_congr {before : List Remark} (hsettled : SettingsInForce files environment settings)
    (hsettled' : SettingsInForce files' environment' settings')
    (hsettings : settings.SameButPaths settings') (hoptions : options.SameButPaths options')
    (hfilter : environment' LogFilter.environmentVariable =
      environment LogFilter.environmentVariable)
    (hanswer : workAnswer files now (whereabouts options settings) options settings =
      workAnswer files' now (whereabouts options' settings') options settings)
    (hremarks : workRemarks files now (whereabouts options settings) =
      before ++ workRemarks files' now (whereabouts options' settings')) :
    course files environment now options =
      (course files' environment' now options').withFirst before := by
  rw [course, course, hsettled.answer_eq, hsettled'.answer_eq, hsettled.logOf_eq,
    hsettled'.logOf_eq]
  obtain ⟨mainConfig, statusFile, rfl⟩ := hsettings
  obtain ⟨config, optionFile, rfl⟩ := hoptions
  have hcheck : checkLogFilter { options with config, statusFile := optionFile } environment'
      { settings with mainConfig, statusFile } = checkLogFilter options environment settings := by
    simp only [checkLogFilter, hfilter]
  have hinForce : filterInForce { options with config, statusFile := optionFile } environment'
      { settings with mainConfig, statusFile } = filterInForce options environment settings := by
    simp only [filterInForce, hfilter]
  simp only [answerUnder, logUnder, hcheck, hinForce, hanswer, hremarks]
  cases options.license with
  | true => rfl
  | false => cases checkLogFilter options environment settings <;> rfl

/-! ## The way to the status file -/

section Ways

variable {place : Whereabouts} {path : String}

/-- Only the end of the way to the status file has an effect. -/
theorem workAnswer_of_resolve (h : (place.resolve files).run = .ok path) :
    workAnswer files now place options settings =
      workAnswer files now (.file path) options settings := by
  rw [workAnswer, h]
  rfl

/-- Of the way itself there are only remarks. -/
theorem workRemarks_of_resolve (h : (place.resolve files).run = .ok path) :
    workRemarks files now place =
      place.remarks path ++ workRemarks files now (.file path) := by
  rw [workRemarks, h]
  rfl

/-- Of the files it only matters which one has the path. -/
theorem readStatusRemarking_congr (h : files' path = files path) (now : Int64) :
    (readStatusRemarking files path now).run = (readStatusRemarking files' path now).run := by
  rw [readStatusRemarking, readStatusRemarking, h]

theorem workAnswer_file (files : Files.Opener Id) (path : String) :
    workAnswer files now (.file path) options settings =
      ((readStatusRemarking files path now).run.1.mapError (.reading path) >>= fun snapshot =>
        presentation options settings snapshot path now) :=
  rfl

theorem workRemarks_file (files : Files.Opener Id) (path : String) :
    workRemarks files now (.file path) = (readStatusRemarking files path now).run.2 :=
  rfl

end Ways

/-- The runs have the same course, whatever arguments ask for them. -/
def SameCourse (now : Int64) (files : Files.Opener Id) (environment : Environment)
    (options : Options) (files' : Files.Opener Id) (environment' : Environment)
    (options' : Options) : Prop :=
  ∀ arguments arguments', Request.ofArguments? arguments = some (.run options) →
    Request.ofArguments? arguments' = some (.run options') →
      (perform files environment now arguments).run =
        (perform files' environment' now arguments').run

theorem sameCourse_of_course
    (h : course files environment now options =
      (course files' environment' now options').withFirst []) :
    SameCourse now files environment options files' environment' options' := by
  intro arguments arguments' haccepted haccepted'
  rw [perform_of_run haccepted, perform_of_run haccepted', h, Course.withFirst_nil]

/-- In the same place, under the same settings, runs have the same course. -/
theorem SettingsInForce.sameCourse (h : SettingsInForce files environment settings)
    (hoptions : options.SameButPaths options')
    (hat : whereabouts options' settings = whereabouts options settings) :
    SameCourse now files environment options files environment options' := by
  have hsettings : settings.SameButPaths settings := ⟨_, _, rfl⟩
  refine sameCourse_of_course (course_congr h h hsettings hoptions rfl ?_ ?_)
  · rw [hat]
  · rw [hat]
    rfl

/-! ## Options and settings -/

/-- The configuration that is asked for the status file, if one is asked. -/
inductive Asked (options : Options) (settings : Settings) : String → Prop
  | option {config : String} (absent : options.statusFile = none)
      (given : options.config = some config) : Asked options settings config
  | setting (absent : options.statusFile = none) (unnamed : options.config = none)
      (unset : settings.statusFile = none) : Asked options settings settings.mainConfig

theorem Asked.whereabouts_eq {config : String} (h : Asked options settings config) :
    whereabouts options settings = .namedBy config := by
  cases h with
  | option absent given => simp [whereabouts, absent, given]
  | setting absent unnamed unset => simp [whereabouts, absent, unnamed, unset]

/-- The way to a status file leaves nothing behind but a remark. -/
theorem SettingsInForce.course_located {config path : String}
    (h : SettingsInForce files environment settings) (hasked : Asked options settings config)
    (hlocates : Locates files config (.ok path)) (config' : Option String) :
    course files environment now options =
      (course files environment now
        { options with config := config', statusFile := path }).withFirst
          [locatedRemark config path] := by
  have hsettings : settings.SameButPaths settings := ⟨_, _, rfl⟩
  have hat : whereabouts { options with config := config', statusFile := path } settings =
      .file path :=
    rfl
  have hfound := Whereabouts.resolve_eq_ok_iff.2 hlocates
  refine course_congr h h hsettings ⟨_, _, rfl⟩ rfl ?_ ?_
  · rw [hasked.whereabouts_eq, hat, workAnswer_of_resolve hfound]
  · rw [hasked.whereabouts_eq, hat, workRemarks_of_resolve hfound]
    rfl

/-- A configuration that is asked and leads nowhere is the reason to fail. -/
theorem SettingsInForce.answer_unlocated {config : String} {failure : StatusFailure}
    (h : SettingsInForce files environment settings) (hasked : Asked options settings config)
    (hlocates : Locates files config (.error failure)) (hlicense : options.license = false)
    (hvalid : LogFilter.isValid (filterInForce options environment settings) = true) :
    answer files environment now options = .error (.locating config failure) := by
  rw [h.answer_eq, answerUnder, checkLogFilter_eq_ok_iff.2 hvalid, Except.ok_bind,
    hasked.whereabouts_eq, workAnswer, Whereabouts.resolve_namedBy, locates_iff.1 hlocates,
    hlicense]
  rfl

/-- What the options and settings about the way to the status file mean for a run. -/
structure Overriding (files : Files.Opener Id) (environment : Environment) (now : Int64)
    (options : Options) (settings : Settings) : Prop where
  /-- With the option for the status file, neither the option for the configuration has an effect,
  nor the settings about paths, nor any other file. -/
  statusFile : ∀ path, options.statusFile = some path →
    ∀ files' environment' settings' config', SettingsInForce files' environment' settings' →
      settings.SameButPaths settings' →
      environment' LogFilter.environmentVariable = environment LogFilter.environmentVariable →
      files' path = files path →
        SameCourse now files environment options
          files' environment' { options with config := config' }
  /-- The option for a configuration is as good as one for the status file that is found there, but
  for one remark more. -/
  config : ∀ config path, options.statusFile = none → options.config = some config →
    Locates files config (.ok path) →
      ∀ config' arguments arguments', Request.ofArguments? arguments = some (.run options) →
        Request.ofArguments? arguments' =
            some (.run { options with config := config', statusFile := some path }) →
          (perform files environment now arguments).run =
            (perform files environment now arguments').run.withFirst [locatedRemark config path]
  /-- Without options, the settings are as good as options. -/
  setStatusFile : ∀ path, options.statusFile = none → options.config = none →
    settings.statusFile = some path →
      SameCourse now files environment options
        files environment { options with statusFile := some path }
  setConfig : options.statusFile = none → options.config = none → settings.statusFile = none →
    SameCourse now files environment options
      files environment { options with config := some settings.mainConfig }
  /-- A configuration leads to the path that it names last, or nowhere for one of the reasons. -/
  located : ∀ config result, (locate files config).run = result ↔ Locates files config result
  /-- For this reason the run fails, unless it prints the licence terms or has failed before. -/
  unlocated : ∀ config failure, Asked options settings config →
    Locates files config (.error failure) → options.license = false →
    LogFilter.isValid (filterInForce options environment settings) = true →
      ∀ arguments, Request.ofArguments? arguments = some (.run options) →
        (execute files environment now arguments).run = .failed (.locating config failure) ""

/-- Whatever files there are, whatever settings are in force and whatever else is wanted, only what
counts has an effect. -/
theorem SettingsInForce.overriding (h : SettingsInForce files environment settings) :
    Overriding files environment now options settings := by
  constructor
  case statusFile =>
    intro path hoption files' environment' settings' config' hsettled' hsettings hfilter hfile
    have hat : whereabouts options settings = .file path := by
      simp [whereabouts, hoption]
    have hat' : whereabouts { options with config := config' } settings' = .file path := by
      simp [whereabouts, hoption]
    have hread := readStatusRemarking_congr hfile now
    refine sameCourse_of_course (course_congr h hsettled' hsettings ⟨_, _, rfl⟩ hfilter ?_ ?_)
    · rw [hat, hat', workAnswer_file, workAnswer_file, hread]
    · rw [hat, hat', workRemarks_file, workRemarks_file, hread]
      rfl
  case config =>
    intro config path hoption hconfig hlocates config' arguments arguments' haccepted haccepted'
    rw [perform_of_run haccepted, perform_of_run haccepted',
      h.course_located (.option hoption hconfig) hlocates config']
  case setStatusFile =>
    intro path hoption hconfig hsetting
    refine h.sameCourse ⟨_, _, rfl⟩ ?_
    simp only [whereabouts, hoption, hconfig, hsetting]
  case setConfig =>
    intro hoption hconfig hsetting
    refine h.sameCourse ⟨_, _, rfl⟩ ?_
    simp only [whereabouts, hoption, hconfig, hsetting]
  case located => exact fun _ _ => locates_iff.symm
  case unlocated =>
    intro config failure hasked hlocates hlicense hvalid arguments haccepted
    rw [execute_of_run haccepted, h.answer_unlocated hasked hlocates hlicense hvalid]
    rfl

/-- An environment that names a settings document. -/
def namingEnvironment : Environment :=
  fun name => if name = Settings.pathVariable then some "app.toml" else none

/-- A tree with a configuration that names a status file, and with settings that name another
one. -/
def divergingTree : Files.Tree :=
  .ofEntries
    [("app.toml", .ofBytes (Text.Utf8.encode "[paths]\nstatus_file = \"other.dat\"\n")),
     ("etc/nagios.cfg", .ofBytes (Text.Utf8.encode "status_file=status.dat\n")),
     ("etc/status.dat", .ofBytes (Text.Utf8.encode "host \x7b\n\x7d\n"))]

theorem divergingTree_settled :
    SettingsInForce divergingTree.opener namingEnvironment { statusFile := "other.dat" } :=
  settingsInForce_iff.2 (by decide +kernel)

theorem divergingTree_locates :
    Locates divergingTree.opener "etc/nagios.cfg" (.ok "etc/status.dat") :=
  locates_iff.2 (by decide +kernel)

theorem SettingsInForce.overriding_diverging :
    SettingsInForce divergingTree.opener namingEnvironment { statusFile := "other.dat" } ∧
      Locates divergingTree.opener "etc/nagios.cfg" (.ok "etc/status.dat") ∧
      (perform divergingTree.opener namingEnvironment 0 ["-jc", "etc/nagios.cfg"]).run =
        (perform divergingTree.opener namingEnvironment 0 ["-j", "-setc/status.dat"]).run.withFirst
          [locatedRemark "etc/nagios.cfg" "etc/status.dat"] := by
  have hall : Overriding divergingTree.opener namingEnvironment 0
      { config := "etc/nagios.cfg", json := true } { statusFile := "other.dat" } :=
    SettingsInForce.overriding divergingTree_settled
  refine ⟨divergingTree_settled, divergingTree_locates, ?_⟩
  exact hall.config _ _ rfl rfl divergingTree_locates none _ _ (by decide +kernel)
    (by decide +kernel)

/-- A tree with settings whose log filter has a fault, and without the configuration. -/
def misfilteredTree : Files.Tree :=
  .ofEntries [("app.toml", .ofBytes (Text.Utf8.encode "[logging]\nfilter = \"a=b\"\n"))]

/-- The log filter is checked first, so that a run need not fail for want of the configuration that
it is given. And a configuration that leads to a status file makes a difference on standard error,
if anything is written of the remark on it. -/
theorem overriding_limits :
    (SettingsInForce misfilteredTree.opener namingEnvironment { logFilter := "a=b" } ∧
      Request.ofArguments? ["--config", "missing.cfg"] = some (.run { config := "missing.cfg" }) ∧
      Locates misfilteredTree.opener "missing.cfg"
        (.error (.cannotOpen "missing.cfg" "No such file or directory (os error 2)")) ∧
      (execute misfilteredTree.opener namingEnvironment 0 ["--config", "missing.cfg"]).run =
        .failed (.logSetting .noLevel) "" ∧
      ∀ failure output,
        (execute misfilteredTree.opener namingEnvironment 0 ["--config", "missing.cfg"]).run ≠
          .failed (.locating "missing.cfg" failure) output) ∧
    (SettingsInForce divergingTree.opener namingEnvironment { statusFile := "other.dat" } ∧
      Locates divergingTree.opener "etc/nagios.cfg" (.ok "etc/status.dat") ∧
      ∀ write : Log.Writer, write "debug" (locatedRemark "etc/nagios.cfg" "etc/status.dat") ≠ "" →
        (perform divergingTree.opener namingEnvironment 0
            ["--log-level", "debug", "-c", "etc/nagios.cfg"]).run.errorText write ≠
          (perform divergingTree.opener namingEnvironment 0
            ["--log-level", "debug", "-s", "etc/status.dat"]).run.errorText write) := by
  constructor
  · have houtcome :
        (execute misfilteredTree.opener namingEnvironment 0 ["--config", "missing.cfg"]).run =
          .failed (.logSetting .noLevel) "" := by decide +kernel
    refine ⟨settingsInForce_iff.2 (by decide +kernel), by decide +kernel,
      locates_iff.2 (by decide +kernel), houtcome, ?_⟩
    intro failure output hlocating
    rw [houtcome] at hlocating
    cases hlocating
  · refine ⟨divergingTree_settled, divergingTree_locates, ?_⟩
    have haccepted : Request.ofArguments? ["--log-level", "debug", "-c", "etc/nagios.cfg"] =
        some (.run { config := "etc/nagios.cfg", logFilter := "debug" }) := by decide +kernel
    have haccepted' : Request.ofArguments? ["--log-level", "debug", "-s", "etc/status.dat"] =
        some (.run { statusFile := "etc/status.dat", logFilter := "debug" }) := by decide +kernel
    have hcourse : (perform divergingTree.opener namingEnvironment 0
          ["--log-level", "debug", "-c", "etc/nagios.cfg"]).run =
        (perform divergingTree.opener namingEnvironment 0
          ["--log-level", "debug", "-s", "etc/status.dat"]).run.withFirst
            [locatedRemark "etc/nagios.cfg" "etc/status.dat"] := by
      rw [perform_of_run haccepted, perform_of_run haccepted']
      exact divergingTree_settled.course_located (.option rfl rfl) divergingTree_locates none
    have hopened : (perform divergingTree.opener namingEnvironment 0
        ["--log-level", "debug", "-s", "etc/status.dat"]).run.log.map Log.filter =
          some "debug" := by decide +kernel
    intro write hwritten
    rw [hcourse]
    exact Course.errorText_withFirst_ne hopened hwritten

end CommandLine

end StatusDigest
