import StatusDigest.Files.Access
import StatusDigest.Settings.Basic
import StatusDigest.Toml.Document
import StatusDigest.Toml.Range

/-!
# The settings document

Settings are written in a TOML document. Each section of the document holds some of the settings:

* as a table it gives them by their keys, and other keys do not count;
* as an array it gives their values in the order of the section, and further values do not count;
* a date or a time gives none of them.

Settings that the document does not give have their defaults. What does not count still has to
keep its numbers in range.
-/

namespace StatusDigest.Settings

open Toml

/-- A setting in a section: its key, and how its text becomes part of the settings. -/
structure Slot where
  key : String
  put : String → Settings → Settings

/-- The settings of a section, in its order. -/
abbrev Section := List Slot

/-- The section about files. -/
def pathsSection : Section :=
  [{ key := "main_config_file", put := fun text settings => { settings with mainConfig := text } },
   { key := "status_file", put := fun text settings => { settings with statusFile := text } }]

/-- The section about lists of values. -/
def outputSection : Section :=
  [{ key := "mrtg_delimiter", put := fun text settings => { settings with delimiter := text } },
   { key := "mrtg_variables", put := fun text settings => { settings with variableList := text } }]

/-- The section about the log. -/
def loggingSection : Section :=
  [{ key := "filter", put := fun text settings => { settings with logFilter := text } }]

/-- The section of a name. -/
def section? : String → Option Section
  | "paths" => some pathsSection
  | "output" => some outputSection
  | "logging" => some loggingSection
  | _ => none

/-- Gives a setting its value, which must be a text. -/
def Slot.give (slot : Slot) (settings : Settings) : Node → Option Settings
  | .scalar (.text s) => some (slot.put s settings)
  | _ => none

namespace Section

/-- Reads an entry of a section. -/
def readEntry (slots : Section) (settings : Settings) (entry : String × Node) : Option Settings :=
  match slots.find? fun slot => slot.key = entry.1 with
  | some slot => slot.give settings entry.2
  | none => if entry.2.inRange then some settings else none

/-- Reads values in the order of a section. -/
def readItems : Section → Settings → List Node → Option Settings
  | slot :: slots, settings, item :: items => do
    readItems slots (← slot.give settings item) items
  | _, settings, _ => some settings

/-- Reads a section. -/
def read (slots : Section) (settings : Settings) : Node → Option Settings
  | .table _ entries => entries.foldlM slots.readEntry settings
  | .array items => slots.readItems settings items
  | .tables elements => slots.readItems settings (elements.map (.table .stated))
  | .scalar .dateTime => some settings
  | .scalar _ => none

end Section

/-- Reads an entry of the document. -/
def readEntry (settings : Settings) (entry : String × Node) : Option Settings :=
  match section? entry.1 with
  | some slots => slots.read settings entry.2
  | none => if entry.2.inRange then some settings else none

/-- Why there are no settings. -/
inductive Failure where
  /-- The document could not be opened or read, for the reason that the system gives. -/
  | unreadable (path reason : String)
  /-- The document is not valid, or a setting in it is no text. -/
  | malformed
  /-- The settings do not meet a condition. -/
  | flawed (flaw : Flaw)
deriving DecidableEq, Repr

/-- The environment variable that names the settings document. -/
def pathVariable : String :=
  "NAGSTATS_CONFIG"

/-- The text of a failure. -/
def Failure.message : Failure → String
  | .unreadable path reason => "reading " ++ pathVariable ++ "=" ++ path ++ ": " ++ reason
  | .malformed => "malformed settings"
  | .flawed flaw => flaw.message

/-- The settings that meet all conditions. -/
def checked (settings : Settings) : Except Failure Settings :=
  match settings.flaw? with
  | some flaw => .error (.flawed flaw)
  | none => .ok settings

/-- The settings of a document. -/
def ofToml (text : String) : Except Failure Settings :=
  match parse? text >>= fun entries => entries.foldlM readEntry {} with
  | some settings => settings.checked
  | none => .error .malformed

/-- Loads the settings from the document at a path; without a path all have their defaults. -/
def load {m : Type → Type} [Monad m] (files : Files.Opener m) :
    Option String → m (Except Failure Settings)
  | none => return .ok {}
  | some path => do
    match ← files path with
    | .error reason => return .error (.unreadable path reason)
    | .ok source =>
      match Files.textOf source with
      | .error reason => return .error (.unreadable path reason)
      | .ok text => return ofToml text

end StatusDigest.Settings
