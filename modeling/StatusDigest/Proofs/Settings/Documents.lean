import StatusDigest.Proofs.CommandLine.Stages
import StatusDigest.Proofs.Mrtg.Lists
import StatusDigest.Proofs.Toml.Written
import StatusDigest.Settings.Document
import Mathlib

/-!
# Settings that are written to a document

Any of the settings may be written to a document, each with any text. What the document leads to
depends on nothing but these texts: not on the order of the sections and of the lines in them, not
on how the texts are spelled, and not on whether a section with nothing in it is there.

* `withDefaults` are the settings of which some are written, `Arranges` says how the written ones
  are put into sections, and `IsDocument` which texts are documents of them;
* `readEntry_key`, `readEntry_tableOf` and `foldlM_readEntry` read an entry, a section and a
  document: what comes out is that one setting after the other is given its text;
* `withDefaults_give` is the step for one more written setting, and `foldl_give` the run over all of
  them: what was given has its text, and what is still to come has its default;
* `HasFlaw` are the conditions that settings do not meet: sound settings have no flaw
  (`isSound_iff`), no default has one (`HasFlaw.exists_written`), and of several the first is
  reported (`isFirstFlaw_of_flaw?`);
* `IsSound.answersSome` leads from the check of the list of variables, which is about pieces that
  are not blank, to the answers, which are to pieces that are not empty;
* `ofToml_document` is the result for all settings, all documents and all snapshots.
-/

namespace StatusDigest

open Toml

/-! ## The settings one by one -/

/-- What can be written to a document. -/
inductive Setting where
  | mainConfig
  | statusFile
  | delimiter
  | variableList
  | logFilter
deriving DecidableEq, Repr

namespace Setting

/-- All settings. -/
def all : List Setting :=
  [.mainConfig, .statusFile, .delimiter, .variableList, .logFilter]

/-- The section of a setting. -/
def sectionName : Setting → String
  | .mainConfig | .statusFile => "paths"
  | .delimiter | .variableList => "output"
  | .logFilter => "logging"

/-- The key of a setting in its section. -/
def key : Setting → String
  | .mainConfig => "main_config_file"
  | .statusFile => "status_file"
  | .delimiter => "mrtg_delimiter"
  | .variableList => "mrtg_variables"
  | .logFilter => "filter"

theorem mem_all (setting : Setting) : setting ∈ all := by
  cases setting <;> decide

theorem key_injective : Function.Injective key := by
  intro setting other
  cases setting <;> cases other <;> simp [key]

theorem isBareName_key (setting : Setting) : IsBareName setting.key := by
  constructor <;> cases setting <;> simp [key]

end Setting

namespace Settings

/-- Gives a setting its text. -/
def give (settings : Settings) : Setting × String → Settings
  | (.mainConfig, text) => { settings with mainConfig := text }
  | (.statusFile, text) => { settings with statusFile := text }
  | (.delimiter, text) => { settings with delimiter := text }
  | (.variableList, text) => { settings with variableList := text }
  | (.logFilter, text) => { settings with logFilter := text }

/-- The settings if some are written and the others are not. -/
def withDefaults (written : Setting → Option String) : Settings where
  mainConfig := (written .mainConfig).getD "/usr/local/nagios/etc/nagios.cfg"
  statusFile := written .statusFile
  delimiter := (written .delimiter).getD "\n"
  variableList := written .variableList
  logFilter := (written .logFilter).getD "warn"

/-- One more written setting takes the place of its default, whatever else is written. -/
theorem withDefaults_give (written : Setting → Option String) (setting : Setting) (text : String) :
    (withDefaults written).give (setting, text) =
      withDefaults (Function.update written setting (some text)) := by
  cases setting <;> simp [give, withDefaults]

/-- Settings that are given one after the other, none of them twice, are the ones that are written
in the end. -/
theorem foldl_give {entries : List (Setting × String)} (honce : (entries.map Prod.fst).Nodup)
    {before after : Setting → Option String} (hnew : ∀ entry ∈ entries, before entry.1 = none)
    (hafter : ∀ setting text, after setting = some text ↔
      (setting, text) ∈ entries ∨ before setting = some text) :
    entries.foldl give (withDefaults before) = withDefaults after := by
  induction entries generalizing before with
  | nil =>
    have heq : before = after := by
      funext setting
      ext text
      simpa using (hafter setting text).symm
    rw [heq]
    rfl
  | cons entry entries ih =>
    obtain ⟨setting, text⟩ := entry
    simp only [List.map_cons, List.nodup_cons] at honce
    rw [List.foldl_cons, withDefaults_give]
    have hother : ∀ later ∈ entries, later.1 ≠ setting := by
      rintro later hlater rfl
      exact honce.1 (List.mem_map_of_mem hlater)
    refine ih honce.2 ?_ ?_
    · intro later hlater
      rw [Function.update_of_ne (hother later hlater)]
      exact hnew later (List.mem_cons_of_mem _ hlater)
    · intro given value
      rw [hafter, List.mem_cons, Prod.mk.injEq]
      by_cases hsame : given = setting
      · subst hsame
        have hnone : (given, value) ∉ entries := fun hmem => hother _ hmem rfl
        have hbefore : before given = none := hnew _ List.mem_cons_self
        simp [hnone, hbefore, eq_comm]
      · simp [hsame]

/-! ## Documents of settings -/

/-- The names that sections have. -/
def sectionNames : List String :=
  ["paths", "output", "logging"]

theorem isBareName_of_mem_sectionNames {name : String} (h : name ∈ sectionNames) :
    IsBareName name := by
  simp only [sectionNames, List.mem_cons, List.not_mem_nil, or_false] at h
  constructor
  · rcases h with rfl | rfl | rfl <;> simp
  · rcases h with rfl | rfl | rfl <;> simp

/-- The sections with their settings make up what is written. There are no other sections and none
twice, every setting is in its section, and those that are written are there once. -/
structure Arranges (sections : List (String × List (Setting × String)))
    (written : Setting → Option String) : Prop where
  named : ∀ part ∈ sections, part.1 ∈ sectionNames
  distinct : (sections.map Prod.fst).Nodup
  placed : ∀ part ∈ sections, ∀ entry ∈ part.2, entry.1.sectionName = part.1
  once : ((sections.flatMap Prod.snd).map Prod.fst).Nodup
  complete : ∀ setting text, written setting = some text ↔
    (setting, text) ∈ sections.flatMap Prod.snd

/-- A section as a table of texts. -/
def tableOf (part : String × List (Setting × String)) : String × List (String × String) :=
  (part.1, part.2.map fun entry => (entry.1.key, entry.2))

/-- The text is a document of what is written. -/
def IsDocument (text : String) (written : Setting → Option String) : Prop :=
  ∃ sections, Arranges sections written ∧ WritesDocument text.toList (sections.map tableOf)

/-- The written ones of some settings. -/
def entriesOf (written : Setting → Option String) (settings : List Setting) :
    List (Setting × String) :=
  settings.filterMap fun setting => (written setting).map (setting, ·)

/-- What is written, in the order of the sections. -/
def sectionsOf (written : Setting → Option String) : List (String × List (Setting × String)) :=
  sectionNames.map fun name =>
    (name, entriesOf written (Setting.all.filter (·.sectionName = name)))

theorem mem_entriesOf {written : Setting → Option String} {settings : List Setting}
    {setting : Setting} {text : String} :
    (setting, text) ∈ entriesOf written settings ↔
      setting ∈ settings ∧ written setting = some text := by
  simp [entriesOf, List.mem_filterMap]

theorem map_fst_entriesOf (written : Setting → Option String) (settings : List Setting) :
    (entriesOf written settings).map Prod.fst =
      settings.filter fun setting => (written setting).isSome := by
  rw [entriesOf, List.map_filterMap, ← List.filterMap_eq_filter]
  congr 1
  funext setting
  cases h : written setting <;> simp [h, Option.guard]

theorem flatMap_sectionsOf (written : Setting → Option String) :
    (sectionsOf written).flatMap Prod.snd = entriesOf written Setting.all := by
  have hall : sectionNames.flatMap (fun name => Setting.all.filter (·.sectionName = name)) =
      Setting.all := by
    decide
  rw [sectionsOf, List.flatMap_map, ← hall, entriesOf, List.filterMap_flatMap]
  rfl

theorem arranges_sectionsOf (written : Setting → Option String) :
    Arranges (sectionsOf written) written where
  named := by
    intro part hpart
    obtain ⟨name, hname, rfl⟩ := List.mem_map.1 hpart
    exact hname
  distinct := by
    rw [sectionsOf, List.map_map]
    simp [sectionNames]
  placed := by
    intro part hpart entry hentry
    obtain ⟨name, hname, rfl⟩ := List.mem_map.1 hpart
    have hmem := (mem_entriesOf.1 hentry).1
    simpa using (List.mem_filter.1 hmem).2
  once := by
    have hall : Setting.all.Nodup := by decide
    rw [flatMap_sectionsOf, map_fst_entriesOf]
    exact hall.filter _
  complete := by
    intro setting text
    rw [flatMap_sectionsOf, mem_entriesOf]
    simp [Setting.mem_all]

/-- A document of all that is written. -/
def documentOf (sections : List (String × List (Setting × String))) : String :=
  document (sections.map tableOf)

theorem Arranges.isDocument {sections : List (String × List (Setting × String))}
    {written : Setting → Option String} (h : Arranges sections written) :
    IsDocument (documentOf sections) written := by
  refine ⟨sections, h, writesDocument_document ?_ ?_⟩
  · intro table htable
    obtain ⟨part, hpart, rfl⟩ := List.mem_map.1 htable
    exact isBareName_of_mem_sectionNames (h.named part hpart)
  · intro table htable entry hentry
    obtain ⟨part, hpart, rfl⟩ := List.mem_map.1 htable
    obtain ⟨given, -, rfl⟩ := List.mem_map.1 hentry
    exact given.1.isBareName_key

/-! ## Reading a document -/

theorem readEntry_key (setting : Setting) : ∃ slots, section? setting.sectionName = some slots ∧
    ∀ (settings : Settings) (text : String),
      slots.readEntry settings (setting.key, .scalar (.text text)) =
        some (settings.give (setting, text)) := by
  cases setting with
  | mainConfig => exact ⟨pathsSection, rfl, fun _ _ => rfl⟩
  | statusFile => exact ⟨pathsSection, rfl, fun _ _ => rfl⟩
  | delimiter => exact ⟨outputSection, rfl, fun _ _ => rfl⟩
  | variableList => exact ⟨outputSection, rfl, fun _ _ => rfl⟩
  | logFilter => exact ⟨loggingSection, rfl, fun _ _ => rfl⟩

theorem exists_section?_of_mem {name : String} (h : name ∈ sectionNames) :
    ∃ slots, section? name = some slots := by
  simp only [sectionNames, List.mem_cons, List.not_mem_nil, or_false] at h
  rcases h with rfl | rfl | rfl
  · exact ⟨pathsSection, rfl⟩
  · exact ⟨outputSection, rfl⟩
  · exact ⟨loggingSection, rfl⟩

/-- A section gives what is written in it, line after line. -/
theorem readEntry_tableOf {part : String × List (Setting × String)} (hname : part.1 ∈ sectionNames)
    (hplaced : ∀ entry ∈ part.2, entry.1.sectionName = part.1) (settings : Settings) :
    readEntry settings (part.1, .table .stated (textEntries (tableOf part).2)) =
      some (part.2.foldl give settings) := by
  obtain ⟨name, entries⟩ := part
  obtain ⟨slots, hslots⟩ := exists_section?_of_mem hname
  simp only [readEntry, hslots, Section.read]
  induction entries generalizing settings with
  | nil => rfl
  | cons entry entries ih =>
    rw [List.forall_mem_cons] at hplaced
    obtain ⟨found, hfound, hgive⟩ := readEntry_key entry.1
    rw [hplaced.1, hslots] at hfound
    obtain rfl := Option.some.inj hfound
    have hcons : textEntries (tableOf (name, entry :: entries)).2 =
        (entry.1.key, .scalar (.text entry.2)) :: textEntries (tableOf (name, entries)).2 := rfl
    rw [hcons, List.foldlM_cons, hgive, Option.bind_eq_bind, Option.bind_some]
    exact ih _ hname hplaced.2 hslots

/-- A document gives what is written in its sections, section after section. -/
theorem foldlM_readEntry {sections : List (String × List (Setting × String))}
    (hnamed : ∀ part ∈ sections, part.1 ∈ sectionNames)
    (hplaced : ∀ part ∈ sections, ∀ entry ∈ part.2, entry.1.sectionName = part.1)
    (settings : Settings) :
    (rootOf (sections.map tableOf)).foldlM readEntry settings =
      some ((sections.flatMap Prod.snd).foldl give settings) := by
  induction sections generalizing settings with
  | nil => rfl
  | cons part sections ih =>
    rw [List.forall_mem_cons] at hnamed hplaced
    have hcons : rootOf ((part :: sections).map tableOf) =
        (part.1, .table .stated (textEntries (tableOf part).2)) ::
          rootOf (sections.map tableOf) := rfl
    rw [hcons, List.foldlM_cons, readEntry_tableOf hnamed.1 hplaced.1, Option.bind_eq_bind,
      Option.bind_some, ih hnamed.2 hplaced.2, List.flatMap_cons, List.foldl_append]

/-- What is written decides, and nothing else in the document. -/
theorem IsDocument.ofToml {text : String} {written : Setting → Option String}
    (h : IsDocument text written) : Settings.ofToml text = (withDefaults written).checked := by
  obtain ⟨sections, harranges, hdocument⟩ := h
  have honce := harranges.once
  rw [List.map_flatMap, List.nodup_flatMap] at honce
  have hnames : ((sections.map tableOf).map Prod.fst).Nodup := by
    rw [List.map_map]
    exact harranges.distinct
  have hkeys : ∀ table ∈ sections.map tableOf, (table.2.map Prod.fst).Nodup := by
    intro table htable
    obtain ⟨part, hpart, rfl⟩ := List.mem_map.1 htable
    have hkeys := (honce.1 part hpart).map Setting.key_injective
    rw [List.map_map] at hkeys
    rw [tableOf, List.map_map]
    exact hkeys
  have hgiven : (sections.flatMap Prod.snd).foldl give (withDefaults fun _ => none) =
      withDefaults written := by
    refine foldl_give harranges.once (fun _ _ => rfl) ?_
    intro setting text
    simpa using harranges.complete setting text
  have hdefaults : ({} : Settings) = withDefaults fun _ => none := rfl
  rw [Settings.ofToml, hdocument.parse? hnames hkeys, Option.bind_eq_bind, Option.bind_some,
    foldlM_readEntry harranges.named harranges.placed, hdefaults, hgiven]

/-! ## The first flaw -/

/-- The conditions that settings do not meet. -/
inductive HasFlaw (settings : Settings) : Flaw → Prop
  | emptyMainConfig (h : settings.mainConfig = "") : HasFlaw settings .emptyMainConfig
  | emptyStatusFile (h : settings.statusFile = some "") : HasFlaw settings .emptyStatusFile
  | emptyDelimiter (h : settings.delimiter = "") : HasFlaw settings .emptyDelimiter
  | namesNothing {list : String} (hlist : settings.variableList = some list)
      (h : ∀ piece ∈ list.toList.splitOn ',', ∀ c ∈ piece, Text.isBlank c = true) :
      HasFlaw settings (.namesNothing list)
  | blankLogFilter (h : ∀ c ∈ settings.logFilter.toList, Text.isBlank c = true) :
      HasFlaw settings .blankLogFilter

/-- The place of a condition among all of them. -/
def Flaw.rank : Flaw → ℕ
  | .emptyMainConfig => 0
  | .emptyStatusFile => 1
  | .emptyDelimiter => 2
  | .namesNothing _ => 3
  | .blankLogFilter => 4

/-- The settings do not meet the condition, and meet all that come before it. -/
structure IsFirstFlaw (settings : Settings) (flaw : Flaw) : Prop where
  present : settings.HasFlaw flaw
  first : ∀ other, settings.HasFlaw other → flaw.rank ≤ other.rank

/-- The setting that a condition is about. -/
def Flaw.setting : Flaw → Setting
  | .emptyMainConfig => .mainConfig
  | .emptyStatusFile => .statusFile
  | .emptyDelimiter => .delimiter
  | .namesNothing _ => .variableList
  | .blankLogFilter => .logFilter

/-- The text of a flaw starts with the place of its setting in the document. -/
theorem Flaw.exists_message_eq (flaw : Flaw) : ∃ rest,
    flaw.message = flaw.setting.sectionName ++ "." ++ flaw.setting.key ++ " must " ++ rest := by
  cases flaw with
  | namesNothing list =>
    have hmessage : (namesNothing list).message =
        "output.mrtg_variables must name at least one variable, got Some(" ++
          (Text.quoted list ++ ")") := String.append_assoc
    have hplace : "output.mrtg_variables must name at least one variable, got Some(" =
        Setting.variableList.sectionName ++ "." ++ Setting.variableList.key ++ " must " ++
          "name at least one variable, got Some(" := by
      decide
    rw [hmessage, hplace]
    exact ⟨_, String.append_assoc⟩
  | emptyStatusFile => exact ⟨"be non-empty when set", by decide⟩
  | _ => exact ⟨"be non-empty", by decide⟩

/-- A default is never at fault: what does not meet a condition was written. -/
theorem HasFlaw.exists_written {written : Setting → Option String} {flaw : Flaw}
    (h : (withDefaults written).HasFlaw flaw) : ∃ text, written flaw.setting = some text := by
  rw [← Option.ne_none_iff_exists']
  intro hnone
  cases h with
  | emptyMainConfig h =>
    simp only [Flaw.setting] at hnone
    simp [withDefaults, hnone] at h
  | emptyStatusFile h =>
    simp only [Flaw.setting] at hnone
    simp [withDefaults, hnone] at h
  | emptyDelimiter h =>
    simp only [Flaw.setting] at hnone
    simp [withDefaults, hnone] at h
  | namesNothing hlist _ =>
    simp only [Flaw.setting] at hnone
    simp [withDefaults, hnone] at hlist
  | blankLogFilter h =>
    simp only [Flaw.setting] at hnone
    have hfirst : Text.isBlank 'w' = true := h 'w' (by simp [withDefaults, hnone])
    cases hfirst

theorem require_eq_some_iff {condition : Bool} {flaw other : Flaw} :
    require condition flaw = some other ↔ condition = false ∧ flaw = other := by
  cases condition <;> simp [require]

theorem allBlank_iff {text : List Char} :
    Text.allBlank text = true ↔ ∀ c ∈ text, Text.isBlank c = true := by
  simp [Text.allBlank]

theorem namesSomething_eq_false_iff {list : String} : namesSomething list = false ↔
    ∀ piece ∈ list.toList.splitOn ',', ∀ c ∈ piece, Text.isBlank c = true := by
  simp [namesSomething, Text.pieces_eq_splitOn, allBlank_iff]

/-- The check goes through the conditions in their order. -/
theorem isFirstFlaw_of_flaw? {settings : Settings} {flaw : Flaw} (h : settings.flaw? = some flaw) :
    settings.IsFirstFlaw flaw := by
  simp only [flaw?, Option.orElse_eq_some, require_eq_some_iff, require_eq_none_iff,
    Option.bind_eq_some_iff, decide_eq_true_eq, decide_eq_false_iff_not, Bool.not_eq_false',
    Decidable.not_not, allBlank_iff, namesSomething_eq_false_iff] at h
  rcases h with ⟨hmain, rfl⟩ | ⟨hmain, ⟨hstatus, rfl⟩ | ⟨hstatus, ⟨hdelimiter, rfl⟩ |
    ⟨hdelimiter, ⟨list, hlist, hnothing, rfl⟩ | ⟨hvariables, hfilter, rfl⟩⟩⟩⟩
  · exact ⟨.emptyMainConfig hmain, fun other _ => Nat.zero_le _⟩
  · refine ⟨.emptyStatusFile hstatus, fun other hother => ?_⟩
    cases hother with
    | emptyMainConfig h => exact absurd h hmain
    | _ => simp [Flaw.rank]
  · refine ⟨.emptyDelimiter hdelimiter, fun other hother => ?_⟩
    cases hother with
    | emptyMainConfig h => exact absurd h hmain
    | emptyStatusFile h => exact absurd h hstatus
    | _ => simp [Flaw.rank]
  · refine ⟨.namesNothing hlist hnothing, fun other hother => ?_⟩
    cases hother with
    | emptyMainConfig h => exact absurd h hmain
    | emptyStatusFile h => exact absurd h hstatus
    | emptyDelimiter h => exact absurd h hdelimiter
    | _ => simp [Flaw.rank]
  · refine ⟨.blankLogFilter hfilter, fun other hother => ?_⟩
    cases hother with
    | emptyMainConfig h => exact absurd h hmain
    | emptyStatusFile h => exact absurd h hstatus
    | emptyDelimiter h => exact absurd h hdelimiter
    | @namesNothing list hlist hnothing =>
      rw [← namesSomething_eq_false_iff] at hnothing
      simp [hlist, hnothing, require] at hvariables
    | blankLogFilter _ => exact le_rfl

/-- Settings meet all conditions if there is none that they do not meet. -/
theorem isSound_iff {settings : Settings} :
    settings.IsSound ↔ ∀ flaw, ¬ settings.HasFlaw flaw := by
  constructor
  · intro h flaw hflaw
    cases hflaw with
    | emptyMainConfig hmain => exact h.mainConfig hmain
    | emptyStatusFile hstatus => exact h.statusFile hstatus
    | emptyDelimiter hdelimiter => exact h.delimiter hdelimiter
    | namesNothing hlist hnothing =>
      obtain ⟨piece, hpiece, c, hc, hfilled⟩ := h.variableList _ hlist
      rw [hnothing piece hpiece c hc] at hfilled
      cases hfilled
    | blankLogFilter hblank =>
      obtain ⟨c, hc, hfilled⟩ := h.logFilter
      rw [hblank c hc] at hfilled
      cases hfilled
  · intro h
    rw [← flaw?_eq_none_iff, Option.eq_none_iff_forall_ne_some]
    intro flaw hflaw
    exact h flaw (isFirstFlaw_of_flaw? hflaw).present

/-- The answer to settings that were read: those that meet all conditions come back as they are, and
the others with the first condition that they do not meet, which names the setting. -/
structure IsVerdict (settings : Settings) (answer : Except Failure Settings) : Prop where
  accepted : (∃ given, answer = .ok given) ↔ settings.IsSound
  unchanged : ∀ given, answer = .ok given → given = settings
  refused : ∀ failure, answer = .error failure →
    ∃ flaw, failure = .flawed flaw ∧ settings.IsFirstFlaw flaw ∧ ∃ rest,
      failure.message = flaw.setting.sectionName ++ "." ++ flaw.setting.key ++ " must " ++ rest

theorem isVerdict_checked (settings : Settings) : settings.IsVerdict settings.checked := by
  rw [checked]
  cases hflaw : settings.flaw? with
  | none =>
    have hsound := flaw?_eq_none_iff.1 hflaw
    exact ⟨⟨fun _ => hsound, fun _ => ⟨settings, rfl⟩⟩, fun given h => (Except.ok.inj h).symm,
      fun failure h => by cases h⟩
  | some flaw =>
    have hfirst := isFirstFlaw_of_flaw? hflaw
    refine ⟨⟨?_, fun hsound => absurd hfirst.present (isSound_iff.1 hsound flaw)⟩, ?_, ?_⟩
    · rintro ⟨given, ⟨⟩⟩
    · rintro given ⟨⟩
    · rintro failure ⟨⟩
      exact ⟨flaw, rfl, hfirst, flaw.exists_message_eq⟩

/-! ## The list of variables -/

/-- What is written for a list of variables starts with the answer to one of the names in it, and
ends with a line feed. -/
structure AnswersSome (snapshot : Snapshot) (list delimiter : String) (now : Int64) : Prop where
  answered : ∃ name ∈ list.toList.splitOn ',', name ≠ [] ∧ ∃ rest,
    (snapshot.mrtg list delimiter now).toList =
      (snapshot.mrtgValue (String.ofList name) now).toList ++ delimiter.toList ++ rest
  ended : (snapshot.mrtg list delimiter now).toList.getLast? = some '\n'

/-- Settings that meet all conditions lead to an answer at least: a piece of the list that is not
blank is not empty either. -/
theorem IsSound.answersSome {settings : Settings} (h : settings.IsSound) {list : String}
    (hlist : settings.variableList = some list) (snapshot : Snapshot) (now : Int64) :
    AnswersSome snapshot list settings.delimiter now := by
  obtain ⟨piece, hpiece, c, hc, -⟩ := h.variableList list hlist
  have hmem : piece ∈ (list.toList.splitOn ',').filter (· ≠ []) := by
    rw [List.mem_filter, decide_eq_true_eq]
    exact ⟨hpiece, List.ne_nil_of_mem hc⟩
  have hanswers : snapshot.answers list now ≠ [] :=
    List.ne_nil_of_mem (List.mem_map_of_mem hmem)
  constructor
  · obtain ⟨name, names, hnames⟩ := List.exists_cons_of_ne_nil (List.ne_nil_of_mem hmem)
    have hname : name ∈ (list.toList.splitOn ',').filter (· ≠ []) := by
      rw [hnames]
      exact List.mem_cons_self
    rw [List.mem_filter, decide_eq_true_eq] at hname
    refine ⟨name, hname.1, hname.2, ?_⟩
    rw [Snapshot.toList_mrtg, Snapshot.answers, hnames, List.map_cons, List.flatMap_cons,
      List.append_assoc]
    exact ⟨_, rfl⟩
  · obtain ⟨before, last, hlast⟩ := List.eq_nil_or_concat (snapshot.answers list now)
      |>.resolve_left hanswers
    rw [Snapshot.toList_mrtg]
    split
    · rename_i hfeed
      rw [hlast, hfeed]
      simp
    · rw [List.getLast?_append]
      rfl

/-- Whatever settings are written, with whatever texts, there is a document of them, and every such
document leads to the settings that were written, with defaults for the others. They are accepted if
and only if they meet all conditions, and otherwise the first condition is reported that they do not
meet. If there is a list of variables in what is accepted, from whatever document, there is an
answer to one of its names for every snapshot and at every time, and a line feed at the end. -/
theorem ofToml_document :
    (∀ written : Setting → Option String, (∃ text, IsDocument text written) ∧
      ∀ text, IsDocument text written → (withDefaults written).IsVerdict (ofToml text)) ∧
    ∀ (text : String) (settings : Settings) (list : String), ofToml text = .ok settings →
      settings.variableList = some list → ∀ (snapshot : Snapshot) (now : Int64),
        AnswersSome snapshot list settings.delimiter now := by
  refine ⟨fun written => ⟨?_, ?_⟩, ?_⟩
  · exact ⟨_, (arranges_sectionsOf written).isDocument⟩
  · intro text htext
    rw [htext.ofToml]
    exact isVerdict_checked _
  · intro text settings list htext hlist snapshot now
    obtain ⟨_, _, _, hsound⟩ := CommandLine.ofToml_eq_ok_iff.1 htext
    exact hsound.answersSome hlist snapshot now

/-- A path with quotes and a backslash in it, control characters, and a list with blank names. -/
def awkward : Setting → Option String
  | .mainConfig => some "C:\\\"main\".cfg"
  | .delimiter => some "\x00|\n"
  | .variableList => some " ,,NAGIOSPID"
  | .statusFile | .logFilter => none

/-- The sections are not in their order, and one of them has nothing in it. -/
def awkwardSections : List (String × List (Setting × String)) :=
  [("output", [(.variableList, " ,,NAGIOSPID"), (.delimiter, "\x00|\n")]), ("logging", []),
   ("paths", [(.mainConfig, "C:\\\"main\".cfg")])]

/-- The document of these sections. -/
def awkwardText : String :=
  "[output]\nmrtg_variables = \" ,,NAGIOSPID\"\nmrtg_delimiter = \"\\u0000|\\u000a\"\n" ++
    "[logging]\n[paths]\nmain_config_file = \"C:\\\\\\\"main\\\".cfg\"\n"

theorem ofToml_document_awkward :
    IsDocument awkwardText awkward ∧
    ofToml awkwardText = .ok
      { mainConfig := "C:\\\"main\".cfg", delimiter := "\x00|\n",
        variableList := some " ,,NAGIOSPID" } ∧
    AnswersSome {} " ,,NAGIOSPID" "\x00|\n" 0 := by
  have harranges : Arranges awkwardSections awkward := by
    refine ⟨by decide, by decide, by decide, by decide, ?_⟩
    intro setting text
    cases setting <;> simp [awkward, awkwardSections, eq_comm]
  have hdocument : documentOf awkwardSections = awkwardText := by decide +kernel
  have htext : IsDocument awkwardText awkward := hdocument ▸ harranges.isDocument
  have hsound : (withDefaults awkward).IsSound := by
    rw [← flaw?_eq_none_iff]
    decide +kernel
  have hverdict := (ofToml_document.1 awkward).2 awkwardText htext
  obtain ⟨given, hgiven⟩ := hverdict.accepted.2 hsound
  obtain rfl := hverdict.unchanged given hgiven
  have hanswers := ofToml_document.2 awkwardText _ " ,,NAGIOSPID" hgiven rfl {} 0
  exact ⟨htext, hgiven, hanswers⟩

end Settings

end StatusDigest
