import StatusDigest.Locate
import StatusDigest.Proofs.Dump.Lines
import Mathlib

/-!
# Where a configuration says the status file is

A configuration is gone through line by line, and what was found is kept until something else is
found. What is found in the end can be read off the whole text:

* `Names` says of a line that it is a directive that names the status file, and `LastNamed` is the
  value in the last such line. `lastStatusFile?_eq_some_iff` shows that this value is found;
* `Locates` has one constructor for each way in which looking for the status file ends. By
  `locates_iff` it ends in this way, so that it ends in exactly one.
-/

namespace StatusDigest

open Dump

/-! ## Directives -/

/-- The line is a directive that names the status file. -/
def Names (text : List Char) (value : String) : Prop :=
  ∃ key ∈ statusFileKeys, Assigns text key value

theorem statusFile?_eq_some_iff {text : List Char} {value : String} :
    statusFile? text = some value ↔ Names text value := by
  unfold statusFile?
  constructor
  · intro h
    split at h
    · cases h
    rename_i hidle
    split at h
    · rename_i key found hcut
      split_ifs at h with hkey
      obtain rfl := Option.some.inj h
      obtain ⟨hends, hfilled, htext⟩ := assignment?_eq_some_iff.1 hcut
      have huncommented : text.head? ≠ some '#' := by
        intro hhead
        simp [isIdle, hhead] at hidle
      exact ⟨key, hkey, huncommented, hends, hfilled, htext⟩
    · cases h
  · rintro ⟨key, hkey, hassigns⟩
    have hcut := assignment?_eq_some_iff.2 ⟨hassigns.key_ends, hassigns.filled, hassigns.cut⟩
    simp [hassigns.shape.1, hcut, hkey]

theorem statusFile?_eq_none_iff {text : List Char} :
    statusFile? text = none ↔ ∀ value, ¬ Names text value := by
  simp only [← statusFile?_eq_some_iff, Option.eq_none_iff_forall_ne_some, ne_eq]

/-- The value in the last of the lines that name the status file. -/
def LastNamed (texts : List (List Char)) (value : String) : Prop :=
  ∃ before text after, texts = before ++ text :: after ∧ Names text value ∧
    ∀ later ∈ after, ∀ other, ¬ Names later other

/-- Keeping what was found last is looking for the first from behind. -/
theorem lastStatusFile?_eq_findSome? (texts : List (List Char)) :
    lastStatusFile? texts = texts.reverse.findSome? statusFile? := by
  rw [lastStatusFile?, ← List.foldr_reverse]
  induction texts.reverse with
  | nil => rfl
  | cons text rest ih =>
    rw [List.foldr_cons, ih, List.findSome?_cons]
    cases statusFile? text <;> rfl

theorem lastStatusFile?_eq_some_iff {texts : List (List Char)} {value : String} :
    lastStatusFile? texts = some value ↔ LastNamed texts value := by
  rw [lastStatusFile?_eq_findSome?, List.findSome?_eq_some_iff]
  simp only [statusFile?_eq_some_iff, statusFile?_eq_none_iff]
  constructor
  · rintro ⟨after, text, before, hcut, hnames, hlast⟩
    have htexts : texts = before.reverse ++ text :: after.reverse := by
      rw [← List.reverse_reverse texts, hcut]
      simp
    exact ⟨before.reverse, text, after.reverse, htexts, hnames, by simpa using hlast⟩
  · rintro ⟨before, text, after, rfl, hnames, hlast⟩
    exact ⟨after.reverse, text, before.reverse, by simp, hnames, by simpa using hlast⟩

theorem lastStatusFile?_eq_none_iff {texts : List (List Char)} :
    lastStatusFile? texts = none ↔ ∀ text ∈ texts, ∀ value, ¬ Names text value := by
  simp only [lastStatusFile?_eq_findSome?, List.findSome?_eq_none_iff, List.mem_reverse,
    statusFile?_eq_none_iff]

/-! ## Configurations -/

/-- A configuration that can be read to its end names what the last directive names. -/
theorem scanConfig_of_ends {source : Source} (hends : source.failure = none) :
    scanConfig source = .ok (lastStatusFile? (textsOf source.bytes)) := by
  simp [scanConfig, hends, Source.lines_eq_linesOf hends, textsOf]

/-- How looking for the status file through the configuration at a path ends. -/
inductive Locates (files : Files.Opener Id) (config : String) :
    Except StatusFailure String → Prop
  | cannotOpen {reason : String} (closed : files config = .error reason) :
      Locates files config (.error (.cannotOpen config reason))
  | readFailed {source : Source} {reason : String} (opened : files config = .ok source)
      (fails : source.failure = some reason) : Locates files config (.error (.readFailed reason))
  /-- No line names the status file. -/
  | noStatusFile {source : Source} (opened : files config = .ok source)
      (ends : source.failure = none)
      (unnamed : ∀ text ∈ textsOf source.bytes, ∀ value, ¬ Names text value) :
      Locates files config (.error (.noStatusFile config))
  /-- An absolute path is taken as it is. -/
  | absolute {source : Source} {value : String} (opened : files config = .ok source)
      (ends : source.failure = none) (named : LastNamed (textsOf source.bytes) value)
      (rooted : value.toList.head? = some '/') : Locates files config (.ok value)
  /-- A relative path is taken from the directory of the configuration. -/
  | relative {source : Source} {value : String} (opened : files config = .ok source)
      (ends : source.failure = none) (named : LastNamed (textsOf source.bytes) value)
      (unrooted : value.toList.head? ≠ some '/') :
      Locates files config (.ok (Files.join ((Files.parent? config).getD "") value))

variable {files : Files.Opener Id} {config : String} {source : Source}

theorem locate_of_opened (hopened : files config = .ok source) :
    (locate files config).run = statusFileOf config source := by
  rw [locate, hopened]
  rfl

theorem Locates.locate_eq {result : Except StatusFailure String}
    (h : Locates files config result) : (locate files config).run = result := by
  cases h with
  | cannotOpen closed =>
    rw [locate, closed]
    rfl
  | readFailed opened fails =>
    simp [locate_of_opened opened, statusFileOf, scanConfig, fails]
  | noStatusFile opened ends unnamed =>
    have hnone := lastStatusFile?_eq_none_iff.2 unnamed
    simp [locate_of_opened opened, statusFileOf, scanConfig_of_ends ends, hnone]
  | absolute opened ends named rooted =>
    have hsome := lastStatusFile?_eq_some_iff.2 named
    simp [locate_of_opened opened, statusFileOf, scanConfig_of_ends ends, hsome, Files.join, rooted]
  | relative opened ends named unrooted =>
    have hsome := lastStatusFile?_eq_some_iff.2 named
    simp [locate_of_opened opened, statusFileOf, scanConfig_of_ends ends, hsome]

/-- Looking for the status file ends in one of the ways. -/
theorem exists_locates (files : Files.Opener Id) (config : String) :
    ∃ result, Locates files config result := by
  cases hopened : files config with
  | error reason => exact ⟨_, .cannotOpen hopened⟩
  | ok source =>
    cases hends : source.failure with
    | some reason => exact ⟨_, .readFailed hopened hends⟩
    | none =>
      cases hfound : lastStatusFile? (textsOf source.bytes) with
      | none => exact ⟨_, .noStatusFile hopened hends (lastStatusFile?_eq_none_iff.1 hfound)⟩
      | some value =>
        have hnamed := lastStatusFile?_eq_some_iff.1 hfound
        by_cases hrooted : value.toList.head? = some '/'
        · exact ⟨_, .absolute hopened hends hnamed hrooted⟩
        · exact ⟨_, .relative hopened hends hnamed hrooted⟩

theorem locates_iff {result : Except StatusFailure String} :
    Locates files config result ↔ (locate files config).run = result := by
  constructor
  · exact Locates.locate_eq
  · rintro rfl
    obtain ⟨result, h⟩ := exists_locates files config
    rwa [h.locate_eq]

end StatusDigest
