import StatusDigest.Proofs.CommandLine.Locating
import StatusDigest.Proofs.Dump.Editing
import Mathlib

/-!
# Which directive counts

A configuration may name the status file any number of times, under three names, among comments
and other directives. The last of these directives counts, and nothing else does:

* `Aside` says which lines do not name the status file, and `statusFile?_eq_none_iff_aside` shows
  that the search passes over just these;
* `lastStatusFile?_append` is the law of the search: of lines one after the other the later ones
  count, and the earlier ones only if the later ones name nothing;
* `LastDirective` is all that is known of what a configuration names, and
  `Source.exists_lastDirective` shows that every configuration that can be read names such a thing.
-/

namespace StatusDigest

open Dump

/-! ## Lines that do not name the status file -/

/-- A stripped line that does not name the status file. -/
inductive Aside (text : List Char) : Prop
  | empty (nothing : text = [])
  | comment (starts : text.head? = some '#')
  /-- The directive sets something else. -/
  | other {key value : String} (assigns : Assigns text key value) (unnamed : key ∉ statusFileKeys)
  /-- Nothing follows the first equals sign, whatever the name before it. -/
  | valueless {key : List Char} (key_ends : '=' ∉ key) (cut : text = key ++ ['='])
  /-- The line is no directive at all. -/
  | signless (uncut : '=' ∉ text)

theorem Aside.not_names {text : List Char} (h : Aside text) (value : String) :
    ¬ Names text value := by
  rintro ⟨key, hkey, hassigns⟩
  cases h with
  | empty nothing => exact (Silent.empty nothing).not_assigns key value hassigns
  | comment starts => exact hassigns.uncommented starts
  | other assigns unnamed =>
    -- the line is cut at its first equals sign, so that it has one key only
    obtain ⟨rfl, -⟩ := hassigns.unique assigns
    exact unnamed hkey
  | valueless key_ends cut => exact (Silent.valueless key_ends cut).not_assigns key value hassigns
  | signless uncut => exact uncut hassigns.mem

/-- The search passes over the lines that are set aside, and over no others. -/
theorem statusFile?_eq_none_iff_aside {text : List Char} :
    statusFile? text = none ↔ Aside text := by
  rw [statusFile?_eq_none_iff]
  constructor
  · intro hunnamed
    by_cases hassigns : ∃ key value, Assigns text key value
    · obtain ⟨key, value, hassigns⟩ := hassigns
      refine .other hassigns ?_
      intro hkey
      exact hunnamed value ⟨key, hkey, hassigns⟩
    by_cases hsign : '=' ∈ text
    · -- an equals sign makes no directive only in a comment, or with nothing behind it
      have hsilent : Silent text := by
        apply silent_of_not_assigns hsign
        intro key value hkey
        exact hassigns ⟨key, value, hkey⟩
      cases hsilent with
      | empty nothing => exact .empty nothing
      | comment starts => exact .comment starts
      | valueless key_ends cut => exact .valueless key_ends cut
      | keyless uncut _ _ => exact .signless uncut
    · exact .signless hsign
  · exact Aside.not_names

/-- The three names, written out. -/
theorem names_iff {text : List Char} {value : String} :
    Names text value ↔ Assigns text "status_file" value ∨ Assigns text "status_log" value ∨
      Assigns text "xsddefault_status_log" value := by
  simp [Names, statusFileKeys]

/-! ## The search through lines -/

/-- Later lines count before earlier ones. -/
theorem lastStatusFile?_append (earlier later : List (List Char)) :
    lastStatusFile? (earlier ++ later) =
      (lastStatusFile? later).or (lastStatusFile? earlier) := by
  simp only [lastStatusFile?_eq_findSome?, List.reverse_append, List.findSome?_append]

theorem lastStatusFile?_of_aside {texts : List (List Char)} (h : ∀ text ∈ texts, Aside text) :
    lastStatusFile? texts = none := by
  rw [lastStatusFile?_eq_none_iff]
  intro text htext
  exact (h text htext).not_names

/-- Lines that do not name the status file are put in somewhere. Read backwards, they are taken
out. -/
inductive Insertion : List (List UInt8) → List (List UInt8) → Prop
  | aside {before inserted after : List (List UInt8)}
      (haside : ∀ line ∈ inserted, Aside (lineText line)) :
      Insertion (before ++ after) (before ++ inserted ++ after)

theorem Insertion.lastStatusFile?_eq {lines more : List (List UInt8)} (h : Insertion lines more) :
    lastStatusFile? (lines.map lineText) = lastStatusFile? (more.map lineText) := by
  cases h with
  | @aside before inserted after haside =>
    have hnone : lastStatusFile? (inserted.map lineText) = none := by
      apply lastStatusFile?_of_aside
      intro text htext
      obtain ⟨line, hline, rfl⟩ := List.mem_map.1 htext
      exact haside line hline
    simp only [List.map_append, lastStatusFile?_append, hnone, Option.none_or]

/-- Any number of insertions, made or undone, makes no difference. -/
theorem lastStatusFile?_of_insertions {lines edited : List (List UInt8)}
    (h : Relation.EqvGen Insertion lines edited) :
    lastStatusFile? (lines.map lineText) = lastStatusFile? (edited.map lineText) := by
  induction h with
  | rel _ _ hinsertion => exact hinsertion.lastStatusFile?_eq
  | refl _ => rfl
  | symm _ _ _ ih => exact ih.symm
  | trans _ _ _ _ _ ih ih' => exact ih.trans ih'

/-! ## The search through configurations -/

/-- A configuration that is made of lines names what they name, with or without a line feed at its
end. -/
theorem Dump.Source.IsMadeOf.scanConfig_eq {source : Source} {lines : List (List UInt8)}
    (h : source.IsMadeOf lines) (hends : source.failure = none) :
    scanConfig source = .ok (lastStatusFile? (lines.map lineText)) := by
  have hended : textsOf (lines.flatMap (· ++ [lineFeed])) = lines.map lineText := by
    rw [textsOf, linesOf_flatMap h.unbroken]
  rw [scanConfig_of_ends hends, ← hended]
  rcases h.bytes with hbytes | ⟨-, hbytes⟩
  · rw [hbytes]
  · rw [hbytes]
    by_cases hempty : lines = []
    · rw [hempty]
      rfl
    · rw [← lastStatusFile?_textsOf_ended, intercalate_ended hempty]

/-- The configuration names the status file, or nothing, as the last directive in it says. -/
structure Dump.Source.LastDirective (source : Source) (found : Option String) : Prop where
  named : ∀ value, found = some value ↔ LastNamed (textsOf source.bytes) value
  unnamed : found = none ↔ ∀ text ∈ textsOf source.bytes, ∀ value, ¬ Names text value
  /-- Cut in two behind a line, the second part counts before the first. -/
  joined : ∀ first second : Source, source.Joins first second →
    ∃ earlier later, scanConfig first = .ok earlier ∧ scanConfig second = .ok later ∧
      found = later.or earlier
  /-- All other lines can be put in and taken out anywhere. -/
  edited : ∀ (lines others : List (List UInt8)) (other : Source), source.IsMadeOf lines →
    other.IsMadeOf others → other.failure = none → Relation.EqvGen Insertion lines others →
      scanConfig other = .ok found

/-- Every configuration that can be read to its end names what its last directive says, and a
directive has one of three names that count alike. -/
theorem Dump.Source.exists_lastDirective {source : Source} (hends : source.failure = none) :
    (∃ found, scanConfig source = .ok found ∧ source.LastDirective found) ∧
      ∀ (text : List Char) (value : String), Names text value ↔
        Assigns text "status_file" value ∨ Assigns text "status_log" value ∨
          Assigns text "xsddefault_status_log" value := by
  refine ⟨⟨lastStatusFile? (textsOf source.bytes), scanConfig_of_ends hends, ?_⟩,
    fun _ _ => names_iff⟩
  constructor
  case named =>
    intro value
    exact lastStatusFile?_eq_some_iff
  case unnamed => exact lastStatusFile?_eq_none_iff
  case joined =>
    intro first second hjoins
    refine ⟨_, _, scanConfig_of_ends hjoins.first_ends, scanConfig_of_ends hjoins.second_ends, ?_⟩
    rw [hjoins.bytes, textsOf_append hjoins.cut, lastStatusFile?_append]
  case edited =>
    intro lines others other hsource hother hother_ends hinsertions
    rw [hother.scanConfig_eq hother_ends, ← lastStatusFile?_of_insertions hinsertions,
      ← hsource.scanConfig_eq hends, scanConfig_of_ends hends]

/-- A configuration with an older name behind a newer one, a value with an equals sign in it, and
then directives without a value, with another name, and commented out. The last line has no line
feed. -/
def tangledConfig : Source where
  chunks :=
    [Text.Utf8.encode "status_file=/a\n\tstatus_log=/b=#c \r\nstatus_file=\nstatus_fil",
      Text.Utf8.encode "e =/d\nStatus_file=/e\n#status_file=/f\nstatus_file"]

theorem Dump.Source.exists_lastDirective_tangled :
    tangledConfig.failure = none ∧ scanConfig tangledConfig = .ok (some "/b=#c") ∧
      tangledConfig.LastDirective (some "/b=#c") := by
  have hscanned : scanConfig tangledConfig = .ok (some "/b=#c") := by decide +kernel
  obtain ⟨⟨found, hfound, hlast⟩, -⟩ :=
    @Dump.Source.exists_lastDirective tangledConfig rfl
  obtain rfl : some "/b=#c" = found := Except.ok.inj (hscanned.symm.trans hfound)
  exact ⟨rfl, hscanned, hlast⟩

end StatusDigest
