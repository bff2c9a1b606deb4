import StatusDigest.Proofs.Decimal.Text
import StatusDigest.Proofs.Text.Pieces
import StatusDigest.Report.Basic
import Mathlib

/-!
# The lines of a report

A report is put together from rows, and every row but a heading makes one line. As long as no text
that is shown has a line feed, cutting the report at its line feeds gives back the lines of its
rows:

* `OneLine` texts have no line feed; numbers and everything made of them is one line;
* `Row.lines` are the lines of a row, and `splitOn_report` finds those of all rows in the report.
-/

namespace StatusDigest

open Stats

/-! ## Texts of one line -/

/-- A text without a line feed. -/
def OneLine (text : String) : Prop :=
  '\n' ∉ text.toList

instance (text : String) : Decidable (OneLine text) :=
  inferInstanceAs (Decidable (¬ _))

namespace OneLine

theorem append {first second : String} (hfirst : OneLine first) (hsecond : OneLine second) :
    OneLine (first ++ second) := by
  unfold OneLine at *
  rw [String.toList_append, List.mem_append]
  exact not_or.2 ⟨hfirst, hsecond⟩

theorem ofDigits {digits : List Char} (h : ∀ c ∈ digits, c.isDigit = true) :
    OneLine (String.ofList digits) := by
  unfold OneLine
  rw [String.toList_ofList]
  intro hmem
  exact absurd (h _ hmem) (by decide)

theorem ofInteger {text : String} (h : Decimal.IsInteger text) : OneLine text := by
  obtain ⟨digits, -, hdigits, htext⟩ := h
  have hnone : '\n' ∉ digits := fun hmem => absurd (hdigits _ hmem) (by decide)
  rcases htext with htext | htext
  · rwa [OneLine, htext]
  · rw [OneLine, htext]
    simp [hnone]

theorem slashed {parts : List String} (h : ∀ part ∈ parts, OneLine part) :
    OneLine (Report.slashed parts) := by
  rw [OneLine, Report.slashed, String.toList_intercalate]
  induction parts with
  | nil => exact List.not_mem_nil
  | cons part rest ih =>
    have hpart : '\n' ∉ part.toList := h part List.mem_cons_self
    have hrest := ih fun other hother => h other (List.mem_cons_of_mem _ hother)
    cases rest with
    | nil => simpa using hpart
    | cons next rest =>
      rw [List.map_cons, List.map_cons, List.intercalate_cons_cons, ← List.map_cons]
      have hslash : '\n' ∉ " / ".toList := by decide
      simp only [List.mem_append, not_or]
      exact ⟨⟨hpart, hslash⟩, hrest⟩

/-- A list of integers between slashes. -/
theorem slashed_map {α : Type} (xs : List α) {text : α → String}
    (h : ∀ x, Decimal.IsInteger (text x)) : OneLine (Report.slashed (xs.map text)) := by
  apply slashed
  intro part hpart
  obtain ⟨x, -, rfl⟩ := List.mem_map.1 hpart
  exact ofInteger (h x)

theorem durationText (seconds : UInt64) : OneLine (durationText seconds) := by
  have hnumber : ∀ n, OneLine (Decimal.naturalText n) := fun n =>
    ofInteger (Decimal.isInteger_naturalText n)
  unfold StatusDigest.durationText Duration.text
  have hd : OneLine "d " := by decide
  have hh : OneLine "h " := by decide
  have hm : OneLine "m " := by decide
  have hs : OneLine "s" := by decide
  exact (((((((hnumber _).append hd).append (hnumber _)).append hh).append (hnumber _)).append
    hm).append (hnumber _)).append hs

theorem fixedText (places numerator denominator : ℕ) :
    OneLine (Decimal.fixedText places numerator denominator) := by
  unfold Decimal.fixedText Decimal.paddedDigits
  refine .append (.append ?_ ?_) ?_
  · exact ofInteger (Decimal.isInteger_naturalText _)
  · decide
  · apply ofDigits
    intro c hc
    rcases List.mem_append.1 hc with hzero | hdigit
    · rw [List.eq_of_mem_replicate hzero]
      rfl
    · exact Decimal.isDigit_of_mem_toDigits hdigit

theorem realText (x : Float) : OneLine (Report.realText x) := by
  have hsign : ∀ sign, OneLine (Report.realText.signText sign) := by
    intro sign
    cases sign <;> decide
  unfold Report.realText
  split
  · decide
  · exact .append (hsign _) (by decide)
  · exact .append (hsign _) (fixedText _ _ _)
  · exact .append (hsign _) (fixedText _ _ _)

theorem seriesText (series : Series) {unit : String} (hunit : OneLine unit) :
    OneLine (Report.seriesText series unit) := by
  unfold Report.seriesText
  split
  · refine .append (.append (slashed ?_) (by decide)) hunit
    intro part hpart
    simp only [List.mem_cons, List.not_mem_nil, or_false] at hpart
    rcases hpart with rfl | rfl | rfl <;> exact realText _
  · decide

end OneLine

/-! ## Lines of rows -/

namespace Report

/-- The lines of a row, without the line feeds that end them. -/
def Row.lines : Row → List (List Char)
  | .heading title => [title.toList, rule.toList]
  | .field label value => [(labelText label ++ value).toList]
  | .blank => [[]]

/-- A row that shows no line feed. -/
def Row.OneLine : Row → Prop
  | .heading title => StatusDigest.OneLine title
  | .field label value => StatusDigest.OneLine label ∧ StatusDigest.OneLine value
  | .blank => True

theorem Row.toList_text (row : Row) : row.text.toList = row.lines.flatMap (· ++ ['\n']) := by
  cases row <;> simp [Row.text, Row.lines, String.toList_append]

theorem oneLine_labelText {label : String} (h : StatusDigest.OneLine label) :
    StatusDigest.OneLine (labelText label) := by
  have hcolon : StatusDigest.OneLine ":" := by decide
  refine (h.append hcolon).append ?_
  rw [StatusDigest.OneLine, String.toList_ofList, List.mem_replicate]
  exact fun hmem => absurd hmem.2 (by decide)

theorem Row.OneLine.lines {row : Row} (h : row.OneLine) : ∀ line ∈ row.lines, '\n' ∉ line := by
  intro line hline
  cases row with
  | heading title =>
    simp only [Row.lines, List.mem_cons, List.not_mem_nil, or_false] at hline
    rcases hline with rfl | rfl
    · exact h
    · decide
  | field label value =>
    obtain rfl := List.mem_singleton.1 hline
    exact (oneLine_labelText h.1).append h.2
  | blank =>
    obtain rfl := List.mem_singleton.1 hline
    exact List.not_mem_nil

theorem oneLine_countRow {label : String} (h : StatusDigest.OneLine label) (count : UInt64) :
    (countRow label count).OneLine :=
  ⟨h, .ofInteger (Decimal.isInteger_uint64Text count)⟩

theorem oneLine_ratesRow {label : String} (h : StatusDigest.OneLine label) (rates : Rates) :
    (ratesRow label rates).OneLine :=
  ⟨h, .slashed_map _ Decimal.isInteger_int64Text⟩

/-! ## All rows -/

theorem oneLine_dumpRows {snapshot : Snapshot} {statusFile : String} (now : Int64)
    (hfile : StatusDigest.OneLine statusFile)
    (hversion : StatusDigest.OneLine (snapshot.info.version.getD "")) :
    ∀ row ∈ dumpRows snapshot statusFile now, row.OneLine := by
  simp only [dumpRows, List.forall_mem_cons, List.not_mem_nil, false_implies, implies_true,
    and_true]
  exact ⟨⟨by decide, hfile⟩, ⟨by decide, .durationText _⟩, ⟨by decide, hversion⟩⟩

theorem oneLine_programRows (snapshot : Snapshot) (now : Int64) :
    ∀ row ∈ programRows snapshot now, row.OneLine := by
  simp only [programRows, List.forall_mem_cons, List.not_mem_nil, false_implies, implies_true,
    and_true]
  exact ⟨⟨by decide, .durationText _⟩, ⟨by decide, .ofInteger (Decimal.isInteger_int64Text _)⟩,
    ⟨by decide, .slashed_map _ Decimal.isInteger_int64Text⟩,
    ⟨by decide, .slashed_map _ Decimal.isInteger_int64Text⟩⟩

theorem oneLine_targetRows {τ : Type} [Tally τ] {noun : String} (target : Target τ)
    {states : String × List UInt64} (hnoun : StatusDigest.OneLine noun)
    (hstates : StatusDigest.OneLine states.1) :
    ∀ row ∈ targetRows noun target states, row.OneLine := by
  have hplural : StatusDigest.OneLine (noun ++ "s") := hnoun.append (by decide)
  have around : ∀ {before text after : String}, StatusDigest.OneLine before →
      StatusDigest.OneLine text → StatusDigest.OneLine after →
      StatusDigest.OneLine (before ++ text ++ after) :=
    fun hbefore htext hafter => (hbefore.append htext).append hafter
  simp only [targetRows, List.forall_mem_cons, List.not_mem_nil, false_implies, implies_true,
    and_true]
  refine ⟨?_, ?_, ?_, ?_, ?_, ?_, ?_, ?_, ?_, ?_, ?_, ?_, ?_, ?_, ?_, ?_⟩
  · exact oneLine_countRow (.append (by decide) hplural) _
  · exact oneLine_countRow (hplural.append (by decide)) _
  · exact oneLine_countRow (hplural.append (by decide)) _
  · exact oneLine_countRow (hplural.append (by decide)) _
  · exact oneLine_countRow (hplural.append (by decide)) _
  · exact ⟨around (by decide) hnoun (by decide), .seriesText _ (by decide)⟩
  · exact ⟨around (by decide) hnoun (by decide), .seriesText _ (by decide)⟩
  · exact ⟨around (by decide) hnoun (by decide), .seriesText _ (by decide)⟩
  · exact ⟨around (by decide) hnoun (by decide), .seriesText _ (by decide)⟩
  · exact ⟨around (by decide) hplural (by decide), .slashed_map _ Decimal.isInteger_uint64Text⟩
  · exact ⟨around (by decide) hnoun (by decide), .seriesText _ (by decide)⟩
  · exact ⟨around (by decide) hnoun (by decide), .seriesText _ (by decide)⟩
  · exact ⟨around (by decide) hplural (by decide), .slashed_map _ Decimal.isInteger_uint64Text⟩
  · exact ⟨around hplural (by decide) hstates, .slashed_map _ Decimal.isInteger_uint64Text⟩
  · exact oneLine_countRow (hplural.append (by decide)) _
  · exact oneLine_countRow (hplural.append (by decide)) _

theorem oneLine_hostRateRows (rates : HostRates) : ∀ row ∈ hostRateRows rates, row.OneLine := by
  simp only [hostRateRows, List.forall_mem_cons, List.not_mem_nil, false_implies, implies_true,
    and_true]
  refine ⟨?_, ?_, ?_, ?_, ?_, ?_, ?_⟩
  all_goals exact oneLine_ratesRow (by decide) _

theorem oneLine_serviceRateRows (rates : ServiceRates) :
    ∀ row ∈ serviceRateRows rates, row.OneLine := by
  simp only [serviceRateRows, List.forall_mem_cons, List.not_mem_nil, false_implies, implies_true,
    and_true]
  refine ⟨?_, ?_, ?_, ?_, ?_⟩
  all_goals exact oneLine_ratesRow (by decide) _

end Report

namespace Snapshot

variable {snapshot : Snapshot} {statusFile : String}

theorem oneLine_reportRows (now : Int64) (hfile : OneLine statusFile)
    (hversion : OneLine (snapshot.info.version.getD "")) :
    ∀ row ∈ snapshot.reportRows statusFile now, row.OneLine := by
  have hblank : ∀ row ∈ [Report.Row.blank], row.OneLine := by simp [Report.Row.OneLine]
  have hheading : ∀ row ∈ [Report.Row.heading "CURRENT STATUS DATA"], row.OneLine := by
    intro row hrow
    obtain rfl := List.mem_singleton.1 hrow
    show OneLine "CURRENT STATUS DATA"
    decide
  have hcommands : ∀ row ∈ [Report.ratesRow "External Commands Last 1/5/15 min"
      snapshot.program.externalCommands, .blank], row.OneLine := by
    simp only [List.forall_mem_cons, List.not_mem_nil, false_implies, implies_true, and_true]
    exact ⟨Report.oneLine_ratesRow (by decide) _, trivial⟩
  have hservices : ∀ row ∈ Report.targetRows "Service" snapshot.services
      (Report.serviceStates snapshot.services.states), row.OneLine :=
    Report.oneLine_targetRows _ (by decide) (show OneLine "Ok/Warn/Unk/Crit" by decide)
  have hhosts : ∀ row ∈ Report.targetRows "Host" snapshot.hosts
      (Report.hostStates snapshot.hosts.states), row.OneLine :=
    Report.oneLine_targetRows _ (by decide) (show OneLine "Up/Down/Unreach" by decide)
  simp only [reportRows, List.forall_mem_append]
  exact ⟨⟨⟨⟨⟨⟨⟨⟨⟨⟨⟨⟨hheading, Report.oneLine_dumpRows now hfile hversion⟩, hblank⟩,
    Report.oneLine_programRows snapshot now⟩, hblank⟩, hservices⟩, hblank⟩, hhosts⟩, hblank⟩,
    Report.oneLine_hostRateRows _⟩, Report.oneLine_serviceRateRows _⟩, hblank⟩, hcommands⟩

/-- Cutting a report at its line feeds gives the lines of its rows, and an empty one behind the
line feed at the end. -/
theorem splitOn_report (now : Int64) (hfile : OneLine statusFile)
    (hversion : OneLine (snapshot.info.version.getD "")) :
    (snapshot.report statusFile now).toList.splitOn '\n' =
      (snapshot.reportRows statusFile now).flatMap Report.Row.lines ++ [[]] := by
  have htext : (snapshot.report statusFile now).toList =
      ((snapshot.reportRows statusFile now).flatMap Report.Row.lines).flatMap (· ++ ['\n']) := by
    rw [report, String.toList_join, List.flatMap_map, List.flatMap_assoc]
    simp only [Report.Row.toList_text]
  rw [htext]
  apply Text.splitOn_ended
  intro line hline
  obtain ⟨row, hrow, hmem⟩ := List.mem_flatMap.1 hline
  exact (oneLine_reportRows now hfile hversion row hrow).lines line hmem

end Snapshot

end StatusDigest
