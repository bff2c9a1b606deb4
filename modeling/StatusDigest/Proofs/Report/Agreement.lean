import StatusDigest.Mrtg.Value
import StatusDigest.Proofs.Mrtg.Names
import StatusDigest.Proofs.Report.Lines
import Mathlib

/-!
# Reports and MRTG answers agree

Most lines of a report show numbers that can also be asked for by name. They show the same texts:

* `layout` goes through the lines of a report and says of each which names it shows under which
  label, if it shows any;
* `Exhibit.Holds` says that a line does so: the label fills the columns before the values, and the
  values are the answers to the names, with slashes between them;
* `Snapshot.report_agrees`: every line of every report is as the layout says.
-/

namespace StatusDigest

open Stats Mrtg

namespace Report

/-! ## What the lines show -/

/-- What a line of a report is said to show. -/
inductive Exhibit where
  /-- A label, and behind it the answers to some names. -/
  | answers (label : String) (names : List String)
  /-- A heading, a rule, a blank line or something that has no name. -/
  | other

/-- A line shows what it is said to show. The label stands with a colon in front of the values,
which start in column 40 whatever the label is. -/
def Exhibit.Holds (answer : String → String) (line : List Char) : Exhibit → Prop
  | .answers label names =>
    (∃ padding, line.take 40 = label.toList ++ ':' :: List.replicate padding ' ') ∧
      (line.take 40).length = 40 ∧
      line.drop 40 = (" / ".intercalate (names.map answer)).toList
  | .other => True

/-- The names for the checks of the last 1, 5, 15 and 60 minutes. -/
def windowNames (letters : String) : List String :=
  ["1M", "5M", "15M", "60M"].map fun span => "NUM" ++ letters ++ "CHK" ++ span

/-- The names for the rates over 1, 5 and 15 minutes. -/
def rateNames (letters : String) : List String :=
  ["1M", "5M", "15M"].map fun span => "NUM" ++ letters ++ span

/-- The lines about all hosts or all services: the word for one of them, their letters in names,
the name of their number, and the label and the names of their states. -/
def targetLayout (noun letters total states : String) (stateNames : List String) : List Exhibit :=
  [.answers ("Total " ++ noun ++ "s") [total],
   .answers (noun ++ "s Checked") ["NUM" ++ letters ++ "CHECKED"],
   .answers (noun ++ "s Scheduled") ["NUM" ++ letters ++ "SCHEDULED"],
   .other, .other, .other, .other, .other, .other,
   .answers ("Active " ++ noun ++ "s Last 1/5/15/60 min") (windowNames (letters ++ "ACT")),
   .other, .other,
   .answers ("Passive " ++ noun ++ "s Last 1/5/15/60 min") (windowNames (letters ++ "PSV")),
   .answers (noun ++ "s " ++ states) stateNames,
   .answers (noun ++ "s Flapping") ["NUM" ++ letters ++ "FLAPPING"],
   .answers (noun ++ "s In Downtime") ["NUM" ++ letters ++ "DOWNTIME"]]

/-- The lines about the dump and the daemon. -/
def headLayout : List Exhibit :=
  [.other, .other,
   .other,
   .answers "Status File Age" ["STATUSFILEAGE"],
   .answers "Status File Version" ["NAGIOSVERSION"],
   .other,
   .answers "Program Running Time" ["PROGRUNTIME"],
   .answers "Nagios PID" ["NAGIOSPID"],
   .answers "Used/High/Total Command Buffers" ["USEDCMDBUF", "HIGHCMDBUF", "TOTCMDBUF"],
   .other,
   .other]

/-- The lines about what the daemon reports of itself. -/
def rateLayout : List Exhibit :=
  [.answers "Active Host Checks Last 1/5/15 min" (rateNames "ACTHSTCHECKS"),
   .answers "   Scheduled" (rateNames "SACTHSTCHECKS"),
   .answers "   On-demand" (rateNames "OACTHSTCHECKS"),
   .answers "   Parallel" (rateNames "PARHSTCHECKS"),
   .answers "   Serial" (rateNames "SERHSTCHECKS"),
   .answers "   Cached" (rateNames "CACHEDHSTCHECKS"),
   .answers "Passive Host Checks Last 1/5/15 min" (rateNames "PSVHSTCHECKS"),
   .answers "Active Service Checks Last 1/5/15 min" (rateNames "ACTSVCCHECKS"),
   .answers "   Scheduled" (rateNames "SACTSVCCHECKS"),
   .answers "   On-demand" (rateNames "OACTSVCCHECKS"),
   .answers "   Cached" (rateNames "CACHEDSVCCHECKS"),
   .answers "Passive Service Checks Last 1/5/15 min" (rateNames "PSVSVCCHECKS"),
   .other,
   .answers "External Commands Last 1/5/15 min" (rateNames "EXTCMDS"),
   .other]

/-- The lines of a report, and what is behind its last line feed. -/
def layout : List Exhibit :=
  headLayout ++
    targetLayout "Service" "SVC" "NUMSERVICES" "Ok/Warn/Unk/Crit"
      ["NUMSVCOK", "NUMSVCWARN", "NUMSVCUNKN", "NUMSVCCRIT"] ++
    [.other] ++
    targetLayout "Host" "HST" "NUMHOSTS" "Up/Down/Unreach"
      ["NUMHSTUP", "NUMHSTDOWN", "NUMHSTUNR"] ++
    [.other] ++ rateLayout ++ [.other]

/-! ## One line -/

/-- The label of a field ends where its values start. -/
theorem length_labelText {label : String} (hlabel : label.length < 40) :
    (labelText label).length = 40 := by
  have hcolon : ":".length = 1 := rfl
  simp only [labelText, String.length_append, String.length_ofList, List.length_replicate,
    valueColumn, hcolon]
  omega

variable {snapshot : Snapshot} {now : Int64}

/-- A name is answered with the value of the variable that has it. -/
theorem map_mrtgValue {names : List String} {asked : List Variable}
    (hnames : names = asked.map Variable.name) :
    names.map (fun name => snapshot.mrtgValue name now) =
      asked.map fun x => x.value snapshot now := by
  rw [hnames, List.map_map]
  apply List.map_congr_left
  intro x _
  exact snapshot.mrtgValue_name now x

/-- A field shows the answers to some names if its value is made of the values of the variables
with these names. -/
theorem holds_field {label value : String} {names : List String} (asked : List Variable)
    (hlabel : label.length < 40) (hnames : names = asked.map Variable.name)
    (hvalue : value = slashed (asked.map fun x => x.value snapshot now)) :
    (Exhibit.answers label names).Holds (fun name => snapshot.mrtgValue name now)
      (labelText label ++ value).toList := by
  have hlength : (labelText label).toList.length = 40 := by
    rw [String.length_toList, length_labelText hlabel]
  have htake : (labelText label ++ value).toList.take 40 = (labelText label).toList := by
    rw [String.toList_append, List.take_left' hlength]
  have hdrop : (labelText label ++ value).toList.drop 40 = value.toList := by
    rw [String.toList_append, List.drop_left' hlength]
  refine ⟨⟨40 - (label.length + 1), ?_⟩, ?_, ?_⟩
  · rw [htake]
    simp [labelText, valueColumn, String.toList_append]
  · rw [htake, hlength]
  · rw [hdrop, hvalue, map_mrtgValue hnames]
    rfl

/-! ## Rows of lines -/

/-- The lines are, one by one, as they are said to be. -/
def Agree (snapshot : Snapshot) (now : Int64) (lines : List (List Char))
    (exhibits : List Exhibit) : Prop :=
  List.Forall₂ (fun line exhibit => exhibit.Holds (fun name => snapshot.mrtgValue name now) line)
    lines exhibits

/-- The lines of rows are as they are said to be. -/
def RowsAgree (snapshot : Snapshot) (now : Int64) (rows : List Row)
    (exhibits : List Exhibit) : Prop :=
  Agree snapshot now (rows.flatMap Row.lines) exhibits

namespace RowsAgree

variable {rows more : List Row} {exhibits others : List Exhibit} {label value : String}

theorem nil : RowsAgree snapshot now [] [] :=
  List.Forall₂.nil

theorem append (h : RowsAgree snapshot now rows exhibits)
    (hmore : RowsAgree snapshot now more others) :
    RowsAgree snapshot now (rows ++ more) (exhibits ++ others) := by
  unfold RowsAgree at *
  rw [List.flatMap_append]
  exact List.rel_append h hmore

theorem heading (title : String) (h : RowsAgree snapshot now rows exhibits) :
    RowsAgree snapshot now (.heading title :: rows) (.other :: .other :: exhibits) :=
  .cons trivial (.cons trivial h)

theorem blank (h : RowsAgree snapshot now rows exhibits) :
    RowsAgree snapshot now (.blank :: rows) (.other :: exhibits) :=
  .cons trivial h

theorem unnamed (h : RowsAgree snapshot now rows exhibits) :
    RowsAgree snapshot now (.field label value :: rows) (.other :: exhibits) :=
  .cons trivial h

/-- A field that shows the values of some variables, and further rows. -/
theorem field {names : List String} (asked : List Variable) (hlabel : label.length < 40)
    (hnames : names = asked.map Variable.name)
    (hvalue : value = slashed (asked.map fun x => x.value snapshot now))
    (h : RowsAgree snapshot now rows exhibits) :
    RowsAgree snapshot now (.field label value :: rows) (.answers label names :: exhibits) :=
  .cons (holds_field asked hlabel hnames hvalue) h

end RowsAgree

/-! ## Sections -/

theorem agree_head (statusFile : String) :
    RowsAgree snapshot now
      ([.heading "CURRENT STATUS DATA"] ++ dumpRows snapshot statusFile now ++ [.blank] ++
        programRows snapshot now ++ [.blank]) headLayout := by
  simp only [dumpRows, programRows, List.cons_append, List.nil_append, headLayout]
  refine .heading _ (.unnamed ?_)
  refine .field [.fact .dumpAge] (by decide) rfl rfl ?_
  refine .field [.fact .version] (by decide) rfl rfl (.blank ?_)
  refine .field [.fact .runningTime] (by decide) rfl rfl ?_
  refine .field [.fact .pid] (by decide) rfl rfl ?_
  refine .field [.fact .commandBufferUsed, .fact .commandBufferHigh, .fact .commandBufferTotal]
    (by decide) rfl rfl (.unnamed ?_)
  exact .blank .nil

/-- The windows of a subject and an origin. -/
def windowVariables (subject : Subject) (origin : Origin) : List Variable :=
  WindowSpan.all.map fun span => .windowCount { subject, origin, span }

/-- The rates of a class. -/
def rateVariables (rateClass : RateClass) : List Variable :=
  RateSpan.all.map fun span => .rateCount { rateClass, span }

theorem agree_services :
    RowsAgree snapshot now
      (targetRows "Service" snapshot.services (serviceStates snapshot.services.states))
      (targetLayout "Service" "SVC" "NUMSERVICES" "Ok/Warn/Unk/Crit"
        ["NUMSVCOK", "NUMSVCWARN", "NUMSVCUNKN", "NUMSVCCRIT"]) := by
  simp only [targetRows, targetLayout, countRow, serviceStates]
  refine .field [.fact .services] (by decide) rfl rfl ?_
  refine .field [.fact .servicesChecked] (by decide) rfl rfl ?_
  refine .field [.fact .servicesScheduled] (by decide) rfl rfl ?_
  refine .unnamed (.unnamed (.unnamed (.unnamed (.unnamed (.unnamed ?_)))))
  refine .field (windowVariables .services .active) (by decide) rfl rfl (.unnamed (.unnamed ?_))
  refine .field (windowVariables .services .passive) (by decide) rfl rfl ?_
  refine .field [.fact .servicesOk, .fact .servicesWarning, .fact .servicesUnknown,
    .fact .servicesCritical] (by decide) rfl rfl ?_
  refine .field [.fact .servicesFlapping] (by decide) rfl rfl ?_
  exact .field [.fact .servicesInDowntime] (by decide) rfl rfl .nil

theorem agree_hosts :
    RowsAgree snapshot now
      (targetRows "Host" snapshot.hosts (hostStates snapshot.hosts.states))
      (targetLayout "Host" "HST" "NUMHOSTS" "Up/Down/Unreach"
        ["NUMHSTUP", "NUMHSTDOWN", "NUMHSTUNR"]) := by
  simp only [targetRows, targetLayout, countRow, hostStates]
  refine .field [.fact .hosts] (by decide) rfl rfl ?_
  refine .field [.fact .hostsChecked] (by decide) rfl rfl ?_
  refine .field [.fact .hostsScheduled] (by decide) rfl rfl ?_
  refine .unnamed (.unnamed (.unnamed (.unnamed (.unnamed (.unnamed ?_)))))
  refine .field (windowVariables .hosts .active) (by decide) rfl rfl (.unnamed (.unnamed ?_))
  refine .field (windowVariables .hosts .passive) (by decide) rfl rfl ?_
  refine .field [.fact .hostsUp, .fact .hostsDown, .fact .hostsUnreachable] (by decide) rfl rfl ?_
  refine .field [.fact .hostsFlapping] (by decide) rfl rfl ?_
  exact .field [.fact .hostsInDowntime] (by decide) rfl rfl .nil

theorem agree_rates :
    RowsAgree snapshot now
      (hostRateRows snapshot.program.hostChecks ++
        serviceRateRows snapshot.program.serviceChecks ++ [.blank] ++
        [ratesRow "External Commands Last 1/5/15 min" snapshot.program.externalCommands, .blank])
      rateLayout := by
  simp only [hostRateRows, serviceRateRows, ratesRow, rateLayout, List.cons_append,
    List.nil_append]
  refine .field (rateVariables (.hostChecks .active)) (by decide) rfl rfl ?_
  refine .field (rateVariables (.hostChecks .activeScheduled)) (by decide) rfl rfl ?_
  refine .field (rateVariables (.hostChecks .activeOndemand)) (by decide) rfl rfl ?_
  refine .field (rateVariables (.hostChecks .parallel)) (by decide) rfl rfl ?_
  refine .field (rateVariables (.hostChecks .serial)) (by decide) rfl rfl ?_
  refine .field (rateVariables (.hostChecks .cached)) (by decide) rfl rfl ?_
  refine .field (rateVariables (.hostChecks .passive)) (by decide) rfl rfl ?_
  refine .field (rateVariables (.serviceChecks .active)) (by decide) rfl rfl ?_
  refine .field (rateVariables (.serviceChecks .activeScheduled)) (by decide) rfl rfl ?_
  refine .field (rateVariables (.serviceChecks .activeOndemand)) (by decide) rfl rfl ?_
  refine .field (rateVariables (.serviceChecks .cached)) (by decide) rfl rfl ?_
  refine .field (rateVariables (.serviceChecks .passive)) (by decide) rfl rfl (.blank ?_)
  exact .field (rateVariables .externalCommands) (by decide) rfl rfl (.blank .nil)

end Report

namespace Snapshot

/-- Reports and MRTG answers agree: as long as the path and the version have no line feed, the
lines of a report are those of the layout, and show what the names are answered with at the same
time. -/
theorem report_agrees (snapshot : Snapshot) (statusFile : String) (now : Int64)
    (hfile : '\n' ∉ statusFile.toList)
    (hversion : ∀ version, snapshot.info.version = some version → '\n' ∉ version.toList) :
    List.Forall₂
      (fun line exhibit =>
        Report.Exhibit.Holds (fun name => snapshot.mrtgValue name now) line exhibit)
      ((snapshot.report statusFile now).toList.splitOn '\n') Report.layout := by
  have hshown : OneLine (snapshot.info.version.getD "") := by
    cases h : snapshot.info.version with
    | none => decide
    | some version => exact hversion version h
  have hblank : Report.RowsAgree snapshot now [.blank] [.other] := .blank .nil
  have hrows : Report.RowsAgree snapshot now (snapshot.reportRows statusFile now)
      (Report.headLayout ++
        Report.targetLayout "Service" "SVC" "NUMSERVICES" "Ok/Warn/Unk/Crit"
          ["NUMSVCOK", "NUMSVCWARN", "NUMSVCUNKN", "NUMSVCCRIT"] ++
        [.other] ++
        Report.targetLayout "Host" "HST" "NUMHOSTS" "Up/Down/Unreach"
          ["NUMHSTUP", "NUMHSTDOWN", "NUMHSTUNR"] ++
        [.other] ++ Report.rateLayout) := by
    have hall := ((((Report.agree_head statusFile).append Report.agree_services).append
      hblank).append Report.agree_hosts).append hblank |>.append Report.agree_rates
    simpa [reportRows] using hall
  rw [splitOn_report now hfile hshown]
  exact List.rel_append hrows (.cons trivial .nil)

/-- A snapshot in which neighbouring numbers differ, with the least and the greatest numbers there
are, a time in the future and a version with a tab. -/
def variedSnapshot : Snapshot where
  info := { created := 1000, version := some "4.5\tß" }
  program :=
    { start := Int64.minValue, pid := -7, commandBuffer := { total := 4096, used := 3, high := 12 }
      hostChecks :=
        { activeScheduled := { last1 := Int64.maxValue, last5 := 2, last15 := 3 }
          activeOndemand := { last1 := 4, last5 := 5, last15 := Int64.minValue }
          cached := { last1 := 7 }, passive := { last5 := 8 }, parallel := { last15 := 9 } }
      serviceChecks := { activeOndemand := { last1 := 10, last5 := -11, last15 := 12 } }
      externalCommands := { last1 := 13, last5 := 14, last15 := 15 } }
  services :=
    { entries := 18446744073709551615
      states := { ok := 1, warning := 2, unknown := 3, critical := 4 }
      active := { windows := { last1 := 5, last5 := 6, last15 := 7, last60 := 8 } }
      flapping := 9, inDowntime := 10, checked := 11, scheduled := 12 }
  hosts :=
    { entries := 6, states := { up := 1, down := 2, unreachable := 3 }
      passive := { windows := { last1 := 1, last5 := 2, last15 := 3, last60 := 4 } } }

theorem report_agrees_varied :
    '\n' ∉ "/var/nagios/status.dat".toList ∧
      (∀ version, variedSnapshot.info.version = some version → '\n' ∉ version.toList) ∧
      List.Forall₂
        (fun line exhibit =>
          Report.Exhibit.Holds (fun name => variedSnapshot.mrtgValue name 999) line exhibit)
        ((variedSnapshot.report "/var/nagios/status.dat" 999).toList.splitOn '\n')
        Report.layout := by
  have hfile : '\n' ∉ "/var/nagios/status.dat".toList := by decide
  have hversion : ∀ version, variedSnapshot.info.version = some version →
      '\n' ∉ version.toList := by
    rintro version ⟨⟩
    decide
  exact ⟨hfile, hversion, report_agrees variedSnapshot _ 999 hfile hversion⟩

end Snapshot

end StatusDigest
