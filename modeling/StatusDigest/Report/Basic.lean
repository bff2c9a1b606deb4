import StatusDigest.Report.Duration
import StatusDigest.Snapshot.Basic

/-!
# The report

The report shows a whole snapshot to a human reader. It is a list of rows: a heading with a rule
below it, fields, and blank lines. A field is a label and a value, and the values of all fields
stand in one column. Where a value has several parts, they stand with slashes between them in the
order that the label announces.
-/

namespace StatusDigest

open Stats

namespace Report

/-- One row of a report. -/
inductive Row where
  | heading (title : String)
  | field (label value : String)
  | blank
deriving DecidableEq, Repr

/-- The column in which values start. -/
def valueColumn : Nat := 40

/-- The line below a heading. -/
def rule : String :=
  "------------------------------------------------------"

/-- A label with its colon, filled with spaces up to the column of the values. -/
def labelText (label : String) : String :=
  label ++ ":" ++ String.ofList (List.replicate (valueColumn - (label.length + 1)) ' ')

/-- A row with the line feeds that end its lines. -/
def Row.text : Row → String
  | .heading title => title ++ "\n" ++ rule ++ "\n"
  | .field label value => labelText label ++ value ++ "\n"
  | .blank => "\n"

/-- Parts with slashes between them. -/
def slashed (parts : List String) : String :=
  String.intercalate " / " parts

/-- A floating-point number with three places. -/
def realText (x : Float) : String :=
  match x.toModel.unpack with
  | .notANumber => "NaN"
  | .infinity sign => signText sign ++ "inf"
  | .zero sign => signText sign ++ Decimal.fixedText 3 0 1
  | .finite sign significand exponent _ =>
    signText sign ++
      Decimal.fixedText 3 (significand * Nat.pow 2 exponent.toNat)
        (Nat.pow 2 (-exponent).toNat)
where
  /-- A minus sign for negative numbers. -/
  signText : Float.Model.UnpackedFloat.Sign → String
    | .positive => ""
    | .negative => "-"

/-- The least, the greatest and the average of a series, or a dash if it lacks one of them. -/
def seriesText (series : Series) (unit : String) : String :=
  match series.triple with
  | some (least, greatest, mean) =>
    slashed [realText least, realText greatest, realText mean] ++ " " ++ unit
  | none => "-"

/-- The counts of the four windows. -/
def windowsText (windows : Windows) : String :=
  slashed ([windows.last1, windows.last5, windows.last15, windows.last60].map Decimal.uint64Text)

/-- The counts of three rates. -/
def ratesText (rates : Rates) : String :=
  slashed ([rates.last1, rates.last5, rates.last15].map Decimal.int64Text)

/-- The parts of a buffer in the order used, high, total. -/
def bufferText (buffer : Buffer) : String :=
  slashed ([buffer.used, buffer.high, buffer.total].map Decimal.int64Text)

/-- A field with a count. -/
def countRow (label : String) (count : UInt64) : Row :=
  .field label (Decimal.uint64Text count)

/-- The rows about the dump. -/
def dumpRows (snapshot : Snapshot) (statusFile : String) (now : Int64) : List Row :=
  [.field "Status File" statusFile,
   .field "Status File Age" (durationText (snapshot.dumpAge now)),
   .field "Status File Version" (snapshot.info.version.getD "")]

/-- The rows about the daemon. -/
def programRows (snapshot : Snapshot) (now : Int64) : List Row :=
  [.field "Program Running Time" (durationText (snapshot.runningTime now)),
   .field "Nagios PID" (Decimal.int64Text snapshot.program.pid),
   .field "Used/High/Total Command Buffers" (bufferText snapshot.program.commandBuffer),
   .field "Used/High/Total Check Result Buffers" (bufferText snapshot.program.checkResultBuffer)]

/-- The rows about all services, or about all hosts. `noun` names one of them, and `states` are
the label and the counts of their states. -/
def targetRows {τ : Type} [Tally τ] (noun : String) (target : Target τ)
    (states : String × List UInt64) : List Row :=
  let plural := noun ++ "s"
  [countRow ("Total " ++ plural) target.entries,
   countRow (plural ++ " Checked") target.checked,
   countRow (plural ++ " Scheduled") target.scheduled,
   countRow (plural ++ " Actively Checked") target.activeChecks,
   countRow (plural ++ " Passively Checked") target.passiveChecks,
   .field ("Total " ++ noun ++ " State Change") (seriesText target.stateChange "%"),
   .field ("Active " ++ noun ++ " Latency") (seriesText target.active.latency "sec"),
   .field ("Active " ++ noun ++ " Execution Time")
     (seriesText target.active.executionTime "sec"),
   .field ("Active " ++ noun ++ " State Change") (seriesText target.active.stateChange "%"),
   .field ("Active " ++ plural ++ " Last 1/5/15/60 min") (windowsText target.active.windows),
   .field ("Passive " ++ noun ++ " Latency") (seriesText target.passive.latency "sec"),
   .field ("Passive " ++ noun ++ " State Change") (seriesText target.passive.stateChange "%"),
   .field ("Passive " ++ plural ++ " Last 1/5/15/60 min") (windowsText target.passive.windows),
   .field (plural ++ " " ++ states.1) (slashed (states.2.map Decimal.uint64Text)),
   countRow (plural ++ " Flapping") target.flapping,
   countRow (plural ++ " In Downtime") target.inDowntime]

/-- The label and the counts of the service states. -/
def serviceStates (tally : ServiceTally) : String × List UInt64 :=
  ("Ok/Warn/Unk/Crit", [tally.ok, tally.warning, tally.unknown, tally.critical])

/-- The label and the counts of the host states. -/
def hostStates (tally : HostTally) : String × List UInt64 :=
  ("Up/Down/Unreach", [tally.up, tally.down, tally.unreachable])

/-- A field with three rates. -/
def ratesRow (label : String) (rates : Rates) : Row :=
  .field label (ratesText rates)

/-- The rows about the host checks that the daemon reports. -/
def hostRateRows (rates : HostRates) : List Row :=
  [ratesRow "Active Host Checks Last 1/5/15 min" rates.activeTotal,
   ratesRow "   Scheduled" rates.activeScheduled,
   ratesRow "   On-demand" rates.activeOndemand,
   ratesRow "   Parallel" rates.parallel,
   ratesRow "   Serial" rates.serial,
   ratesRow "   Cached" rates.cached,
   ratesRow "Passive Host Checks Last 1/5/15 min" rates.passive]

/-- The rows about the service checks that the daemon reports. -/
def serviceRateRows (rates : ServiceRates) : List Row :=
  [ratesRow "Active Service Checks Last 1/5/15 min" rates.activeTotal,
   ratesRow "   Scheduled" rates.activeScheduled,
   ratesRow "   On-demand" rates.activeOndemand,
   ratesRow "   Cached" rates.cached,
   ratesRow "Passive Service Checks Last 1/5/15 min" rates.passive]

end Report

namespace Snapshot

/-- The rows of the report at the time `now`. The path of the status file is only shown. -/
def reportRows (snapshot : Snapshot) (statusFile : String) (now : Int64) : List Report.Row :=
  let services := snapshot.services
  let hosts := snapshot.hosts
  let program := snapshot.program
  [.heading "CURRENT STATUS DATA"] ++
    Report.dumpRows snapshot statusFile now ++ [.blank] ++
    Report.programRows snapshot now ++ [.blank] ++
    Report.targetRows "Service" services (Report.serviceStates services.states) ++ [.blank] ++
    Report.targetRows "Host" hosts (Report.hostStates hosts.states) ++ [.blank] ++
    Report.hostRateRows program.hostChecks ++
    Report.serviceRateRows program.serviceChecks ++ [.blank] ++
    [Report.ratesRow "External Commands Last 1/5/15 min" program.externalCommands, .blank]

/-- The report at the time `now`. -/
def report (snapshot : Snapshot) (statusFile : String) (now : Int64) : String :=
  String.join ((snapshot.reportRows statusFile now).map Report.Row.text)

end Snapshot

end StatusDigest
