import StatusDigest.Decimal.Text
import StatusDigest.Mrtg.Variable
import StatusDigest.Report.Duration
import StatusDigest.Snapshot.Basic
import StatusDigest.Text.Pieces

/-!
# Values of MRTG variables

Every variable has a value in every snapshot. Times of a series are given in whole milliseconds
and percentages in whole percent, both cut off towards zero; a series without samples reads as
zero. A name that is no variable's is answered by itself.

A list of names is answered with the values in the order of the names, each followed by a
delimiter, and with a line feed at the end unless the delimiter is one.
-/

namespace StatusDigest.Mrtg

open Stats

/-- A floating-point number without its fraction, clamped to 64 bits. What is not a number reads
as zero. -/
def truncate (x : Float) : Int64 :=
  x.toModel.toInt64

/-- The value of a fact. -/
def Fact.value (snapshot : Snapshot) (now : Int64) : Fact → String
  | .runningTime => durationText (snapshot.runningTime now)
  | .runningSeconds => Decimal.uint64Text (snapshot.runningTime now)
  | .dumpAge => durationText (snapshot.dumpAge now)
  | .dumpAgeSeconds => Decimal.uint64Text (snapshot.dumpAge now)
  | .version => snapshot.info.version.getD ""
  | .pid => Decimal.int64Text snapshot.program.pid
  | .versionAndPid =>
    "Nagios " ++ snapshot.info.version.getD "" ++ " (pid=" ++
      Decimal.int64Text snapshot.program.pid ++ ")"
  | .commandBufferTotal => Decimal.int64Text snapshot.program.commandBuffer.total
  | .commandBufferUsed => Decimal.int64Text snapshot.program.commandBuffer.used
  | .commandBufferHigh => Decimal.int64Text snapshot.program.commandBuffer.high
  | .services => Decimal.uint64Text snapshot.services.entries
  | .hosts => Decimal.uint64Text snapshot.hosts.entries
  | .servicesOk => Decimal.uint64Text snapshot.services.states.ok
  | .servicesWarning => Decimal.uint64Text snapshot.services.states.warning
  | .servicesUnknown => Decimal.uint64Text snapshot.services.states.unknown
  | .servicesCritical => Decimal.uint64Text snapshot.services.states.critical
  | .serviceProblems => Decimal.uint64Text (Tally.problems snapshot.services.states)
  | .servicesChecked => Decimal.uint64Text snapshot.services.checked
  | .servicesScheduled => Decimal.uint64Text snapshot.services.scheduled
  | .servicesFlapping => Decimal.uint64Text snapshot.services.flapping
  | .servicesInDowntime => Decimal.uint64Text snapshot.services.inDowntime
  | .hostsUp => Decimal.uint64Text snapshot.hosts.states.up
  | .hostsDown => Decimal.uint64Text snapshot.hosts.states.down
  | .hostsUnreachable => Decimal.uint64Text snapshot.hosts.states.unreachable
  | .hostProblems => Decimal.uint64Text (Tally.problems snapshot.hosts.states)
  | .hostsChecked => Decimal.uint64Text snapshot.hosts.checked
  | .hostsScheduled => Decimal.uint64Text snapshot.hosts.scheduled
  | .hostsFlapping => Decimal.uint64Text snapshot.hosts.flapping
  | .hostsInDowntime => Decimal.uint64Text snapshot.hosts.inDowntime

/-- The series that a gauge shows. -/
def Gauge.series {τ : Type} [Tally τ] (target : Target τ) : Gauge → Series
  | .stateChange => target.stateChange
  | .activeLatency => target.active.latency
  | .activeExecutionTime => target.active.executionTime
  | .activeStateChange => target.active.stateChange
  | .passiveLatency => target.passive.latency
  | .passiveStateChange => target.passive.stateChange

/-- What is picked of a series, and zero if the series does not have it. -/
def Pick.value (series : Series) : Pick → Float
  | .least => series.minimum.getD 0.0
  | .greatest => series.maximum.getD 0.0
  | .mean => series.mean.getD 0.0

/-- The value of a statistic. -/
def Statistic.value (snapshot : Snapshot) (statistic : Statistic) : String :=
  let series :=
    match statistic.subject with
    | .hosts => statistic.gauge.series snapshot.hosts
    | .services => statistic.gauge.series snapshot.services
  let picked := statistic.pick.value series
  Decimal.int64Text (truncate (if statistic.gauge.isPercentage then picked else picked * 1000.0))

/-- The windows of a subject and an origin. -/
def windowsOf (snapshot : Snapshot) : Subject → Origin → Windows
  | .hosts, .active => snapshot.hosts.active.windows
  | .hosts, .passive => snapshot.hosts.passive.windows
  | .services, .active => snapshot.services.active.windows
  | .services, .passive => snapshot.services.passive.windows

/-- The value of a window count. -/
def WindowCount.value (snapshot : Snapshot) (count : WindowCount) : String :=
  Decimal.uint64Text ((windowsOf snapshot count.subject count.origin).within count.span)

/-- The rates of a class. -/
def RateClass.rates (program : Program) : RateClass → Rates
  | .hostChecks .active => program.hostChecks.activeTotal
  | .hostChecks .activeOndemand => program.hostChecks.activeOndemand
  | .hostChecks .activeScheduled => program.hostChecks.activeScheduled
  | .hostChecks .parallel => program.hostChecks.parallel
  | .hostChecks .serial => program.hostChecks.serial
  | .hostChecks .passive => program.hostChecks.passive
  | .hostChecks .cached => program.hostChecks.cached
  | .serviceChecks .active => program.serviceChecks.activeTotal
  | .serviceChecks .activeOndemand => program.serviceChecks.activeOndemand
  | .serviceChecks .activeScheduled => program.serviceChecks.activeScheduled
  | .serviceChecks .passive => program.serviceChecks.passive
  | .serviceChecks .cached => program.serviceChecks.cached
  | .externalCommands => program.externalCommands

/-- The value of a rate. -/
def RateCount.value (snapshot : Snapshot) (count : RateCount) : String :=
  Decimal.int64Text ((count.rateClass.rates snapshot.program).within count.span)

/-- The value of a variable at the time `now`. -/
def Variable.value (snapshot : Snapshot) (now : Int64) : Variable → String
  | .fact x => x.value snapshot now
  | .statistic x => x.value snapshot
  | .windowCount x => x.value snapshot
  | .rateCount x => x.value snapshot

/-- The names in a list with commas between them. Empty pieces are no names. -/
def names (list : String) : List String :=
  ((Text.pieces ',' list.toList).filter fun piece => !piece.isEmpty).map String.ofList

end StatusDigest.Mrtg

namespace StatusDigest.Snapshot

open Mrtg

/-- The answer to one name. -/
def mrtgValue (snapshot : Snapshot) (name : String) (now : Int64) : String :=
  (Variable.ofName? name).elim name (·.value snapshot now)

/-- The answers to a list of names. -/
def mrtg (snapshot : Snapshot) (list delimiter : String) (now : Int64) : String :=
  let answers := (names list).map fun name => snapshot.mrtgValue name now ++ delimiter
  String.join answers ++ if delimiter = "\n" then "" else "\n"

end StatusDigest.Snapshot
