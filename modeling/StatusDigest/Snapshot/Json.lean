import StatusDigest.Json.Reader
import StatusDigest.Json.Writer
import StatusDigest.Snapshot.Basic

/-!
# Snapshots as JSON

Every part of a snapshot has a shape, a value of that shape, and a way back from the value. The
text of a snapshot is the text of its value, and a snapshot is read against its shape.

A number that is not finite is written as `null`. Where it is optional it comes back as absent;
as an average it does not come back at all.
-/

namespace StatusDigest

open Stats Json

/-! ## Numbers and options -/

namespace Json.Value

/-- An unsigned word as a value. -/
def ofUInt64 (n : UInt64) : Value :=
  .integer n.toNat

/-- A signed word as a value. -/
def ofInt64 (i : Int64) : Value :=
  .integer i.toInt

/-- An unsigned word from a value. -/
def uint64? : Value → Option UInt64
  | .integer i => some (.ofNat i.toNat)
  | _ => none

/-- A signed word from a value. -/
def int64? : Value → Option Int64
  | .integer i => some (.ofInt i)
  | _ => none

/-- A floating-point number from a value. -/
def real? : Value → Option Float
  | .real x => some x
  | _ => none

/-- A text from a value. -/
def text? : Value → Option String
  | .text s => some s
  | _ => none

/-- What is absent has a value too. -/
def ofOption {α : Type} (value : α → Value) : Option α → Value
  | none => .absent
  | some x => value x

/-- Something that may be absent from a value. -/
def option? {α : Type} (part? : Value → Option α) : Value → Option (Option α)
  | .absent => some none
  | value => (part? value).map some

end Json.Value

/-! ## Parts -/

namespace Stats.Windows

/-- The shape of windows. -/
def shape : Shape :=
  .record [("last1min", .unsigned), ("last5min", .unsigned), ("last15min", .unsigned),
    ("last60min", .unsigned)]

/-- Windows as a value. -/
def toValue (windows : Windows) : Value :=
  .record [("last1min", .ofUInt64 windows.last1), ("last5min", .ofUInt64 windows.last5),
    ("last15min", .ofUInt64 windows.last15), ("last60min", .ofUInt64 windows.last60)]

/-- Windows from a value. -/
def ofValue? : Value → Option Windows
  | .record [(_, last1), (_, last5), (_, last15), (_, last60)] =>
    return { last1 := ← last1.uint64?, last5 := ← last5.uint64?, last15 := ← last15.uint64?
             last60 := ← last60.uint64? }
  | _ => none

end Stats.Windows

namespace Stats.Rates

/-- The shape of rates. -/
def shape : Shape :=
  .record [("last1min", .signed), ("last5min", .signed), ("last15min", .signed)]

/-- Rates as a value. -/
def toValue (rates : Rates) : Value :=
  .record [("last1min", .ofInt64 rates.last1), ("last5min", .ofInt64 rates.last5),
    ("last15min", .ofInt64 rates.last15)]

/-- Rates from a value. -/
def ofValue? : Value → Option Rates
  | .record [(_, last1), (_, last5), (_, last15)] =>
    return { last1 := ← last1.int64?, last5 := ← last5.int64?, last15 := ← last15.int64? }
  | _ => none

end Stats.Rates

namespace Stats.Series

/-- The shape of a series. -/
def shape : Shape :=
  .record [("count", .unsigned), ("minimum", .optional .real), ("maximum", .optional .real),
    ("average", .real)]

/-- A series as a value. -/
def toValue (series : Series) : Value :=
  .record [("count", .ofUInt64 series.count), ("minimum", .ofOption .real series.minimum),
    ("maximum", .ofOption .real series.maximum), ("average", .real series.average)]

/-- A series from a value. -/
def ofValue? : Value → Option Series
  | .record [(_, count), (_, minimum), (_, maximum), (_, average)] =>
    return { count := ← count.uint64?, minimum := ← minimum.option? Value.real?
             maximum := ← maximum.option? Value.real?, average := ← average.real? }
  | _ => none

end Stats.Series

namespace Stats.ActiveChecks

/-- The shape of the statistics of active checks. -/
def shape : Shape :=
  .record [("latency", Series.shape), ("executionTime", Series.shape),
    ("stateChange", Series.shape), ("windows", Windows.shape)]

/-- The statistics of active checks as a value. -/
def toValue (checks : ActiveChecks) : Value :=
  .record [("latency", checks.latency.toValue), ("executionTime", checks.executionTime.toValue),
    ("stateChange", checks.stateChange.toValue), ("windows", checks.windows.toValue)]

/-- The statistics of active checks from a value. -/
def ofValue? : Value → Option ActiveChecks
  | .record [(_, latency), (_, executionTime), (_, stateChange), (_, windows)] =>
    return { latency := ← Series.ofValue? latency
             executionTime := ← Series.ofValue? executionTime
             stateChange := ← Series.ofValue? stateChange
             windows := ← Windows.ofValue? windows }
  | _ => none

end Stats.ActiveChecks

namespace Stats.PassiveChecks

/-- The shape of the statistics of passive checks. -/
def shape : Shape :=
  .record [("latency", Series.shape), ("stateChange", Series.shape), ("windows", Windows.shape)]

/-- The statistics of passive checks as a value. -/
def toValue (checks : PassiveChecks) : Value :=
  .record [("latency", checks.latency.toValue), ("stateChange", checks.stateChange.toValue),
    ("windows", checks.windows.toValue)]

/-- The statistics of passive checks from a value. -/
def ofValue? : Value → Option PassiveChecks
  | .record [(_, latency), (_, stateChange), (_, windows)] =>
    return { latency := ← Series.ofValue? latency
             stateChange := ← Series.ofValue? stateChange
             windows := ← Windows.ofValue? windows }
  | _ => none

end Stats.PassiveChecks

namespace Stats.ServiceTally

/-- The shape of the tally of service states. -/
def shape : Shape :=
  .record [("ok", .unsigned), ("warning", .unsigned), ("unknown", .unsigned),
    ("critical", .unsigned)]

/-- The tally of service states as a value. -/
def toValue (tally : ServiceTally) : Value :=
  .record [("ok", .ofUInt64 tally.ok), ("warning", .ofUInt64 tally.warning),
    ("unknown", .ofUInt64 tally.unknown), ("critical", .ofUInt64 tally.critical)]

/-- The tally of service states from a value. -/
def ofValue? : Value → Option ServiceTally
  | .record [(_, ok), (_, warning), (_, unknown), (_, critical)] =>
    return { ok := ← ok.uint64?, warning := ← warning.uint64?, unknown := ← unknown.uint64?
             critical := ← critical.uint64? }
  | _ => none

end Stats.ServiceTally

namespace Stats.HostTally

/-- The shape of the tally of host states. -/
def shape : Shape :=
  .record [("up", .unsigned), ("down", .unsigned), ("unreachable", .unsigned)]

/-- The tally of host states as a value. -/
def toValue (tally : HostTally) : Value :=
  .record [("up", .ofUInt64 tally.up), ("down", .ofUInt64 tally.down),
    ("unreachable", .ofUInt64 tally.unreachable)]

/-- The tally of host states from a value. -/
def ofValue? : Value → Option HostTally
  | .record [(_, up), (_, down), (_, unreachable)] =>
    return { up := ← up.uint64?, down := ← down.uint64?, unreachable := ← unreachable.uint64? }
  | _ => none

end Stats.HostTally

namespace Stats.Target

variable {τ : Type} [Tally τ]

/-- The shape of the statistics of hosts or services, given that of their tally. -/
def shape (states : Shape) : Shape :=
  .record [("entries", .unsigned), ("activeChecks", .unsigned), ("passiveChecks", .unsigned),
    ("stateChange", Series.shape), ("active", ActiveChecks.shape),
    ("passive", PassiveChecks.shape), ("states", states), ("flapping", .unsigned),
    ("inDowntime", .unsigned), ("checked", .unsigned), ("scheduled", .unsigned)]

/-- The statistics of hosts or services as a value, given that of their tally. -/
def toValue (states : τ → Value) (target : Target τ) : Value :=
  .record [("entries", .ofUInt64 target.entries),
    ("activeChecks", .ofUInt64 target.activeChecks),
    ("passiveChecks", .ofUInt64 target.passiveChecks),
    ("stateChange", target.stateChange.toValue), ("active", target.active.toValue),
    ("passive", target.passive.toValue), ("states", states target.states),
    ("flapping", .ofUInt64 target.flapping), ("inDowntime", .ofUInt64 target.inDowntime),
    ("checked", .ofUInt64 target.checked), ("scheduled", .ofUInt64 target.scheduled)]

/-- The statistics of hosts or services from a value, given how their tally is read. -/
def ofValue? (states? : Value → Option τ) : Value → Option (Target τ)
  | .record [(_, entries), (_, activeChecks), (_, passiveChecks), (_, stateChange), (_, active),
      (_, passive), (_, states), (_, flapping), (_, inDowntime), (_, checked),
      (_, scheduled)] =>
    return { entries := ← entries.uint64?, activeChecks := ← activeChecks.uint64?
             passiveChecks := ← passiveChecks.uint64?
             stateChange := ← Series.ofValue? stateChange
             active := ← ActiveChecks.ofValue? active
             passive := ← PassiveChecks.ofValue? passive
             states := ← states? states, flapping := ← flapping.uint64?
             inDowntime := ← inDowntime.uint64?, checked := ← checked.uint64?
             scheduled := ← scheduled.uint64? }
  | _ => none

end Stats.Target

namespace DumpInfo

/-- The shape of what a dump says about itself. -/
def shape : Shape :=
  .record [("created", .signed), ("version", .optional .text)]

/-- What a dump says about itself as a value. -/
def toValue (info : DumpInfo) : Value :=
  .record [("created", .ofInt64 info.created), ("version", .ofOption .text info.version)]

/-- What a dump says about itself from a value. -/
def ofValue? : Value → Option DumpInfo
  | .record [(_, created), (_, version)] =>
    return { created := ← created.int64?, version := ← version.option? Value.text? }
  | _ => none

end DumpInfo

namespace Buffer

/-- The shape of a buffer. -/
def shape : Shape :=
  .record [("total", .signed), ("used", .signed), ("high", .signed)]

/-- A buffer as a value. -/
def toValue (buffer : Buffer) : Value :=
  .record [("total", .ofInt64 buffer.total), ("used", .ofInt64 buffer.used),
    ("high", .ofInt64 buffer.high)]

/-- A buffer from a value. -/
def ofValue? : Value → Option Buffer
  | .record [(_, total), (_, used), (_, high)] =>
    return { total := ← total.int64?, used := ← used.int64?, high := ← high.int64? }
  | _ => none

end Buffer

namespace HostRates

/-- The shape of the rates of host checks. -/
def shape : Shape :=
  .record [("activeScheduled", Rates.shape), ("activeOndemand", Rates.shape),
    ("cached", Rates.shape), ("passive", Rates.shape), ("parallel", Rates.shape),
    ("serial", Rates.shape)]

/-- The rates of host checks as a value. -/
def toValue (rates : HostRates) : Value :=
  .record [("activeScheduled", rates.activeScheduled.toValue),
    ("activeOndemand", rates.activeOndemand.toValue), ("cached", rates.cached.toValue),
    ("passive", rates.passive.toValue), ("parallel", rates.parallel.toValue),
    ("serial", rates.serial.toValue)]

/-- The rates of host checks from a value. -/
def ofValue? : Value → Option HostRates
  | .record [(_, activeScheduled), (_, activeOndemand), (_, cached), (_, passive), (_, parallel),
      (_, serial)] =>
    return { activeScheduled := ← Rates.ofValue? activeScheduled
             activeOndemand := ← Rates.ofValue? activeOndemand
             cached := ← Rates.ofValue? cached, passive := ← Rates.ofValue? passive
             parallel := ← Rates.ofValue? parallel, serial := ← Rates.ofValue? serial }
  | _ => none

end HostRates

namespace ServiceRates

/-- The shape of the rates of service checks. -/
def shape : Shape :=
  .record [("activeScheduled", Rates.shape), ("activeOndemand", Rates.shape),
    ("cached", Rates.shape), ("passive", Rates.shape)]

/-- The rates of service checks as a value. -/
def toValue (rates : ServiceRates) : Value :=
  .record [("activeScheduled", rates.activeScheduled.toValue),
    ("activeOndemand", rates.activeOndemand.toValue), ("cached", rates.cached.toValue),
    ("passive", rates.passive.toValue)]

/-- The rates of service checks from a value. -/
def ofValue? : Value → Option ServiceRates
  | .record [(_, activeScheduled), (_, activeOndemand), (_, cached), (_, passive)] =>
    return { activeScheduled := ← Rates.ofValue? activeScheduled
             activeOndemand := ← Rates.ofValue? activeOndemand
             cached := ← Rates.ofValue? cached, passive := ← Rates.ofValue? passive }
  | _ => none

end ServiceRates

namespace Program

/-- The shape of what a dump says about the daemon. -/
def shape : Shape :=
  .record [("programStart", .signed), ("pid", .signed), ("commandBuffer", Buffer.shape),
    ("checkResultBuffer", Buffer.shape), ("hostChecks", HostRates.shape),
    ("serviceChecks", ServiceRates.shape), ("externalCommands", Rates.shape)]

/-- What a dump says about the daemon as a value. -/
def toValue (program : Program) : Value :=
  .record [("programStart", .ofInt64 program.start), ("pid", .ofInt64 program.pid),
    ("commandBuffer", program.commandBuffer.toValue),
    ("checkResultBuffer", program.checkResultBuffer.toValue),
    ("hostChecks", program.hostChecks.toValue),
    ("serviceChecks", program.serviceChecks.toValue),
    ("externalCommands", program.externalCommands.toValue)]

/-- What a dump says about the daemon from a value. -/
def ofValue? : Value → Option Program
  | .record [(_, start), (_, pid), (_, commandBuffer), (_, checkResultBuffer), (_, hostChecks),
      (_, serviceChecks), (_, externalCommands)] =>
    return { start := ← start.int64?, pid := ← pid.int64?
             commandBuffer := ← Buffer.ofValue? commandBuffer
             checkResultBuffer := ← Buffer.ofValue? checkResultBuffer
             hostChecks := ← HostRates.ofValue? hostChecks
             serviceChecks := ← ServiceRates.ofValue? serviceChecks
             externalCommands := ← Rates.ofValue? externalCommands }
  | _ => none

end Program

/-! ## Snapshots -/

namespace Snapshot

/-- The shape of a snapshot. -/
def shape : Shape :=
  .record [("info", DumpInfo.shape), ("program", Program.shape),
    ("services", Target.shape ServiceTally.shape), ("hosts", Target.shape HostTally.shape)]

/-- A snapshot as a value. -/
def toValue (snapshot : Snapshot) : Value :=
  .record [("info", snapshot.info.toValue), ("program", snapshot.program.toValue),
    ("services", snapshot.services.toValue ServiceTally.toValue),
    ("hosts", snapshot.hosts.toValue HostTally.toValue)]

/-- A snapshot from a value. -/
def ofValue? : Value → Option Snapshot
  | .record [(_, info), (_, program), (_, services), (_, hosts)] =>
    return { info := ← DumpInfo.ofValue? info, program := ← Program.ofValue? program
             services := ← Target.ofValue? ServiceTally.ofValue? services
             hosts := ← Target.ofValue? HostTally.ofValue? hosts }
  | _ => none

/-- The JSON text of a snapshot. -/
def toJson (snapshot : Snapshot) : String :=
  snapshot.toValue.render

/-- The snapshot of a JSON text. A value of the right shape always is a snapshot. -/
def ofJson (text : String) : Except Fault Snapshot := do
  match ofValue? (← shape.ofText text) with
  | some snapshot => .ok snapshot
  | none => .error .mismatched

end Snapshot

end StatusDigest
