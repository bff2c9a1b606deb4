import StatusDigest.Dump.Reader
import StatusDigest.Dump.Record
import StatusDigest.Snapshot.Basic

/-!
# Digesting a dump

A dump is folded into a snapshot event by event, and nothing of a block is kept but what it adds
to the snapshot:

* an opened host or service counts as an entry;
* a closed block replaces what it says about the dump or the daemon, or adds its check to the
  statistics. The same block counts as often as it is closed.

A source that fails gives no snapshot, whatever was read before.
-/

namespace StatusDigest

open Stats Dump

/-- Keeps what was known unless there is something new. -/
def DumpInfo.update (info : DumpInfo) (record : InfoRecord) : DumpInfo where
  created := record.created.getD info.created
  version := record.version <|> info.version

/-- Keeps what was known unless there is something new. -/
def Buffer.update (buffer : Buffer) (record : BufferRecord) : Buffer where
  total := record.total.getD buffer.total
  used := record.used.getD buffer.used
  high := record.high.getD buffer.high

/-- Keeps what was known unless there is something new. -/
def HostRates.update (rates : HostRates) (record : ProgramRecord) : HostRates where
  activeScheduled := record.activeScheduledHostChecks.getD rates.activeScheduled
  activeOndemand := record.activeOndemandHostChecks.getD rates.activeOndemand
  cached := record.cachedHostChecks.getD rates.cached
  passive := record.passiveHostChecks.getD rates.passive
  parallel := record.parallelHostChecks.getD rates.parallel
  serial := record.serialHostChecks.getD rates.serial

/-- Keeps what was known unless there is something new. -/
def ServiceRates.update (rates : ServiceRates) (record : ProgramRecord) : ServiceRates where
  activeScheduled := record.activeScheduledServiceChecks.getD rates.activeScheduled
  activeOndemand := record.activeOndemandServiceChecks.getD rates.activeOndemand
  cached := record.cachedServiceChecks.getD rates.cached
  passive := record.passiveServiceChecks.getD rates.passive

/-- Keeps what was known unless there is something new. -/
def Program.update (program : Program) (record : ProgramRecord) : Program where
  start := record.start.getD program.start
  pid := record.pid.getD program.pid
  commandBuffer := program.commandBuffer.update record.commandBuffer
  checkResultBuffer := program.checkResultBuffer.update record.checkResultBuffer
  hostChecks := program.hostChecks.update record
  serviceChecks := program.serviceChecks.update record
  externalCommands := record.externalCommands.getD program.externalCommands

namespace Snapshot

/-- Counts a block that was opened. Only hosts and services are entries. -/
def countOpened (snapshot : Snapshot) : Kind → Snapshot
  | .host => { snapshot with hosts := snapshot.hosts.countEntry }
  | .service => { snapshot with services := snapshot.services.countEntry }
  | .info | .program => snapshot

/-- Folds in what a closed block says; `now` is the time from which checks have their age. -/
def ingest (snapshot : Snapshot) (block : Block) (now : Int64) : Snapshot :=
  match block.record with
  | .info record => { snapshot with info := snapshot.info.update record }
  | .program record => { snapshot with program := snapshot.program.update record }
  | .host check => { snapshot with hosts := snapshot.hosts.count check now }
  | .service check => { snapshot with services := snapshot.services.count check now }

/-- Folds in one event. -/
def apply (snapshot : Snapshot) (now : Int64) : Event → Snapshot
  | .opened kind => snapshot.countOpened kind
  | .closed block => snapshot.ingest block now

/-- Folds in what a reader hands out, up to its failure. -/
def applyItem (now : Int64) (snapshot : Snapshot) : Item → Except StatusFailure Snapshot
  | .ok event => .ok (snapshot.apply now event)
  | .error failure => .error failure

/-- The snapshot of a dump, seen from the time `now`. -/
def ofSource (source : Source) (now : Int64) : Except StatusFailure Snapshot :=
  (Reader.ofSource source).items.foldlM (applyItem now) {}

end Snapshot

end StatusDigest
