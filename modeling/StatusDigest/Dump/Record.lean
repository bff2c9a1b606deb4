import StatusDigest.Dump.Block
import StatusDigest.Dump.Field
import StatusDigest.Stats.Target

/-!
# Records

A record is what a block says, read by the kind of the block:

* of an info block its time and version, and of a program block its numbers and rates. Each is
  absent if the block does not mention it, so that what was known before can be kept;
* of a host or service block a check, in which a default stands for each missing field.
-/

namespace StatusDigest.Dump

open Stats

/-- The record of an info block. -/
structure InfoRecord where
  created : Option Int64 := none
  version : Option String := none
deriving DecidableEq, Repr

/-- What a program block says about one of the daemon's buffers. -/
structure BufferRecord where
  total : Option Int64 := none
  used : Option Int64 := none
  high : Option Int64 := none
deriving DecidableEq, Repr

/-- The record of a program block. -/
structure ProgramRecord where
  start : Option Int64 := none
  pid : Option Int64 := none
  commandBuffer : BufferRecord := {}
  checkResultBuffer : BufferRecord := {}
  activeScheduledHostChecks : Option Rates := none
  activeOndemandHostChecks : Option Rates := none
  cachedHostChecks : Option Rates := none
  passiveHostChecks : Option Rates := none
  parallelHostChecks : Option Rates := none
  serialHostChecks : Option Rates := none
  activeScheduledServiceChecks : Option Rates := none
  activeOndemandServiceChecks : Option Rates := none
  cachedServiceChecks : Option Rates := none
  passiveServiceChecks : Option Rates := none
  externalCommands : Option Rates := none
deriving DecidableEq, Repr

/-- What a closed block says. -/
inductive Record where
  | info (record : InfoRecord)
  | program (record : ProgramRecord)
  | host (check : Check)
  | service (check : Check)

namespace Block

/-- A field read as an integer. -/
def integer? (block : Block) (key : String) : Option Int64 :=
  (block.get? key).map Field.integer

/-- A field read as three rates. -/
def rates? (block : Block) (key : String) : Option Rates :=
  (block.get? key).map fun raw => .ofTriple (Field.triple raw)

/-- What the block says, read as an info block. -/
def infoRecord (block : Block) : InfoRecord where
  created := block.integer? "created"
  version := block.get? "version"

/-- What the block says, read as a program block. -/
def programRecord (block : Block) : ProgramRecord where
  start := block.integer? "program_start"
  pid := block.integer? "nagios_pid"
  commandBuffer :=
    { total := block.integer? "total_external_command_buffer_slots"
      used := block.integer? "used_external_command_buffer_slots"
      high := block.integer? "high_external_command_buffer_slots" }
  checkResultBuffer :=
    { total := block.integer? "total_check_result_buffer_slots"
      used := block.integer? "used_check_result_buffer_slots"
      high := block.integer? "high_check_result_buffer_slots" }
  activeScheduledHostChecks := block.rates? "active_scheduled_host_check_stats"
  activeOndemandHostChecks := block.rates? "active_ondemand_host_check_stats"
  cachedHostChecks := block.rates? "cached_host_check_stats"
  passiveHostChecks := block.rates? "passive_host_check_stats"
  parallelHostChecks := block.rates? "parallel_host_check_stats"
  serialHostChecks := block.rates? "serial_host_check_stats"
  activeScheduledServiceChecks := block.rates? "active_scheduled_service_check_stats"
  activeOndemandServiceChecks := block.rates? "active_ondemand_service_check_stats"
  cachedServiceChecks := block.rates? "cached_service_check_stats"
  passiveServiceChecks := block.rates? "passive_service_check_stats"
  externalCommands := block.rates? "external_command_stats"

end Block

/-- A check is active when its type is written as zero. -/
def originOf (checkType : Int64) : Origin :=
  if checkType = 0 then .active else .passive

/-- What a block says, read as a host or service block. -/
def Block.check (block : Block) : Check :=
  let default : Check := {}
  { executionTime := (block.get? "check_execution_time").elim default.executionTime Field.real
    latency := (block.get? "check_latency").elim default.latency Field.real
    stateChange := (block.get? "percent_state_change").elim default.stateChange Field.real
    origin := (block.integer? "check_type").elim default.origin originOf
    state := (block.integer? "current_state").getD default.state
    isFlapping := (block.get? "is_flapping").elim default.isFlapping Field.flag
    downtimeDepth := (block.integer? "scheduled_downtime_depth").getD default.downtimeDepth
    lastCheck := (block.integer? "last_check").getD default.lastCheck
    hasBeenChecked := (block.get? "has_been_checked").elim default.hasBeenChecked Field.flag
    shouldBeScheduled :=
      (block.get? "should_be_scheduled").elim default.shouldBeScheduled Field.flag }

/-- What a block says, read by its kind. -/
def Block.record (block : Block) : Record :=
  match block.kind with
  | .info => .info block.infoRecord
  | .program => .program block.programRecord
  | .host => .host block.check
  | .service => .service block.check

end StatusDigest.Dump
