import StatusDigest.Stats.Target

/-!
# Snapshots

A snapshot is everything that one pass over a dump has learned: about the dump, about the daemon,
about the services and about the hosts.
-/

namespace StatusDigest

open Stats

/-- What the dump says about itself. -/
structure DumpInfo where
  /-- When the daemon wrote the dump, in seconds since 1970. -/
  created : Int64 := 0
  version : Option String := none
deriving DecidableEq, Repr

/-- How much of one of the daemon's buffers is in use, and was at most. -/
structure Buffer where
  total : Int64 := 0
  used : Int64 := 0
  high : Int64 := 0
deriving DecidableEq, Repr

/-- The host checks that the daemon reports, by class. -/
structure HostRates where
  activeScheduled : Rates := {}
  activeOndemand : Rates := {}
  cached : Rates := {}
  passive : Rates := {}
  parallel : Rates := {}
  serial : Rates := {}
deriving DecidableEq, Repr

/-- The service checks that the daemon reports, by class. -/
structure ServiceRates where
  activeScheduled : Rates := {}
  activeOndemand : Rates := {}
  cached : Rates := {}
  passive : Rates := {}
deriving DecidableEq, Repr

/-- The host checks that ran. A cached result is a request that was answered without a check, and
is left out. -/
def HostRates.activeTotal (rates : HostRates) : Rates :=
  rates.activeScheduled + rates.activeOndemand

/-- The service checks that ran, without cached results. -/
def ServiceRates.activeTotal (rates : ServiceRates) : Rates :=
  rates.activeScheduled + rates.activeOndemand

/-- What the dump says about the daemon. -/
structure Program where
  /-- When the daemon was started, in seconds since 1970. -/
  start : Int64 := 0
  pid : Int64 := 0
  commandBuffer : Buffer := {}
  checkResultBuffer : Buffer := {}
  hostChecks : HostRates := {}
  serviceChecks : ServiceRates := {}
  externalCommands : Rates := {}
deriving DecidableEq, Repr

/-- Everything that is known from a dump. -/
structure Snapshot where
  info : DumpInfo := {}
  program : Program := {}
  services : Services := {}
  hosts : Hosts := {}

/-- The seconds from one time to another, and zero if the other comes first. -/
def secondsSince (time now : Int64) : UInt64 :=
  .ofNat (clampedAge now time).toInt.toNat

namespace Snapshot

/-- The seconds since the dump was written. -/
def dumpAge (snapshot : Snapshot) (now : Int64) : UInt64 :=
  secondsSince snapshot.info.created now

/-- The seconds since the daemon was started. -/
def runningTime (snapshot : Snapshot) (now : Int64) : UInt64 :=
  secondsSince snapshot.program.start now

end Snapshot

end StatusDigest
