/-!
# States of hosts and services

The daemon writes a state as a number. A tally counts how often each state occurs; numbers that
name no state are not counted. Problems are the states other than the good one.
-/

namespace StatusDigest.Stats

/-- The states of a service. -/
inductive ServiceState where
  | ok
  | warning
  | critical
  | unknown
deriving DecidableEq, Repr

/-- The state that the daemon writes as the number. -/
def ServiceState.ofNumber? (number : Int64) : Option ServiceState :=
  if number = 0 then some .ok
  else if number = 1 then some .warning
  else if number = 2 then some .critical
  else if number = 3 then some .unknown
  else none

/-- The states of a host. -/
inductive HostState where
  | up
  | down
  | unreachable
deriving DecidableEq, Repr

/-- The state that the daemon writes as the number. -/
def HostState.ofNumber? (number : Int64) : Option HostState :=
  if number = 0 then some .up
  else if number = 1 then some .down
  else if number = 2 then some .unreachable
  else none

/-- Counts of states. -/
class Tally (τ : Type) where
  /-- No state has been counted. -/
  empty : τ
  /-- Counts the state that a number names. -/
  record : τ → Int64 → τ
  /-- How many of the states are problems. -/
  problems : τ → UInt64

/-- Counts of service states. -/
structure ServiceTally where
  ok : UInt64 := 0
  warning : UInt64 := 0
  unknown : UInt64 := 0
  critical : UInt64 := 0
deriving DecidableEq, Repr

namespace ServiceTally

/-- Counts one state. -/
def count (tally : ServiceTally) : ServiceState → ServiceTally
  | .ok => { tally with ok := tally.ok + 1 }
  | .warning => { tally with warning := tally.warning + 1 }
  | .critical => { tally with critical := tally.critical + 1 }
  | .unknown => { tally with unknown := tally.unknown + 1 }

instance : Tally ServiceTally where
  empty := {}
  record tally number := (ServiceState.ofNumber? number).elim tally tally.count
  problems tally := tally.warning + tally.unknown + tally.critical

end ServiceTally

/-- Counts of host states. -/
structure HostTally where
  up : UInt64 := 0
  down : UInt64 := 0
  unreachable : UInt64 := 0
deriving DecidableEq, Repr

namespace HostTally

/-- Counts one state. -/
def count (tally : HostTally) : HostState → HostTally
  | .up => { tally with up := tally.up + 1 }
  | .down => { tally with down := tally.down + 1 }
  | .unreachable => { tally with unreachable := tally.unreachable + 1 }

instance : Tally HostTally where
  empty := {}
  record tally number := (HostState.ofNumber? number).elim tally tally.count
  problems tally := tally.down + tally.unreachable

end HostTally

end StatusDigest.Stats
