import StatusDigest.Stats.Recency
import StatusDigest.Stats.Series
import StatusDigest.Stats.State

/-!
# Statistics of hosts or of services

Hosts and services have the same statistics but for their states, so that one structure serves
both and takes the tally of states as a parameter. What is counted of one check is a `Check`, and
`Target.count` counts it.
-/

namespace StatusDigest.Stats

/-- How the result of a check reached the daemon. -/
inductive Origin where
  /-- The daemon ran the check. -/
  | active
  /-- The result was submitted to the daemon. -/
  | passive
deriving DecidableEq, Repr

/-- What the status block of a host or a service says about its check. The defaults stand for
fields that the block does not have. -/
structure Check where
  executionTime : Float := 0.0
  latency : Float := 0.0
  /-- How much the state changed lately, in percent. -/
  stateChange : Float := 0.0
  origin : Origin := .active
  state : Int64 := 0
  isFlapping : Bool := false
  downtimeDepth : Int64 := 0
  /-- When the check ran, in seconds since 1970. -/
  lastCheck : Int64 := 0
  hasBeenChecked : Bool := true
  shouldBeScheduled : Bool := true
deriving DecidableEq

/-- A host or service is in downtime while at least one downtime is in effect. -/
def Check.inDowntime (check : Check) : Bool :=
  0 < check.downtimeDepth

/-- Statistics of the checks that the daemon ran. -/
structure ActiveChecks where
  latency : Series := {}
  executionTime : Series := {}
  stateChange : Series := {}
  windows : Windows := {}
deriving DecidableEq

/-- Statistics of the checks whose results were submitted. -/
structure PassiveChecks where
  latency : Series := {}
  stateChange : Series := {}
  windows : Windows := {}
deriving DecidableEq

/-- Statistics of all hosts, or of all services. -/
structure Target (τ : Type) [Tally τ] where
  /-- How many blocks have been opened. -/
  entries : UInt64 := 0
  activeChecks : UInt64 := 0
  passiveChecks : UInt64 := 0
  /-- The state change of all checks, active and passive. -/
  stateChange : Series := {}
  active : ActiveChecks := {}
  passive : PassiveChecks := {}
  states : τ := Tally.empty
  flapping : UInt64 := 0
  inDowntime : UInt64 := 0
  checked : UInt64 := 0
  scheduled : UInt64 := 0

/-- Statistics of all services. -/
abbrev Services := Target ServiceTally

/-- Statistics of all hosts. -/
abbrev Hosts := Target HostTally

/-- Counts the age of a check at a given time. A time too far away to have an age counts
nowhere. -/
def Windows.recordCheck (windows : Windows) (check : Check) (now : Int64) : Windows :=
  (age? now check.lastCheck).elim windows windows.record

/-- Counts a check that the daemon ran. -/
def ActiveChecks.count (checks : ActiveChecks) (check : Check) (now : Int64) : ActiveChecks where
  latency := checks.latency.push check.latency
  executionTime := checks.executionTime.push check.executionTime
  stateChange := checks.stateChange.push check.stateChange
  windows := checks.windows.recordCheck check now

/-- Counts a check whose result was submitted. -/
def PassiveChecks.count (checks : PassiveChecks) (check : Check) (now : Int64) :
    PassiveChecks where
  latency := checks.latency.push check.latency
  stateChange := checks.stateChange.push check.stateChange
  windows := checks.windows.recordCheck check now

/-- One more if the condition holds. -/
def countIf (condition : Bool) (count : UInt64) : UInt64 :=
  if condition then count + 1 else count

namespace Target

variable {τ : Type} [Tally τ]

/-- Counts a block that was opened. -/
def countEntry (target : Target τ) : Target τ :=
  { target with entries := target.entries + 1 }

/-- Counts a check under its origin. -/
def countOrigin (target : Target τ) (check : Check) (now : Int64) : Target τ :=
  match check.origin with
  | .active =>
    { target with
      activeChecks := target.activeChecks + 1
      active := target.active.count check now }
  | .passive =>
    { target with
      passiveChecks := target.passiveChecks + 1
      passive := target.passive.count check now }

/-- Counts a check at a given time. The state change over both origins is averaged over the
entries opened so far. -/
def count (target : Target τ) (check : Check) (now : Int64) : Target τ :=
  let target := target.countOrigin check now
  { target with
    stateChange := target.stateChange.pushOver check.stateChange target.entries
    states := Tally.record target.states check.state
    flapping := countIf check.isFlapping target.flapping
    inDowntime := countIf check.inDowntime target.inDowntime
    checked := countIf check.hasBeenChecked target.checked
    scheduled := countIf check.shouldBeScheduled target.scheduled }

end Target

end StatusDigest.Stats
