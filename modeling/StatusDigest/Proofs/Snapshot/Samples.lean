import StatusDigest.Mrtg.Value
import StatusDigest.Proofs.Dump.Failing
import StatusDigest.Proofs.Snapshot.Counts
import StatusDigest.Proofs.Stats.Sampling
import Mathlib

/-!
# The samples of a dump

Each series of a snapshot has taken its samples from the closed blocks of a dump, one after the
other, and is nothing but a new series after these samples:

* `populated` are the closed blocks of a kind, each with the number of blocks that had been opened
  by then;
* `Gauge.call?` is what a series takes from such a block, if it takes anything;
* `Gauge.series_follow` is the step for one event and `Gauge.series_foldl` the run;
  `Snapshot.ofSource_series` is the result for all series of a snapshot.
-/

namespace StatusDigest

open Stats Dump Mrtg

/-! ## Closed blocks and their populations -/

/-- The blocks of the kind that are closed, each with the number of blocks of the kind that had been
opened by then, those before the events included. -/
def populated (kind : Kind) (opened : ℕ) : List Event → List (Block × ℕ)
  | [] => []
  | event :: rest =>
    ((event.closed? kind).map fun block => (block, opened)).toList ++
      populated kind (opened + if event.opens kind then 1 else 0) rest

/-- Without their populations, they are the closed blocks. -/
theorem map_fst_populated (kind : Kind) (opened : ℕ) (events : List Event) :
    (populated kind opened events).map Prod.fst = events.filterMap (Event.closed? kind) := by
  induction events generalizing opened with
  | nil => rfl
  | cons event rest ih =>
    rw [populated, List.map_append, ih]
    cases hclosed : event.closed? kind with
    | none => rw [List.filterMap_cons_none hclosed, Option.map_none]; rfl
    | some block => rw [List.filterMap_cons_some hclosed, Option.map_some]; rfl

/-! ## What a series takes from a block -/

namespace Mrtg.Gauge

/-- The number that the gauge shows of a check. -/
def sample (check : Check) : Gauge → Float
  | .stateChange | .activeStateChange | .passiveStateChange => check.stateChange
  | .activeLatency | .passiveLatency => check.latency
  | .activeExecutionTime => check.executionTime

/-- What the series of the gauge takes from a block. A series of all checks takes the block in the
population of all entries, and the series of one origin takes blocks of that origin only. -/
def call? (gauge : Gauge) (block : Block × ℕ) : Option Series.Call :=
  match gauge.origin? with
  | none => some (.pushOver (gauge.sample block.1.check) (.ofNat block.2))
  | some origin =>
    if block.1.check.origin = origin then some (.push (gauge.sample block.1.check)) else none

section Target

variable {τ : Type} [Tally τ] {target : Target τ} {opened : ℕ}

theorem series_new (gauge : Gauge) : gauge.series ({} : Target τ) = {} := by
  cases gauge <;> rfl

theorem series_countEntry (target : Target τ) (gauge : Gauge) :
    gauge.series target.countEntry = gauge.series target := by
  cases gauge <;> rfl

theorem series_count (hopened : target.entries = .ofNat opened) (block : Block) (now : Int64)
    (gauge : Gauge) :
    gauge.series (target.count block.check now) =
      (gauge.call? (block, opened)).toList.foldl Series.call (gauge.series target) := by
  cases horigin : block.check.origin with
  | active =>
    cases gauge <;>
      simp [Target.count, Target.countOrigin, horigin, call?, origin?, sample, series,
        ActiveChecks.count, hopened, Series.call]
  | passive =>
    cases gauge <;>
      simp [Target.count, Target.countOrigin, horigin, call?, origin?, sample, series,
        PassiveChecks.count, hopened, Series.call]

theorem entries_follow (hopened : target.entries = .ofNat opened) (kind : Kind) (now : Int64)
    (event : Event) :
    (target.follow kind now event).entries =
      .ofNat (opened + if event.opens kind then 1 else 0) := by
  cases event with
  | opened found =>
    by_cases hfound : found = kind
    · simp only [Target.follow, Event.opens, hfound, if_true, decide_true, Target.countEntry,
        hopened]
      exact (UInt64.ofNat_add opened 1).symm
    · simp [Target.follow, Event.opens, hfound, hopened]
  | closed block =>
    by_cases hkind : block.kind = kind
    · cases horigin : block.check.origin <;>
        simp [Target.follow, Event.opens, hkind, Target.count, Target.countOrigin, horigin, hopened]
    · simp [Target.follow, Event.opens, hkind, hopened]

/-- The step: a series takes its sample from the block that an event closes, if it closes one. -/
theorem series_follow (hopened : target.entries = .ofNat opened) (kind : Kind) (now : Int64)
    (event : Event) (gauge : Gauge) :
    gauge.series (target.follow kind now event) =
      (((event.closed? kind).map fun block => (block, opened)).bind gauge.call?).toList.foldl
        Series.call (gauge.series target) := by
  cases event with
  | opened found =>
    by_cases hfound : found = kind
    · simp only [Target.follow, if_pos hfound, series_countEntry]
      rfl
    · simp only [Target.follow, if_neg hfound]
      rfl
  | closed block =>
    by_cases hkind : block.kind = kind
    · simp only [Target.follow, Event.closed?, if_pos hkind, series_count hopened]
      rfl
    · simp only [Target.follow, Event.closed?, if_neg hkind]
      rfl

/-- The run: a series takes its samples from the closed blocks, in their order. -/
theorem series_foldl (hopened : target.entries = .ofNat opened) (kind : Kind) (now : Int64)
    (events : List Event) (gauge : Gauge) :
    gauge.series (events.foldl (fun target event => target.follow kind now event) target) =
      ((populated kind opened events).filterMap gauge.call?).foldl Series.call
        (gauge.series target) := by
  induction events generalizing target opened with
  | nil => rfl
  | cons event rest ih =>
    rw [List.foldl_cons, ih (entries_follow hopened kind now event),
      series_follow hopened kind now event, populated, List.filterMap_append, List.foldl_append]
    congr 2
    cases (event.closed? kind).map fun block => (block, opened) with
    | none => rfl
    | some block => cases hcall : gauge.call? block <;> simp [hcall]

end Target

end Mrtg.Gauge

/-! ## The series of a snapshot -/

/-- What the series of the gauge takes from the dump, for the blocks of one kind. -/
def Dump.Source.calls (source : Source) (kind : Kind) (gauge : Gauge) : List Series.Call :=
  (populated kind 0 (Reader.ofSource source).events).filterMap gauge.call?

/-- New statistics that follow the dump have a new series that takes all this. -/
theorem Dump.Source.afterCalls_calls {τ : Type} [Tally τ] (source : Source) (kind : Kind)
    (now : Int64) (gauge : Gauge) :
    Series.afterCalls (source.calls kind gauge) =
      gauge.series ((Reader.ofSource source).events.foldl
        (fun target event => target.follow kind now event) ({} : Target τ)) := by
  have hnone : ({} : Target τ).entries = .ofNat 0 := rfl
  rw [Gauge.series_foldl hnone, Gauge.series_new]
  rfl

namespace Snapshot

/-- Every series of a snapshot is a new series after what it takes from the dump. -/
theorem ofSource_series {source : Source} (hends : source.failure = none) (now : Int64) :
    ∃ snapshot, ofSource source now = .ok snapshot ∧ ∀ gauge : Gauge,
      gauge.series snapshot.hosts = Series.afterCalls (source.calls .host gauge) ∧
        gauge.series snapshot.services = Series.afterCalls (source.calls .service gauge) := by
  refine ⟨_, (Source.answers_of_ends hends).digest now, ?_⟩
  intro gauge
  have hrun := part_foldl {} now (Reader.ofSource source).events
  constructor
  · rw [source.afterCalls_calls (τ := HostTally) .host now gauge]
    exact congrArg (Gauge.series · gauge) (hrun .host)
  · rw [source.afterCalls_calls (τ := ServiceTally) .service now gauge]
    exact congrArg (Gauge.series · gauge) (hrun .service)

end Snapshot

end StatusDigest
