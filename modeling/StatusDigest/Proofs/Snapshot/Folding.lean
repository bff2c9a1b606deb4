import StatusDigest.Snapshot.Digest
import StatusDigest.Proofs.Dump.Bracketing
import StatusDigest.Proofs.Stats.Counting
import Mathlib

/-!
# Folding a run of events

A run is a sequence of events, each with the time from which it is folded in. The statistics of
hosts and of services after a run are those of its openings and of the checks in its closed blocks:

* `openings` and `checksOf` read both off the run;
* `Snapshot.Summarizes` is the invariant, `Snapshot.Summarizes.apply` its step for every event;
* `Snapshot.summarizes_afterRun` is the invariant after every run;
* `Snapshot.ofSource_eq_afterRun` says which run a dump is.
-/

namespace StatusDigest

open Stats Dump

/-! ## Numbers in blocks -/

/-- A text is always read as a number. -/
theorem Dump.Field.isNaN_real (raw : String) : (Field.real raw).isNaN = false := by
  unfold Field.real
  split
  · exact Decimal.Numeral.isNaN_toFloat _
  · exact Decimal.isNaN_ofScientific _ _ _

/-- Whatever a block says, its check is made of numbers. -/
theorem Dump.Block.isNumeric_check (block : Block) : block.check.IsNumeric := by
  have hfield : ∀ key default, default.isNaN = false →
      ((block.get? key).elim default Field.real).isNaN = false := by
    intro key default hdefault
    cases block.get? key with
    | none => exact hdefault
    | some raw => exact Field.isNaN_real raw
  have hzero : (0.0 : Float).isNaN = false := Decimal.isNaN_ofScientific _ _ _
  exact ⟨hfield _ _ hzero, hfield _ _ hzero, hfield _ _ hzero⟩

/-! ## Runs -/

/-- Events, each with the time from which it is folded in. -/
abbrev Run := List (Int64 × Event)

/-- How many blocks of the kind are opened. -/
def openings (kind : Kind) (run : Run) : ℕ :=
  run.countP fun step => step.2.opens kind

/-- The check of a block of the kind, if the step closes one. -/
def checkOf? (kind : Kind) (step : Int64 × Event) : Option Timed :=
  (step.2.closed? kind).map fun block => { check := block.check, now := step.1 }

/-- The checks of the blocks of the kind that are closed. -/
def checksOf (kind : Kind) (run : Run) : List Timed :=
  run.filterMap (checkOf? kind)

theorem openings_snoc (kind : Kind) (run : Run) (now : Int64) (event : Event) :
    openings kind (run ++ [(now, event)]) =
      openings kind run + if event.opens kind then 1 else 0 := by
  rw [openings, List.countP_append, List.countP_singleton]
  rfl

theorem checksOf_snoc (kind : Kind) (run : Run) (now : Int64) (event : Event) :
    checksOf kind (run ++ [(now, event)]) =
      checksOf kind run ++ (checkOf? kind (now, event)).toList := by
  rw [checksOf, List.filterMap_append]
  rfl

/-! ## What an event does to one target -/

section Target

variable {τ : Type} [Tally τ] {target : Target τ} {kind : Kind} {run : Run}

/-- The statistics of the blocks of one kind after one more event. -/
def Stats.Target.follow (target : Target τ) (kind : Kind) (now : Int64) : Event → Target τ
  | .opened found => if found = kind then target.countEntry else target
  | .closed block => if block.kind = kind then target.count block.check now else target

theorem Stats.Target.Summarizes.follow
    (h : target.Summarizes (openings kind run) (checksOf kind run)) (now : Int64) (event : Event) :
    (target.follow kind now event).Summarizes (openings kind (run ++ [(now, event)]))
      (checksOf kind (run ++ [(now, event)])) := by
  rw [openings_snoc, checksOf_snoc]
  cases event with
  | opened found =>
    by_cases hfound : found = kind
    · simpa [Target.follow, checkOf?, Event.closed?, Event.opens, hfound] using h.countEntry
    · simpa [Target.follow, checkOf?, Event.closed?, Event.opens, hfound] using h
  | closed block =>
    by_cases hkind : block.kind = kind
    · have hcount := h.count { check := block.check, now } block.isNumeric_check
      simpa [Target.follow, checkOf?, Event.closed?, Event.opens, hkind] using hcount
    · simpa [Target.follow, checkOf?, Event.closed?, Event.opens, hkind] using h

end Target

namespace Snapshot

theorem hosts_apply (snapshot : Snapshot) (now : Int64) (event : Event) :
    (snapshot.apply now event).hosts = snapshot.hosts.follow .host now event := by
  cases event with
  | opened kind => cases kind <;> rfl
  | closed block =>
    obtain ⟨kind, fields⟩ := block
    cases kind <;> rfl

theorem services_apply (snapshot : Snapshot) (now : Int64) (event : Event) :
    (snapshot.apply now event).services = snapshot.services.follow .service now event := by
  cases event with
  | opened kind => cases kind <;> rfl
  | closed block =>
    obtain ⟨kind, fields⟩ := block
    cases kind <;> rfl

/-! ## What a run does to a snapshot -/

/-- The snapshot after a run. -/
def afterRun (run : Run) : Snapshot :=
  run.foldl (fun snapshot step => snapshot.apply step.1 step.2) {}

/-- The snapshot holds the statistics of the run. -/
structure Summarizes (snapshot : Snapshot) (run : Run) : Prop where
  hosts : snapshot.hosts.Summarizes (openings .host run) (checksOf .host run)
  services : snapshot.services.Summarizes (openings .service run) (checksOf .service run)

theorem Summarizes.apply {snapshot : Snapshot} {run : Run} (h : snapshot.Summarizes run)
    (now : Int64) (event : Event) :
    (snapshot.apply now event).Summarizes (run ++ [(now, event)]) := by
  constructor
  · rw [hosts_apply]
    exact h.hosts.follow now event
  · rw [services_apply]
    exact h.services.follow now event

/-- The invariant holds after every run. -/
theorem summarizes_afterRun (run : Run) : (afterRun run).Summarizes run := by
  -- a run grows at its end, one event at a time
  induction run using List.reverseRecOn with
  | nil => exact ⟨Target.summarizes_zero, Target.summarizes_zero⟩
  | append_singleton run step ih =>
    have hstep : afterRun (run ++ [step]) = (afterRun run).apply step.1 step.2 :=
      List.foldl_concat ..
    rw [hstep]
    exact ih.apply step.1 step.2

/-- The run of a dump that is seen from one time. -/
def runOf (source : Source) (now : Int64) : Run :=
  (Reader.ofSource source).events.map fun event => (now, event)

theorem foldlM_applyItem (now : Int64) (events : List Event) (snapshot : Snapshot) :
    (events.map Except.ok).foldlM (applyItem now) snapshot =
      .ok (events.foldl (fun snapshot event => snapshot.apply now event) snapshot) := by
  induction events generalizing snapshot with
  | nil => rfl
  | cons event rest ih => exact ih (snapshot.apply now event)

/-- A source that ends well gives the snapshot after its run. -/
theorem ofSource_eq_afterRun {source : Source} (hends : source.failure = none) (now : Int64) :
    ofSource source now = .ok (afterRun (runOf source now)) := by
  rw [ofSource, Reader.items_ofSource hends, foldlM_applyItem, afterRun, runOf, List.foldl_map]

end Snapshot

end StatusDigest
