import StatusDigest.Stats.Target
import StatusDigest.Proofs.Stats.Series
import Mathlib

/-!
# What the statistics of a target count

The counters of a target are words of 64 bits that go up one by one. What they hold is said here
once for all runs, with a word for a natural number, so that only readers of the words need to
know that the numbers fit:

* `Timed` is a check with the time from which it is counted, and `Timed.ranWithin` says in
  unbounded integers which windows it falls in;
* `Target.Summarizes` says what a target holds after so many entries and the given checks;
* `Target.Summarizes.countEntry` and `Target.Summarizes.count` are the steps.
-/

namespace StatusDigest.Stats

/-! ## Words that count -/

/-- A counter goes up with the elements that it counts. -/
theorem ofNat_countP_snoc {α : Type} (p : α → Bool) (xs : List α) (x : α) :
    UInt64.ofNat ((xs ++ [x]).countP p) = countIf (p x) (.ofNat (xs.countP p)) := by
  cases hp : p x <;> simp [countIf, List.countP_append, hp, UInt64.ofNat_add]

theorem ofNat_length_snoc {α : Type} (xs : List α) (x : α) :
    UInt64.ofNat (xs ++ [x]).length = .ofNat xs.length + 1 := by
  rw [List.length_append, UInt64.ofNat_add]
  rfl

/-- A counter that cannot have wrapped around holds the number of elements that it counts. -/
theorem toNat_ofNat_countP {α : Type} {xs : List α} (hfits : xs.length < 2 ^ 64) (p : α → Bool) :
    (UInt64.ofNat (xs.countP p)).toNat = xs.countP p :=
  UInt64.toNat_ofNat_of_lt' (List.countP_le_length.trans_lt hfits)

theorem ofNat_le_ofNat {m n : ℕ} (hmn : m ≤ n) (hn : n < 2 ^ 64) :
    UInt64.ofNat m ≤ UInt64.ofNat n := by
  rw [UInt64.le_iff_toNat_le, UInt64.toNat_ofNat_of_lt' (hmn.trans_lt hn),
    UInt64.toNat_ofNat_of_lt' hn]
  exact hmn

/-! ## Windows -/

/-- A check, and the time from which it is counted. -/
structure Timed where
  check : Check
  now : Int64

/-- How long before that time the check ran. -/
def Timed.age (timed : Timed) : ℤ :=
  timed.now.toInt - timed.check.lastCheck.toInt

/-- Whether the check ran within the span before that time. -/
def Timed.ranWithin (timed : Timed) (span : WindowSpan) : Bool :=
  0 ≤ timed.age ∧ timed.age ≤ 60 * span.minutes

theorem WindowSpan.toInt_seconds (span : WindowSpan) : span.seconds.toInt = 60 * span.minutes := by
  cases span <;> rfl

namespace Windows

/-- The windows are those of the checks that ran. -/
def Summarizes (windows : Windows) (ran : List Timed) : Prop :=
  ∀ span, windows.within span = .ofNat (ran.countP (·.ranWithin span))

/-- A check counts in the windows that it falls in. A difference of times that does not fit in 64
bits is negative or longer than any window. -/
theorem within_recordCheck (windows : Windows) (timed : Timed) (span : WindowSpan) :
    (windows.recordCheck timed.check timed.now).within span =
      countIf (timed.ranWithin span) (windows.within span) := by
  have hspan : 60 * (span.minutes : ℤ) ≤ Int64.maxValue.toInt := by cases span <;> decide
  unfold recordCheck age?
  dsimp only
  split
  · -- the difference fits, and words compare like the integers that they hold
    rename_i hfits
    have hrecord : ∀ age, (windows.record age).within span = windows.bump age span := by
      intro age
      cases span <;> rfl
    have hage : (Int64.ofInt timed.age).toInt = timed.age :=
      Int64.toInt_ofInt_of_le hfits.1 (Int.lt_add_one_of_le hfits.2)
    rw [Option.elim_some, hrecord]
    simp only [bump, countIf, Timed.ranWithin, decide_eq_true_eq, Int64.le_iff_toInt_le,
      WindowSpan.toInt_seconds]
    rw [← Timed.age, hage]
    rfl
  · -- the difference does not fit, and is negative or longer than the longest window
    rename_i hfar
    have hnowhere : timed.ranWithin span = false := by
      rw [← Timed.age] at hfar
      simp only [Timed.ranWithin, decide_eq_false_iff_not]
      rintro ⟨hpast, hrecent⟩
      have hlow : Int64.minValue.toInt ≤ timed.age := le_trans (by decide) hpast
      exact hfar ⟨hlow, hrecent.trans hspan⟩
    rw [Option.elim_none, hnowhere]
    rfl

theorem Summarizes.recordCheck {windows : Windows} {ran : List Timed} (h : windows.Summarizes ran)
    (timed : Timed) :
    (windows.recordCheck timed.check timed.now).Summarizes (ran ++ [timed]) := by
  intro span
  rw [within_recordCheck, h span, ofNat_countP_snoc]

end Windows

/-! ## States -/

/-- The tally counts the services in each of the four states. -/
structure ServiceTally.Summarizes (tally : ServiceTally) (states : List Int64) : Prop where
  ok : tally.ok = .ofNat (states.countP (· = 0))
  warning : tally.warning = .ofNat (states.countP (· = 1))
  critical : tally.critical = .ofNat (states.countP (· = 2))
  unknown : tally.unknown = .ofNat (states.countP (· = 3))

/-- The tally counts the hosts in each of the three states. -/
structure HostTally.Summarizes (tally : HostTally) (states : List Int64) : Prop where
  up : tally.up = .ofNat (states.countP (· = 0))
  down : tally.down = .ofNat (states.countP (· = 1))
  unreachable : tally.unreachable = .ofNat (states.countP (· = 2))

/-- A number counts for one state at most. -/
theorem ServiceTally.record_eq (tally : ServiceTally) (number : Int64) :
    Tally.record tally number =
      { ok := countIf (number = 0) tally.ok
        warning := countIf (number = 1) tally.warning
        critical := countIf (number = 2) tally.critical
        unknown := countIf (number = 3) tally.unknown } := by
  show (ServiceState.ofNumber? number).elim tally tally.count = _
  unfold ServiceState.ofNumber?
  -- a number that names a state names no other
  split_ifs with h0 h1 h2 h3
  · subst h0; rfl
  · subst h1; rfl
  · subst h2; rfl
  · subst h3; rfl
  · simp [countIf, h0, h1, h2, h3]

theorem HostTally.record_eq (tally : HostTally) (number : Int64) :
    Tally.record tally number =
      { up := countIf (number = 0) tally.up
        down := countIf (number = 1) tally.down
        unreachable := countIf (number = 2) tally.unreachable } := by
  show (HostState.ofNumber? number).elim tally tally.count = _
  unfold HostState.ofNumber?
  split_ifs with h0 h1 h2
  · subst h0; rfl
  · subst h1; rfl
  · subst h2; rfl
  · simp [countIf, h0, h1, h2]

/-- The tally after the states of all given numbers. -/
def tallied (τ : Type) [Tally τ] (states : List Int64) : τ :=
  states.foldl Tally.record Tally.empty

theorem ServiceTally.summarizes_tallied (states : List Int64) :
    (tallied ServiceTally states).Summarizes states := by
  induction states using List.reverseRecOn with
  | nil => exact ⟨rfl, rfl, rfl, rfl⟩
  | append_singleton states number ih =>
    have hstep : tallied ServiceTally (states ++ [number]) =
        Tally.record (tallied ServiceTally states) number := List.foldl_concat ..
    rw [hstep, record_eq, ih.ok, ih.warning, ih.critical, ih.unknown]
    constructor <;> rw [ofNat_countP_snoc]

theorem HostTally.summarizes_tallied (states : List Int64) :
    (tallied HostTally states).Summarizes states := by
  induction states using List.reverseRecOn with
  | nil => exact ⟨rfl, rfl, rfl⟩
  | append_singleton states number ih =>
    have hstep : tallied HostTally (states ++ [number]) =
        Tally.record (tallied HostTally states) number := List.foldl_concat ..
    rw [hstep, record_eq, ih.up, ih.down, ih.unreachable]
    constructor <;> rw [ofNat_countP_snoc]

/-! ## Checks -/

/-- The numbers of a check are numbers. -/
structure Check.IsNumeric (check : Check) : Prop where
  latency : check.latency.isNaN = false
  executionTime : check.executionTime.isNaN = false
  stateChange : check.stateChange.isNaN = false

/-- The statistics are those of the checks that ran. -/
structure ActiveChecks.Summarizes (checks : ActiveChecks) (ran : List Timed) : Prop where
  latency : checks.latency.Summarizes (ran.map (·.check.latency))
  executionTime : checks.executionTime.Summarizes (ran.map (·.check.executionTime))
  stateChange : checks.stateChange.Summarizes (ran.map (·.check.stateChange))
  windows : checks.windows.Summarizes ran

/-- The statistics are those of the checks that were submitted. -/
structure PassiveChecks.Summarizes (checks : PassiveChecks) (ran : List Timed) : Prop where
  latency : checks.latency.Summarizes (ran.map (·.check.latency))
  stateChange : checks.stateChange.Summarizes (ran.map (·.check.stateChange))
  windows : checks.windows.Summarizes ran

variable {ran : List Timed} {timed : Timed}

theorem ActiveChecks.Summarizes.count {checks : ActiveChecks} (h : checks.Summarizes ran)
    (hnumeric : timed.check.IsNumeric) :
    (checks.count timed.check timed.now).Summarizes (ran ++ [timed]) := by
  refine ⟨?_, ?_, ?_, h.windows.recordCheck timed⟩
  · rw [List.map_append]
    exact h.latency.push hnumeric.latency
  · rw [List.map_append]
    exact h.executionTime.push hnumeric.executionTime
  · rw [List.map_append]
    exact h.stateChange.push hnumeric.stateChange

theorem PassiveChecks.Summarizes.count {checks : PassiveChecks} (h : checks.Summarizes ran)
    (hnumeric : timed.check.IsNumeric) :
    (checks.count timed.check timed.now).Summarizes (ran ++ [timed]) := by
  refine ⟨?_, ?_, h.windows.recordCheck timed⟩
  · rw [List.map_append]
    exact h.latency.push hnumeric.latency
  · rw [List.map_append]
    exact h.stateChange.push hnumeric.stateChange

/-! ## Targets -/

/-- The checks of one origin. -/
def ofOrigin (origin : Origin) (ran : List Timed) : List Timed :=
  ran.filter fun timed => timed.check.origin = origin

/-- The parts of the statistics that keep the origins apart are those of the checks. -/
structure Target.SplitsByOrigin {τ : Type} [Tally τ] (target : Target τ) (ran : List Timed) :
    Prop where
  activeChecks : target.activeChecks = .ofNat (ofOrigin .active ran).length
  passiveChecks : target.passiveChecks = .ofNat (ofOrigin .passive ran).length
  active : target.active.Summarizes (ofOrigin .active ran)
  passive : target.passive.Summarizes (ofOrigin .passive ran)

/-- The statistics are those of so many entries and of the checks. -/
structure Target.Summarizes {τ : Type} [Tally τ] (target : Target τ) (entries : ℕ)
    (ran : List Timed) : Prop extends target.SplitsByOrigin ran where
  entries : target.entries = .ofNat entries
  stateChange : target.stateChange.Summarizes (ran.map (·.check.stateChange))
  states : target.states = tallied τ (ran.map (·.check.state))
  flapping : target.flapping = .ofNat (ran.countP (·.check.isFlapping))
  inDowntime : target.inDowntime = .ofNat (ran.countP (·.check.inDowntime))
  checked : target.checked = .ofNat (ran.countP (·.check.hasBeenChecked))
  scheduled : target.scheduled = .ofNat (ran.countP (·.check.shouldBeScheduled))

namespace Target

variable {τ : Type} [Tally τ] {target : Target τ} {entries : ℕ}

theorem summarizes_zero : ({} : Target τ).Summarizes 0 [] where
  entries := rfl
  activeChecks := rfl
  passiveChecks := rfl
  stateChange := Series.summarizes_nil
  active := ⟨Series.summarizes_nil, Series.summarizes_nil, Series.summarizes_nil, by
    intro span; cases span <;> rfl⟩
  passive := ⟨Series.summarizes_nil, Series.summarizes_nil, by intro span; cases span <;> rfl⟩
  states := rfl
  flapping := rfl
  inDowntime := rfl
  checked := rfl
  scheduled := rfl

/-- An entry changes nothing but the number of entries. -/
theorem Summarizes.countEntry (h : target.Summarizes entries ran) :
    target.countEntry.Summarizes (entries + 1) ran := by
  refine { h with entries := ?_ }
  rw [UInt64.ofNat_add, ← h.entries]
  rfl

/-- A check goes to the side of its origin, and leaves the other side alone. -/
theorem SplitsByOrigin.countOrigin (h : target.SplitsByOrigin ran)
    (hnumeric : timed.check.IsNumeric) :
    (target.countOrigin timed.check timed.now).SplitsByOrigin (ran ++ [timed]) := by
  cases horigin : timed.check.origin with
  | active =>
    have hactive : ofOrigin .active (ran ++ [timed]) = ofOrigin .active ran ++ [timed] := by
      simp [ofOrigin, horigin]
    have hpassive : ofOrigin .passive (ran ++ [timed]) = ofOrigin .passive ran := by
      simp [ofOrigin, horigin]
    rw [Target.countOrigin, horigin]
    refine ⟨?_, ?_, ?_, ?_⟩
    · rw [hactive, ofNat_length_snoc, ← h.activeChecks]
    · rw [hpassive]
      exact h.passiveChecks
    · rw [hactive]
      exact h.active.count hnumeric
    · rw [hpassive]
      exact h.passive
  | passive =>
    have hactive : ofOrigin .active (ran ++ [timed]) = ofOrigin .active ran := by
      simp [ofOrigin, horigin]
    have hpassive : ofOrigin .passive (ran ++ [timed]) = ofOrigin .passive ran ++ [timed] := by
      simp [ofOrigin, horigin]
    rw [Target.countOrigin, horigin]
    refine ⟨?_, ?_, ?_, ?_⟩
    · rw [hactive]
      exact h.activeChecks
    · rw [hpassive, ofNat_length_snoc, ← h.passiveChecks]
    · rw [hactive]
      exact h.active
    · rw [hpassive]
      exact h.passive.count hnumeric

/-- Counting a check under its origin changes nothing else. -/
theorem countOrigin_frame (target : Target τ) (check : Check) (now : Int64) :
    ∃ activeChecks passiveChecks active passive, target.countOrigin check now =
      { target with activeChecks, passiveChecks, active, passive } := by
  unfold Target.countOrigin
  cases check.origin
  · exact ⟨_, _, _, _, rfl⟩
  · exact ⟨_, _, _, _, rfl⟩

/-- A check is counted in every part of the statistics. -/
theorem Summarizes.count (h : target.Summarizes entries ran) (timed : Timed)
    (hnumeric : timed.check.IsNumeric) :
    (target.count timed.check timed.now).Summarizes entries (ran ++ [timed]) := by
  -- the parts by origin first; what else is counted does not see the origin
  have hsplits := h.toSplitsByOrigin.countOrigin hnumeric
  obtain ⟨activeChecks, passiveChecks, active, passive, hframe⟩ :=
    target.countOrigin_frame timed.check timed.now
  rw [hframe] at hsplits
  have hstates : tallied τ ((ran ++ [timed]).map (·.check.state)) =
      Tally.record (tallied τ (ran.map (·.check.state))) timed.check.state := by
    rw [List.map_append]
    exact List.foldl_concat ..
  unfold Target.count
  rw [hframe]
  refine ⟨⟨hsplits.activeChecks, hsplits.passiveChecks, hsplits.active, hsplits.passive⟩, h.entries,
    ?_, ?_, ?_, ?_, ?_, ?_⟩
  · rw [List.map_append]
    exact h.stateChange.pushOver hnumeric.stateChange _
  · rw [hstates, ← h.states]
  · rw [ofNat_countP_snoc, ← h.flapping]
  · rw [ofNat_countP_snoc, ← h.inDowntime]
  · rw [ofNat_countP_snoc, ← h.checked]
  · rw [ofNat_countP_snoc, ← h.scheduled]

end Target

end StatusDigest.Stats
