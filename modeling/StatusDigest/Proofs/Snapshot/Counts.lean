import StatusDigest.Proofs.Snapshot.Folding
import StatusDigest.Proofs.Dump.Reading
import Mathlib

/-!
# The counters of a snapshot as counts over a dump

Every counter of a snapshot is the number of lines or of closed blocks of which something holds:

* `Block.number` is what a block says about a field in unbounded integers;
* `Target.Counts`, `HostTally.Counts` and `ServiceTally.Counts` list the counters with what each of
  them counts;
* `Snapshot.ofSource_counts` is the result for all dumps with less than `2 ^ 64` lines.
-/

namespace StatusDigest

open Stats Dump

/-! ## What is counted -/

/-- The blocks of the kind that a reader of the source closes. -/
def Dump.Source.closedBlocks (source : Source) (kind : Kind) : List Block :=
  (Reader.ofSource source).events.filterMap (Event.closed? kind)

namespace Dump.Block

/-- The value of a field as an integer, or a default for a field that the block does not have. -/
def number (block : Block) (key : String) (default : ℤ) : ℤ :=
  (block.integer? key).elim default Int64.toInt

/-- The daemon ran the check. -/
def isActive (block : Block) : Bool :=
  block.number "check_type" 0 = 0

/-- The check ran within the span before the time. -/
def ranWithin (block : Block) (now : Int64) (span : WindowSpan) : Bool :=
  0 ≤ now.toInt - block.number "last_check" 0 ∧
    now.toInt - block.number "last_check" 0 ≤ 60 * span.minutes

/-- The block has the state that is written as the number. -/
def hasState (state : ℤ) (block : Block) : Bool :=
  block.number "current_state" 0 = state

/-- The block as it is counted at a time. -/
def timed (now : Int64) (block : Block) : Timed where
  check := block.check
  now := now

end Dump.Block

namespace Stats

/-- The counters are those of the blocks, seen from the time. -/
structure Target.Counts {τ : Type} [Tally τ] (target : Target τ) (blocks : List Block)
    (now : Int64) : Prop where
  activeChecks : target.activeChecks.toNat = blocks.countP Block.isActive
  passiveChecks : target.passiveChecks.toNat = blocks.countP (!·.isActive)
  activeWindows : ∀ span, (target.active.windows.within span).toNat =
    blocks.countP fun block => block.isActive && block.ranWithin now span
  passiveWindows : ∀ span, (target.passive.windows.within span).toNat =
    blocks.countP fun block => !block.isActive && block.ranWithin now span
  flapping : target.flapping.toNat = blocks.countP (0 < ·.number "is_flapping" 0)
  inDowntime : target.inDowntime.toNat = blocks.countP (0 < ·.number "scheduled_downtime_depth" 0)
  checked : target.checked.toNat = blocks.countP (0 < ·.number "has_been_checked" 1)
  scheduled : target.scheduled.toNat = blocks.countP (0 < ·.number "should_be_scheduled" 1)
  samples : target.stateChange.count.toNat = blocks.length
  activeSamples : target.active.latency.count = target.activeChecks ∧
    target.active.executionTime.count = target.activeChecks ∧
    target.active.stateChange.count = target.activeChecks
  passiveSamples : target.passive.latency.count = target.passiveChecks ∧
    target.passive.stateChange.count = target.passiveChecks

/-- The tally is that of the blocks. -/
structure HostTally.Counts (tally : HostTally) (blocks : List Block) : Prop where
  up : tally.up.toNat = blocks.countP (Block.hasState 0)
  down : tally.down.toNat = blocks.countP (Block.hasState 1)
  unreachable : tally.unreachable.toNat = blocks.countP (Block.hasState 2)

/-- The tally is that of the blocks. -/
structure ServiceTally.Counts (tally : ServiceTally) (blocks : List Block) : Prop where
  ok : tally.ok.toNat = blocks.countP (Block.hasState 0)
  warning : tally.warning.toNat = blocks.countP (Block.hasState 1)
  critical : tally.critical.toNat = blocks.countP (Block.hasState 2)
  unknown : tally.unknown.toNat = blocks.countP (Block.hasState 3)

end Stats

/-- The counters are those of the dump, seen from the time: entries are marker lines, and everything
else counts closed blocks. -/
structure Snapshot.Counts (snapshot : Snapshot) (source : Source) (now : Int64) : Prop where
  hostEntries : snapshot.hosts.entries.toNat =
    (textsOf source.bytes).countP (Opens · .host)
  hosts : snapshot.hosts.Counts (source.closedBlocks .host) now
  hostStates : snapshot.hosts.states.Counts (source.closedBlocks .host)
  serviceEntries : snapshot.services.entries.toNat =
    (textsOf source.bytes).countP (Opens · .service)
  services : snapshot.services.Counts (source.closedBlocks .service) now
  serviceStates : snapshot.services.states.Counts (source.closedBlocks .service)

/-! ## The fields of a check -/

namespace Dump.Block

variable (block : Block)

theorem isActive_eq : block.isActive = decide (block.check.origin = .active) := by
  unfold isActive number Block.check
  cases block.integer? "check_type" with
  | none => rfl
  | some number =>
    have hzero : number.toInt = 0 ↔ number = 0 := Int64.toInt_inj (y := 0)
    by_cases h : number = 0
    · simp [originOf, h]
    · simp [originOf, h, mt hzero.1 h]

theorem toInt_lastCheck : block.check.lastCheck.toInt = block.number "last_check" 0 := by
  unfold number Block.check
  cases block.integer? "last_check" <;> rfl

theorem ranWithin_timed (now : Int64) (span : WindowSpan) :
    (block.timed now).ranWithin span = block.ranWithin now span := by
  unfold Timed.ranWithin ranWithin Timed.age
  rw [← toInt_lastCheck]
  rfl

theorem hasState_eq (state : Int64) :
    block.hasState state.toInt = decide (block.check.state = state) := by
  have hstate : block.check.state.toInt = block.number "current_state" 0 := by
    unfold number Block.check
    cases block.integer? "current_state" <;> rfl
  unfold hasState
  rw [← hstate]
  exact decide_eq_decide.2 Int64.toInt_inj

theorem inDowntime_check :
    block.check.inDowntime = decide (0 < block.number "scheduled_downtime_depth" 0) := by
  have hdepth : block.check.downtimeDepth.toInt = block.number "scheduled_downtime_depth" 0 := by
    unfold number Block.check
    cases block.integer? "scheduled_downtime_depth" <;> rfl
  rw [← hdepth]
  exact decide_eq_decide.2 Int64.lt_iff_toInt_lt

/-- A flag that a block does not have is set or not by its default. -/
theorem flag_eq (key : String) (default : Bool) :
    (block.get? key).elim default Field.flag =
      decide (0 < block.number key (if default then 1 else 0)) := by
  unfold number Block.integer?
  cases block.get? key with
  | none => cases default <;> rfl
  | some raw => exact decide_eq_decide.2 Int64.lt_iff_toInt_lt

end Dump.Block

/-! ## From summaries to counts -/

section Counts

variable {blocks : List Block} {now : Int64}

theorem countP_timed (p : Timed → Bool) :
    (blocks.map (Block.timed now)).countP p = blocks.countP fun block => p (block.timed now) := by
  rw [List.countP_map]
  rfl

theorem countP_active (p : Timed → Bool) :
    (ofOrigin .active (blocks.map (Block.timed now))).countP p =
      blocks.countP fun block => block.isActive && p (block.timed now) := by
  rw [ofOrigin, List.countP_filter, countP_timed]
  congr 1
  funext block
  rw [block.isActive_eq, Bool.and_comm]
  rfl

theorem countP_passive (p : Timed → Bool) :
    (ofOrigin .passive (blocks.map (Block.timed now))).countP p =
      blocks.countP fun block => !block.isActive && p (block.timed now) := by
  rw [ofOrigin, List.countP_filter, countP_timed]
  congr 1
  funext block
  have horigin : (block.timed now).check.origin = block.check.origin := rfl
  rw [block.isActive_eq, Bool.and_comm, horigin]
  cases block.check.origin <;> rfl

/-- Statistics of blocks that fit into their words count these blocks. -/
theorem Stats.Target.Summarizes.counts {τ : Type} [Tally τ] {target : Target τ} {entries : ℕ}
    (h : target.Summarizes entries (blocks.map (Block.timed now)))
    (hfits : blocks.length < 2 ^ 64) : target.Counts blocks now := by
  have hactive : (ofOrigin .active (blocks.map (Block.timed now))).length =
      blocks.countP Block.isActive := by
    rw [← List.countP_true, countP_active]
    simp
  have hpassive : (ofOrigin .passive (blocks.map (Block.timed now))).length =
      blocks.countP (!·.isActive) := by
    rw [← List.countP_true, countP_passive]
    simp
  -- a counter of all checks counts the blocks of which the field of the check holds
  have hcounter : ∀ (p : Timed → Bool) (q : Block → Bool), (∀ block, p (block.timed now) = q block) →
      (UInt64.ofNat ((blocks.map (Block.timed now)).countP p)).toNat = blocks.countP q := by
    intro p q hpq
    rw [countP_timed, toNat_ofNat_countP hfits]
    congr 1
    funext block
    exact hpq block
  constructor
  case activeChecks => rw [h.activeChecks, hactive, toNat_ofNat_countP hfits]
  case passiveChecks => rw [h.passiveChecks, hpassive, toNat_ofNat_countP hfits]
  case activeWindows =>
    intro span
    simp only [h.active.windows span, countP_active, Block.ranWithin_timed]
    exact toNat_ofNat_countP hfits _
  case passiveWindows =>
    intro span
    simp only [h.passive.windows span, countP_passive, Block.ranWithin_timed]
    exact toNat_ofNat_countP hfits _
  case flapping =>
    rw [h.flapping]
    exact hcounter _ _ fun block => block.flag_eq "is_flapping" false
  case inDowntime =>
    rw [h.inDowntime]
    exact hcounter _ _ fun block => block.inDowntime_check
  case checked =>
    rw [h.checked]
    exact hcounter _ _ fun block => block.flag_eq "has_been_checked" true
  case scheduled =>
    rw [h.scheduled]
    exact hcounter _ _ fun block => block.flag_eq "should_be_scheduled" true
  case samples =>
    have hlength : ((blocks.map (Block.timed now)).map (·.check.stateChange)).length < 2 ^ 64 := by
      simpa using hfits
    rw [h.stateChange.toNat_count hlength]
    simp
  case activeSamples =>
    rw [h.active.latency.count, h.active.executionTime.count, h.active.stateChange.count,
      h.activeChecks]
    simp
  case passiveSamples =>
    rw [h.passive.latency.count, h.passive.stateChange.count, h.passiveChecks]
    simp

theorem countP_state (state : Int64) :
    ((blocks.map (Block.timed now)).map (·.check.state)).countP (· = state) =
      blocks.countP (Block.hasState state.toInt) := by
  rw [List.countP_map, List.countP_map]
  congr 1
  funext block
  exact (block.hasState_eq state).symm

theorem Stats.HostTally.counts_tallied (hfits : blocks.length < 2 ^ 64) :
    (tallied HostTally ((blocks.map (Block.timed now)).map (·.check.state))).Counts blocks := by
  have h := HostTally.summarizes_tallied ((blocks.map (Block.timed now)).map (·.check.state))
  refine ⟨?_, ?_, ?_⟩
  · rw [h.up, countP_state, toNat_ofNat_countP hfits]
    rfl
  · rw [h.down, countP_state, toNat_ofNat_countP hfits]
    rfl
  · rw [h.unreachable, countP_state, toNat_ofNat_countP hfits]
    rfl

theorem Stats.ServiceTally.counts_tallied (hfits : blocks.length < 2 ^ 64) :
    (tallied ServiceTally ((blocks.map (Block.timed now)).map (·.check.state))).Counts blocks := by
  have h := ServiceTally.summarizes_tallied ((blocks.map (Block.timed now)).map (·.check.state))
  refine ⟨?_, ?_, ?_, ?_⟩
  · rw [h.ok, countP_state, toNat_ofNat_countP hfits]
    rfl
  · rw [h.warning, countP_state, toNat_ofNat_countP hfits]
    rfl
  · rw [h.critical, countP_state, toNat_ofNat_countP hfits]
    rfl
  · rw [h.unknown, countP_state, toNat_ofNat_countP hfits]
    rfl

end Counts

/-! ## The run of a dump -/

section Dump

variable {source : Source} {now : Int64} {kind : Kind}

theorem checksOf_runOf :
    checksOf kind (Snapshot.runOf source now) =
      (source.closedBlocks kind).map (Block.timed now) := by
  rw [checksOf, Snapshot.runOf, Source.closedBlocks, List.filterMap_map, List.map_filterMap]
  rfl

theorem openings_runOf (hends : source.failure = none) (hentry : kind.isEntry = true) :
    openings kind (Snapshot.runOf source now) = (textsOf source.bytes).countP (Opens · kind) := by
  rw [openings, Snapshot.runOf, List.countP_map]
  show (Reader.ofSource source).events.countP (Event.opens kind) = _
  rw [Reader.events_ofSource hends, countP_opens_eventsFrom hentry, List.countP_map]
  congr 1
  funext text
  exact decide_eq_decide.2 Line.ofText_eq_opening_iff

theorem length_closedBlocks_le (hends : source.failure = none) :
    (source.closedBlocks kind).length ≤ (linesOf source.bytes).length := by
  calc (source.closedBlocks kind).length
      ≤ (Reader.ofSource source).events.length := List.length_filterMap_le _ _
    _ ≤ ((textsOf source.bytes).map Line.ofText).length := by
        rw [Reader.events_ofSource hends]
        exact length_eventsFrom_le _ _
    _ = (linesOf source.bytes).length := by simp [textsOf]

end Dump

/-! ## The result -/

/-- A dump that ends well gives a snapshot, and all counters of the snapshot are exact counts over
the text of the dump. -/
theorem Snapshot.ofSource_counts (source : Source) (now : Int64) (hends : source.failure = none)
    (hfits : (linesOf source.bytes).length < 2 ^ 64) :
    ∃ snapshot, Snapshot.ofSource source now = .ok snapshot ∧ snapshot.Counts source now := by
  -- what the run has counted, read off the dump
  obtain ⟨hhosts, hservices⟩ := Snapshot.summarizes_afterRun (Snapshot.runOf source now)
  rw [checksOf_runOf, openings_runOf hends rfl] at hhosts hservices
  -- no more blocks are closed than there are lines, so that every number fits
  have hblocks : ∀ kind, (source.closedBlocks kind).length < 2 ^ 64 := fun kind =>
    (length_closedBlocks_le hends).trans_lt hfits
  have htexts : (textsOf source.bytes).length < 2 ^ 64 := by simpa [textsOf] using hfits
  refine ⟨_, Snapshot.ofSource_eq_afterRun hends now, ?_, ?_, ?_, ?_, ?_, ?_⟩
  · rw [hhosts.entries, toNat_ofNat_countP htexts]
  · exact hhosts.counts (hblocks .host)
  · rw [hhosts.states]
    exact HostTally.counts_tallied (hblocks .host)
  · rw [hservices.entries, toNat_ofNat_countP htexts]
  · exact hservices.counts (hblocks .service)
  · rw [hservices.states]
    exact ServiceTally.counts_tallied (hblocks .service)

/-- A dump with an abandoned host, a service whose check is too far away to have an age in 64 bits,
one without fields, and a host that is unreachable. -/
def crowdedDump : Source where
  chunks :=
    ["host \x7b\nservicestatus \x7b\ncheck_type=1\nlast_check=-9223372036854775808\nis_fl",
      "apping=2\n\x7d\nservice \x7b\n\x7d\nhost \x7b\ncurrent_state=2\nlast_check=9\n\x7d"].map
      Text.Utf8.encode

theorem Snapshot.ofSource_counts_crowded :
    crowdedDump.failure = none ∧ (linesOf crowdedDump.bytes).length < 2 ^ 64 ∧
      ∃ snapshot, Snapshot.ofSource crowdedDump 60 = .ok snapshot ∧
        snapshot.Counts crowdedDump 60 := by
  have hfits : (linesOf crowdedDump.bytes).length < 2 ^ 64 := by decide +kernel
  exact ⟨rfl, hfits, Snapshot.ofSource_counts crowdedDump 60 rfl hfits⟩

end StatusDigest
