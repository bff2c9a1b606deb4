import StatusDigest.Proofs.Snapshot.Folding
import Mathlib

/-!
# Snapshots are consistent

Whatever a source holds, and at whatever event a run is stopped, the statistics fit together:

* `Target.Consistent` lists how the counters and the series of a target fit together, and
  `Target.Summarizes.consistent` derives it from what a target holds after a run;
* `length_checksOf_le`: no more checks have been counted than entries, because the reader announces
  every block that it closes;
* `Snapshot.afterRun_consistent` is the result for every part of every run.
-/

namespace StatusDigest

open Stats Dump

/-! ## How statistics fit together -/

/-- The windows are nested, and lie within the checks of their origin. -/
structure Stats.Windows.Nested (windows : Windows) (checks : UInt64) : Prop where
  one : windows.last1 ≤ windows.last5
  five : windows.last5 ≤ windows.last15
  fifteen : windows.last15 ≤ windows.last60
  sixty : windows.last60 ≤ checks

/-- The counters and the series of a target fit together. -/
structure Stats.Target.Consistent {τ : Type} [Tally τ] (target : Target τ) : Prop where
  checks : target.activeChecks.toNat + target.passiveChecks.toNat =
    target.stateChange.count.toNat
  announced : target.stateChange.count ≤ target.entries
  activeLatency : target.active.latency.count = target.activeChecks
  activeExecutionTime : target.active.executionTime.count = target.activeChecks
  activeStateChange : target.active.stateChange.count = target.activeChecks
  passiveLatency : target.passive.latency.count = target.passiveChecks
  passiveStateChange : target.passive.stateChange.count = target.passiveChecks
  activeWindows : target.active.windows.Nested target.activeChecks
  passiveWindows : target.passive.windows.Nested target.passiveChecks
  flapping : target.flapping.toNat ≤ target.activeChecks.toNat + target.passiveChecks.toNat
  inDowntime : target.inDowntime.toNat ≤ target.activeChecks.toNat + target.passiveChecks.toNat
  checked : target.checked.toNat ≤ target.activeChecks.toNat + target.passiveChecks.toNat
  scheduled : target.scheduled.toNat ≤ target.activeChecks.toNat + target.passiveChecks.toNat
  series : ∀ series ∈ [target.stateChange, target.active.latency, target.active.executionTime,
    target.active.stateChange, target.passive.latency, target.passive.stateChange],
    series.Consistent
  minimum : SameNumber target.stateChange.minimum
    (smaller target.active.stateChange.minimum target.passive.stateChange.minimum)
  maximum : SameNumber target.stateChange.maximum
    (larger target.active.stateChange.maximum target.passive.stateChange.maximum)

/-- The next check would stand in the population of all entries, because there are enough of
them. -/
def Stats.Target.Unclamped {τ : Type} [Tally τ] (target : Target τ) : Prop :=
  max target.entries (target.stateChange.count + 1) = target.entries

/-- The statistics of hosts and of services are consistent, and no state is counted twice. -/
structure Snapshot.Consistent (snapshot : Snapshot) : Prop where
  hosts : snapshot.hosts.Consistent
  hostStates : snapshot.hosts.states.up.toNat + snapshot.hosts.states.down.toNat +
      snapshot.hosts.states.unreachable.toNat ≤
    snapshot.hosts.activeChecks.toNat + snapshot.hosts.passiveChecks.toNat
  services : snapshot.services.Consistent
  serviceStates : snapshot.services.states.ok.toNat + snapshot.services.states.warning.toNat +
      snapshot.services.states.critical.toNat + snapshot.services.states.unknown.toNat ≤
    snapshot.services.activeChecks.toNat + snapshot.services.passiveChecks.toNat

/-- A check of the kind would stand in a population that needs no clamp. -/
structure Snapshot.UnclampedFor (snapshot : Snapshot) (kind : Kind) : Prop where
  hosts : kind = .host → snapshot.hosts.Unclamped
  services : kind = .service → snapshot.services.Unclamped

/-! ## From summaries to consistency -/

namespace Stats

variable {ran : List Timed}

/-- A check that falls in a window falls in every longer one. -/
theorem Windows.Summarizes.nested {windows : Windows} (h : windows.Summarizes ran)
    (hfits : ran.length < 2 ^ 64) : windows.Nested (.ofNat ran.length) := by
  have hlonger : ∀ span span', WindowSpan.minutes span ≤ WindowSpan.minutes span' →
      windows.within span ≤ windows.within span' := by
    intro span span' hspan
    rw [h span, h span']
    refine ofNat_le_ofNat ?_ (List.countP_le_length.trans_lt hfits)
    apply List.countP_mono_left
    intro timed _ hran
    simp only [Timed.ranWithin, decide_eq_true_eq] at hran ⊢
    omega
  refine ⟨?_, ?_, ?_, ?_⟩
  · exact hlonger .one .five (by decide)
  · exact hlonger .five .fifteen (by decide)
  · exact hlonger .fifteen .sixty (by decide)
  · show windows.within .sixty ≤ _
    rw [h .sixty]
    exact ofNat_le_ofNat List.countP_le_length hfits

/-- Every check has one of the two origins. -/
theorem ofOrigin_perm (ran : List Timed) :
    ran.Perm (ofOrigin .active ran ++ ofOrigin .passive ran) := by
  have hpassive : ofOrigin .passive ran =
      ran.filter fun timed => !decide (timed.check.origin = .active) := by
    rw [ofOrigin]
    congr 1
    funext timed
    cases timed.check.origin <;> rfl
  rw [hpassive]
  exact (List.filter_append_perm _ ran).symm

theorem length_ofOrigin_add (ran : List Timed) :
    (ofOrigin .active ran).length + (ofOrigin .passive ran).length = ran.length := by
  rw [(ofOrigin_perm ran).length_eq, List.length_append]

/-- A target is consistent after its checks if there were at least as many entries, and the number
of entries fits. -/
theorem Target.Summarizes.consistent {τ : Type} [Tally τ] {target : Target τ} {entries : ℕ}
    (h : target.Summarizes entries ran) (hannounced : ran.length ≤ entries)
    (hfits : entries < 2 ^ 64) : target.Consistent := by
  -- the entries bound every number below, so that none of them wraps around
  have hran : ran.length < 2 ^ 64 := hannounced.trans_lt hfits
  have hsum := length_ofOrigin_add ran
  have hactive : (ofOrigin .active ran).length < 2 ^ 64 := by omega
  have hpassive : (ofOrigin .passive ran).length < 2 ^ 64 := by omega
  have hchecks : target.activeChecks.toNat + target.passiveChecks.toNat = ran.length := by
    rw [h.activeChecks, h.passiveChecks, UInt64.toNat_ofNat_of_lt' hactive,
      UInt64.toNat_ofNat_of_lt' hpassive, hsum]
  have hcounter : ∀ p : Timed → Bool, (UInt64.ofNat (ran.countP p)).toNat ≤
      target.activeChecks.toNat + target.passiveChecks.toNat := by
    intro p
    rw [hchecks, toNat_ofNat_countP hran]
    exact List.countP_le_length
  have hsplit : (ran.map (·.check.stateChange)).Perm
      ((ofOrigin .active ran).map (·.check.stateChange) ++
        (ofOrigin .passive ran).map (·.check.stateChange)) := by
    rw [← List.map_append]
    exact (ofOrigin_perm ran).map _
  constructor
  case checks => rw [hchecks, h.stateChange.toNat_count (by simpa using hran), List.length_map]
  case announced =>
    rw [h.stateChange.count, h.entries, List.length_map]
    exact ofNat_le_ofNat hannounced hfits
  case activeLatency => rw [h.active.latency.count, h.activeChecks, List.length_map]
  case activeExecutionTime => rw [h.active.executionTime.count, h.activeChecks, List.length_map]
  case activeStateChange => rw [h.active.stateChange.count, h.activeChecks, List.length_map]
  case passiveLatency => rw [h.passive.latency.count, h.passiveChecks, List.length_map]
  case passiveStateChange => rw [h.passive.stateChange.count, h.passiveChecks, List.length_map]
  case activeWindows =>
    rw [h.activeChecks]
    exact h.active.windows.nested hactive
  case passiveWindows =>
    rw [h.passiveChecks]
    exact h.passive.windows.nested hpassive
  case flapping =>
    rw [h.flapping]
    exact hcounter _
  case inDowntime =>
    rw [h.inDowntime]
    exact hcounter _
  case checked =>
    rw [h.checked]
    exact hcounter _
  case scheduled =>
    rw [h.scheduled]
    exact hcounter _
  case series =>
    simp only [List.forall_mem_cons, List.not_mem_nil, false_implies, implies_true, and_true]
    refine ⟨?_, ?_, ?_, ?_, ?_, ?_⟩
    · exact h.stateChange.consistent (by simpa using hran)
    · exact h.active.latency.consistent (by simpa using hactive)
    · exact h.active.executionTime.consistent (by simpa using hactive)
    · exact h.active.stateChange.consistent (by simpa using hactive)
    · exact h.passive.latency.consistent (by simpa using hpassive)
    · exact h.passive.stateChange.consistent (by simpa using hpassive)
  case minimum =>
    exact h.stateChange.minimum_split h.active.stateChange h.passive.stateChange hsplit
  case maximum =>
    exact h.stateChange.maximum_split h.active.stateChange h.passive.stateChange hsplit

/-! ## States are counted once -/

/-- A number is at most one of the four. -/
theorem countP_states_le (states : List Int64) :
    states.countP (· = 0) + states.countP (· = 1) + states.countP (· = 2) +
      states.countP (· = 3) ≤ states.length := by
  induction states with
  | nil => simp
  | cons state rest ih =>
    -- the numbers are compared as integers, which tells them apart
    have hone : (if state = 0 then 1 else 0) + (if state = 1 then 1 else 0) +
        (if state = 2 then 1 else 0) + (if state = 3 then 1 else 0) ≤ 1 := by
      simp only [← Int64.toInt_inj, show (0 : Int64).toInt = 0 from rfl,
        show (1 : Int64).toInt = 1 from rfl, show (2 : Int64).toInt = 2 from rfl,
        show (3 : Int64).toInt = 3 from rfl]
      split_ifs <;> omega
    simp only [List.countP_cons, List.length_cons, decide_eq_true_eq]
    omega

/-- The states of services, all together, are no more than the services. -/
theorem ServiceTally.total_le {states : List Int64} (hfits : states.length < 2 ^ 64) :
    (tallied ServiceTally states).ok.toNat + (tallied ServiceTally states).warning.toNat +
      (tallied ServiceTally states).critical.toNat +
      (tallied ServiceTally states).unknown.toNat ≤ states.length := by
  have h := ServiceTally.summarizes_tallied states
  rw [h.ok, h.warning, h.critical, h.unknown]
  simp only [toNat_ofNat_countP hfits]
  exact countP_states_le states

/-- The same for hosts. -/
theorem HostTally.total_le {states : List Int64} (hfits : states.length < 2 ^ 64) :
    (tallied HostTally states).up.toNat + (tallied HostTally states).down.toNat +
      (tallied HostTally states).unreachable.toNat ≤ states.length := by
  have h := HostTally.summarizes_tallied states
  rw [h.up, h.down, h.unreachable]
  simp only [toNat_ofNat_countP hfits]
  have hle := countP_states_le states
  omega

end Stats

/-! ## Runs of a reader -/

variable {source : Source} {run : Run} {kind : Kind}

theorem openings_eq_countP (kind : Kind) (run : Run) :
    openings kind run = (run.map Prod.snd).countP (Event.opens kind) := by
  rw [openings, List.countP_map]
  rfl

theorem length_checksOf (kind : Kind) (run : Run) :
    (checksOf kind run).length = (run.map Prod.snd).countP (Event.closes kind) := by
  rw [checksOf, List.length_filterMap_eq_countP, List.countP_map]
  congr 1
  funext step
  simp [checkOf?, Event.closes]

theorem openings_le_length (kind : Kind) (run : Run) : openings kind run ≤ run.length :=
  List.countP_le_length

/-- No block is open at the start of a source. -/
theorem isOpen_ofSource (kind : Kind) (source : Source) :
    isOpen kind (Reader.ofSource source).current = 0 := by
  simp [isOpen, Reader.ofSource]

/-- No more checks are counted than entries. -/
theorem length_checksOf_le (hentry : kind.isEntry = true)
    (hrun : run.map Prod.snd <+: (Reader.ofSource source).events) :
    (checksOf kind run).length ≤ openings kind run := by
  have hle := countP_closes_le hentry hrun
  rw [isOpen_ofSource] at hle
  rw [length_checksOf, openings_eq_countP]
  exact hle

/-- When a block is closed next, there is an entry more than checks that have been counted. -/
theorem length_checksOf_lt {block : Block} (hentry : block.kind.isEntry = true)
    (hnext : run.map Prod.snd ++ [.closed block] <+: (Reader.ofSource source).events) :
    (checksOf block.kind run).length < openings block.kind run := by
  have hle := countP_closes_le hentry hnext
  rw [isOpen_ofSource, List.countP_append, List.countP_append] at hle
  have hcloses : [Event.closed block].countP (Event.closes block.kind) = 1 := by
    simp [Event.closes, Event.closed?]
  have hopens : [Event.closed block].countP (Event.opens block.kind) = 0 := by simp [Event.opens]
  rw [length_checksOf, openings_eq_countP]
  omega

/-- With an entry more than checks, the next check finds a population that is large enough. -/
theorem Stats.Target.Summarizes.unclamped {τ : Type} [Tally τ] {target : Target τ} {entries : ℕ}
    {ran : List Timed} (h : target.Summarizes entries ran) (hlt : ran.length < entries)
    (hfits : entries < 2 ^ 64) : target.Unclamped := by
  have hnext : target.stateChange.count + 1 = .ofNat (ran.length + 1) := by
    rw [h.stateChange.count, List.length_map, UInt64.ofNat_add]
    rfl
  have hle : UInt64.ofNat (ran.length + 1) ≤ .ofNat entries := ofNat_le_ofNat hlt hfits
  rw [Target.Unclamped, hnext, h.entries]
  show (if _ ≤ _ then _ else _) = _
  split
  · rename_i hge
    exact UInt64.le_antisymm hle hge
  · rfl

/-! ## The result -/

/-- At whatever event a run over a source is stopped, whether the source fails or not and whatever
times the events are folded in from, the snapshot is consistent, and the next block that is closed
needs no clamp. -/
theorem Snapshot.afterRun_consistent (source : Source) (run : Run)
    (hrun : run.map Prod.snd <+: (Reader.ofSource source).events) (hfits : run.length < 2 ^ 64) :
    (afterRun run).Consistent ∧
      ∀ block, run.map Prod.snd ++ [.closed block] <+: (Reader.ofSource source).events →
        (afterRun run).UnclampedFor block.kind := by
  obtain ⟨hhosts, hservices⟩ := summarizes_afterRun run
  have hopenings : ∀ kind, openings kind run < 2 ^ 64 := fun kind =>
    (openings_le_length kind run).trans_lt hfits
  have hchecks : ∀ kind : Kind, kind.isEntry = true →
      ((checksOf kind run).map (·.check.state)).length < 2 ^ 64 := by
    intro kind hentry
    rw [List.length_map]
    exact (length_checksOf_le hentry hrun).trans_lt (hopenings kind)
  have hhostsConsistent := hhosts.consistent (length_checksOf_le rfl hrun) (hopenings .host)
  have hservicesConsistent :=
    hservices.consistent (length_checksOf_le rfl hrun) (hopenings .service)
  refine ⟨⟨hhostsConsistent, ?_, hservicesConsistent, ?_⟩, ?_⟩
  · have hsamples := hhosts.stateChange.toNat_count (by simpa using hchecks .host rfl)
    rw [hhostsConsistent.checks, hsamples, hhosts.states, List.length_map]
    simpa using HostTally.total_le (hchecks .host rfl)
  · have hsamples := hservices.stateChange.toNat_count (by simpa using hchecks .service rfl)
    rw [hservicesConsistent.checks, hsamples, hservices.states, List.length_map]
    simpa using ServiceTally.total_le (hchecks .service rfl)
  · -- the block that is closed next was announced, and is not among the checks yet
    intro block hnext
    constructor
    · intro hkind
      have hlt := length_checksOf_lt (by rw [hkind]; rfl) hnext
      rw [hkind] at hlt
      exact hhosts.unclamped hlt (hopenings .host)
    · intro hkind
      have hlt := length_checksOf_lt (by rw [hkind]; rfl) hnext
      rw [hkind] at hlt
      exact hservices.unclamped hlt (hopenings .service)

/-- A source that fails in the middle of a host, after an abandoned host, a number beyond all
doubles, a stray brace and octets that are no text. -/
def failingDump : Source where
  chunks :=
    [Text.Utf8.encode "host \x7b\nhost \x7b\ncheck_latency=-0.5e400 s\n\x7d\n\x7d\nserv",
      Text.Utf8.encode "ice \x7b\ncheck_type=1\n", [0xFF, 0xC2],
      Text.Utf8.encode "percent_state_change=6.25\n\x7d\n",
      Text.Utf8.encode "host \x7b\nis_flapping=1\n\x7d\nhost \x7b\nlast_check="]
  failure := some "connection lost"

/-- The host that comes after an active and a passive check. -/
def lastHost : Block :=
  ({ kind := .host } : Block).put "is_flapping" "1"

/-- The events before that host is closed, folded in from different times. Two hosts and a service
have been opened by then, and one host and the service closed. -/
def failingRun : Run :=
  [(100, .opened .host), (90, .opened .host),
   (80, .closed (({ kind := .host } : Block).put "check_latency" "-0.5e400 s")),
   (110, .opened .service),
   (120, .closed ((({ kind := .service } : Block).put "check_type" "1").put
     "\ufffd\ufffdpercent_state_change" "6.25")),
   (120, .opened .host)]

theorem Snapshot.afterRun_consistent_failing :
    failingRun.map Prod.snd <+: (Reader.ofSource failingDump).events ∧
      failingRun.length < 2 ^ 64 ∧ (afterRun failingRun).Consistent ∧
      (afterRun failingRun).hosts.activeChecks = 1 ∧
      (afterRun failingRun).services.passiveChecks = 1 ∧
      failingRun.map Prod.snd ++ [.closed lastHost] <+: (Reader.ofSource failingDump).events ∧
      (afterRun failingRun).UnclampedFor .host := by
  have hlines : (Reader.ofSource failingDump).lines =
      [.opening .host, .opening .host, .field "check_latency" "-0.5e400 s", .closing, .closing,
        .opening .service, .field "check_type" "1",
        .field "\ufffd\ufffdpercent_state_change" "6.25", .closing,
        .opening .host, .field "is_flapping" "1", .closing, .opening .host] := by
    decide +kernel
  have hnext : failingRun.map Prod.snd ++ [.closed lastHost] <+:
      (Reader.ofSource failingDump).events := by
    rw [Reader.events, hlines]
    exact ⟨[.opened .host], rfl⟩
  have hrun : failingRun.map Prod.snd <+: (Reader.ofSource failingDump).events :=
    (List.prefix_append _ _).trans hnext
  have hfits : failingRun.length < 2 ^ 64 := by decide
  obtain ⟨hconsistent, hunclamped⟩ :=
    Snapshot.afterRun_consistent failingDump failingRun hrun hfits
  exact ⟨hrun, hfits, hconsistent, by decide +kernel, by decide +kernel, hnext,
    hunclamped lastHost hnext⟩

end StatusDigest
