import StatusDigest.Proofs.Snapshot.Samples
import StatusDigest.Proofs.Stats.Averages
import Mathlib

/-!
# The average over a dump

The state changes of hosts, and those of services, are averaged over the entries that have been
opened, and not over the blocks that have been closed. In a dump that closes what it opens this is
no difference:

* `Source.ClosesEach` says of a dump that each block of a kind is closed before the next marker;
* `opened_of_populated`: in such a dump, as many blocks have been opened when a block is closed as
  have been closed with it. The invariant is that no more blocks have been opened than closed,
  except for the one that is open;
* `Snapshot.averages_without_rounding` is the result: without rounding, the average over the entries
  is the mean over the closed blocks.
-/

namespace StatusDigest

open Stats Dump Mrtg

/-! ## Dumps that close what they open -/

namespace Dump

/-- Between a marker of the kind and the next marker of any kind there is a brace. -/
def Source.ClosesEach (source : Source) (kind : Kind) : Prop :=
  ∀ (i j : ℕ) (text other : List Char), i < j →
    (textsOf source.bytes)[i]? = some text → Opens text kind →
      (textsOf source.bytes)[j]? = some other → IsMarker other →
        ∃ (m : ℕ) (brace : List Char), i < m ∧ m < j ∧
          (textsOf source.bytes)[m]? = some brace ∧ Closes brace

/-- No block of the kind is open where a line is a marker. -/
def OpensFresh (kind : Kind) (current : Option Block) (lines : List Line) : Prop :=
  ∀ (j : ℕ) (found : Kind), lines[j]? = some (.opening found) →
    isOpen kind (blockBefore current lines j) = 0

theorem Source.ClosesEach.opensFresh {source : Source} {kind : Kind} (h : source.ClosesEach kind) :
    OpensFresh kind none ((textsOf source.bytes).map Line.ofText) := by
  intro j found hread
  rw [List.getElem?_map, Option.map_eq_some_iff] at hread
  obtain ⟨text, hline, hopening⟩ := hread
  have hj : j < (textsOf source.bytes).length := (List.getElem?_eq_some_iff.1 hline).1
  have hmarker : IsMarker text := ⟨found, Line.ofText_eq_opening_iff.1 hopening⟩
  have htracks := tracks_blockBefore (textsOf source.bytes) hj.le
  cases hblock : blockBefore none ((textsOf source.bytes).map Line.ofText) j with
  | none => rfl
  | some block =>
    rw [isOpen_some, if_neg]
    intro hkind
    -- a block that were open here would have been closed by the brace behind its marker
    rw [hblock] at htracks
    obtain ⟨i, hopen, -⟩ := htracks
    obtain ⟨marker, hopened, hopens⟩ := hopen.opened
    rw [hkind] at hopens
    obtain ⟨m, brace, him, hmj, hbrace, hcloses⟩ :=
      h i j marker text hopen.before hopened hopens hline hmarker
    exact (hopen.unended m brace him hmj hbrace).2 hcloses

theorem OpensFresh.rest {kind : Kind} {current : Option Block} {line : Line} {rest : List Line}
    (h : OpensFresh kind current (line :: rest)) :
    OpensFresh kind (line.apply current).2 rest := by
  intro j found hread
  exact h (j + 1) found hread

end Dump

/-- With each block that is closed, as many blocks have been opened as have been closed.

The invariant is about the numbers before the lines: as many blocks have been opened as have been
closed, and one more if one is open. -/
theorem opened_of_populated {kind : Kind} (hentry : kind.isEntry = true) {current : Option Block}
    {lines : List Line} (hfresh : OpensFresh kind current lines) {opened closed : ℕ}
    (hbalance : opened = closed + isOpen kind current) {n : ℕ} {pair : Block × ℕ}
    (hpair : (populated kind opened (eventsFrom current lines))[n]? = some pair) :
    pair.2 = closed + n + 1 := by
  induction lines generalizing current opened closed n with
  | nil => simp [eventsFrom, populated] at hpair
  | cons line rest ih =>
    rw [eventsFrom_cons] at hpair
    cases line with
    | opening found =>
      -- the marker finds no block of the kind open, so that the numbers are the same before it
      have hnone : isOpen kind current = 0 := hfresh 0 found rfl
      rw [hnone, Nat.add_zero] at hbalance
      have hcounted : opened + (if found = kind then 1 else 0) =
          closed + isOpen kind ((Line.opening found).apply current).2 := by
        simp [hbalance, Line.apply, isOpen_some]
      refine ih hfresh.rest hcounted ?_
      -- markers of other kinds make an event only if their blocks are entries too
      by_cases hfound : found = kind
      · simpa [Line.apply, hfound, hentry, populated, Event.closed?, Event.opens] using hpair
      · cases hother : found.isEntry <;>
          simpa [Line.apply, hfound, hother, populated, Event.closed?, Event.opens] using hpair
    | closing =>
      cases current with
      | none => exact ih hfresh.rest hbalance (by simpa [Line.apply] using hpair)
      | some block =>
        by_cases hkind : block.kind = kind
        · -- the block that is closed was counted as open before
          rw [isOpen_some, if_pos hkind] at hbalance
          simp only [Line.apply, Option.map_some, Option.toList_some, List.cons_append,
            List.nil_append, populated, Event.closed?, if_pos hkind, Event.opens,
            Bool.false_eq_true, if_false, Nat.add_zero] at hpair
          cases n with
          | zero =>
            obtain rfl : (block, opened) = pair := by simpa using hpair
            exact hbalance
          | succ n =>
            have hcounted : opened =
                closed + 1 + isOpen kind (Line.closing.apply (some block)).2 := hbalance
            have hrest := ih hfresh.rest hcounted hpair
            omega
        · rw [isOpen_some, if_neg hkind] at hbalance
          refine ih hfresh.rest hbalance ?_
          simpa [Line.apply, populated, Event.closed?, hkind, Event.opens] using hpair
    | field key value =>
      refine ih hfresh.rest ?_ (by simpa [Line.apply] using hpair)
      rw [hbalance]
      cases current <;> rfl
    | idle => exact ih hfresh.rest hbalance (by simpa [Line.apply] using hpair)

/-! ## The calls without rounding -/

/-- A sample with its population in exact numbers, however doubles are taken for rational numbers. A
sample without a population stands in the smallest. -/
def Stats.Series.Call.exact (value : Float → ℚ) : Series.Call → ℚ × ℕ
  | .push sample => (value sample, 0)
  | .pushOver sample population => (value sample, population.toNat)

/-- The series has come about by the calls. Their samples are the state changes of the blocks, and
taken without rounding, their average is the mean over the blocks. -/
structure Stats.Series.IsMeanOver (series : Series) (calls : List Series.Call)
    (blocks : List Block) : Prop where
  series : series = Series.afterCalls calls
  samples : calls.map Series.Call.sample = blocks.map (·.check.stateChange)
  mean : ∀ value : Float → ℚ, blocks ≠ [] →
    (Averaging.exactly (calls.map (Series.Call.exact value))).average =
      (blocks.map fun block => value block.check.stateChange).sum / blocks.length

namespace Dump.Source

variable {source : Source} {kind : Kind}

/-- The series of all checks takes every closed block, in the population of the entries. -/
theorem calls_stateChange (source : Source) (kind : Kind) :
    source.calls kind .stateChange =
      (populated kind 0 (Reader.ofSource source).events).map fun pair =>
        .pushOver pair.1.check.stateChange (.ofNat pair.2) := by
  rw [calls, ← List.filterMap_eq_map]
  rfl

theorem samples_stateChange (source : Source) (kind : Kind) :
    (source.calls kind .stateChange).map Series.Call.sample =
      (source.closedBlocks kind).map (·.check.stateChange) := by
  rw [calls_stateChange, closedBlocks, ← map_fst_populated kind 0, List.map_map, List.map_map]
  rfl

/-- If each block is closed before the next marker, no population is larger than the number of
samples so far. -/
theorem ClosesEach.smallPopulations (h : source.ClosesEach kind) (hends : source.failure = none)
    (hentry : kind.isEntry = true) (value : Float → ℚ) :
    Averaging.SmallPopulations
      ((source.calls kind .stateChange).map (Series.Call.exact value)) := by
  intro n call hcall
  rw [calls_stateChange, List.map_map, List.getElem?_map, Option.map_eq_some_iff] at hcall
  obtain ⟨pair, hpair, rfl⟩ := hcall
  rw [Reader.events_ofSource hends] at hpair
  have hopened : pair.2 = 0 + n + 1 := opened_of_populated hentry h.opensFresh rfl hpair
  -- the number of entries is kept in a word, which makes it no larger
  calc (UInt64.ofNat pair.2).toNat = pair.2 % 2 ^ 64 := UInt64.toNat_ofNat'
    _ ≤ pair.2 := Nat.mod_le _ _
    _ = n + 1 := by rw [hopened, Nat.zero_add]

theorem ClosesEach.isMeanOver (h : source.ClosesEach kind) (hends : source.failure = none)
    (hentry : kind.isEntry = true) {series : Series}
    (hseries : series = Series.afterCalls (source.calls kind .stateChange)) :
    series.IsMeanOver (source.calls kind .stateChange) (source.closedBlocks kind) := by
  have hsamples := source.samples_stateChange kind
  constructor
  case series => exact hseries
  case samples => exact hsamples
  case mean =>
    intro value hne
    have hlength : (source.calls kind .stateChange).length = (source.closedBlocks kind).length := by
      simpa using congrArg List.length hsamples
    have hcalls : (source.calls kind .stateChange).map (Series.Call.exact value) ≠ [] := by
      rw [← List.length_pos_iff, List.length_map, hlength]
      exact List.length_pos_iff.2 hne
    have hexact : Prod.fst ∘ Series.Call.exact value = value ∘ Series.Call.sample := by
      funext call
      cases call <;> rfl
    rw [Averaging.mean_of_small_populations (h.smallPopulations hends hentry value) hcalls,
      List.map_map, hexact, ← List.map_map, hsamples, List.map_map, List.length_map, hlength]
    rfl

end Dump.Source

/-! ## The result -/

namespace Snapshot

/-- The averages, with each step of the update taken without rounding.

A series takes the step that is taken here in rational numbers, and as long as the number of samples
fits it divides by the same number, which is never zero. Samples that are pushed have their mean as
the average, and samples in populations have an average within bounds, which is the mean if the
populations are small. In a dump that closes each block before the next marker the populations are
small, so that the average over the entries is the mean over the closed blocks. -/
theorem averages_without_rounding :
    (∀ (series : Series) (sample : Float) (population : UInt64),
      (series.push sample).averaging = series.averaging.push UInt64.toFloat sample ∧
      (series.pushOver sample population).averaging =
        series.averaging.pushOver UInt64.toFloat sample population) ∧
    (∀ (calls : List Series.Call) (population : UInt64), calls.length + 1 < 2 ^ 64 →
      ((Series.afterCalls calls).averaging.divisor population).toNat =
        max population.toNat (calls.length + 1)) ∧
    (∀ samples : List ℚ, samples ≠ [] →
      (Averaging.exactlyPushed samples).average = samples.sum / samples.length) ∧
    (∀ calls : List (ℚ × ℕ), Averaging.AveragesCalls calls) ∧
    ∀ (source : Source) (now : Int64), source.failure = none →
      ∃ snapshot, ofSource source now = .ok snapshot ∧
        (source.ClosesEach .host → snapshot.hosts.stateChange.IsMeanOver
          (source.calls .host .stateChange) (source.closedBlocks .host)) ∧
        (source.ClosesEach .service → snapshot.services.stateChange.IsMeanOver
          (source.calls .service .stateChange) (source.closedBlocks .service)) := by
  refine ⟨?_, ?_, ?_, Averaging.averages_calls, ?_⟩
  · intro series sample population
    exact ⟨series.averaging_push sample, series.averaging_pushOver sample population⟩
  · intro calls population hfits
    exact Averaging.toNat_divisor_afterCalls hfits population
  · intro samples hne
    exact Averaging.mean_exactlyPushed hne
  · intro source now hends
    obtain ⟨snapshot, hsnapshot, hseries⟩ := ofSource_series hends now
    obtain ⟨hhosts, hservices⟩ := hseries .stateChange
    refine ⟨snapshot, hsnapshot, ?_, ?_⟩
    · intro hcloses
      exact hcloses.isMeanOver hends rfl hhosts
    · intro hcloses
      exact hcloses.isMeanOver hends rfl hservices

/-- A dump with an abandoned program between two hosts, and a third host that is left open. -/
def steadyDump : Source where
  chunks :=
    ["host \x7b\npercent_state_change=12.5\n\x7d\nprogram \x7b\nhoststatus \x7b\npercent_st",
      "ate_change=2.5\n\x7d\nhost \x7b\n"].map Text.Utf8.encode

theorem averages_without_rounding_steady :
    steadyDump.failure = none ∧ steadyDump.ClosesEach .host ∧
      (steadyDump.closedBlocks .host).map (·.check.stateChange) = [12.5, 2.5] ∧
      ∃ snapshot, ofSource steadyDump 0 = .ok snapshot ∧
        snapshot.hosts.stateChange.IsMeanOver (steadyDump.calls .host .stateChange)
          (steadyDump.closedBlocks .host) := by
  have hcloses : steadyDump.ClosesEach .host := by
    have hmarkers : ∀ j < 8, ((textsOf steadyDump.bytes)[j]?.bind Kind.ofMarker?).isSome →
        j = 0 ∨ j = 3 ∨ j = 4 ∨ j = 7 := by decide +kernel
    have hprogram : (textsOf steadyDump.bytes)[3]?.bind Kind.ofMarker? = some .program := by
      decide +kernel
    have hbraces : ∀ m ∈ [2, 6], (textsOf steadyDump.bytes)[m]? = some ['\x7d'] := by
      decide +kernel
    have hlength : (textsOf steadyDump.bytes).length = 8 := by decide +kernel
    have hat : ∀ {i text}, (textsOf steadyDump.bytes)[i]? = some text → IsMarker text →
        i = 0 ∨ i = 3 ∨ i = 4 ∨ i = 7 := by
      rintro i text htext ⟨kind, hopens⟩
      apply hmarkers i (hlength ▸ (List.getElem?_eq_some_iff.1 htext).1)
      rw [htext, Option.bind_some, Kind.ofMarker?_eq_some_iff.2 hopens]
      rfl
    intro i j text other hij htext hopens hother hmarker
    have hnext := hat hother hmarker
    -- the first host is closed before the program, and the second before the third
    rcases hat htext ⟨.host, hopens⟩ with rfl | rfl | rfl | rfl
    · exact ⟨2, _, by omega, by omega, hbraces 2 (by simp), rfl⟩
    · -- the line of the program is no marker of a host
      rw [htext, Option.bind_some, Kind.ofMarker?_eq_some_iff.2 hopens] at hprogram
      cases hprogram
    · exact ⟨6, _, by omega, by omega, hbraces 6 (by simp), rfl⟩
    · omega
  have hsamples : (steadyDump.closedBlocks .host).map (·.check.stateChange) = [12.5, 2.5] := by
    decide +kernel
  obtain ⟨snapshot, hsnapshot, hhosts, -⟩ :=
    averages_without_rounding.2.2.2.2 steadyDump 0 rfl
  exact ⟨rfl, hcloses, hsamples, snapshot, hsnapshot, hhosts hcloses⟩

end Snapshot

end StatusDigest
