import StatusDigest.Proofs.Stats.Sampling
import Mathlib

/-!
# Averages without rounding

The average of a series moves towards each sample by the difference divided by the size of a
population, which may be larger than the number of samples. The same step is taken here in rational
numbers, so that nothing is lost by rounding:

* `Averaging` is the part of a series that the step works on, in any kind of number.
  `Series.averaging_pushOver` shows that a series takes this step, and `Averaging.exactly` and
  `Averaging.exactlyPushed` are the exact average after a sequence of steps;
* `mean_of_small_populations`: if no population is larger than the number of samples so far, then
  the invariant is that the average times the number of samples is their sum;
* `average_mem_Icc`: otherwise the invariant is convexity. Dividing by at least one, the average
  never leaves an interval that holds the samples and what it started from;
* `averages_calls` puts together what holds after every sequence of steps.
-/

namespace StatusDigest.Stats

/-! ## The step, in any kind of number -/

/-- The number of samples and their average. -/
structure Averaging (κ α : Type) where
  count : κ
  average : α

namespace Averaging

section Step

variable {κ α : Type} [Add κ] [OfNat κ 1] [Max κ] [Add α] [Sub α] [Div α]

/-- What the difference to the next sample is divided by: the size of the population that the sample
stands in, or the number of samples if that is larger. -/
def divisor (state : Averaging κ α) (population : κ) : κ :=
  max population (state.count + 1)

/-- One more sample, in a population of the given size. -/
def pushOver (size : κ → α) (state : Averaging κ α) (sample : α) (population : κ) :
    Averaging κ α where
  count := state.count + 1
  average := Series.moved state.average sample (size (state.divisor population))

/-- One more sample, in the population of all samples so far. -/
def push (size : κ → α) (state : Averaging κ α) (sample : α) : Averaging κ α :=
  state.pushOver size sample (state.count + 1)

end Step

/-- The average of the samples with their populations, without rounding. -/
def exactly (calls : List (ℚ × ℕ)) : Averaging ℕ ℚ :=
  calls.foldl (fun state call => state.pushOver Nat.cast call.1 call.2) ⟨0, 0⟩

/-- The average of samples that stand in the population of all samples so far, without rounding. -/
def exactlyPushed (samples : List ℚ) : Averaging ℕ ℚ :=
  samples.foldl (push Nat.cast) ⟨0, 0⟩

end Averaging

/-! ## A series takes the step -/

namespace Series

/-- The part of a series that its average depends on. -/
def averaging (series : Series) : Averaging UInt64 Float where
  count := series.count
  average := series.average

theorem averaging_pushOver (series : Series) (sample : Float) (population : UInt64) :
    (series.pushOver sample population).averaging =
      series.averaging.pushOver UInt64.toFloat sample population :=
  rfl

theorem averaging_push (series : Series) (sample : Float) :
    (series.push sample).averaging = series.averaging.push UInt64.toFloat sample :=
  rfl

theorem count_afterCalls (calls : List Call) :
    (afterCalls calls).count = .ofNat calls.length := by
  induction calls using List.reverseRecOn with
  | nil => rfl
  | append_singleton calls last ih =>
    have hstep : afterCalls (calls ++ [last]) = (afterCalls calls).call last :=
      List.foldl_concat ..
    have hcount : ((afterCalls calls).call last).count = (afterCalls calls).count + 1 := by
      cases last <;> rfl
    rw [hstep, hcount, ih, List.length_append, List.length_singleton, UInt64.ofNat_add]
    rfl

end Series

namespace Averaging

/-- As long as the number of samples fits, a series divides by the number by which the exact step
divides, which is not zero. -/
theorem toNat_divisor_afterCalls {calls : List Series.Call} (hfits : calls.length + 1 < 2 ^ 64)
    (population : UInt64) :
    ((Series.afterCalls calls).averaging.divisor population).toNat =
      max population.toNat (calls.length + 1) := by
  have hcount : ((Series.afterCalls calls).count + 1).toNat = calls.length + 1 := by
    have hlength : calls.length < 2 ^ 64 := (Nat.lt_succ_self _).trans hfits
    rw [Series.count_afterCalls, UInt64.toNat_add, UInt64.toNat_ofNat_of_lt' hlength]
    exact Nat.mod_eq_of_lt hfits
  rw [← hcount, divisor, UInt64.max_def, Nat.max_def]
  by_cases hle : population ≤ (Series.afterCalls calls).count + 1
  · rw [if_pos (UInt64.le_iff_toNat_le.1 hle)]
    exact congrArg UInt64.toNat (if_pos hle)
  · rw [if_neg (mt UInt64.le_iff_toNat_le.2 hle)]
    exact congrArg UInt64.toNat (if_neg hle)

/-! ## Small populations -/

theorem exactly_concat (calls : List (ℚ × ℕ)) (call : ℚ × ℕ) :
    exactly (calls ++ [call]) = (exactly calls).pushOver Nat.cast call.1 call.2 :=
  List.foldl_concat ..

theorem count_exactly (calls : List (ℚ × ℕ)) : (exactly calls).count = calls.length := by
  induction calls using List.reverseRecOn with
  | nil => rfl
  | append_singleton calls last ih =>
    rw [exactly_concat, List.length_append, List.length_singleton, ← ih]
    rfl

/-- In the population of all samples so far, the average moves so that the sum comes out. -/
theorem moved_mul_succ (average sample : ℚ) (count : ℕ) :
    Series.moved average sample ((count + 1 : ℕ) : ℚ) * (count + 1 : ℕ) =
      average * count + sample := by
  have hpositive : ((count + 1 : ℕ) : ℚ) ≠ 0 := Nat.cast_ne_zero.2 (Nat.succ_ne_zero count)
  rw [Series.moved]
  field_simp
  push_cast
  ring

/-- No population is larger than the number of samples so far. -/
def SmallPopulations (calls : List (ℚ × ℕ)) : Prop :=
  ∀ (i : ℕ) (call : ℚ × ℕ), calls[i]? = some call → call.2 ≤ i + 1

theorem SmallPopulations.of_concat {calls : List (ℚ × ℕ)} {call : ℚ × ℕ}
    (h : SmallPopulations (calls ++ [call])) :
    SmallPopulations calls ∧ call.2 ≤ calls.length + 1 := by
  constructor
  · intro i other hother
    have hlt : i < calls.length := (List.getElem?_eq_some_iff.1 hother).1
    exact h i other (by rw [List.getElem?_append_left hlt, hother])
  · exact h calls.length call (by simp)

/-- The invariant of small populations: the average times the number of samples is their sum. -/
theorem average_mul_length {calls : List (ℚ × ℕ)} (h : SmallPopulations calls) :
    (exactly calls).average * calls.length = (calls.map Prod.fst).sum := by
  induction calls using List.reverseRecOn with
  | nil => simp
  | append_singleton calls last ih =>
    obtain ⟨hcalls, hlast⟩ := h.of_concat
    -- the population of the last sample does not matter beside the number of samples
    have hdivisor : (exactly calls).divisor last.2 = calls.length + 1 := by
      rw [divisor, count_exactly, max_eq_right hlast]
    rw [exactly_concat, pushOver, hdivisor, List.length_append, List.length_singleton,
      moved_mul_succ, ih hcalls]
    simp

theorem mean_of_small_populations {calls : List (ℚ × ℕ)} (h : SmallPopulations calls)
    (hne : calls ≠ []) :
    (exactly calls).average = (calls.map Prod.fst).sum / calls.length := by
  have hlength : (calls.length : ℚ) ≠ 0 := by
    simpa using hne
  rw [eq_div_iff hlength, average_mul_length h]

/-- Samples without a population of their own are samples in the smallest population. -/
theorem exactlyPushed_eq (samples : List ℚ) :
    exactlyPushed samples = exactly (samples.map fun sample => (sample, 0)) := by
  have hstep : ∀ (state : Averaging ℕ ℚ) (sample : ℚ),
      state.push Nat.cast sample = state.pushOver Nat.cast sample 0 := by
    intro state sample
    simp only [push, pushOver, divisor, max_self, Nat.zero_max]
  rw [exactlyPushed, exactly, List.foldl_map]
  congr 1
  funext state sample
  exact hstep state sample

theorem mean_exactlyPushed {samples : List ℚ} (hne : samples ≠ []) :
    (exactlyPushed samples).average = samples.sum / samples.length := by
  have hsmall : SmallPopulations (samples.map fun sample => (sample, 0)) := by
    intro i call hcall
    obtain ⟨sample, -, rfl⟩ := List.mem_map.1 (List.mem_of_getElem? hcall)
    exact Nat.zero_le _
  have hsamples : (samples.map fun sample => (sample, 0)).map Prod.fst = samples := by
    rw [List.map_map]
    exact List.map_id samples
  rw [exactlyPushed_eq, mean_of_small_populations hsmall (by simpa using hne), hsamples,
    List.length_map]

/-! ## Arbitrary populations -/

variable {low high : ℚ}

/-- Dividing by at least one, the average stays between the bounds of what it moves between. -/
theorem moved_mem_Icc {average sample size : ℚ} (hsize : 1 ≤ size)
    (haverage : average ∈ Set.Icc low high) (hsample : sample ∈ Set.Icc low high) :
    Series.moved average sample size ∈ Set.Icc low high := by
  have hpositive : 0 < size := one_pos.trans_le hsize
  -- a weighted mean, in which the sample has the weight 1 / size
  have hweights : Series.moved average sample size =
      ((size - 1) * average + sample) / size := by
    rw [Series.moved]
    field_simp
    ring
  have hrest : 0 ≤ size - 1 := sub_nonneg.2 hsize
  rw [hweights]
  constructor
  · rw [le_div_iff₀ hpositive]
    calc low * size = (size - 1) * low + low := by ring
      _ ≤ (size - 1) * average + sample :=
        add_le_add (mul_le_mul_of_nonneg_left haverage.1 hrest) hsample.1
  · rw [div_le_iff₀ hpositive]
    calc (size - 1) * average + sample
        ≤ (size - 1) * high + high :=
          add_le_add (mul_le_mul_of_nonneg_left haverage.2 hrest) hsample.2
      _ = high * size := by ring

theorem one_le_divisor (state : Averaging ℕ ℚ) (population : ℕ) :
    1 ≤ state.divisor population :=
  le_max_of_le_right (Nat.succ_le_succ (Nat.zero_le _))

/-- The invariant of arbitrary populations: from an average in an interval, samples in the interval
do not lead out of it. -/
theorem average_mem_Icc {state : Averaging ℕ ℚ} (hstate : state.average ∈ Set.Icc low high)
    {calls : List (ℚ × ℕ)} (hcalls : ∀ call ∈ calls, call.1 ∈ Set.Icc low high) :
    (calls.foldl (fun state call => state.pushOver Nat.cast call.1 call.2) state).average ∈
      Set.Icc low high := by
  induction calls generalizing state with
  | nil => exact hstate
  | cons call rest ih =>
    rw [List.forall_mem_cons] at hcalls
    have hsize : (1 : ℚ) ≤ ((state.divisor call.2 : ℕ) : ℚ) := by
      exact_mod_cast one_le_divisor state call.2
    exact ih (moved_mem_Icc hsize hstate hcalls.1) hcalls.2

/-- The average starts from zero, so that zero bounds it together with the samples. -/
theorem bounded_of_samples {calls : List (ℚ × ℕ)}
    (hcalls : ∀ call ∈ calls, call.1 ∈ Set.Icc low high) :
    (exactly calls).average ∈ Set.Icc (min 0 low) (max 0 high) := by
  apply average_mem_Icc
  · exact ⟨min_le_left 0 low, le_max_left 0 high⟩
  · intro call hcall
    obtain ⟨hlow, hhigh⟩ := hcalls call hcall
    exact ⟨min_le_of_right_le hlow, le_max_of_le_right hhigh⟩

/-- If the first sample is divided by one, then the average starts from that sample. -/
theorem enclosed_of_samples {calls : List (ℚ × ℕ)}
    (hcalls : ∀ call ∈ calls, call.1 ∈ Set.Icc low high) {first : ℚ × ℕ}
    (hhead : calls.head? = some first) (hfirst : first.2 ≤ 1) :
    (exactly calls).average ∈ Set.Icc low high := by
  obtain ⟨rest, rfl⟩ := List.head?_eq_some_iff.1 hhead
  rw [List.forall_mem_cons] at hcalls
  have hstart : (pushOver (Nat.cast : ℕ → ℚ) ⟨0, 0⟩ first.1 first.2).average = first.1 := by
    simp [pushOver, divisor, Series.moved, max_eq_right hfirst]
  rw [exactly, List.foldl_cons]
  apply average_mem_Icc
  · rw [hstart]
    exact hcalls.1
  · exact hcalls.2

/-! ## Every sequence of steps -/

/-- What is known of the exact average after a sequence of steps. -/
structure AveragesCalls (calls : List (ℚ × ℕ)) : Prop where
  /-- Nowhere is there a division by zero. -/
  divided : ∀ (before after : List (ℚ × ℕ)) (call : ℚ × ℕ), calls = before ++ call :: after →
    (exactly before).divisor call.2 ≠ 0
  bounded : ∀ least greatest, IsLeast {x | x ∈ calls.map Prod.fst} least →
    IsGreatest {x | x ∈ calls.map Prod.fst} greatest →
      min 0 least ≤ (exactly calls).average ∧ (exactly calls).average ≤ max 0 greatest
  enclosed : ∀ first, calls.head? = some first → first.2 ≤ 1 →
    ∀ least greatest, IsLeast {x | x ∈ calls.map Prod.fst} least →
      IsGreatest {x | x ∈ calls.map Prod.fst} greatest →
        least ≤ (exactly calls).average ∧ (exactly calls).average ≤ greatest
  mean : SmallPopulations calls → calls ≠ [] →
    (exactly calls).average = (calls.map Prod.fst).sum / calls.length

theorem averages_calls (calls : List (ℚ × ℕ)) : AveragesCalls calls := by
  have hsamples : ∀ least greatest, IsLeast {x | x ∈ calls.map Prod.fst} least →
      IsGreatest {x | x ∈ calls.map Prod.fst} greatest →
        ∀ call ∈ calls, call.1 ∈ Set.Icc least greatest := by
    intro least greatest hleast hgreatest call hcall
    have hmem : call.1 ∈ calls.map Prod.fst := List.mem_map_of_mem hcall
    exact ⟨hleast.2 hmem, hgreatest.2 hmem⟩
  constructor
  case divided =>
    intro before after call _
    exact Nat.one_le_iff_ne_zero.1 (one_le_divisor (exactly before) call.2)
  case bounded =>
    intro least greatest hleast hgreatest
    exact bounded_of_samples (hsamples least greatest hleast hgreatest)
  case enclosed =>
    intro first hhead hfirst least greatest hleast hgreatest
    exact enclosed_of_samples (hsamples least greatest hleast hgreatest) hhead hfirst
  case mean => exact mean_of_small_populations

end Averaging

end StatusDigest.Stats
