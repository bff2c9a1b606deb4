import StatusDigest.Proofs.Stats.Series
import Mathlib

/-!
# Any sequence of samples

Samples reach a series with a population of their own or without one, in any mixture. What a series
says about its extreme samples does not depend on that, nor on their order:

* `Series.Call` is one way of adding a sample, and `Series.afterCalls` a new series after several;
* `Series.summarizes_afterCalls` is the invariant after every sequence of calls;
* `IsBest` says of an extreme, in the order of doubles, that it is attained and that it bounds all
  samples. `IsBest.of_subset` compares the extremes of fewer and of more samples;
* `Series.keepsExtremes_afterCalls` is the result for all sequences.
-/

namespace StatusDigest.Stats

open Decimal

/-! ## Extremes in the order of doubles -/

/-- The best of the samples by a comparison, if there are samples: one of them, and none of them is
better. -/
structure IsBest (le : Float → Float → Prop) (samples : List Float) (best : Option Float) :
    Prop where
  present : best.isSome ↔ samples ≠ []
  attained : ∀ x, best = some x → x ∈ samples
  bounds : ∀ x, best = some x → ∀ y ∈ samples, le x y

section Best

variable {le : Float → Float → Prop} {samples more : List Float} {best new : Option Float}

/-- An extreme by rank is one by every comparison that ranks decide. -/
theorem IsExtreme.isBest {r : ℤ ×ₗ ℤ ×ₗ ℤ → ℤ ×ₗ ℤ ×ₗ ℤ → Prop} (h : IsExtreme r samples best)
    (hnumbers : ∀ x ∈ samples, x.isNaN = false)
    (hle : ∀ x y, x.isNaN = false → y.isNaN = false → r (rank x) (rank y) → le x y) :
    IsBest le samples best := by
  refine ⟨?_, fun x => h.mem, ?_⟩
  · rw [Option.isSome_iff_ne_none, ne_eq, h.eq_none_iff]
  · rintro x rfl y hy
    exact hle x y (hnumbers x h.1) (hnumbers y hy) (h.2 y hy)

/-- With more samples the best of them can only become better. -/
theorem IsBest.of_subset (h : IsBest le samples best) (h' : IsBest le more new)
    (hsubset : samples ⊆ more) {x : Float} (hx : best = some x) :
    ∃ y, new = some y ∧ le y x := by
  have hmem : x ∈ more := hsubset (h.attained x hx)
  obtain ⟨y, hy⟩ := Option.isSome_iff_exists.1 (h'.present.2 (List.ne_nil_of_mem hmem))
  exact ⟨y, hy, h'.bounds y hy x hmem⟩

end Best

namespace Series

variable {series : Series} {samples : List Float}

theorem Summarizes.isBest_minimum (h : series.Summarizes samples) :
    IsBest (· ≤ ·) samples series.minimum :=
  h.minimum.isBest h.numbers fun _ _ hx hy => (le_iff_rank hx hy).2

theorem Summarizes.isBest_maximum (h : series.Summarizes samples) :
    IsBest (· ≥ ·) samples series.maximum :=
  h.maximum.isBest h.numbers fun _ _ hx hy => (le_iff_rank hy hx).2

/-- All three figures are there as soon as there is a sample. -/
theorem Summarizes.isSome_triple_iff (h : series.Summarizes samples)
    (hfits : samples.length < 2 ^ 64) : series.triple.isSome ↔ 0 < series.count := by
  have hpositive : 0 < series.count ↔ series.count ≠ 0 := UInt64.pos_iff_ne_zero
  have hzero := h.count_eq_zero_iff hfits
  rw [hpositive]
  by_cases hempty : samples = []
  · have hcount : series.count = 0 := hzero.2 hempty
    have hnone : series.minimum = none := h.minimum.eq_none_iff.2 hempty
    simp [triple, hnone, hcount]
  · have hcount : series.count ≠ 0 := mt hzero.1 hempty
    obtain ⟨least, hleast⟩ := Option.isSome_iff_exists.1 (h.isBest_minimum.present.2 hempty)
    obtain ⟨greatest, hgreatest⟩ := Option.isSome_iff_exists.1 (h.isBest_maximum.present.2 hempty)
    have hmean : series.mean = some series.average := by simp [mean, isEmpty, hcount]
    simp [triple, hleast, hgreatest, hmean, hcount]

/-! ## Calls -/

/-- One way of adding a sample to a series. -/
inductive Call where
  /-- The sample stands in the population of all samples so far. -/
  | push (sample : Float)
  /-- The sample stands in a population of the given size. -/
  | pushOver (sample : Float) (population : UInt64)

/-- The sample that is added. -/
def Call.sample : Call → Float
  | .push sample => sample
  | .pushOver sample _ => sample

/-- The series after one more call. -/
def call (series : Series) : Call → Series
  | .push sample => series.push sample
  | .pushOver sample population => series.pushOver sample population

/-- A new series after a sequence of calls. -/
def afterCalls (calls : List Call) : Series :=
  calls.foldl call {}

/-- Both ways of adding a sample keep the invariant. -/
theorem Summarizes.call (h : series.Summarizes samples) {next : Call}
    (hnext : next.sample.isNaN = false) :
    (series.call next).Summarizes (samples ++ [next.sample]) := by
  cases next with
  | push sample => exact h.push hnext
  | pushOver sample population => exact h.pushOver hnext population

/-- The invariant holds after every sequence of calls. -/
theorem summarizes_afterCalls {calls : List Call}
    (hnumbers : ∀ call ∈ calls, call.sample.isNaN = false) :
    (afterCalls calls).Summarizes (calls.map Call.sample) := by
  -- a sequence grows at its end, one call at a time
  induction calls using List.reverseRecOn with
  | nil => exact summarizes_nil
  | append_singleton calls last ih =>
    rw [List.forall_mem_append, List.forall_mem_singleton] at hnumbers
    have hstep : afterCalls (calls ++ [last]) = (afterCalls calls).call last :=
      List.foldl_concat ..
    rw [hstep, List.map_append]
    exact (ih hnumbers.1).call hnumbers.2

/-! ## What a series says after a sequence of calls -/

/-- What a series says about the samples of some calls: how many there are, and which of them are
extreme, in whatever order they come and whatever the populations are. -/
structure KeepsExtremes (calls : List Call) : Prop where
  count : (afterCalls calls).count.toNat = calls.length
  minimum : IsBest (· ≤ ·) (calls.map Call.sample) (afterCalls calls).minimum
  maximum : IsBest (· ≥ ·) (calls.map Call.sample) (afterCalls calls).maximum
  never_raises : ∀ next : Call, next.sample.isNaN = false →
    ∀ x, (afterCalls calls).minimum = some x →
      ∃ y, ((afterCalls calls).call next).minimum = some y ∧ y ≤ x
  never_lowers : ∀ next : Call, next.sample.isNaN = false →
    ∀ x, (afterCalls calls).maximum = some x →
      ∃ y, ((afterCalls calls).call next).maximum = some y ∧ x ≤ y
  unordered : ∀ others : List Call, (calls.map Call.sample).Perm (others.map Call.sample) →
    SameNumber (afterCalls calls).minimum (afterCalls others).minimum ∧
      SameNumber (afterCalls calls).maximum (afterCalls others).maximum
  triple : (afterCalls calls).triple.isSome ↔ 0 < (afterCalls calls).count

/-- A new series keeps the extremes of every sequence of calls whose samples are numbers, as long as
their number fits. -/
theorem keepsExtremes_afterCalls (calls : List Call)
    (hnumbers : ∀ call ∈ calls, call.sample.isNaN = false) (hfits : calls.length < 2 ^ 64) :
    KeepsExtremes calls := by
  have h := summarizes_afterCalls hnumbers
  have hlength : (calls.map Call.sample).length < 2 ^ 64 := by rwa [List.length_map]
  constructor
  case count => rw [h.toNat_count hlength, List.length_map]
  case minimum => exact h.isBest_minimum
  case maximum => exact h.isBest_maximum
  case never_raises =>
    intro next hnext x hx
    exact h.isBest_minimum.of_subset (h.call hnext).isBest_minimum (List.subset_append_left ..) hx
  case never_lowers =>
    intro next hnext x hx
    exact h.isBest_maximum.of_subset (h.call hnext).isBest_maximum (List.subset_append_left ..) hx
  case unordered =>
    intro others hperm
    have hothers : ∀ call ∈ others, call.sample.isNaN = false := by
      intro call hcall
      exact h.numbers _ (hperm.mem_iff.2 (List.mem_map_of_mem hcall))
    have h' := summarizes_afterCalls hothers
    exact ⟨h.minimum.agrees h'.minimum h.numbers hperm,
      h.maximum.agrees h'.maximum h.numbers hperm⟩
  case triple => exact h.isSome_triple_iff hlength

/-- Zeros of both signs, both infinities, and the smallest and the greatest population. -/
def mixedCalls : List Call :=
  [.push 0.0, .pushOver (-0.0) 0, .pushOver (1.0 / 0.0) 18446744073709551615, .push (-2.5),
   .pushOver (-1.0 / 0.0) 3]

theorem keepsExtremes_afterCalls_mixed :
    (∀ call ∈ mixedCalls, call.sample.isNaN = false) ∧ mixedCalls.length < 2 ^ 64 ∧
      KeepsExtremes mixedCalls := by
  have hnumbers : ∀ call ∈ mixedCalls, call.sample.isNaN = false := by decide +kernel
  have hfits : mixedCalls.length < 2 ^ 64 := by decide
  exact ⟨hnumbers, hfits, keepsExtremes_afterCalls mixedCalls hnumbers hfits⟩

end Series

end StatusDigest.Stats
