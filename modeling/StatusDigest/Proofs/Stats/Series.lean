import StatusDigest.Stats.Series
import StatusDigest.Proofs.Decimal.Double
import Mathlib

/-!
# What a series keeps of its samples

A series forgets its samples, but some of what it keeps is a function of all of them:

* `Series.Summarizes` says what: the number of samples, their least one and their greatest one.
  `Series.Summarizes.pushOver` shows that a new sample keeps it, whatever the population;
* `Series.Consistent` is what follows without the samples, as long as their number fits;
* `Series.Summarizes.minimum_split` and `Series.Summarizes.maximum_split` compare a series with
  the two series into which its samples are split.
-/

namespace StatusDigest.Stats

open Decimal

/-! ## Extreme samples -/

/-- The second of two numbers if a test prefers it, else the first. Any number is preferred to
none. -/
def preferred (p : Float → Float → Prop) [DecidableRel p] :
    Option Float → Option Float → Option Float
  | some x, some y => some (if p y x then y else x)
  | some x, none => some x
  | none, y => y

/-- The smaller of two numbers. -/
def smaller : Option Float → Option Float → Option Float :=
  preferred fun y x => y < x

/-- The larger of two numbers. -/
def larger : Option Float → Option Float → Option Float :=
  preferred fun y x => x < y

/-- The same number, or none on both sides. Zero is the same number with either sign. -/
def SameNumber : Option Float → Option Float → Prop :=
  Option.Rel fun x y => (x == y) = true

section Extreme

variable (r : ℤ ×ₗ ℤ ×ₗ ℤ → ℤ ×ₗ ℤ ×ₗ ℤ → Prop)

/-- The extreme of the samples by the relation, if there are samples. -/
def IsExtreme (samples : List Float) : Option Float → Prop
  | none => samples = []
  | some x => x ∈ samples ∧ ∀ y ∈ samples, r (rank x) (rank y)

variable {r} {samples : List Float} {old : Option Float}

theorem IsExtreme.eq_none_iff (h : IsExtreme r samples old) : old = none ↔ samples = [] := by
  cases old with
  | none => exact ⟨fun _ => h, fun _ => rfl⟩
  | some x =>
    constructor
    · intro hnone
      cases hnone
    · rintro rfl
      exact absurd h.1 List.not_mem_nil

theorem IsExtreme.mem (h : IsExtreme r samples old) {x : Float} (hold : old = some x) :
    x ∈ samples := by
  subst hold
  exact h.1

/-- Samples in another order have the same extreme, but for numbers that compare equal. -/
theorem IsExtreme.agrees [Std.Antisymm r] {samples' : List Float} {new : Option Float}
    (h : IsExtreme r samples old) (h' : IsExtreme r samples' new)
    (hnumbers : ∀ x ∈ samples, x.isNaN = false) (hperm : samples.Perm samples') :
    SameNumber old new := by
  cases old with
  | none =>
    have hnil : samples = [] := h
    have hnone : new = none := h'.eq_none_iff.2 (by simpa [hnil] using hperm)
    rw [hnone]
    exact .none
  | some x =>
    cases new with
    | none =>
      have hnil : samples' = [] := h'
      rw [hnil] at hperm
      exact absurd (hperm.mem_iff.1 h.1) List.not_mem_nil
    | some y =>
      have hy : y ∈ samples := hperm.mem_iff.2 h'.1
      have hx : x ∈ samples' := hperm.mem_iff.1 h.1
      -- each is a sample on the other side, so that neither is beyond the other
      refine .some ((beq_iff_rank (hnumbers x h.1) (hnumbers y hy)).2 ?_)
      exact antisymm (h.2 y hy) (h'.2 x hx)

variable [IsPreorder _ r]

/-- A new sample becomes the extreme if a test says so, as long as the test follows the relation. -/
theorem IsExtreme.snoc (h : IsExtreme r samples old) {x : Float} {p : Float → Prop}
    [DecidablePred p] (hwins : ∀ y, old = some y → p y → r (rank x) (rank y))
    (hloses : ∀ y, old = some y → ¬ p y → r (rank y) (rank x)) :
    IsExtreme r (samples ++ [x]) (some (old.elim x fun y => if p y then x else y)) := by
  cases old with
  | none =>
    obtain rfl : samples = [] := h
    refine ⟨by simp, ?_⟩
    rw [List.nil_append, List.forall_mem_singleton]
    exact refl _
  | some best =>
    -- the test decides between the new sample and the best of the old ones
    by_cases hp : p best
    · rw [Option.elim_some, if_pos hp]
      refine ⟨by simp, ?_⟩
      rw [List.forall_mem_append, List.forall_mem_singleton]
      refine ⟨?_, refl _⟩
      intro y hy
      exact Trans.trans (hwins best rfl hp) (h.2 y hy)
    · rw [Option.elim_some, if_neg hp]
      refine ⟨List.mem_append_left _ h.1, ?_⟩
      rw [List.forall_mem_append, List.forall_mem_singleton]
      exact ⟨h.2, hloses best rfl hp⟩

/-- The extreme of two sequences together is that of their extremes which a test prefers, as long
as the test follows the relation. -/
theorem IsExtreme.append {more : List Float} {new : Option Float} (h : IsExtreme r samples old)
    (h' : IsExtreme r more new) {p : Float → Float → Prop} [DecidableRel p]
    (hwins : ∀ x y, old = some x → new = some y → p y x → r (rank y) (rank x))
    (hloses : ∀ x y, old = some x → new = some y → ¬ p y x → r (rank x) (rank y)) :
    IsExtreme r (samples ++ more) (preferred p old new) := by
  cases old with
  | none =>
    obtain rfl : samples = [] := h
    cases new <;> exact h'
  | some x =>
    cases new with
    | none =>
      obtain rfl : more = [] := h'
      rw [List.append_nil]
      exact h
    | some y =>
      by_cases hp : p y x
      · rw [preferred, if_pos hp]
        refine ⟨List.mem_append_right _ h'.1, ?_⟩
        rw [List.forall_mem_append]
        refine ⟨?_, h'.2⟩
        intro z hz
        exact Trans.trans (hwins x y rfl rfl hp) (h.2 z hz)
      · rw [preferred, if_neg hp]
        refine ⟨List.mem_append_left _ h.1, ?_⟩
        rw [List.forall_mem_append]
        refine ⟨h.2, ?_⟩
        intro z hz
        exact Trans.trans (hloses x y rfl rfl hp) (h'.2 z hz)

end Extreme

/-! ## What a series keeps -/

/-- The series is that of the samples, and all of them are numbers. -/
structure Series.Summarizes (series : Series) (samples : List Float) : Prop where
  numbers : ∀ x ∈ samples, x.isNaN = false
  count : series.count = .ofNat samples.length
  minimum : IsExtreme (· ≤ ·) samples series.minimum
  maximum : IsExtreme (· ≥ ·) samples series.maximum

namespace Series

variable {series : Series} {samples : List Float}

theorem summarizes_nil : ({} : Series).Summarizes [] :=
  ⟨by simp, rfl, rfl, rfl⟩

theorem lesser_eq_elim (sample : Float) (old : Option Float) :
    lesser sample old = old.elim sample fun least => if sample < least then sample else least := by
  cases old <;> rfl

theorem greater_eq_elim (sample : Float) (old : Option Float) :
    greater sample old =
      old.elim sample fun greatest => if greatest < sample then sample else greatest := by
  cases old <;> rfl

theorem Summarizes.isNaN_minimum (h : series.Summarizes samples) {x : Float}
    (hx : series.minimum = some x) : x.isNaN = false :=
  h.numbers x (h.minimum.mem hx)

theorem Summarizes.isNaN_maximum (h : series.Summarizes samples) {x : Float}
    (hx : series.maximum = some x) : x.isNaN = false :=
  h.numbers x (h.maximum.mem hx)

/-- A new sample is counted, and becomes the least or the greatest one if it should. -/
theorem Summarizes.pushOver (h : series.Summarizes samples) {sample : Float}
    (hsample : sample.isNaN = false) (population : UInt64) :
    (series.pushOver sample population).Summarizes (samples ++ [sample]) := by
  refine ⟨?_, ?_, ?_, ?_⟩
  · rw [List.forall_mem_append, List.forall_mem_singleton]
    exact ⟨h.numbers, hsample⟩
  · rw [List.length_append, List.length_singleton, UInt64.ofNat_add, ← h.count]
    rfl
  · show IsExtreme _ _ (some (lesser sample series.minimum))
    rw [lesser_eq_elim]
    apply h.minimum.snoc
    · intro least hold hlt
      exact rank_le_of_lt hsample (h.isNaN_minimum hold) hlt
    · intro least hold hlt
      exact rank_le_of_not_lt hsample (h.isNaN_minimum hold) hlt
  · show IsExtreme _ _ (some (greater sample series.maximum))
    rw [greater_eq_elim]
    apply h.maximum.snoc
    · intro greatest hold hlt
      exact rank_le_of_lt (h.isNaN_maximum hold) hsample hlt
    · intro greatest hold hlt
      exact rank_le_of_not_lt (h.isNaN_maximum hold) hsample hlt

theorem Summarizes.push (h : series.Summarizes samples) {sample : Float}
    (hsample : sample.isNaN = false) : (series.push sample).Summarizes (samples ++ [sample]) :=
  h.pushOver hsample _

/-! ## What is left without the samples -/

/-- The least and the greatest sample are there if there are samples, are numbers, and are in
order. -/
structure Consistent (series : Series) : Prop where
  minimum_none : series.minimum = none ↔ series.count = 0
  maximum_none : series.maximum = none ↔ series.count = 0
  minimum_number : ∀ x, series.minimum = some x → x.isNaN = false
  maximum_number : ∀ x, series.maximum = some x → x.isNaN = false
  ordered : ∀ x y, series.minimum = some x → series.maximum = some y → x ≤ y

theorem Summarizes.toNat_count (h : series.Summarizes samples) (hfits : samples.length < 2 ^ 64) :
    series.count.toNat = samples.length := by
  rw [h.count, UInt64.toNat_ofNat_of_lt' hfits]

theorem Summarizes.count_eq_zero_iff (h : series.Summarizes samples)
    (hfits : samples.length < 2 ^ 64) : series.count = 0 ↔ samples = [] := by
  rw [← UInt64.toNat_inj, h.toNat_count hfits]
  exact List.length_eq_zero_iff

theorem Summarizes.consistent (h : series.Summarizes samples) (hfits : samples.length < 2 ^ 64) :
    series.Consistent := by
  refine ⟨?_, ?_, ?_, ?_, ?_⟩
  · rw [h.minimum.eq_none_iff, h.count_eq_zero_iff hfits]
  · rw [h.maximum.eq_none_iff, h.count_eq_zero_iff hfits]
  · intro x hx
    exact h.isNaN_minimum hx
  · intro x hx
    exact h.isNaN_maximum hx
  · intro x y hx hy
    rw [le_iff_rank (h.isNaN_minimum hx) (h.isNaN_maximum hy)]
    -- the greatest sample is one of those that the least one is not above
    have hleast := h.minimum
    rw [hx] at hleast
    exact hleast.2 y (h.maximum.mem hy)

variable {part more : Series} {samples' samples'' : List Float}

/-- The least sample of a series is the smaller of those of the parts into which it is split. -/
theorem Summarizes.minimum_split (h : series.Summarizes samples) (h' : part.Summarizes samples')
    (h'' : more.Summarizes samples'') (hperm : samples.Perm (samples' ++ samples'')) :
    SameNumber series.minimum (smaller part.minimum more.minimum) := by
  refine h.minimum.agrees (h'.minimum.append h''.minimum ?_ ?_) h.numbers hperm
  · intro x y hx hy hlt
    exact rank_le_of_lt (h''.isNaN_minimum hy) (h'.isNaN_minimum hx) hlt
  · intro x y hx hy hlt
    exact rank_le_of_not_lt (h''.isNaN_minimum hy) (h'.isNaN_minimum hx) hlt

/-- The greatest sample of a series is the larger of those of its parts. -/
theorem Summarizes.maximum_split (h : series.Summarizes samples) (h' : part.Summarizes samples')
    (h'' : more.Summarizes samples'') (hperm : samples.Perm (samples' ++ samples'')) :
    SameNumber series.maximum (larger part.maximum more.maximum) := by
  refine h.maximum.agrees (h'.maximum.append h''.maximum ?_ ?_) h.numbers hperm
  · intro x y hx hy hlt
    exact rank_le_of_lt (h'.isNaN_maximum hx) (h''.isNaN_maximum hy) hlt
  · intro x y hx hy hlt
    exact rank_le_of_not_lt (h'.isNaN_maximum hx) (h''.isNaN_maximum hy) hlt

end Series

end StatusDigest.Stats
