import Mathlib

/-!
# Rounding to the nearest

Every operation on doubles is the exact one, rounded once to the nearest double:

* `IsNearest` is rounding to integers, with ties to the even one;
* `Holds` is what a significand and its two bits for rounding stand for while it is shifted, and
  `Holds.isNearest` shows that the bits suffice to round the number;
* `IsRounding` is rounding to doubles of full precision. `IsRounding.unique` shows that there is one
  way to do it, and `IsRounding.le` how far it can lead upwards.
-/

namespace StatusDigest.Decimal

open Float.Model.UnpackedFloat (ExtendedMantissa Accuracy accuracyOfFraction)

/-! ## The nearest integer -/

/-- The integer is at most a half away from the number, and even if it is just a half. -/
structure IsNearest (v : ℚ) (n : ℕ) : Prop where
  below : (n : ℚ) - 1 / 2 ≤ v
  above : v ≤ n + 1 / 2
  even : v = n - 1 / 2 ∨ v = n + 1 / 2 → Even n

theorem IsNearest.le_of_isNearest {v : ℚ} {m n : ℕ} (hm : IsNearest v m) (hn : IsNearest v n) :
    m ≤ n := by
  by_contra hlt
  -- neighbours that are equally near cannot both be even
  have hgap : (n : ℚ) + 1 ≤ m := by exact_mod_cast not_le.1 hlt
  have hhalf : v = n + 1 / 2 := le_antisymm hn.above (by linarith [hm.below])
  have hsucc : m = n + 1 := by
    have hle : (m : ℚ) ≤ n + 1 := by linarith [hm.below]
    exact le_antisymm (by exact_mod_cast hle) (by exact_mod_cast hgap)
  have hother : v = m - 1 / 2 := by
    rw [hhalf, hsucc]
    push_cast
    ring
  have hevenm := hm.even (.inl hother)
  have hevenn := hn.even (.inr hhalf)
  rw [hsucc, Nat.even_add_one] at hevenm
  exact hevenm hevenn

theorem IsNearest.unique {v : ℚ} {m n : ℕ} (hm : IsNearest v m) (hn : IsNearest v n) : m = n :=
  le_antisymm (hm.le_of_isNearest hn) (hn.le_of_isNearest hm)

theorem isNearest_self (n : ℕ) : IsNearest n n := by
  refine ⟨by linarith, by linarith, ?_⟩
  rintro (h | h) <;> linarith

/-- Integers bound the nearest integer. -/
theorem IsNearest.le_of_le {v : ℚ} {n bound : ℕ} (h : IsNearest v n) (hv : (bound : ℚ) ≤ v) :
    bound ≤ n := by
  have hlt : (bound : ℚ) < n + 1 := by linarith [h.above]
  exact Nat.lt_succ_iff.1 (by exact_mod_cast hlt)

theorem IsNearest.le_of_lt {v : ℚ} {n bound : ℕ} (h : IsNearest v n) (hv : v < bound) :
    n ≤ bound := by
  have hlt : (n : ℚ) < bound + 1 := by linarith [h.below]
  exact Nat.lt_succ_iff.1 (by exact_mod_cast hlt)

/-! ## Significands with bits for rounding -/

/-- The number that a significand stands for. The one bit says whether at least a half has been cut
off, and the other one whether it was anything else than just a half or nothing. -/
def Holds (em : ExtendedMantissa) (v : ℚ) : Prop :=
  match em.roundBit, em.stickyBit with
  | false, false => v = em.mantissa
  | false, true => em.mantissa < v ∧ v < em.mantissa + 1 / 2
  | true, false => v = em.mantissa + 1 / 2
  | true, true => em.mantissa + 1 / 2 < v ∧ v < em.mantissa + 1

theorem Holds.bounds {em : ExtendedMantissa} {v : ℚ} (h : Holds em v) :
    (em.mantissa : ℚ) ≤ v ∧ v < em.mantissa + 1 := by
  obtain ⟨m, roundBit, stickyBit⟩ := em
  cases roundBit <;> cases stickyBit <;> simp only [Holds] at h ⊢
  · constructor <;> linarith
  · constructor <;> linarith [h.1, h.2]
  · constructor <;> linarith
  · constructor <;> linarith [h.1, h.2]

/-- The two bits are enough to round the number. -/
theorem Holds.isNearest {em : ExtendedMantissa} {v : ℚ} (h : Holds em v) :
    IsNearest v em.roundedMantissa := by
  obtain ⟨m, roundBit, stickyBit⟩ := em
  cases roundBit <;> cases stickyBit <;>
    simp only [Holds, ExtendedMantissa.roundedMantissa, ExtendedMantissa.accuracy,
      Accuracy.roundToNearestEven] at h ⊢
  · rw [h]
    exact isNearest_self m
  · refine ⟨by linarith [h.1], by linarith [h.2], ?_⟩
    rintro (hv | hv) <;> linarith [h.1, h.2]
  · -- just a half: the significand stays if it is even, and otherwise the next one is
    rcases Nat.even_or_odd m with heven | hodd
    · rw [Nat.even_iff.1 heven, add_zero]
      exact ⟨by linarith, by linarith, fun _ => heven⟩
    · rw [Nat.odd_iff.1 hodd]
      exact ⟨by push_cast; linarith, by push_cast; linarith, fun _ => hodd.add_one⟩
  · refine ⟨by push_cast; linarith [h.1], by push_cast; linarith [h.2], ?_⟩
    rintro (hv | hv) <;> push_cast at hv <;> linarith [h.1, h.2]

/-- Shifting halves the number: the last bit of the significand becomes the one for rounding. -/
theorem Holds.shiftRightOne {em : ExtendedMantissa} {v : ℚ} (h : Holds em v) :
    Holds em.shiftRightOne (v / 2) := by
  obtain ⟨m, roundBit, stickyBit⟩ := em
  have hhalves : ((m / 2 : ℕ) : ℚ) * 2 + (m % 2 : ℕ) = m := by
    exact_mod_cast (by omega : m / 2 * 2 + m % 2 = m)
  have hset : (1 != 0) = true := rfl
  rcases Nat.mod_two_eq_zero_or_one m with hbit | hbit <;> rw [hbit] at hhalves <;>
    push_cast at hhalves <;>
    cases roundBit <;> cases stickyBit <;>
      simp only [Holds, ExtendedMantissa.shiftRightOne, hbit, bne_self_eq_false, Bool.or_false,
        Bool.or_true, Bool.or_self, hset] at h ⊢
  all_goals first
    | linarith
    | constructor <;> linarith [h.1, h.2]
    | constructor <;> linarith

theorem Holds.shiftRight {em : ExtendedMantissa} {v : ℚ} (h : Holds em v) (k : ℕ) :
    Holds (em >>> k) (v / 2 ^ k) := by
  induction k with
  | zero => simpa [HShiftRight.hShiftRight, Nat.repeat] using h
  | succ k ih =>
    have hstep := ih.shiftRightOne
    rw [div_div, ← pow_succ] at hstep
    exact hstep

/-- Before any shift nothing has been cut off. -/
theorem holds_exact (m : ℕ) : Holds (.ofMantissaAndAccuracy m .exact) m := by
  simp [Holds, ExtendedMantissa.ofMantissaAndAccuracy]

/-- The remainder of a division is what has been cut off. -/
theorem holds_fraction (quotient : ℕ) {remainder divisor : ℕ} (hlt : remainder < divisor) :
    Holds (.ofMantissaAndAccuracy quotient (accuracyOfFraction remainder divisor))
      (quotient + remainder / divisor) := by
  have hdivisor : (0 : ℚ) < divisor := by exact_mod_cast (Nat.zero_le _).trans_lt hlt
  have hone : (remainder : ℚ) / divisor < 1 := by
    rw [div_lt_one hdivisor]
    exact_mod_cast hlt
  unfold accuracyOfFraction
  by_cases hzero : remainder = 0
  · simp [hzero, Holds, ExtendedMantissa.ofMantissaAndAccuracy]
  have hpositive : (0 : ℚ) < remainder / divisor :=
    div_pos (by exact_mod_cast Nat.pos_of_ne_zero hzero) hdivisor
  rw [if_neg hzero]
  -- the remainder is less than half of the divisor, just half of it, or more
  rcases lt_trichotomy (2 * remainder) divisor with hless | hhalf | hmore
  · have hbound : (remainder : ℚ) / divisor < 1 / 2 := by
      rw [div_lt_div_iff₀ hdivisor two_pos]
      exact_mod_cast (by omega : remainder * 2 < 1 * divisor)
    rw [Nat.compare_eq_lt.2 hless]
    simp only [Holds, ExtendedMantissa.ofMantissaAndAccuracy]
    constructor <;> linarith
  · have hbound : (remainder : ℚ) / divisor = 1 / 2 := by
      rw [div_eq_div_iff hdivisor.ne' two_ne_zero]
      exact_mod_cast (by omega : remainder * 2 = 1 * divisor)
    rw [Nat.compare_eq_eq.2 hhalf]
    simp only [Holds, ExtendedMantissa.ofMantissaAndAccuracy]
    linarith
  · have hbound : 1 / 2 < (remainder : ℚ) / divisor := by
      rw [div_lt_div_iff₀ two_pos hdivisor]
      exact_mod_cast (by omega : 1 * divisor < remainder * 2)
    rw [Nat.compare_eq_gt.2 hmore]
    simp only [Holds, ExtendedMantissa.ofMantissaAndAccuracy]
    constructor <;> linarith

/-! ## The nearest double -/

/-- The number is rounded to a significand of 53 bits. -/
inductive IsRounding (v : ℚ) : ℚ → Prop
  | mk {e : ℤ} {m : ℕ} (least : 2 ^ 52 ≤ v / 2 ^ e) (most : v / 2 ^ e < 2 ^ 53)
      (nearest : IsNearest (v / 2 ^ e) m) : IsRounding v (m * 2 ^ e)

/-- The exponent of 53 bits is the only one. -/
theorem exponent_le_of_bounds {v : ℚ} {e f : ℤ} (hleast : 2 ^ 52 ≤ v / 2 ^ e)
    (hmost : v / 2 ^ f < 2 ^ 53) : e ≤ f := by
  by_contra hlt
  have hpower : (0 : ℚ) < 2 ^ e := by positivity
  have hpower' : (0 : ℚ) < 2 ^ f := by positivity
  rw [le_div_iff₀ hpower] at hleast
  rw [div_lt_iff₀ hpower'] at hmost
  have hstep : (2 : ℚ) * 2 ^ f ≤ 2 ^ e := by
    rw [← zpow_one_add₀ two_ne_zero]
    exact zpow_le_zpow_right₀ one_le_two (by omega)
  linarith

theorem IsRounding.unique {v w w' : ℚ} (h : IsRounding v w) (h' : IsRounding v w') : w = w' := by
  cases h with
  | mk least most nearest =>
    cases h' with
    | mk least' most' nearest' =>
      obtain rfl := le_antisymm (exponent_le_of_bounds least most')
        (exponent_le_of_bounds least' most)
      rw [nearest.unique nearest']

/-- Rounding adds one part in `2 ^ 53` at most. -/
theorem IsRounding.le {v w : ℚ} (h : IsRounding v w) : w ≤ v * (1 + 1 / 2 ^ 53) := by
  cases h with
  | @mk e m least most nearest =>
    have hpower : (0 : ℚ) < 2 ^ e := by positivity
    have hupwards : (m : ℚ) ≤ v / 2 ^ e * (1 + 1 / 2 ^ 53) := by
      have hunit : (1 : ℚ) / 2 ≤ v / 2 ^ e * (1 / 2 ^ 53) := by
        calc (1 : ℚ) / 2 = 2 ^ 52 * (1 / 2 ^ 53) := by norm_num
          _ ≤ v / 2 ^ e * (1 / 2 ^ 53) := mul_le_mul_of_nonneg_right least (by positivity)
      linarith [nearest.below]
    calc (m : ℚ) * 2 ^ e ≤ v / 2 ^ e * (1 + 1 / 2 ^ 53) * 2 ^ e :=
          mul_le_mul_of_nonneg_right hupwards hpower.le
      _ = v * (1 + 1 / 2 ^ 53) := by rw [mul_right_comm, div_mul_cancel₀ _ hpower.ne']

/-- Rounding leaves at least half of a number. -/
theorem IsRounding.le_two_mul_rounded {v w : ℚ} (h : IsRounding v w) : v ≤ 2 * w := by
  cases h with
  | @mk e m least most nearest =>
    have hpower : (0 : ℚ) < 2 ^ e := by positivity
    have hhalf : v / 2 ^ e ≤ 2 * m := by
      have hone : 1 ≤ v / 2 ^ e := le_trans (one_le_pow₀ one_le_two) least
      linarith [nearest.above]
    calc v = v / 2 ^ e * 2 ^ e := (div_mul_cancel₀ v hpower.ne').symm
      _ ≤ 2 * m * 2 ^ e := mul_le_mul_of_nonneg_right hhalf hpower.le
      _ = 2 * (m * 2 ^ e) := mul_assoc _ _ _

end StatusDigest.Decimal
