import StatusDigest.Proofs.Decimal.Rounding
import Mathlib

/-!
# Operations on doubles

Products and quotients of doubles are the exact ones, rounded once to the nearest double:

* `HasValue` says which positive number a double is, and `hasValue_pack` finds it in the last step
  of every operation;
* `HasValue.mul` and `HasValue.div` are the two operations that round; `hasValue_sub_zero` and
  `hasValue_zero_add` round nothing;
* `hasValue_toFloat` and `HasValue.toInt_unpack` are the ways from integers and back to them.
-/

namespace StatusDigest.Decimal

open Float.Model (UnpackedFloat Format totalExponent)
open Float.Model.UnpackedFloat (ExtendedMantissa Accuracy roundWithAccuracy accuracyOfFraction)

/-! ## Doubles and their values -/

/-- The double is a positive number of full precision. -/
def HasValue (x : Float) (w : ℚ) : Prop :=
  ∃ m e, ∃ h : 0 < m, x.toModel.unpack = .finite .positive m e h ∧ IsFull m e ∧ e ≤ 971 ∧
    w = m * 2 ^ e

theorem HasValue.isRounding {x : Float} {w : ℚ} (h : HasValue x w) : IsRounding w w := by
  obtain ⟨m, e, -, -, hfull, -, rfl⟩ := h
  exact hfull.isRounding

theorem HasValue.pos {x : Float} {w : ℚ} (h : HasValue x w) : 0 < w := by
  obtain ⟨m, e, hm, -, -, -, rfl⟩ := h
  exact mul_pos (by exact_mod_cast hm) (by positivity)

/-- What has been rounded is packed as it is, unless it is beyond the doubles. -/
theorem hasValue_pack {m : ℕ} {e : ℤ} {accuracy : Accuracy} {v : ℚ} (hm : 2 ^ 52 ≤ m)
    (he : -1074 ≤ e) (hv : Holds (.ofMantissaAndAccuracy m accuracy) v)
    (hbound : v * 2 ^ e < 2 ^ 1023) :
    ∃ w, HasValue (.ofModel (.pack (roundWithAccuracy .binary64 .positive m e accuracy))) w ∧
      IsRounding (v * 2 ^ e) w := by
  obtain ⟨m', e', hpos, hround, hfull, -, hrounding⟩ :=
    roundWithAccuracy_isRounding .positive hm he hv
  have hexponent : e' ≤ 971 := by
    have hvalue : 0 ≤ v * 2 ^ e :=
      mul_nonneg ((Nat.cast_nonneg _).trans hv.bounds.1) (by positivity)
    apply hfull.exponent_le
    calc (m' : ℚ) * 2 ^ e' ≤ v * 2 ^ e * (1 + 1 / 2 ^ 53) := hrounding.le
      _ ≤ v * 2 ^ e * 2 := mul_le_mul_of_nonneg_left (by norm_num) hvalue
      _ < 2 ^ 1023 * 2 := mul_lt_mul_of_pos_right hbound two_pos
      _ = 2 ^ 1024 := (pow_succ 2 1023).symm
  refine ⟨_, ⟨m', e', hpos, ?_, hfull, hexponent, rfl⟩, hrounding⟩
  rw [hround]
  exact unpack_pack hfull hexponent .positive hpos

/-- A number that is not too small has an exponent that is not too small. -/
theorem exponent_ge_of_le {m : ℕ} {e low : ℤ} {bits : ℕ} (hm : m < 2 ^ bits)
    (hlow : (2 : ℚ) ^ low ≤ m * 2 ^ e) : low - bits ≤ e := by
  have hpower : (0 : ℚ) < 2 ^ e := by positivity
  have hlt : (2 : ℚ) ^ low < 2 ^ (bits + e) := by
    rw [zpow_add₀ two_ne_zero, zpow_natCast]
    exact hlow.trans_lt (mul_lt_mul_of_pos_right (by exact_mod_cast hm) hpower)
  have := (zpow_lt_zpow_iff_right₀ one_lt_two).1 hlt
  omega

section Operations

variable {x y : Float} {a b : ℚ}

/-- The product is rounded once. -/
theorem HasValue.mul (hx : HasValue x a) (hy : HasValue y b) (hlow : 2 ^ (-900 : ℤ) ≤ a * b)
    (hhigh : a * b < 2 ^ 1023) : ∃ w, HasValue (x * y) w ∧ IsRounding (a * b) w := by
  obtain ⟨m, e, hm, hx, hxfull, -, rfl⟩ := hx
  obtain ⟨n, f, hn, hy, hyfull, -, rfl⟩ := hy
  have hproduct : (m : ℚ) * 2 ^ e * (n * 2 ^ f) = ((m * n : ℕ) : ℚ) * 2 ^ (e + f) := by
    rw [zpow_add₀ two_ne_zero]
    push_cast
    ring
  have hmn : 2 ^ 52 ≤ m * n := hxfull.le_significand.trans (Nat.le_mul_of_pos_right m hn)
  have hbits : m * n < 2 ^ 106 := by
    calc m * n < 2 ^ 53 * 2 ^ 53 := Nat.mul_lt_mul'' hxfull.significand_lt hyfull.significand_lt
      _ = 2 ^ 106 := by norm_num
  rw [hproduct] at hlow hhigh ⊢
  have hexponent := exponent_ge_of_le hbits hlow
  obtain ⟨w, hw, hrounding⟩ := hasValue_pack hmn (by omega) (holds_exact (m * n)) hhigh
  refine ⟨w, ?_, hrounding⟩
  have hmul : x * y = .ofModel (.pack (roundWithAccuracy .binary64 .positive (m * n) (e + f)
      .exact)) := by
    show Float.ofModel (.pack (UnpackedFloat.mul .binary64 x.toModel.unpack y.toModel.unpack)) = _
    rw [hx, hy]
    rfl
  rwa [hmul]

/-- The significands of two doubles of full precision are divided with 53 bits put behind the
dividend, so that the quotient has 53 bits at least. -/
theorem divCore_full {m n : ℕ} {e f : ℤ} (hm : IsFull m e) (hn : IsFull n f)
    (hexponent : -1074 ≤ e - f - 53) :
    UnpackedFloat.divCore .binary64 m e n f =
        (m * 2 ^ 53 / n, e - f - 53, accuracyOfFraction (m * 2 ^ 53 % n) n) ∧
      2 ^ 52 ≤ m * 2 ^ 53 / n := by
  have hlog : ∀ {m e}, IsFull m e → m.log2 = 52 := by
    intro m e hfull
    have hpos : 0 < m := (Nat.two_pow_pos 52).trans_le hfull.le_significand
    exact (Nat.log2_eq_iff hpos.ne').2 ⟨hfull.le_significand, hfull.significand_lt⟩
  have hpos : 0 < n := (Nat.two_pow_pos 52).trans_le hn.le_significand
  constructor
  · have htarget : min (e - f) (Format.binary64.targetExponent
        (totalExponent m e - totalExponent n f)) = e - f - 53 := by
      simp only [Format.targetExponent, totalExponent, Format.mantissaBits, Format.minExponent,
        hlog hm, hlog hn]
      norm_num
      omega
    have hshift : (e - f - (e - f - 53)).toNat = 53 := by omega
    simp only [UnpackedFloat.divCore, htarget, hshift, Nat.shiftLeft_eq]
  · rw [Nat.le_div_iff_mul_le hpos]
    calc 2 ^ 52 * n ≤ 2 ^ 52 * 2 ^ 53 := Nat.mul_le_mul_left _ hn.significand_lt.le
      _ ≤ m * 2 ^ 53 := Nat.mul_le_mul_right _ hm.le_significand

/-- The quotient is rounded once. -/
theorem HasValue.div (hx : HasValue x a) (hy : HasValue y b) (hlow : 2 ^ (-900 : ℤ) ≤ a / b)
    (hhigh : a / b < 2 ^ 1023) : ∃ w, HasValue (x / y) w ∧ IsRounding (a / b) w := by
  obtain ⟨m, e, hm, hx, hxfull, -, rfl⟩ := hx
  obtain ⟨n, f, hn, hy, hyfull, -, rfl⟩ := hy
  have hn0 : (n : ℚ) ≠ 0 := by exact_mod_cast hn.ne'
  have hquotient : (m : ℚ) * 2 ^ e / (n * 2 ^ f) =
      ((m * 2 ^ 53 : ℕ) : ℚ) / n * 2 ^ (e - f - 53) := by
    rw [zpow_sub₀ two_ne_zero, zpow_sub₀ two_ne_zero]
    push_cast
    field_simp
  have hexponent : -1074 ≤ e - f - 53 := by
    -- the quotient of the significands has at most 54 bits
    have hless : m * 2 ^ 53 < 2 ^ 54 * n := by
      have hmost := hxfull.significand_lt
      have hleast := hyfull.le_significand
      omega
    have hpower : (0 : ℚ) < 2 ^ (e - f - 53) := by positivity
    have hlow' : (2 : ℚ) ^ (-900 : ℤ) ≤ 2 ^ (54 + (e - f - 53)) := by
      rw [hquotient] at hlow
      refine hlow.trans ?_
      rw [zpow_add₀ two_ne_zero]
      refine mul_le_mul_of_nonneg_right ?_ hpower.le
      rw [div_le_iff₀ (by exact_mod_cast hn)]
      exact_mod_cast hless.le
    have hle := (zpow_le_zpow_iff_right₀ one_lt_two).1 hlow'
    omega
  obtain ⟨hcore, hleast⟩ := divCore_full hxfull hyfull hexponent
  have hholds := holds_fraction (m * 2 ^ 53 / n) (Nat.mod_lt (m * 2 ^ 53) hn)
  have hdivided : ((m * 2 ^ 53 / n : ℕ) : ℚ) + (m * 2 ^ 53 % n : ℕ) / n =
      ((m * 2 ^ 53 : ℕ) : ℚ) / n := by
    have hsplit := Nat.div_add_mod' (m * 2 ^ 53) n
    rw [eq_div_iff hn0, add_mul, div_mul_cancel₀ _ hn0]
    exact_mod_cast hsplit
  rw [hdivided] at hholds
  rw [hquotient] at hhigh ⊢
  obtain ⟨w, hw, hrounding⟩ := hasValue_pack hleast hexponent hholds hhigh
  refine ⟨w, ?_, hrounding⟩
  have hdiv : x / y = .ofModel (.pack (roundWithAccuracy .binary64 .positive (m * 2 ^ 53 / n)
      (e - f - 53) (accuracyOfFraction (m * 2 ^ 53 % n) n))) := by
    show Float.ofModel (.pack (UnpackedFloat.div .binary64 x.toModel.unpack y.toModel.unpack)) = _
    rw [hx, hy, UnpackedFloat.div, hcore]
    rfl
  rwa [hdiv]

/-- Nothing is rounded when zero is taken away. -/
theorem hasValue_sub_zero (hx : HasValue x a) : HasValue (x - 0.0) a := by
  obtain ⟨m, e, hm, hx, hfull, he, rfl⟩ := hx
  refine ⟨m, e, hm, ?_, hfull, he, rfl⟩
  show (Float.Model.pack (UnpackedFloat.sub .binary64 x.toModel.unpack
    (0.0 : Float).toModel.unpack)).unpack = _
  have hzero : (0.0 : Float).toModel.unpack = .zero .positive := rfl
  rw [hx, hzero]
  exact unpack_pack hfull he .positive hm

/-- Nothing is rounded when something is added to zero. -/
theorem hasValue_zero_add (hx : HasValue x a) : HasValue (0.0 + x) a := by
  obtain ⟨m, e, hm, hx, hfull, he, rfl⟩ := hx
  refine ⟨m, e, hm, ?_, hfull, he, rfl⟩
  show (Float.Model.pack (UnpackedFloat.add .binary64 (0.0 : Float).toModel.unpack
    x.toModel.unpack)).unpack = _
  have hzero : (0.0 : Float).toModel.unpack = .zero .positive := rfl
  rw [hx, hzero]
  exact unpack_pack hfull he .positive hm

end Operations

/-! ## Integers as doubles, and back -/

/-- Integers below `2 ^ 53` are doubles. -/
theorem hasValue_toFloat {n : ℕ} (hpos : 0 < n) (hlt : n < 2 ^ 53) :
    HasValue n.toUInt64.toFloat n := by
  have hlog : n.log2 ≤ 52 := Nat.lt_succ_iff.1 ((Nat.log2_lt hpos.ne').2 hlt)
  have hfull : IsFull (n * 2 ^ (52 - n.log2)) (-(52 - n.log2 : ℕ)) := by
    refine ⟨le_filled hpos, ?_, by omega⟩
    calc n * 2 ^ (52 - n.log2) < 2 ^ (n.log2 + 1) * 2 ^ (52 - n.log2) :=
        Nat.mul_lt_mul_of_pos_right Nat.lt_log2_self (Nat.two_pow_pos _)
      _ = 2 ^ 53 := by
        rw [← pow_add]
        congr 1
        omega
  have hbound : ((n * 2 ^ (52 - n.log2) : ℕ) : ℚ) * 2 ^ (-(52 - n.log2 : ℕ) : ℤ) < 2 ^ 1023 := by
    rw [filled_value]
    have hn : (n : ℚ) < 2 ^ 53 := by exact_mod_cast hlt
    exact hn.trans (pow_lt_pow_right₀ one_lt_two (by norm_num))
  obtain ⟨w, hw, hrounding⟩ :=
    hasValue_pack hfull.le_significand hfull.le_exponent (holds_exact _) hbound
  -- there is nothing to round
  obtain rfl : (n : ℚ) = w := filled_value n ▸ hfull.isRounding.unique hrounding
  rwa [toFloat_eq hpos (hlt.trans (by norm_num))]

/-- A double is cut off to the integer below it. -/
theorem HasValue.toInt_unpack {x : Float} {w : ℚ} (h : HasValue x w) (low high : ℤ) :
    UnpackedFloat.toInt low high x.toModel.unpack = ⌊w⌋ := by
  obtain ⟨m, e, hm, hx, -, -, rfl⟩ := h
  rw [hx]
  show UnpackedFloat.roundToInt .positive m e = _
  simp only [UnpackedFloat.roundToInt, UnpackedFloat.decreaseExponent,
    UnpackedFloat.shiftToExponent, shiftRight_mantissa, UnpackedFloat.Sign.apply, sub_zero,
    Nat.shiftLeft_eq, zero_sub]
  -- either the significand is shifted to the left, or its last bits are cut off
  rcases le_total 0 e with hpos | hneg
  · obtain ⟨k, rfl⟩ := Int.eq_ofNat_of_zero_le hpos
    have hshift : (-((k : ℤ) - k)).toNat = 0 := by omega
    have hfloor : ((m : ℚ) * 2 ^ (k : ℤ)) = ((m * 2 ^ k : ℕ) : ℤ) := by
      rw [zpow_natCast]
      push_cast
      ring
    rw [Int.toNat_natCast, hshift, pow_zero, Nat.div_one, hfloor, Int.floor_intCast]
  · obtain ⟨k, hk⟩ := Int.eq_ofNat_of_zero_le (Int.neg_nonneg.2 hneg)
    obtain rfl : e = -(k : ℤ) := by omega
    have hnone : (-(k : ℤ)).toNat = 0 := by omega
    have hshift : (-(-(k : ℤ) - ((0 : ℕ) : ℤ))).toNat = k := by omega
    have hfloor : (m : ℚ) * 2 ^ (-(k : ℤ)) = (m : ℚ) / ((2 ^ k : ℕ) : ℚ) := by
      rw [zpow_neg, zpow_natCast, div_eq_mul_inv]
      push_cast
      rfl
    rw [hnone, pow_zero, mul_one, hshift, hfloor, Rat.floor_natCast_div_natCast,
      Int.natCast_div]

end StatusDigest.Decimal
