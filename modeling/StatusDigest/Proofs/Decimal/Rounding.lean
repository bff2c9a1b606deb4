import StatusDigest.Proofs.Decimal.Nearest
import Mathlib

/-!
# Rounding to doubles

What the last step of an operation makes of its exact result, and where this is not infinite:

* `IsFull`: a significand of 53 bits. `carry` shows that rounding to 53 bits leads to one, even if
  it needs one bit more at first;
* `roundWithAccuracy_isRounding`: a result of at least 53 bits is rounded to the nearest double, and
  `roundWithAccuracy_full` is how far this leads upwards;
* `unpack_pack`: packing keeps doubles of full precision;
* `isInf_mul`: a product is finite if the bounds of its factors leave room for three roundings.
-/

namespace StatusDigest.Decimal

open Float.Model (UnpackedFloat Format totalExponent)
open Float.Model.UnpackedFloat (ExtendedMantissa Accuracy roundWithAccuracy shiftToTargetExponent)

/-! ## Shifting -/

theorem shiftRight_mantissa (m k : ℕ) :
    (ExtendedMantissa.ofMantissaAndAccuracy m .exact >>> k).mantissa = m / 2 ^ k := by
  induction k with
  | zero => simp [HShiftRight.hShiftRight, Nat.repeat, ExtendedMantissa.ofMantissaAndAccuracy]
  | succ k ih =>
    show (ExtendedMantissa.ofMantissaAndAccuracy m .exact >>> k).mantissa / 2 = _
    rw [ih, Nat.div_div_eq_div_mul, pow_succ]

/-! ## Rounding -/

/-- A significand of 53 bits, with an exponent that is not too small for a double. -/
structure IsFull (m : ℕ) (e : ℤ) : Prop where
  le_significand : 2 ^ 52 ≤ m
  significand_lt : m < 2 ^ 53
  le_exponent : -1074 ≤ e

/-- The exponent at which a significand has full precision. -/
theorem targetExponent_eq {m : ℕ} {e : ℤ} (h : -1074 ≤ (m.log2 : ℤ) - 52 + e) :
    Format.binary64.targetExponent (totalExponent m e) = m.log2 - 52 + e := by
  simp only [Format.targetExponent, totalExponent, Format.mantissaBits, Format.minExponent]
  norm_num
  omega

/-- A significand with more than 53 bits is shifted to 53 bits. -/
theorem shiftToTargetExponent_full {m k : ℕ} {e : ℤ} (accuracy : Accuracy)
    (hlog : m.log2 = 52 + k) (he : -1074 ≤ e) :
    shiftToTargetExponent .binary64 m e accuracy =
      (ExtendedMantissa.ofMantissaAndAccuracy m accuracy >>> k, e + k) := by
  have hk : ((m.log2 : ℤ) - 52 + e - e).toNat = k := by omega
  rw [shiftToTargetExponent, targetExponent_eq (by omega)]
  simp only [Float.Model.UnpackedFloat.shiftToExponent, hk]

/-- What is rounded to 53 bits may need one bit more, and is even then. -/
theorem carry {m : ℕ} {e : ℤ} (hleast : 2 ^ 52 ≤ m) (hmost : m ≤ 2 ^ 53) (he : -1074 ≤ e) :
    IsFull (shiftToTargetExponent .binary64 m e .exact).1.mantissa
        (shiftToTargetExponent .binary64 m e .exact).2 ∧
      e ≤ (shiftToTargetExponent .binary64 m e .exact).2 ∧
      ((shiftToTargetExponent .binary64 m e .exact).1.mantissa : ℚ) *
        2 ^ (shiftToTargetExponent .binary64 m e .exact).2 = m * 2 ^ e := by
  -- only `2 ^ 53` itself has a bit too many, and halving it is exact
  rcases hmost.lt_or_eq with hlt | rfl
  · have hlog : m.log2 = 52 + 0 := (Nat.log2_eq_iff (by positivity)).2 ⟨hleast, hlt⟩
    rw [shiftToTargetExponent_full .exact hlog he]
    simp only [shiftRight_mantissa, pow_zero, Nat.div_one, Nat.cast_zero, add_zero]
    exact ⟨⟨hleast, hlt, he⟩, le_rfl, trivial⟩
  · rw [shiftToTargetExponent_full (k := 1) .exact Nat.log2_two_pow he]
    simp only [shiftRight_mantissa]
    refine ⟨⟨by decide, by decide, by omega⟩, by omega, ?_⟩
    rw [zpow_add₀ (by norm_num)]
    norm_num
    ring

/-- A double of full precision is its own rounding. -/
theorem IsFull.isRounding {m : ℕ} {e : ℤ} (h : IsFull m e) :
    IsRounding (m * 2 ^ e) (m * 2 ^ e) := by
  have hpower : (2 : ℚ) ^ e ≠ 0 := by positivity
  have hsame : (m : ℚ) * 2 ^ e / 2 ^ e = m := mul_div_cancel_right₀ _ hpower
  have hleast : (2 : ℚ) ^ 52 ≤ m := by exact_mod_cast h.le_significand
  have hmost : (m : ℚ) < 2 ^ 53 := by exact_mod_cast h.significand_lt
  refine .mk (hleast.trans_eq hsame.symm) (hsame.trans_lt hmost) ?_
  rw [hsame]
  exact isNearest_self m

theorem mantissa_ofMantissaAndAccuracy (m : ℕ) (accuracy : Accuracy) :
    (ExtendedMantissa.ofMantissaAndAccuracy m accuracy).mantissa = m := by
  rcases accuracy with _ | _ | _ | _ <;> rfl

/-- A significand with at least 53 bits is rounded to the nearest double. -/
theorem roundWithAccuracy_isRounding (sign : UnpackedFloat.Sign) {m : ℕ} {e : ℤ}
    {accuracy : Accuracy} {v : ℚ} (hm : 2 ^ 52 ≤ m) (he : -1074 ≤ e)
    (hv : Holds (.ofMantissaAndAccuracy m accuracy) v) :
    ∃ m' e', ∃ h : 0 < m', roundWithAccuracy .binary64 sign m e accuracy = .finite sign m' e' h ∧
      IsFull m' e' ∧ e ≤ e' ∧ IsRounding (v * 2 ^ e) (m' * 2 ^ e') := by
  have hm0 : m ≠ 0 := by positivity
  have hlog : 52 ≤ m.log2 := (Nat.le_log2 hm0).2 hm
  obtain ⟨k, hk⟩ : ∃ k, m.log2 = 52 + k := ⟨m.log2 - 52, by omega⟩
  -- the bits of the significand bound the number that it stands for
  have hbounds : 2 ^ 52 ≤ v / 2 ^ k ∧ v / 2 ^ k < 2 ^ 53 := by
    have hpower : (0 : ℚ) < 2 ^ k := by positivity
    have hleast : 2 ^ 52 * 2 ^ k ≤ m := by
      rw [← pow_add, ← hk]
      exact Nat.log2_self_le hm0
    have hmost : m + 1 ≤ 2 ^ 53 * 2 ^ k := by
      rw [← pow_add, show 53 + k = m.log2 + 1 by omega]
      exact Nat.lt_log2_self
    have hbetween := hv.bounds
    rw [mantissa_ofMantissaAndAccuracy] at hbetween
    rw [le_div_iff₀ hpower, div_lt_iff₀ hpower]
    constructor
    · exact le_trans (by exact_mod_cast hleast) hbetween.1
    · exact hbetween.2.trans_le (by exact_mod_cast hmost)
  have hnearest := (hv.shiftRight k).isNearest
  generalize hrounded : (ExtendedMantissa.ofMantissaAndAccuracy m accuracy >>> k).roundedMantissa =
    rounded at hnearest
  have hleast : 2 ^ 52 ≤ rounded := hnearest.le_of_le (by exact_mod_cast hbounds.1)
  have hmost : rounded ≤ 2 ^ 53 := hnearest.le_of_lt (by exact_mod_cast hbounds.2)
  obtain ⟨hfull, hexponent, hsame⟩ := carry (e := e + k) hleast hmost (by omega)
  have hpos : 0 < (shiftToTargetExponent .binary64 rounded (e + k) .exact).1.mantissa :=
    (Nat.two_pow_pos 52).trans_le hfull.le_significand
  refine ⟨_, _, hpos, ?_, hfull, by omega, ?_⟩
  · rw [roundWithAccuracy, shiftToTargetExponent_full accuracy hk he]
    simp only [hrounded, hpos.ne', dite_false]
  · -- the exponent of the result is that of the shift, even if rounding carries
    have hscaled : v * 2 ^ e / 2 ^ (e + k) = v / 2 ^ k := by
      rw [zpow_add₀ two_ne_zero, zpow_natCast]
      field_simp
    rw [hsame]
    exact .mk (by rw [hscaled]; exact hbounds.1) (by rw [hscaled]; exact hbounds.2)
      (by rwa [hscaled])

/-- A number with at least 53 bits is rounded upwards by half a unit at most. -/
theorem roundWithAccuracy_full (sign : UnpackedFloat.Sign) {m : ℕ} {e : ℤ} (hm : 2 ^ 52 ≤ m)
    (he : -1074 ≤ e) :
    ∃ m' e', ∃ h : 0 < m', roundWithAccuracy .binary64 sign m e .exact = .finite sign m' e' h ∧
      IsFull m' e' ∧ e ≤ e' ∧ (m' : ℚ) * 2 ^ e' ≤ m * 2 ^ e * (1 + 1 / 2 ^ 53) := by
  obtain ⟨m', e', hpos, hround, hfull, hexponent, hrounding⟩ :=
    roundWithAccuracy_isRounding sign hm he (holds_exact m)
  exact ⟨m', e', hpos, hround, hfull, hexponent, hrounding.le⟩

/-! ## Packing -/

/-- Doubles of full precision are packed as they are, up to the greatest exponent. -/
theorem unpack_pack {m : ℕ} {e : ℤ} (hfull : IsFull m e) (he : e ≤ 971)
    (sign : UnpackedFloat.Sign) (h : 0 < m) :
    (Float.Model.pack (.finite sign m e h)).unpack = .finite sign m e h := by
  have hlog : m.log2 = 52 :=
    (Nat.log2_eq_iff h.ne').2 ⟨hfull.le_significand, hfull.significand_lt⟩
  obtain ⟨biased, hbiased⟩ : ∃ biased : ℕ, e + 1075 = biased :=
    Int.eq_ofNat_of_zero_le (by have := hfull.le_exponent; omega)
  have hrange : 0 < biased ∧ biased < 2047 := by
    have := hfull.le_exponent
    omega
  have hpacked : UnpackedFloat.pack .binary64 (.finite sign m e h) =
      UnpackedFloat.packComponents .binary64 sign (BitVec.ofNat 11 biased) (BitVec.ofNat 52 m) := by
    have hexponent : (e + Format.binary64.exponentBias +
        Format.binary64.mantissaBitsWithoutImplicit).toNat = biased := by
      show (e + (1023 : ℕ) + (52 : ℕ)).toNat = biased
      omega
    simp only [UnpackedFloat.pack, hexponent, hlog]
    rw [if_neg (by show ¬ 2048 ≤ biased + 1; omega),
      if_pos (show 52 + 1 = Format.binary64.mantissaBits from rfl)]
  have hvalue : (BitVec.ofNat 11 biased).toNat = biased := by
    rw [BitVec.toNat_ofNat, Nat.mod_eq_of_lt (by omega)]
  -- the exponents of all ones and of all zeros are those of no double of full precision
  have hall : BitVec.ofNat 11 biased ≠ -1#11 := by
    intro heq
    rw [heq] at hvalue
    have : biased = 2047 := hvalue.symm
    omega
  have hnone : BitVec.ofNat 11 biased ≠ 0#11 := by
    intro heq
    rw [heq] at hvalue
    have : biased = 0 := hvalue.symm
    omega
  have hsignificand : (1#1 ++ BitVec.ofNat 52 m).toNat = m := by
    have hleast := hfull.le_significand
    have hmost := hfull.significand_lt
    have hbits := Nat.two_pow_add_eq_or_of_lt (BitVec.ofNat 52 m).isLt 1
    rw [BitVec.toNat_append, Nat.shiftLeft_eq, Nat.mul_comm]
    show 2 ^ 52 * 1 ||| (BitVec.ofNat 52 m).toNat = m
    rw [← hbits, BitVec.toNat_ofNat]
    omega
  show UnpackedFloat.unpack .binary64 (UnpackedFloat.pack .binary64 (.finite sign m e h)) = _
  rw [hpacked, UnpackedFloat.unpack]
  simp only [UnpackedFloat.unpackExponent_packComponents,
    UnpackedFloat.unpackMantissa_packComponents, UnpackedFloat.unpackSign_packComponents,
    UnpackedFloat.Sign.ofBitVec_toBitVec, if_neg hall, if_neg hnone, hsignificand, hvalue]
  congr 1
  show (biased : ℤ) - ((1023 : ℕ) + (52 : ℕ)) = e
  omega

/-! ## Products -/

/-- A positive double of full precision from `2⁻¹⁰⁰` upwards that is at most so great. -/
def Reaches (bound : ℚ) (x : Float) : Prop :=
  ∃ m e, ∃ h : 0 < m, x.toModel.unpack = .finite .positive m e h ∧ IsFull m e ∧ -100 ≤ e ∧
    (m : ℚ) * 2 ^ e ≤ bound

/-- What is less than `2 ^ 1024` has an exponent that can be packed. -/
theorem IsFull.exponent_le {m : ℕ} {e : ℤ} (h : IsFull m e) (hvalue : (m : ℚ) * 2 ^ e < 2 ^ 1024) :
    e ≤ 971 := by
  have hleast : (2 : ℚ) ^ 52 ≤ m := by exact_mod_cast h.le_significand
  have hpower : (2 : ℚ) ^ (52 + e) < 2 ^ (1024 : ℤ) := by
    calc (2 : ℚ) ^ (52 + e) = 2 ^ 52 * 2 ^ e := by
          rw [zpow_add₀ (by norm_num)]
          rfl
      _ ≤ m * 2 ^ e := by gcongr
      _ < 2 ^ (1024 : ℤ) := by exact_mod_cast hvalue
  have := (zpow_lt_zpow_iff_right₀ (by norm_num)).1 hpower
  omega

/-- The product of two doubles is finite unless their bounds reach `2 ^ 1024`. -/
theorem isInf_mul {x y : Float} {a b : ℚ} (hx : Reaches a x) (hy : Reaches b y)
    (hbound : a * b * (1 + 1 / 2 ^ 53) < 2 ^ 1024) : (x * y).isInf = false := by
  obtain ⟨m, e, hm, hx, hxfull, hxe, hxle⟩ := hx
  obtain ⟨n, f, hn, hy, hyfull, hyf, hyle⟩ := hy
  have hmn : 2 ^ 52 ≤ m * n := by
    have := hxfull.le_significand
    nlinarith
  obtain ⟨k, g, hk, hround, hfull, hg, hle⟩ :=
    roundWithAccuracy_full (.positive * .positive) hmn (by omega : -1074 ≤ e + f)
  have hproduct : ((m * n : ℕ) : ℚ) * 2 ^ (e + f) ≤ a * b := by
    calc ((m * n : ℕ) : ℚ) * 2 ^ (e + f) = (m * 2 ^ e) * (n * 2 ^ f) := by
          rw [zpow_add₀ (by norm_num)]
          push_cast
          ring
      _ ≤ a * b := by
          have : (0 : ℚ) ≤ n * 2 ^ f := by positivity
          gcongr
          exact le_trans (by positivity) hxle
  have hvalue : (k : ℚ) * 2 ^ g < 2 ^ 1024 := by
    refine hle.trans_lt (lt_of_le_of_lt ?_ hbound)
    gcongr
  show (Float.Model.pack (UnpackedFloat.mul .binary64 x.toModel.unpack
    y.toModel.unpack)).unpack.isInf = false
  rw [hx, hy]
  show (Float.Model.pack (roundWithAccuracy .binary64 (.positive * .positive) (m * n) (e + f)
    .exact)).unpack.isInf = false
  rw [hround, unpack_pack hfull (hfull.exponent_le hvalue)]
  rfl

/-! ## Integers -/

/-- An integer is first given 53 bits at least. -/
theorem round_eq (n : ℕ) :
    UnpackedFloat.round .binary64 .positive n 0 =
      roundWithAccuracy .binary64 .positive (n * 2 ^ (52 - n.log2)) (-(52 - n.log2 : ℕ))
        .exact := by
  have hshift : (0 - Format.binary64.targetExponent (totalExponent n 0)).toNat = 52 - n.log2 := by
    rw [targetExponent_eq (by omega)]
    omega
  rw [UnpackedFloat.round]
  simp only [UnpackedFloat.decreaseExponent, hshift, Nat.shiftLeft_eq]
  rw [zero_sub]

/-- So its value stays the same. -/
theorem filled_value (n : ℕ) :
    ((n * 2 ^ (52 - n.log2) : ℕ) : ℚ) * 2 ^ (-(52 - n.log2 : ℕ) : ℤ) = n := by
  rw [zpow_neg, zpow_natCast]
  push_cast
  field_simp

theorem le_filled {n : ℕ} (hpos : 0 < n) : 2 ^ 52 ≤ n * 2 ^ (52 - n.log2) := by
  calc 2 ^ 52 ≤ 2 ^ (n.log2 + (52 - n.log2)) := Nat.pow_le_pow_right (by decide) (by omega)
    _ = 2 ^ n.log2 * 2 ^ (52 - n.log2) := pow_add _ _ _
    _ ≤ n * 2 ^ (52 - n.log2) := Nat.mul_le_mul_right _ (Nat.log2_self_le hpos.ne')

/-- A positive integer of 64 bits is rounded in the last step only. -/
theorem toFloat_eq {n : ℕ} (hpos : 0 < n) (hlt : n < 2 ^ 64) :
    n.toUInt64.toFloat = .ofModel (.pack (roundWithAccuracy .binary64 .positive
      (n * 2 ^ (52 - n.log2)) (-(52 - n.log2 : ℕ)) .exact)) := by
  have hword : n.toUInt64.toNat = n := by
    simpa using hlt
  show Float.ofModel (.pack (UnpackedFloat.normalize .binary64 (n.toUInt64.toNat : ℤ) 0
    .positive)) = _
  rw [hword, UnpackedFloat.normalize, Int.compare_eq_gt.2 (by omega : (0 : ℤ) < n), ← round_eq n]
  rfl

/-- Its double is not above it by more than one rounding. -/
theorem reaches_toFloat {n : ℕ} (hpos : 0 < n) (hlt : n < 2 ^ 64) :
    Reaches (n * (1 + 1 / 2 ^ 53)) n.toUInt64.toFloat := by
  obtain ⟨m, e, hm, hround, hfull, he, hle⟩ := roundWithAccuracy_full .positive (le_filled hpos)
    (by omega : -1074 ≤ (-(52 - n.log2 : ℕ) : ℤ))
  rw [filled_value n] at hle
  have hsmall : (n : ℚ) * (1 + 1 / 2 ^ 53) < 2 ^ 1024 := by
    have hn : (n : ℚ) < 2 ^ 64 := by exact_mod_cast hlt
    calc (n : ℚ) * (1 + 1 / 2 ^ 53) ≤ 2 ^ 64 * 2 := by
          gcongr
          norm_num
      _ = 2 ^ 65 := by norm_num
      _ < 2 ^ 1024 := pow_lt_pow_right₀ (by norm_num) (by norm_num)
  refine ⟨m, e, hm, ?_, hfull, by omega, hle⟩
  rw [toFloat_eq hpos hlt, hround]
  exact unpack_pack hfull (hfull.exponent_le (hle.trans_lt hsmall)) .positive hm

end StatusDigest.Decimal
