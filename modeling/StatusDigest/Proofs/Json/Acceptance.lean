import StatusDigest.Json.Token
import StatusDigest.Proofs.Decimal.Rounding
import StatusDigest.Proofs.Decimal.Shortest
import StatusDigest.Proofs.Json.Numbers
import Mathlib

/-!
# The decimals of doubles are accepted

The reader of numbers refuses a number whose double would be infinite. It computes that double
with up to three roundings, so a number close to the greatest double could be refused although it
lies below it. `assemble_shortest` shows that no decimal that is written for a double is refused:

* negative powers of ten never lead to infinity (`scale_of_neg`);
* positive powers of ten do not either where three roundings leave room
  (`isInf_scaled_of_upperEnd_le`);
* the three greatest doubles leave no room, and are looked at by themselves.
-/

namespace StatusDigest.Json

open Decimal
open Float.Model (UnpackedFloat Format)
open Float.Model.UnpackedFloat (roundWithAccuracy)

/-! ## Powers of ten -/

/-- Whether an unpacked double is positive, of full precision, and above a number by one rounding
at most. -/
def isRoundedOnce (n : ℕ) : UnpackedFloat → Bool
  | .finite .positive m e _ =>
    2 ^ 52 ≤ m && m < 2 ^ 53 && -52 ≤ e &&
      m * 2 ^ e.toNat * 2 ^ 53 ≤ n * (2 ^ 53 + 1) * 2 ^ (-e).toNat
  | _ => false

theorem reaches_of_isRoundedOnce {n : ℕ} {x : Float}
    (h : isRoundedOnce n x.toModel.unpack = true) : Reaches (n * (1 + 1 / 2 ^ 53)) x := by
  unfold isRoundedOnce at h
  split at h
  · rename_i m e hm hunpack
    simp only [Bool.and_eq_true, decide_eq_true_eq] at h
    obtain ⟨⟨⟨hleast, hmost⟩, he⟩, hle⟩ := h
    refine ⟨m, e, hm, hunpack, ⟨hleast, hmost, by omega⟩, by omega, ?_⟩
    have hle' : (m : ℚ) * 2 ^ e.toNat * 2 ^ 53 ≤ n * (2 ^ 53 + 1) * 2 ^ (-e).toNat := by
      exact_mod_cast hle
    have hpow : (0 : ℚ) < 2 ^ (-e).toNat := by positivity
    rw [← Binary.two_sides 2 two_ne_zero e, mul_div_assoc', div_le_iff₀ hpow]
    norm_num at hle' ⊢
    linarith
  · cases h

/-- The greatest power of ten, rounded, is a double. -/
theorem ten_pow_rounded_lt {power : ℕ} (h : power ≤ 308) :
    (10 : ℚ) ^ power * (1 + 1 / 2 ^ 53) < 2 ^ 1024 := by
  have hgreatest : 10 ^ 308 * 3 < 2 ^ 1024 * 2 := by decide +kernel
  have hgreatest' : ((10 ^ 308 * 3 : ℕ) : ℚ) < (2 ^ 1024 * 2 : ℕ) := Nat.cast_lt.2 hgreatest
  rw [Nat.cast_mul, Nat.cast_mul, Nat.cast_pow, Nat.cast_pow] at hgreatest'
  have hpower : (10 : ℚ) ^ power ≤ 10 ^ 308 := pow_le_pow_right₀ (by norm_num) h
  have hrounded : (10 : ℚ) ^ power * (1 + 1 / 2 ^ 53) ≤ 10 ^ 308 * (3 / 2) := by
    gcongr
    norm_num
  rw [← mul_div_assoc] at hrounded
  exact hrounded.trans_lt ((div_lt_iff₀ two_pos).2 hgreatest')

theorem isRoundedOnce_table :
    ∀ power : Fin 23, isRoundedOnce (10 ^ power.val) (tenTo power.val).toModel.unpack = true := by
  decide +kernel

/-- A power of ten is rounded once, whether it is taken from a table or computed. -/
theorem reaches_tenTo {power : ℕ} (h : power ≤ 308) :
    Reaches (10 ^ power * (1 + 1 / 2 ^ 53)) (tenTo power) := by
  rcases Nat.lt_or_ge power 23 with htable | hcomputed
  · have := reaches_of_isRoundedOnce (isRoundedOnce_table ⟨power, htable⟩)
    exact_mod_cast this
  -- beyond the table a one with 53 bits more is multiplied with the exact power
  · have hleast : 2 ^ 52 ≤ 1 <<< 53 * 10 ^ power :=
      le_trans (by decide) (Nat.le_mul_of_pos_right _ (Nat.pow_pos (by decide)))
    obtain ⟨m, e, hm, hround, hfull, he, hle⟩ :=
      roundWithAccuracy_full (.positive * .positive) hleast (by decide : -1074 ≤ (-53 : ℤ) + 0)
    have hsame : ((1 <<< 53 * 10 ^ power : ℕ) : ℚ) * 2 ^ ((-53 : ℤ) + 0) = 10 ^ power := by
      push_cast
      norm_num
      ring
    rw [hsame] at hle
    refine ⟨m, e, hm, ?_, hfull, by omega, hle⟩
    have hbeyond : ¬ (1 < 2 ^ 53 ∧ power ≤ 22) := by omega
    have hhuge : ¬ (power : ℤ) > 2 ^ Format.binary64.exponentBits := by
      show ¬ (power : ℤ) > 2 ^ 11
      omega
    have htiny : ¬ (power : ℤ) < -(2 ^ Format.binary64.exponentBits + (Nat.log2 1 : ℕ)) := by
      show ¬ (power : ℤ) < -(2 ^ 11 + (0 : ℕ))
      omega
    rw [tenTo, Float.ofScientific, dif_neg hbeyond]
    show (Float.Model.pack (UnpackedFloat.ofScientific .binary64 1 power)).unpack = _
    rw [UnpackedFloat.ofScientific, dif_neg one_ne_zero, if_neg hhuge, if_neg htiny,
      if_pos (Int.natCast_nonneg _)]
    show (Float.Model.pack (roundWithAccuracy .binary64 (.positive * .positive)
      (1 <<< 53 * 10 ^ power) (-53 + 0) .exact)).unpack = _
    rw [hround, unpack_pack hfull (hfull.exponent_le (hle.trans_lt (ten_pow_rounded_lt h)))]
    rfl

/-! ## Scaling -/

/-- Dividing by powers of ten never fails. -/
theorem scale_of_neg (x : Float) {exponent : ℤ} (h : exponent < 0) :
    ∃ y, scale x exponent = .ok y := by
  induction hn : (-exponent).toNat using Nat.strong_induction_on generalizing x exponent with
  | h n ih =>
    rw [scale]
    split
    · rw [if_neg (by omega)]
      exact ⟨_, rfl⟩
    split
    · exact ⟨_, rfl⟩
    rw [if_neg (by omega)]
    exact ih (-(exponent + 308)).toNat (by omega) _ (by omega) rfl

/-- Multiplying with a power of ten does not fail if the product is finite. -/
theorem scale_of_nonneg {x : Float} {power : ℕ} (hpower : power ≤ 308)
    (hfinite : (x * tenTo power).isInf = false) : ∃ y, scale x power = .ok y := by
  rw [scale, if_pos (by simpa using hpower), if_pos (by omega)]
  simp only [Int.natAbs_natCast, hfinite, Bool.false_eq_true, if_false]
  exact ⟨_, rfl⟩

theorem assemble_of_scale {negative : Bool} {significand : ℕ} {exponent : ℤ}
    (h : ∃ y, scale significand.toUInt64.toFloat exponent = .ok y) :
    ∃ y, assemble negative significand exponent = .ok (.real y) := by
  obtain ⟨y, hy⟩ := h
  exact ⟨_, by rw [assemble, hy]; rfl⟩

/-! ## Shortest decimals -/

theorem two_pow_lt_ten_pow : (2 : ℚ) ^ (1024 : ℤ) < 10 ^ (309 : ℤ) := by
  have h : 2 ^ 1024 < 10 ^ 309 := by decide +kernel
  have h' : ((2 ^ 1024 : ℕ) : ℚ) < (10 ^ 309 : ℕ) := Nat.cast_lt.2 h
  rwa [Nat.cast_pow, Nat.cast_pow] at h'

section Shortest

variable {x : Binary} (hx : x.IsFinite)

include hx

theorem power_le (h : Binary.IsShort x x.shortest.1 x.shortest.2) : x.shortest.2 ≤ 308 := by
  have hone : (1 : ℚ) ≤ x.shortest.1 := by exact_mod_cast h.coefficient_pos
  have hlt : (10 : ℚ) ^ x.shortest.2 < 10 ^ (309 : ℤ) := by
    calc (10 : ℚ) ^ x.shortest.2 ≤ x.shortest.1 * 10 ^ x.shortest.2 :=
          le_mul_of_one_le_left (by positivity) hone
      _ ≤ x.upperEnd := h.le_upperEnd
      _ < 2 ^ (1024 : ℤ) := hx.upperEnd_lt
      _ < 10 ^ (309 : ℤ) := two_pow_lt_ten_pow
  have := (zpow_lt_zpow_iff_right₀ (by norm_num)).1 hlt
  omega

/-- All doubles but the three greatest leave room for three roundings. -/
theorem room (hroom : x.exponent < 971 ∨ x.significand + 4 ≤ 2 ^ 53) :
    x.upperEnd * (1 + 1 / 2 ^ 53) ^ 3 < 2 ^ 1024 := by
  have hend : x.upperEnd ≤ (2 ^ 53 - 7 / 2) * 2 ^ (971 : ℤ) := by
    rcases hroom with hexponent | hsignificand
    · have hmost : (x.significand : ℚ) + 1 / 2 ≤ 2 ^ 53 := by
        have : (x.significand : ℚ) + 1 ≤ 2 ^ 53 := by exact_mod_cast hx.significand_lt
        linarith
      calc x.upperEnd ≤ 2 ^ 53 * 2 ^ (970 : ℤ) := by
            rw [Binary.upperEnd]
            gcongr
            · norm_num
            · omega
        _ ≤ (2 ^ 53 - 7 / 2) * 2 * 2 ^ (970 : ℤ) := by
            gcongr
            norm_num
        _ = (2 ^ 53 - 7 / 2) * 2 ^ (971 : ℤ) := by
            rw [show (971 : ℤ) = 970 + 1 by norm_num, zpow_add₀ two_ne_zero, zpow_one]
            ring
    · have hmost : (x.significand : ℚ) + 4 ≤ 2 ^ 53 := by exact_mod_cast hsignificand
      rw [Binary.upperEnd]
      refine mul_le_mul (by linarith) ?_ (by positivity) (by norm_num)
      exact zpow_le_zpow_right₀ (by norm_num) hx.exponent_le
  calc x.upperEnd * (1 + 1 / 2 ^ 53) ^ 3
      ≤ (2 ^ 53 - 7 / 2) * 2 ^ (971 : ℤ) * (1 + 1 / 2 ^ 53) ^ 3 := by gcongr
    _ = (2 ^ 53 - 7 / 2) * (1 + 1 / 2 ^ 53) ^ 3 * 2 ^ (971 : ℤ) := by ring
    _ < 2 ^ 53 * 2 ^ (971 : ℤ) := by
      gcongr
      norm_num
    _ = 2 ^ 1024 := by
      rw [← zpow_natCast, ← zpow_natCast, ← zpow_add₀ two_ne_zero]
      norm_num

/-- The product for the decimal of a double is finite. -/
theorem isInf_scaled (h : Binary.IsShort x x.shortest.1 x.shortest.2) {power : ℕ}
    (hpower : x.shortest.2 = power) :
    (x.shortest.1.toUInt64.toFloat * tenTo power).isInf = false := by
  -- one rounding each for the coefficient, for the power of ten and for the product
  by_cases hroom : x.exponent < 971 ∨ x.significand + 4 ≤ 2 ^ 53
  · have hle := power_le hx h
    refine isInf_mul (reaches_toFloat h.coefficient_pos h.coefficient_lt)
      (reaches_tenTo (by omega)) (lt_of_le_of_lt ?_ (room hx hroom))
    have hupper := h.le_upperEnd
    rw [hpower, zpow_natCast] at hupper
    calc (x.shortest.1 * (1 + 1 / 2 ^ 53) * (10 ^ power * (1 + 1 / 2 ^ 53)) * (1 + 1 / 2 ^ 53) : ℚ)
        = x.shortest.1 * 10 ^ power * (1 + 1 / 2 ^ 53) ^ 3 := by ring
      _ ≤ x.upperEnd * (1 + 1 / 2 ^ 53) ^ 3 := by gcongr
  · obtain ⟨significand, exponent⟩ := x
    have hlt := hx.significand_lt
    have hle := hx.exponent_le
    dsimp only at hroom hlt hle
    obtain rfl : exponent = 971 := by omega
    obtain rfl : power = (Binary.shortest ⟨significand, 971⟩).2.toNat := by omega
    have hgreatest : significand = 2 ^ 53 - 1 ∨ significand = 2 ^ 53 - 2 ∨
        significand = 2 ^ 53 - 3 := by omega
    rcases hgreatest with rfl | rfl | rfl <;> decide +kernel

end Shortest

/-- The decimal that is written for a double is accepted as a number. -/
theorem assemble_shortest {x : Binary} (hx : x.IsFinite) (negative : Bool) :
    ∃ y, assemble negative (readBack x.shortest.1 x.shortest.2).1
      (readBack x.shortest.1 x.shortest.2).2 = .ok (.real y) := by
  apply assemble_of_scale
  rcases Binary.isShort_shortest hx with hzero | hshort
  · rw [hzero]
    exact scale_of_neg _ (by decide)
  unfold readBack
  split
  · exact scale_of_neg _ (Int.negSucc_lt_zero 0)
  rcases lt_or_ge x.shortest.2 0 with hsign | hsign
  · exact scale_of_neg _ hsign
  · obtain ⟨power, hpower⟩ := Int.eq_ofNat_of_zero_le hsign
    have hle := power_le hx hshort
    have hfinite := isInf_scaled hx hshort hpower
    dsimp only
    rw [hpower]
    exact scale_of_nonneg (by omega) hfinite

end StatusDigest.Json
