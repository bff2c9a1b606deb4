import StatusDigest.Snapshot.Basic
import Mathlib

/-!
# Clamped counts and times

Sums of counts and differences of times are taken over the integers first, and then brought into
the range of a signed word:

* `toInt_ofIntClamp` says what an integer is brought to;
* `Rates.toInt_clampedSum` and `toInt_clampedAge` are the sum and the difference, and
  `toNat_secondsSince` is the time that has passed, which is never negative.
-/

namespace StatusDigest.Stats

/-- An integer is brought to the nearest signed word. -/
theorem toInt_ofIntClamp (i : ℤ) :
    (Int64.ofIntClamp i).toInt = max Int64.minValue.toInt (min Int64.maxValue.toInt i) := by
  have hmin : Int64.minValue.toInt = -2 ^ 63 := by decide
  have hmax : Int64.maxValue.toInt = 2 ^ 63 - 1 := by decide
  by_cases hlow : Int64.minValue.toInt ≤ i
  · by_cases hhigh : i ≤ Int64.maxValue.toInt
    · rw [Int64.toInt_ofIntClamp hlow hhigh, min_eq_right hhigh, max_eq_right hlow]
    · have hclamp : Int64.ofIntClamp i = .maxValue := by
        rw [Int64.ofIntClamp, dif_pos hlow, dif_neg hhigh]
      rw [hclamp, min_eq_left (not_le.1 hhigh).le, max_eq_right (by omega)]
  · have hclamp : Int64.ofIntClamp i = .minValue := by
      rw [Int64.ofIntClamp, dif_neg hlow]
    rw [hclamp, min_eq_right (by omega), max_eq_left (not_le.1 hlow).le]

theorem Rates.toInt_clampedSum (x y : Int64) :
    (Rates.clampedSum x y).toInt =
      max Int64.minValue.toInt (min Int64.maxValue.toInt (x.toInt + y.toInt)) :=
  toInt_ofIntClamp _

theorem toInt_clampedAge (now time : Int64) :
    (clampedAge now time).toInt =
      max Int64.minValue.toInt (min Int64.maxValue.toInt (now.toInt - time.toInt)) :=
  toInt_ofIntClamp _

end StatusDigest.Stats

namespace StatusDigest

/-- The seconds that have passed, at most as many as a signed word holds. -/
theorem toNat_secondsSince (time now : Int64) :
    ((secondsSince time now).toNat : ℤ) =
      min (max 0 (now.toInt - time.toInt)) Int64.maxValue.toInt := by
  have hmin : Int64.minValue.toInt = -2 ^ 63 := by decide
  have hmax : Int64.maxValue.toInt = 2 ^ 63 - 1 := by decide
  have hage := Stats.toInt_clampedAge now time
  have hfits : (Stats.clampedAge now time).toInt.toNat < 2 ^ 64 := by omega
  rw [secondsSince, UInt64.toNat_ofNat_of_lt' hfits]
  omega

end StatusDigest
