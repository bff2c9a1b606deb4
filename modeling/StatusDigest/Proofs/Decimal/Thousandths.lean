import StatusDigest.Proofs.Decimal.Operations
import Mathlib

/-!
# Thousandths as doubles

A number of thousandths is read as the double nearest to it. If this double is multiplied by a
thousand, rounding makes good for what it is off, or it does not, and the fraction is then cut off
from a number that is a little less than it should be:

* `Slips` says for which numbers this happens. It is decided by the remainder of the number by a
  thousand, after the number has been shifted to 62 bits;
* `exists_significand` is what the first rounding makes of a number, and `exists_rounded` is what
  the second one makes of that, both in whole numbers. `slips_iff` is the link between them;
* `floor_of_isRounding` is the result: one is lost if the number slips, and nothing otherwise.

`hasValue_thousandths` and `exists_milliseconds` show that a numeral with three decimals is read and
multiplied in this way.
-/

namespace StatusDigest.Decimal

/-! ## Which numbers slip -/

/-- Shifted to 62 bits, the number is at least a thousand of the least significands, and above a
multiple of a thousand by more than 256 and less than 500.

These are the numbers for which a thousand times the double nearest to `k / 1000` is rounded to a
double below `k`. -/
def Slips (k : ℕ) : Prop :=
  ∃ p < 62, 1000 * 2 ^ 52 ≤ k * 2 ^ p ∧ k * 2 ^ p < 2 ^ 62 ∧
    256 < k * 2 ^ p % 1000 ∧ k * 2 ^ p % 1000 < 500

instance (k : ℕ) : Decidable (Slips k) :=
  inferInstanceAs (Decidable (∃ p < 62, _ ∧ _ ∧ _ ∧ _))

/-- Only one shift gives a number as many bits as a thousand significands have. -/
theorem shift_le {k p q : ℕ} (hleast : 1000 * 2 ^ 52 ≤ k * 2 ^ p)
    (hmost : k * 2 ^ q < 1000 * 2 ^ 53) : q ≤ p := by
  by_contra hlt
  have hdouble : k * 2 ^ p * 2 ≤ k * 2 ^ q := by
    rw [mul_assoc, ← pow_succ]
    exact Nat.mul_le_mul_left k (Nat.pow_le_pow_right two_pos (by omega))
  omega

/-- A number slips if the nearest thousand significands have 62 bits and are too small by more than
half of the unit to which they are rounded. -/
theorem slips_iff {k p n : ℕ} (hdvd : 8 ∣ k * 2 ^ p) (hleast : 1000 * 2 ^ 52 ≤ k * 2 ^ p)
    (hmost : k * 2 ^ p < 1000 * 2 ^ 53) (hbelow : n * 1000 ≤ k * 2 ^ p + 500)
    (habove : k * 2 ^ p ≤ n * 1000 + 500) :
    Slips k ↔ n * 1000 < 2 ^ 62 ∧ n * 1000 + 256 < k * 2 ^ p := by
  constructor
  · rintro ⟨q, -, hleast', hmost', hremainder⟩
    obtain rfl : p = q := le_antisymm (shift_le hleast' hmost) (shift_le hleast (by omega))
    -- the remainder would be at least 500 if the nearest thousands were not below
    have hquotient : k * 2 ^ p / 1000 = n := by omega
    omega
  · rintro ⟨hsmall, hless⟩
    have hquotient : k * 2 ^ p / 1000 = n := by omega
    have hmost' : k * 2 ^ p < 2 ^ 62 := by omega
    refine ⟨p, ?_, hleast, hmost', by omega, by omega⟩
    have hk : 0 < k := Nat.pos_of_ne_zero (by rintro rfl; simp at hleast)
    have hpower : 2 ^ p < 2 ^ 62 := (Nat.le_mul_of_pos_left _ hk).trans_lt hmost'
    exact (Nat.pow_lt_pow_iff_right one_lt_two).1 hpower

/-! ## Rounding in whole numbers -/

theorem isNearest_div {n d m : ℕ} (hd : 0 < d) (hbelow : 2 * (m * d) ≤ 2 * n + d)
    (habove : 2 * n ≤ 2 * (m * d) + d)
    (heven : 2 * (m * d) = 2 * n + d ∨ 2 * n = 2 * (m * d) + d → Even m) :
    IsNearest (n / d) m := by
  have hd' : (0 : ℚ) < d := by exact_mod_cast hd
  have hbelow' : 2 * ((m : ℚ) * d) ≤ 2 * n + d := by exact_mod_cast hbelow
  have habove' : 2 * (n : ℚ) ≤ 2 * (m * d) + d := by exact_mod_cast habove
  refine ⟨?_, ?_, ?_⟩
  · rw [le_div_iff₀ hd']
    linarith
  · rw [div_le_iff₀ hd']
    linarith
  · rintro (hhalf | hhalf) <;> rw [div_eq_iff hd'.ne'] at hhalf
    · have hwhole : 2 * ((m : ℚ) * d) = 2 * n + d := by linarith
      exact heven (.inl (by exact_mod_cast hwhole))
    · have hwhole : 2 * (n : ℚ) = 2 * (m * d) + d := by linarith
      exact heven (.inr (by exact_mod_cast hwhole))

/-- The other way round, without the tie. -/
theorem IsNearest.bounds_of_div {n d m : ℕ} (hd : 0 < d) (h : IsNearest (n / d) m) :
    2 * (m * d) ≤ 2 * n + d ∧ 2 * n ≤ 2 * (m * d) + d := by
  have hd' : (0 : ℚ) < d := by exact_mod_cast hd
  have hbelow := h.below
  have habove := h.above
  rw [le_div_iff₀ hd'] at hbelow
  rw [div_le_iff₀ hd'] at habove
  have hbelow' : 2 * ((m : ℚ) * d) ≤ 2 * n + d := by linarith
  have habove' : 2 * (n : ℚ) ≤ 2 * (m * d) + d := by linarith
  exact ⟨by exact_mod_cast hbelow', by exact_mod_cast habove'⟩

/-- What the first rounding makes of a number of thousandths: a significand that is a thousandth of
the shifted number, up to a half. -/
theorem exists_significand {k : ℕ} (hlt : k < 2 ^ 40) {w : ℚ} (h : IsRounding (k / 1000) w) :
    ∃ n p : ℕ, w = n / 2 ^ p ∧ 22 ≤ p ∧ 2 ^ 52 ≤ n ∧ 1000 * 2 ^ 52 ≤ k * 2 ^ p ∧
      k * 2 ^ p < 1000 * 2 ^ 53 ∧ n * 1000 ≤ k * 2 ^ p + 500 ∧ k * 2 ^ p ≤ n * 1000 + 500 := by
  cases h with
  | @mk e n least most nearest =>
    have hexponent : e ≤ -22 := by
      have hk : (k : ℚ) < 2 ^ 40 := by exact_mod_cast hlt
      apply exponent_le_of_bounds least
      rw [div_lt_iff₀ (by positivity)]
      calc (k : ℚ) / 1000 < 2 ^ 40 / 1000 := div_lt_div_of_pos_right hk (by norm_num)
        _ < 2 ^ 53 * 2 ^ (-22 : ℤ) := by norm_num
    obtain ⟨p, hp⟩ := Int.eq_ofNat_of_zero_le (by omega : 0 ≤ -e)
    obtain rfl : e = -(p : ℤ) := by omega
    have hscaled : (k : ℚ) / 1000 / 2 ^ (-(p : ℤ)) = (k * 2 ^ p : ℕ) / (1000 : ℕ) := by
      rw [zpow_neg, zpow_natCast, div_inv_eq_mul]
      push_cast
      ring
    rw [hscaled] at least most nearest
    have hn := nearest.le_of_le (by exact_mod_cast least : ((2 ^ 52 : ℕ) : ℚ) ≤ _)
    obtain ⟨hbelow, habove⟩ := nearest.bounds_of_div (by norm_num)
    rw [le_div_iff₀' (by norm_num)] at least
    rw [div_lt_iff₀' (by norm_num)] at most
    have hleast : 1000 * 2 ^ 52 ≤ k * 2 ^ p := by exact_mod_cast least
    have hmost : k * 2 ^ p < 1000 * 2 ^ 53 := by exact_mod_cast most
    refine ⟨n, p, ?_, by omega, hn, hleast, hmost, by linarith, by linarith⟩
    rw [zpow_neg, zpow_natCast, div_eq_mul_inv]

/-- What the second rounding makes of a number near `v`: a multiple of 512 or of 1024, which is `v`
or one of its neighbours. It is the one below if nine bits are cut off and less than half of them is
missing. -/
theorem exists_rounded {x v : ℕ} (hx : 2 ^ 52 * 1000 ≤ x) (hv : 2 ^ 11 ∣ v)
    (hmost : v < 1000 * 2 ^ 53) (hbelow : x ≤ v + 500) (habove : v ≤ x + 500) :
    ∃ g m : ℕ, 2 ^ 52 * 2 ^ g ≤ x ∧ x < 2 ^ 53 * 2 ^ g ∧ IsNearest (x / (2 ^ g : ℕ)) m ∧
      if x < 2 ^ 62 ∧ x + 256 < v then m * 2 ^ g + 512 = v
      else m * 2 ^ g = v ∨ m * 2 ^ g = v + 512 := by
  obtain ⟨c, hc⟩ := hv
  rcases lt_or_ge x (2 ^ 62) with hsmall | hlarge
  · -- the number has 62 bits, and nine of them are cut off
    rcases lt_or_ge (x + 256) v with hless | hnotless
    · have hm : (4 * c - 1) * 2 ^ 9 + 512 = v := by omega
      refine ⟨9, 4 * c - 1, by omega, by omega, ?_, ?_⟩
      · exact isNearest_div (by norm_num) (by omega) (by omega) (by omega)
      · rw [if_pos ⟨hsmall, hless⟩]
        exact hm
    rcases lt_or_ge (v + 256) x with hmore | hnotmore
    · have hm : (4 * c + 1) * 2 ^ 9 = v + 512 := by omega
      refine ⟨9, 4 * c + 1, by omega, by omega, ?_, ?_⟩
      · exact isNearest_div (by norm_num) (by omega) (by omega) (by omega)
      · rw [if_neg (by omega)]
        exact .inr hm
    · -- between two neighbours the tie goes to the even one, which is `v`
      have hm : 4 * c * 2 ^ 9 = v := by omega
      refine ⟨9, 4 * c, by omega, by omega, ?_, ?_⟩
      · exact isNearest_div (by norm_num) (by omega) (by omega) fun _ => ⟨2 * c, by ring⟩
      · rw [if_neg (by omega)]
        exact .inl hm
  · -- ten bits are cut off, and less than half of the unit is missing or too much
    have hm : 2 * c * 2 ^ 10 = v := by omega
    refine ⟨10, 2 * c, by omega, by omega, ?_, ?_⟩
    · exact isNearest_div (by norm_num) (by omega) (by omega) (by omega)
    · rw [if_neg (by omega)]
      exact .inl hm

/-- A number of enough bits is rounded to a multiple of the power of two that is cut off. -/
theorem isRounding_div {x g m : ℕ} (p : ℕ) (hleast : 2 ^ 52 * 2 ^ g ≤ x)
    (hmost : x < 2 ^ 53 * 2 ^ g) (hnear : IsNearest (x / (2 ^ g : ℕ)) m) :
    IsRounding (x / 2 ^ p) ((m * 2 ^ g : ℕ) / (2 ^ p : ℕ)) := by
  have hpower : (0 : ℚ) < 2 ^ g := by positivity
  have hscaled : (x : ℚ) / 2 ^ p / 2 ^ ((g : ℤ) - p) = x / (2 ^ g : ℕ) := by
    rw [zpow_sub₀ two_ne_zero, zpow_natCast, zpow_natCast]
    push_cast
    field_simp
  have hvalue : ((m * 2 ^ g : ℕ) : ℚ) / (2 ^ p : ℕ) = m * 2 ^ ((g : ℤ) - p) := by
    rw [zpow_sub₀ two_ne_zero, zpow_natCast, zpow_natCast]
    push_cast
    rw [mul_div_assoc]
  rw [hvalue]
  refine .mk ?_ ?_ ?_
  · rw [hscaled, Nat.cast_pow, Nat.cast_ofNat, le_div_iff₀ hpower]
    exact_mod_cast hleast
  · rw [hscaled, Nat.cast_pow, Nat.cast_ofNat, div_lt_iff₀ hpower]
    exact_mod_cast hmost
  · rwa [hscaled]

/-! ## The result -/

/-- The thousandths of a number are rounded to a double, and a thousand times the double is rounded
again: what is left without its fraction is the number, or one less if it slips. -/
theorem floor_of_isRounding {k : ℕ} (hlt : k < 2 ^ 40) {w w' : ℚ} (h : IsRounding (k / 1000) w)
    (h' : IsRounding (w * 1000) w') : ⌊w'⌋ = ((if Slips k then k - 1 else k : ℕ) : ℤ) := by
  obtain ⟨n, p, rfl, hp, hn, hleast, hmost, hbelow, habove⟩ := exists_significand hlt h
  have hdvd : ∀ j ≤ 22, 2 ^ j ∣ k * 2 ^ p := fun j hj =>
    (pow_dvd_pow 2 (hj.trans hp)).mul_left k
  obtain ⟨g, m, hleast', hmost', hnear, hvalue⟩ :=
    exists_rounded (Nat.mul_le_mul_right 1000 hn) (hdvd 11 (by norm_num)) hmost hbelow habove
  have hproduct : (n : ℚ) / 2 ^ p * 1000 = (n * 1000 : ℕ) / 2 ^ p := by
    push_cast
    rw [div_mul_eq_mul_div]
  rw [hproduct] at h'
  obtain rfl := h'.unique (isRounding_div p hleast' hmost' hnear)
  rw [Rat.floor_natCast_div_natCast, ← Int.natCast_div, Nat.cast_inj]
  have hpower : 2 ^ 22 ≤ 2 ^ p := Nat.pow_le_pow_right two_pos hp
  have hpos : 0 < 2 ^ p := Nat.two_pow_pos p
  -- whatever is too much or missing is less than one
  simp only [← slips_iff (hdvd 3 (by norm_num)) hleast hmost hbelow habove] at hvalue
  by_cases hslips : Slips k
  · rw [if_pos hslips] at hvalue ⊢
    have hk : k ≠ 0 := by
      rintro rfl
      simp at hleast
    have hone : (k - 1) * 2 ^ p + 2 ^ p = k * 2 ^ p := by
      rw [← Nat.succ_mul, Nat.succ_eq_add_one, Nat.sub_add_cancel (Nat.pos_of_ne_zero hk)]
    rw [Nat.div_eq_iff hpos]
    omega
  · rw [if_neg hslips] at hvalue ⊢
    rw [Nat.div_eq_iff hpos]
    omega

/-- From 1000 on every second number slips, until the numbers have one bit more. -/
example : ∀ k ∈ List.range' 1000 30, Slips k ↔ k < 1024 ∧ k % 2 = 1 := by
  decide +kernel

/-! ## Doubles -/

theorem hasValue_one : HasValue (1 : UInt64).toFloat 1 := by
  simpa using hasValue_toFloat one_pos (by norm_num : 1 < 2 ^ 53)

theorem hasValue_thousand : HasValue 1000.0 1000 :=
  ⟨1000 * 2 ^ 43, -43, by norm_num, rfl, ⟨by norm_num, by norm_num, by norm_num⟩, by norm_num,
    by norm_num⟩

/-- The thousand in the table of the powers of ten. -/
theorem hasValue_tenPowThree (h : 3 < Float.exactlyRepresentablePowersOfTen.size) :
    HasValue Float.exactlyRepresentablePowersOfTen[3] 1000 := by
  have hentry : Float.exactlyRepresentablePowersOfTen[3] = 1000.0 := rfl
  rw [hentry]
  exact hasValue_thousand

section Thousandths

variable {k : ℕ} (hpos : 0 < k) (hlt : k < 2 ^ 40)

include hpos hlt

theorem thousandths_bounds : 2 ^ (-10 : ℤ) ≤ (k : ℚ) / 1000 ∧ (k : ℚ) / 1000 < 2 ^ 40 := by
  have hleast : (1 : ℚ) ≤ k := by exact_mod_cast hpos
  have hmost : (k : ℚ) < 2 ^ 40 := by exact_mod_cast hlt
  constructor
  · rw [le_div_iff₀ (by norm_num)]
    norm_num
    linarith
  · rw [div_lt_iff₀ (by norm_num)]
    linarith

/-- A numeral with three decimals is read as the double nearest to it. -/
theorem hasValue_ofScientific :
    ∃ w, HasValue (Float.ofScientific k true 3) w ∧ IsRounding (k / 1000) w := by
  have hfast : k < 2 ^ 53 ∧ 3 ≤ 22 := ⟨hlt.trans (by norm_num), by norm_num⟩
  obtain ⟨hlow, hhigh⟩ := thousandths_bounds hpos hlt
  have hquotient := (hasValue_toFloat hpos hfast.1).div (hasValue_tenPowThree (by decide))
    ((zpow_le_zpow_right₀ one_le_two (by norm_num)).trans hlow)
    (hhigh.trans (pow_lt_pow_right₀ one_lt_two (by norm_num)))
  rw [Float.ofScientific, dif_pos hfast]
  exact hquotient

variable {x : Float} {w : ℚ} (hx : HasValue x w) (hw : IsRounding (k / 1000) w)

include hw

theorem rounded_bounds : 2 ^ (-11 : ℤ) ≤ w ∧ w ≤ 2 ^ 41 := by
  obtain ⟨hlow, hhigh⟩ := thousandths_bounds hpos hlt
  have hleast := hw.le_two_mul_rounded
  have hmost := hw.le
  constructor
  · have htwice : (2 : ℚ) * 2 ^ (-11 : ℤ) ≤ 2 * w := by
      calc (2 : ℚ) * 2 ^ (-11 : ℤ) = 2 ^ (-10 : ℤ) := by norm_num
        _ ≤ k / 1000 := hlow
        _ ≤ 2 * w := hleast
    exact le_of_mul_le_mul_left htwice two_pos
  · linarith

include hx

/-- Dividing by one rounds nothing. -/
theorem hasValue_div_one : HasValue (x / (1 : UInt64).toFloat) w := by
  obtain ⟨hlow, hhigh⟩ := rounded_bounds hpos hlt hw
  obtain ⟨w', hw', hrounding⟩ := hx.div hasValue_one
    (by rw [div_one]; exact (zpow_le_zpow_right₀ one_le_two (by norm_num)).trans hlow)
    (by rw [div_one]; exact hhigh.trans_lt (pow_lt_pow_right₀ one_lt_two (by norm_num)))
  rw [div_one] at hrounding
  rwa [hx.isRounding.unique hrounding]

/-- Without its fraction, a thousand times the double is the number, or one less if it slips. -/
theorem toInt_thousand_mul (low high : ℤ) :
    (x * 1000.0).toModel.unpack.toInt low high = ((if Slips k then k - 1 else k : ℕ) : ℤ) := by
  obtain ⟨hlow, hhigh⟩ := rounded_bounds hpos hlt hw
  have hleast : 2 ^ (-900 : ℤ) ≤ w * 1000 := by
    calc (2 : ℚ) ^ (-900 : ℤ) ≤ 2 ^ (-11 : ℤ) := zpow_le_zpow_right₀ one_le_two (by norm_num)
      _ ≤ w := hlow
      _ ≤ w * 1000 := le_mul_of_one_le_right hx.pos.le (by norm_num)
  have hmost : w * 1000 < 2 ^ 1023 := by
    calc w * 1000 ≤ 2 ^ 41 * 1000 := mul_le_mul_of_nonneg_right hhigh (by norm_num)
      _ < 2 ^ 51 := by norm_num
      _ < 2 ^ 1023 := pow_lt_pow_right₀ one_lt_two (by norm_num)
  obtain ⟨w', hw', hrounding⟩ := hx.mul hasValue_thousand hleast hmost
  rw [hw'.toInt_unpack, floor_of_isRounding hlt hw hrounding]

end Thousandths

end StatusDigest.Decimal
