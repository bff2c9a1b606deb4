import StatusDigest.Decimal.Numeral
import Mathlib

/-!
# Doubles that are numbers

Comparing doubles is not an order, because of the double that is not a number. Without it:

* `rank` sends doubles into a linear order; `lt_iff_rank`, `le_iff_rank` and `beq_iff_rank` show
  that comparing doubles is comparing their ranks;
* `Numeral.isNaN_toFloat`: no numeral is read as the double that is not a number, however large or
  small it is.
-/

namespace StatusDigest.Decimal

open Float.Model (UnpackedFloat Format)

/-! ## The order of doubles -/

/-- The place of an unpacked double among those that are numbers: by its class first, then by its
exponent, then by its significand. -/
def place : UnpackedFloat → ℤ ×ₗ ℤ ×ₗ ℤ
  | .infinity .positive => toLex (2, toLex (0, 0))
  | .finite .positive m e _ => toLex (1, toLex (e, m))
  | .zero _ | .notANumber => toLex (0, toLex (0, 0))
  | .finite .negative m e _ => toLex (-1, toLex (-e, -m))
  | .infinity .negative => toLex (-2, toLex (0, 0))

/-- The place of a double among those that are numbers. -/
def rank (x : Float) : ℤ ×ₗ ℤ ×ₗ ℤ :=
  place x.toModel.unpack

theorem cmp_toLex {α β : Type} [LinearOrder α] [LinearOrder β] (a b : α) (x y : β) :
    cmp (toLex (a, x)) (toLex (b, y)) = (cmp a b).then (cmp x y) := by
  rcases lt_trichotomy a b with h | rfl | h
  · have hlt : toLex (a, x) < toLex (b, y) := Prod.Lex.toLex_lt_toLex.2 (.inl h)
    rw [(cmp_eq_lt_iff _ _).2 hlt, (cmp_eq_lt_iff _ _).2 h]
    rfl
  · rw [cmp_self_eq_eq]
    rcases lt_trichotomy x y with h | rfl | h
    · have hlt : toLex (a, x) < toLex (a, y) := Prod.Lex.toLex_lt_toLex.2 (.inr ⟨rfl, h⟩)
      rw [(cmp_eq_lt_iff _ _).2 hlt, (cmp_eq_lt_iff _ _).2 h]
      rfl
    · simp
    · have hlt : toLex (a, y) < toLex (a, x) := Prod.Lex.toLex_lt_toLex.2 (.inr ⟨rfl, h⟩)
      rw [(cmp_eq_gt_iff _ _).2 hlt, (cmp_eq_gt_iff _ _).2 h]
      rfl
  · have hlt : toLex (b, y) < toLex (a, x) := Prod.Lex.toLex_lt_toLex.2 (.inl h)
    rw [(cmp_eq_gt_iff _ _).2 hlt, (cmp_eq_gt_iff _ _).2 h]
    rfl

theorem cmp_natCast (m n : ℕ) : cmp (m : ℤ) n = compare m n := by
  rw [cmp_eq_compare]
  rcases lt_trichotomy m n with h | rfl | h
  · rw [Int.compare_eq_lt.2 (by omega), Nat.compare_eq_lt.2 h]
  · simp
  · rw [Int.compare_eq_gt.2 (by omega), Nat.compare_eq_gt.2 h]

theorem cmp_neg_neg (x y : ℤ) : cmp (-x) (-y) = (cmp x y).swap := by
  rw [cmp_swap]
  simp [cmp, cmpUsing]

/-- Unpacked doubles that are numbers can be compared, and compare like their places. -/
theorem compare_eq_cmp {u v : UnpackedFloat} (hu : u.isNaN = false) (hv : v.isNaN = false) :
    u.compare v = some (cmp (place u) (place v)) := by
  cases u with
  | notANumber => cases hu
  | infinity s =>
    cases v with
    | notANumber => cases hv
    | infinity t => cases s <;> cases t <;> simp only [place, cmp_toLex] <;> rfl
    | zero t => cases s <;> simp only [place, cmp_toLex] <;> rfl
    | finite t m' e' h' => cases s <;> cases t <;> simp only [place, cmp_toLex] <;> rfl
  | zero s =>
    cases v with
    | notANumber => cases hv
    | infinity t => cases t <;> simp only [place, cmp_toLex] <;> rfl
    | zero t => simp only [place, cmp_toLex]; rfl
    | finite t m' e' h' => cases t <;> simp only [place, cmp_toLex] <;> rfl
  | finite s m e h =>
    cases v with
    | notANumber => cases hv
    | infinity t => cases s <;> cases t <;> simp only [place, cmp_toLex] <;> rfl
    | zero t => cases s <;> simp only [place, cmp_toLex] <;> rfl
    | finite t m' e' h' =>
      -- the class decides unless the signs agree; then the exponents count before the significands
      have hexponent : cmp e e' = compare e e' := cmp_eq_compare e e'
      cases s <;> cases t <;>
        simp only [place, cmp_toLex, cmp_neg_neg, cmp_natCast, cmp_self_eq_eq, hexponent]
      · simp [UnpackedFloat.compare, Ordering.swap_then]
      · rfl
      · rfl
      · rfl

section Order

variable {x y : Float} (hx : x.isNaN = false) (hy : y.isNaN = false)

include hx hy

theorem compare_eq_cmp_rank :
    x.toModel.unpack.compare y.toModel.unpack = some (cmp (rank x) (rank y)) :=
  compare_eq_cmp hx hy

theorem lt_iff_rank : x < y ↔ rank x < rank y := by
  have hcompare : x < y ↔ x.toModel.unpack.compare y.toModel.unpack = some .lt := by
    rw [← beq_iff_eq]
    exact decide_eq_true_iff
  rw [hcompare, compare_eq_cmp_rank hx hy, Option.some.injEq, cmp_eq_lt_iff]

theorem rank_le_of_lt (h : x < y) : rank x ≤ rank y :=
  ((lt_iff_rank hx hy).1 h).le

theorem rank_le_of_not_lt (h : ¬ x < y) : rank y ≤ rank x := by
  rw [lt_iff_rank hx hy] at h
  exact not_lt.1 h

theorem le_iff_rank : x ≤ y ↔ rank x ≤ rank y := by
  have hcompare : x ≤ y ↔ (x.toModel.unpack.compare y.toModel.unpack).any (·.isLE) = true :=
    decide_eq_true_iff
  rw [hcompare, compare_eq_cmp_rank hx hy, ← not_lt, ← cmp_eq_gt_iff]
  cases cmp (rank x) (rank y) <;> decide

theorem beq_iff_rank : (x == y) = true ↔ rank x = rank y := by
  have hcompare : (x == y) = true ↔ x.toModel.unpack.compare y.toModel.unpack = some .eq := by
    show (x.toModel.unpack.compare y.toModel.unpack == some .eq) = true ↔ _
    exact beq_iff_eq
  rw [hcompare, compare_eq_cmp_rank hx hy, Option.some.injEq, cmp_eq_eq_iff]

end Order

/-! ## Doubles that are never anything but a number -/

/-- The octets of the double that is not a number have all bits of their exponent set, and some of
their significand. -/
theorem isNaN_unpack {spec : Format} {b : BitVec spec.numBits}
    (h : UnpackedFloat.unpackExponent b = -1#_ → UnpackedFloat.unpackMantissa b = 0#_) :
    (UnpackedFloat.unpack spec b).isNaN = false := by
  unfold UnpackedFloat.unpack
  dsimp only
  split
  · rename_i hexponent
    rw [if_pos (h hexponent)]
    rfl
  split
  · split <;> rfl
  · rfl

/-- Packing makes no number into the double that is none. -/
theorem isNaN_unpack_pack {u : UnpackedFloat} (hu : u.isNaN = false) :
    (Float.Model.pack u).unpack.isNaN = false := by
  apply isNaN_unpack
  rw [Float.Model.pack, UInt64.toBitVec_ofBitVec]
  cases u with
  | notANumber => cases hu
  | infinity sign => simp [UnpackedFloat.pack, UnpackedFloat.packedInfinity]
  | zero sign => simp [UnpackedFloat.pack, UnpackedFloat.packedZero]
  | finite sign m e hm =>
    unfold UnpackedFloat.pack
    dsimp only
    generalize (e + Format.binary64.exponentBias + 52 : ℤ).toNat = biased
    split
    · simp [UnpackedFloat.packedInfinity]
    split
    · -- a normal double does not have all bits of its exponent set
      rename_i hsmall _
      intro hexponent
      rw [UnpackedFloat.unpackExponent_packComponents] at hexponent
      have hall : (BitVec.ofNat 11 biased).toNat = 2047 := by rw [hexponent]; rfl
      rw [BitVec.toNat_ofNat, Nat.mod_eq_of_lt (by omega)] at hall
      omega
    · simp

theorem isNaN_roundWithAccuracy (sign : UnpackedFloat.Sign) (m : ℕ) (e : ℤ)
    (accuracy : UnpackedFloat.Accuracy) :
    (UnpackedFloat.roundWithAccuracy .binary64 sign m e accuracy).isNaN = false := by
  unfold UnpackedFloat.roundWithAccuracy
  dsimp only
  split <;> rfl

/-- Multiplying with a finite double that is not zero gives a number again. -/
theorem isNaN_mul_finite {u : UnpackedFloat} (hu : u.isNaN = false) (sign : UnpackedFloat.Sign)
    {m : ℕ} (e : ℤ) (hm : 0 < m) :
    (UnpackedFloat.mul .binary64 u (.finite sign m e hm)).isNaN = false := by
  cases u with
  | notANumber => cases hu
  | infinity s => rfl
  | zero s => rfl
  | finite s m' e' hm' => exact isNaN_roundWithAccuracy _ _ _ _

/-- So does dividing by one. -/
theorem isNaN_div_finite {u : UnpackedFloat} (hu : u.isNaN = false) (sign : UnpackedFloat.Sign)
    {m : ℕ} (e : ℤ) (hm : 0 < m) :
    (UnpackedFloat.div .binary64 u (.finite sign m e hm)).isNaN = false := by
  cases u with
  | notANumber => cases hu
  | infinity s => rfl
  | zero s => rfl
  | finite s m' e' hm' => exact isNaN_roundWithAccuracy _ _ _ _

theorem isNaN_ofScientific_unpacked (m : ℕ) (e : ℤ) :
    (UnpackedFloat.ofScientific .binary64 m e).isNaN = false := by
  unfold UnpackedFloat.ofScientific
  split
  · rfl
  split
  · rfl
  split
  · rfl
  split
  · exact isNaN_mul_finite rfl _ _ _
  · exact isNaN_div_finite rfl _ _ _

theorem rank_powerOfTen : ∀ i : Fin Float.exactlyRepresentablePowersOfTen.size,
    (ofLex (rank Float.exactlyRepresentablePowersOfTen[i])).1 = 1 := by
  decide +kernel

/-- The powers of ten in the table are finite, and none is zero. -/
theorem unpack_powerOfTen {e : ℕ} (he : e < Float.exactlyRepresentablePowersOfTen.size) :
    ∃ sign m exponent, ∃ hm : 0 < m,
      Float.exactlyRepresentablePowersOfTen[e].toModel.unpack = .finite sign m exponent hm := by
  have hclass := rank_powerOfTen ⟨e, he⟩
  cases hunpack : Float.exactlyRepresentablePowersOfTen[e].toModel.unpack with
  | finite sign m exponent hm => exact ⟨sign, m, exponent, hm, rfl⟩
  | infinity sign => cases sign <;> simp [rank, place, hunpack] at hclass
  | zero sign => simp [rank, place, hunpack] at hclass
  | notANumber => simp [rank, place, hunpack] at hclass

theorem isNaN_ofModel_pack {u : UnpackedFloat} (hu : u.isNaN = false) :
    (Float.ofModel (.pack u)).isNaN = false :=
  isNaN_unpack_pack hu

theorem isNaN_toFloat (n : UInt64) : n.toFloat.isNaN = false := by
  apply isNaN_ofModel_pack
  unfold UnpackedFloat.ofUInt64 UnpackedFloat.ofNat UnpackedFloat.ofInt UnpackedFloat.normalize
  split
  · exact isNaN_roundWithAccuracy _ _ _ _
  · rfl
  · exact isNaN_roundWithAccuracy _ _ _ _

/-- Neither way of reading a decimal gives anything but a number: not the short one, which takes a
power of ten from the table, nor the long one. -/
theorem isNaN_ofScientific (m : ℕ) (negative : Bool) (e : ℕ) :
    (Float.ofScientific m negative e).isNaN = false := by
  unfold Float.ofScientific
  dsimp only
  split
  · rename_i hshort
    have he : e < Float.exactlyRepresentablePowersOfTen.size := Nat.lt_succ_of_le hshort.2
    obtain ⟨sign, m', exponent, hm, hunpack⟩ := unpack_powerOfTen he
    split
    · show (Float.ofModel (.pack (UnpackedFloat.div .binary64 _ _))).isNaN = false
      rw [hunpack]
      exact isNaN_ofModel_pack (isNaN_div_finite (isNaN_toFloat _) _ _ _)
    · show (Float.ofModel (.pack (UnpackedFloat.mul .binary64 _ _))).isNaN = false
      rw [hunpack]
      exact isNaN_ofModel_pack (isNaN_mul_finite (isNaN_toFloat _) _ _ _)
  · exact isNaN_ofModel_pack (isNaN_ofScientific_unpacked _ _)

theorem isNaN_neg {x : Float} (hx : x.isNaN = false) : (-x).isNaN = false := by
  apply isNaN_ofModel_pack
  have hunpack : x.toModel.unpack.isNaN = false := hx
  cases h : x.toModel.unpack with
  | notANumber => rw [h] at hunpack; cases hunpack
  | infinity sign => rfl
  | zero sign => rfl
  | finite sign m e hm => rfl

/-- No numeral is read as the double that is not a number. -/
theorem Numeral.isNaN_toFloat (numeral : Numeral) : numeral.toFloat.isNaN = false := by
  unfold Numeral.toFloat
  dsimp only
  split
  · exact isNaN_neg (isNaN_ofScientific _ _ _)
  · exact isNaN_ofScientific _ _ _

end StatusDigest.Decimal
