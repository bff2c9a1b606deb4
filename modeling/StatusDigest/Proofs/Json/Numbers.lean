import StatusDigest.Json.Writer
import StatusDigest.Json.Reader
import StatusDigest.Proofs.Decimal.Text
import Mathlib

/-!
# Reading numbers back

A number ends where a value may end: at the end of the text, at a comma, or at a line feed
(`Closes`).

* `readNumber_toDigits`: decimal digits are read as the integer that they denote;
* `readNumber_decimalText`: a coefficient and a power of ten are read as such, wherever the point
  or the exponent puts them. Only of a whole number without exponent the reader takes the zero
  behind the point for a further digit (`readBack`).
-/

namespace StatusDigest.Json

open Decimal

/-! ## Digits -/

/-- What may follow a value: nothing, or what follows a field of a record. -/
def Closes (rest : List Char) : Prop :=
  ∀ c ∈ rest.head?, c = ',' ∨ c = '\n'

theorem closes_nil : Closes [] := by
  simp [Closes]

theorem closes_comma (rest : List Char) : Closes (',' :: rest) := by
  simp [Closes]

theorem closes_newLine (depth : ℕ) (rest : List Char) : Closes (newLine depth ++ rest) := by
  simp [Closes, newLine]

/-- What follows a value is no part of a number. -/
theorem Closes.ne_of_cons {c : Char} {rest : List Char} (h : Closes (c :: rest)) :
    c ≠ '.' ∧ c ≠ 'e' ∧ c ≠ 'E' := by
  obtain rfl | rfl := h c rfl <;> decide

/-- A text that does not go on with digits. -/
def EndsDigits (rest : List Char) : Prop :=
  ∀ c ∈ rest.head?, c.isDigit = false

theorem Closes.endsDigits {rest : List Char} (h : Closes rest) : EndsDigits rest := by
  intro c hc
  obtain rfl | rfl := h c hc <;> decide

theorem endsDigits_cons {c : Char} (hc : c.isDigit = false) (rest : List Char) :
    EndsDigits (c :: rest) := by
  simpa [EndsDigits] using hc

section Digits

variable {digits rest : List Char} (hdigits : ∀ c ∈ digits, c.isDigit = true)
  (hrest : EndsDigits rest)

include hdigits hrest

theorem takeWhile_digits : (digits ++ rest).takeWhile Char.isDigit = digits := by
  rw [List.takeWhile_append_of_pos hdigits]
  cases rest with
  | nil => simp
  | cons c rest => simp [hrest c rfl]

theorem dropWhile_digits : (digits ++ rest).dropWhile Char.isDigit = rest := by
  rw [List.dropWhile_append_of_pos hdigits]
  cases rest with
  | nil => rfl
  | cons c rest => simp [hrest c rfl]

end Digits

/-- Digits only add to what stands before them. -/
theorem le_ofDigitChars (digits : List Char) (n : ℕ) : n ≤ Nat.ofDigitChars 10 digits n := by
  induction digits generalizing n with
  | nil => simp
  | cons digit digits ih =>
    rw [Nat.ofDigitChars_cons]
    exact le_trans (by omega) (ih _)

/-- Digits whose number stays below the limit are all taken. -/
theorem appendDigits_of_lt {limit n : ℕ} {digits : List Char}
    (h : Nat.ofDigitChars 10 digits n < limit) :
    appendDigits limit n digits = (Nat.ofDigitChars 10 digits n, []) := by
  induction digits generalizing n with
  | nil => simp [appendDigits]
  | cons digit digits ih =>
    rw [Nat.ofDigitChars_cons, Nat.mul_comm 10 n] at h ⊢
    have hlonger := le_ofDigitChars digits (n * 10 + (digit.toNat - '0'.toNat))
    rw [appendDigits, if_pos (by omega), ih h]

theorem isDigit_of_mem_zeros {n : ℕ} {c : Char} (h : c ∈ List.replicate n '0') :
    c.isDigit = true := by
  rw [List.eq_of_mem_replicate h]
  decide

/-- The digits of a positive number do not start with a zero. -/
theorem head?_toDigits {n : ℕ} (hn : 0 < n) : (Nat.toDigits 10 n).head? ≠ some '0' := by
  induction n using Nat.strong_induction_on with
  | h n ih =>
    rcases Nat.lt_or_ge n 10 with hsmall | hlarge
    · clear ih
      interval_cases n <;> decide
    · rw [Nat.toDigits_of_base_le (by decide) hlarge,
        List.head?_append_of_ne_nil _ Nat.toDigits_ne_nil]
      exact ih (n / 10) (by omega) (by omega)

/-! ## Numbers without and with a point -/

/-- Digits that may stand before a point or alone: there is one, and no zero in front of others. -/
structure IsWhole (digits : List Char) : Prop where
  nonempty : digits ≠ []
  isDigit : ∀ c ∈ digits, c.isDigit = true
  noLeadingZero : digits.head? = some '0' → digits = ['0']

theorem isWhole_toDigits (n : ℕ) : IsWhole (Nat.toDigits 10 n) where
  nonempty := Nat.toDigits_ne_nil
  isDigit _ := isDigit_of_mem_toDigits
  noLeadingZero h := by
    rcases Nat.eq_zero_or_pos n with rfl | hn
    · rfl
    · exact absurd h (head?_toDigits hn)

/-- How reading goes on after a whole part of the given number. -/
def readAfter (negative : Bool) (whole : ℕ) (text : List Char) :
    Except Fault (Number × List Char) :=
  match text with
  | '.' :: rest => readFraction negative whole 0 rest
  | 'e' :: rest | 'E' :: rest => readExponent negative whole 0 rest
  | rest => .ok (ofInteger negative whole, rest)

theorem readAfter_closes {rest : List Char} (hrest : Closes rest) (negative : Bool) (whole : ℕ) :
    readAfter negative whole rest = .ok (ofInteger negative whole, rest) := by
  cases rest with
  | nil => rfl
  | cons c rest =>
    obtain ⟨hpoint, he, hE⟩ := hrest.ne_of_cons
    rw [readAfter]
    · exact fun rest h => hpoint (List.cons.inj h).1
    · exact fun rest h => he (List.cons.inj h).1
    · exact fun rest h => hE (List.cons.inj h).1

/-- A whole part is read in one piece. -/
theorem readNumber_whole {digits rest : List Char} (hdigits : IsWhole digits)
    (hrest : EndsDigits rest) (hlimit : Nat.ofDigitChars 10 digits 0 < significandLimit)
    (negative : Bool) :
    readNumber negative (digits ++ rest) =
      readAfter negative (Nat.ofDigitChars 10 digits 0) rest := by
  have htake := takeWhile_digits hdigits.isDigit hrest
  have hdrop := dropWhile_digits hdigits.isDigit hrest
  obtain ⟨c, more, rfl⟩ := List.exists_cons_of_ne_nil hdigits.nonempty
  have hc : c.isDigit = true := hdigits.isDigit c (by simp)
  have hzero : ¬ (c = '0' ∧ (more ++ rest).head?.any Char.isDigit = true) := by
    rintro ⟨rfl, hnext⟩
    have hmore : more = [] := by simpa using hdigits.noLeadingZero rfl
    subst hmore
    cases rest with
    | nil => simp at hnext
    | cons c rest => simp [hrest c rfl] at hnext
  rw [List.cons_append] at htake hdrop ⊢
  rw [readNumber]
  simp only [hc, Bool.not_true, Bool.false_eq_true, if_false, if_neg hzero, htake, hdrop,
    appendDigits_of_lt hlimit, List.length_nil, Nat.cast_zero, List.isEmpty_nil, if_true]
  rfl

/-- Decimal digits are read as their number. -/
theorem readNumber_toDigits {n : ℕ} (hn : n < significandLimit) {rest : List Char}
    (hrest : Closes rest) (negative : Bool) :
    readNumber negative (Nat.toDigits 10 n ++ rest) = .ok (ofInteger negative n, rest) := by
  rw [readNumber_whole (isWhole_toDigits n) hrest.endsDigits
    (by rwa [Nat.ofDigitChars_ten_toDigits]), Nat.ofDigitChars_ten_toDigits,
    readAfter_closes hrest]

/-! ## Fractions and exponents -/

theorem readScale_closes {rest : List Char} (hrest : Closes rest) (negative : Bool)
    (significand : ℕ) (exponent : ℤ) :
    readScale negative significand exponent rest =
      (assemble negative significand exponent).map (·, rest) := by
  cases rest with
  | nil => rfl
  | cons c rest =>
    obtain ⟨-, he, hE⟩ := hrest.ne_of_cons
    rw [readScale]
    · exact fun rest h => he (List.cons.inj h).1
    · exact fun rest h => hE (List.cons.inj h).1

/-- The digits after a point add to the significand and count for the exponent. -/
theorem readFraction_digits {digits rest : List Char} (hnonempty : digits ≠ [])
    (hdigits : ∀ c ∈ digits, c.isDigit = true) (hrest : EndsDigits rest) {significand : ℕ}
    (hlimit : Nat.ofDigitChars 10 digits significand < significandLimit) (negative : Bool)
    (exponent : ℤ) :
    readFraction negative significand exponent (digits ++ rest) =
      readScale negative (Nat.ofDigitChars 10 digits significand) (exponent - digits.length)
        rest := by
  have htake := takeWhile_digits hdigits hrest
  have hdrop := dropWhile_digits hdigits hrest
  obtain ⟨c, more, rfl⟩ := List.exists_cons_of_ne_nil hnonempty
  have hc : c.isDigit = true := hdigits c (by simp)
  rw [List.cons_append] at htake hdrop ⊢
  rw [readFraction]
  simp only [hc, Bool.not_true, Bool.false_eq_true, if_false, htake, hdrop,
    appendDigits_of_lt hlimit, List.length_nil, Nat.cast_zero, sub_zero]

theorem readExponent_digits {digits rest text : List Char} (hnonempty : digits ≠ [])
    (hdigits : ∀ c ∈ digits, c.isDigit = true) (hrest : EndsDigits rest)
    (hlimit : Nat.ofDigitChars 10 digits 0 < exponentLimit) {lowers : Bool}
    (htext : takeSign text = (lowers, digits ++ rest)) (negative : Bool) (significand : ℕ)
    (exponent : ℤ) :
    readExponent negative significand exponent text =
      (assemble negative significand
        (exponent + signed lowers (Nat.ofDigitChars 10 digits 0))).map (·, rest) := by
  have htake := takeWhile_digits hdigits hrest
  have hdrop := dropWhile_digits hdigits hrest
  obtain ⟨c, more, rfl⟩ := List.exists_cons_of_ne_nil hnonempty
  have hc : c.isDigit = true := hdigits c (by simp)
  rw [List.cons_append] at htake hdrop htext
  rw [readExponent, htext]
  simp only [hc, Bool.not_true, Bool.false_eq_true, if_false, htake, hdrop,
    appendDigits_of_lt hlimit, List.isEmpty_nil]

/-- A written exponent is applied. -/
theorem readExponent_exponentText {written : ℤ} (hwritten : written.natAbs < exponentLimit)
    {rest : List Char} (hrest : EndsDigits rest) (negative : Bool) (significand : ℕ)
    (exponent : ℤ) :
    readExponent negative significand exponent (exponentText written ++ rest) =
      (assemble negative significand (exponent + written)).map (·, rest) := by
  have hdigits : ∀ c ∈ Nat.toDigits 10 written.natAbs, c.isDigit = true :=
    fun _ => isDigit_of_mem_toDigits
  have hlimit : Nat.ofDigitChars 10 (Nat.toDigits 10 written.natAbs) 0 < exponentLimit := by
    rwa [Nat.ofDigitChars_ten_toDigits]
  rcases lt_or_ge written 0 with hsign | hsign
  · have htext : takeSign (exponentText written ++ rest) =
        (true, Nat.toDigits 10 written.natAbs ++ rest) := by
      rw [exponentText, if_neg (by omega), toList_integerText, if_pos hsign]
      rfl
    rw [readExponent_digits Nat.toDigits_ne_nil hdigits hrest hlimit htext,
      Nat.ofDigitChars_ten_toDigits, signed, if_pos rfl, Int.ofNat_natAbs_of_nonpos hsign.le,
      neg_neg]
  · have htext : takeSign (exponentText written ++ rest) =
        (false, Nat.toDigits 10 written.natAbs ++ rest) := by
      rw [exponentText, if_pos hsign, toList_integerText, if_neg (by omega)]
      rfl
    rw [readExponent_digits Nat.toDigits_ne_nil hdigits hrest hlimit htext,
      Nat.ofDigitChars_ten_toDigits, signed, if_neg Bool.false_ne_true,
      Int.natAbs_of_nonneg hsign]

/-! ## Decimals -/

/-- The significand and the exponent that are read for a coefficient and a power of ten. They are
the same, but a whole number without exponent is written with a zero behind its point. -/
def readBack (coefficient : ℕ) (power : ℤ) : ℕ × ℤ :=
  if 0 ≤ power ∧ (Nat.toDigits 10 coefficient).length + power ≤ 16 then
    (coefficient * 10 ^ (power.toNat + 1), -1)
  else (coefficient, power)

section Decimal

variable {coefficient : ℕ} {power : ℤ} {rest : List Char} (hrest : Closes rest) (negative : Bool)

include hrest

/-- Digits, the zeros of the power, and a zero behind the point. -/
theorem readNumber_whole_zero (hpower : 0 ≤ power)
    (hposition : (Nat.toDigits 10 coefficient).length + power ≤ 16)
    (hzero : coefficient = 0 → power = 0) :
    readNumber negative (Nat.toDigits 10 coefficient ++ List.replicate power.toNat '0' ++
        '.' :: '0' :: rest) =
      (assemble negative (coefficient * 10 ^ (power.toNat + 1)) (-1)).map (·, rest) := by
  have hvalue : Nat.ofDigitChars 10
      (Nat.toDigits 10 coefficient ++ List.replicate power.toNat '0') 0 =
      10 ^ power.toNat * coefficient := by
    rw [Nat.ofDigitChars_append, Nat.ofDigitChars_ten_toDigits, Nat.ofDigitChars_replicate_zero]
  have hbound : 10 ^ power.toNat * coefficient < 10 ^ 16 := by
    calc 10 ^ power.toNat * coefficient
        < 10 ^ power.toNat * 10 ^ (Nat.toDigits 10 coefficient).length :=
          Nat.mul_lt_mul_of_pos_left (lt_ten_pow_length coefficient) (by positivity)
      _ = 10 ^ (power.toNat + (Nat.toDigits 10 coefficient).length) := (pow_add _ _ _).symm
      _ ≤ 10 ^ 16 := Nat.pow_le_pow_right (by decide) (by omega)
  have hlimit : significandLimit = 2 ^ 64 := rfl
  have hwhole : IsWhole (Nat.toDigits 10 coefficient ++ List.replicate power.toNat '0') := by
    refine ⟨by simp [Nat.toDigits_ne_nil], ?_, ?_⟩
    · intro c hc
      exact (List.mem_append.1 hc).elim isDigit_of_mem_toDigits isDigit_of_mem_zeros
    · -- only zero starts with the digit zero, and it has no further zeros
      intro hhead
      rw [List.head?_append_of_ne_nil _ Nat.toDigits_ne_nil] at hhead
      have hcoefficient : coefficient = 0 := by
        by_contra hne
        exact head?_toDigits (Nat.pos_of_ne_zero hne) hhead
      simp [hcoefficient, hzero hcoefficient]
  rw [readNumber_whole hwhole (endsDigits_cons (by decide) _) (by omega), hvalue]
  show readFraction negative _ 0 (['0'] ++ rest) = _
  have htenfold : Nat.ofDigitChars 10 ['0'] (10 ^ power.toNat * coefficient) =
      10 * (10 ^ power.toNat * coefficient) := by
    simp [Nat.ofDigitChars_cons]
  have hdigit : ∀ c ∈ ['0'], c.isDigit = true := List.forall_mem_singleton.2 (by decide)
  rw [readFraction_digits (List.cons_ne_nil _ _) hdigit hrest.endsDigits (by omega), htenfold,
    readScale_closes hrest, show 10 * (10 ^ power.toNat * coefficient) =
      coefficient * 10 ^ (power.toNat + 1) by ring]
  rfl

/-- Digits with a point among them. -/
theorem readNumber_point {position : ℕ} (hfirst : 0 < position)
    (hlast : position < (Nat.toDigits 10 coefficient).length)
    (hcoefficient : 0 < coefficient) (hlimit : coefficient < significandLimit) :
    readNumber negative ((Nat.toDigits 10 coefficient).take position ++
        '.' :: ((Nat.toDigits 10 coefficient).drop position ++ rest)) =
      (assemble negative coefficient
        (position - (Nat.toDigits 10 coefficient).length)).map (·, rest) := by
  set digits := Nat.toDigits 10 coefficient with hdigits
  have hdigit : ∀ c ∈ digits, c.isDigit = true := fun _ => isDigit_of_mem_toDigits
  have hwhole : IsWhole (digits.take position) := by
    refine ⟨?_, fun c hc => hdigit c (List.mem_of_mem_take hc), fun hhead => ?_⟩
    · rw [← List.length_pos_iff, List.length_take]
      omega
    · rw [List.head?_take, if_neg (by omega)] at hhead
      exact absurd hhead (head?_toDigits hcoefficient)
  have hvalue : Nat.ofDigitChars 10 (digits.drop position)
      (Nat.ofDigitChars 10 (digits.take position) 0) = coefficient := by
    rw [← Nat.ofDigitChars_append, List.take_append_drop, hdigits, Nat.ofDigitChars_ten_toDigits]
  -- the digits before the point denote less than all digits do, so none is in excess
  have hle := le_ofDigitChars (digits.drop position)
    (Nat.ofDigitChars 10 (digits.take position) 0)
  rw [hvalue] at hle
  rw [readNumber_whole hwhole (endsDigits_cons (by decide) _) (by omega)]
  show readFraction negative _ 0 (digits.drop position ++ rest) = _
  rw [readFraction_digits (by simpa using hlast)
    (fun c hc => hdigit c (List.mem_of_mem_drop hc)) hrest.endsDigits (by rwa [hvalue]), hvalue,
    readScale_closes hrest, List.length_drop, Nat.cast_sub hlast.le]
  congr 2
  ring

/-- Digits behind a point, with zeros between them. -/
theorem readNumber_behind (zeros : ℕ) (hlimit : coefficient < significandLimit) :
    readNumber negative ('0' :: '.' :: (List.replicate zeros '0' ++
        Nat.toDigits 10 coefficient ++ rest)) =
      (assemble negative coefficient
        (-zeros - (Nat.toDigits 10 coefficient).length)).map (·, rest) := by
  have hvalue : Nat.ofDigitChars 10 (List.replicate zeros '0' ++ Nat.toDigits 10 coefficient) 0 =
      coefficient := by
    rw [Nat.ofDigitChars_append, Nat.ofDigitChars_replicate_zero, Nat.mul_zero,
      Nat.ofDigitChars_ten_toDigits]
  have hdigit : ∀ c ∈ List.replicate zeros '0' ++ Nat.toDigits 10 coefficient,
      c.isDigit = true := by
    intro c hc
    exact (List.mem_append.1 hc).elim isDigit_of_mem_zeros isDigit_of_mem_toDigits
  show readNumber negative (['0'] ++ '.' :: _) = _
  have hwhole : IsWhole ['0'] := isWhole_toDigits 0
  rw [readNumber_whole hwhole (endsDigits_cons (by decide) _) (by decide)]
  show readFraction negative 0 0 _ = _
  rw [readFraction_digits (by simp [Nat.toDigits_ne_nil]) hdigit hrest.endsDigits
    (by rwa [hvalue]), hvalue, readScale_closes hrest, List.length_append, List.length_replicate]
  congr 2
  push_cast
  ring

/-- A digit, further ones behind a point, and an exponent. -/
theorem readNumber_exponent {digit : Char} {more : List Char}
    (hdigits : Nat.toDigits 10 coefficient = digit :: more) (hcoefficient : 0 < coefficient)
    (hlimit : coefficient < significandLimit) {written : ℤ}
    (hwritten : written.natAbs < exponentLimit) :
    readNumber negative (digit :: (if more.isEmpty then [] else '.' :: more) ++
        'e' :: (exponentText written ++ rest)) =
      (assemble negative coefficient (written - more.length)).map (·, rest) := by
  have hdigit : ∀ c ∈ digit :: more, c.isDigit = true := by
    rw [← hdigits]
    exact fun _ => isDigit_of_mem_toDigits
  have hfirst : digit ≠ '0' := by
    rintro rfl
    exact head?_toDigits hcoefficient (by rw [hdigits]; rfl)
  have hwhole : IsWhole [digit] :=
    ⟨by simp, fun c hc => hdigit c (by simp_all), fun h => absurd (by simpa using h) hfirst⟩
  have hvalue : Nat.ofDigitChars 10 more (Nat.ofDigitChars 10 [digit] 0) = coefficient := by
    rw [← Nat.ofDigitChars_append, List.singleton_append, ← hdigits,
      Nat.ofDigitChars_ten_toDigits]
  have hle := le_ofDigitChars more (Nat.ofDigitChars 10 [digit] 0)
  rw [hvalue] at hle
  cases more with
  | nil =>
    show readNumber negative ([digit] ++ 'e' :: _) = _
    rw [readNumber_whole hwhole (endsDigits_cons (by decide) _) (by omega)]
    show readExponent negative _ 0 (exponentText written ++ rest) = _
    rw [readExponent_exponentText hwritten hrest.endsDigits, ← hvalue]
    simp
  | cons next more =>
    show readNumber negative ([digit] ++ '.' :: _) = _
    rw [readNumber_whole hwhole (endsDigits_cons (by decide) _) (by omega)]
    show readFraction negative _ 0 (next :: more ++ 'e' :: (exponentText written ++ rest)) = _
    rw [readFraction_digits (by simp) (fun c hc => hdigit c (List.mem_cons_of_mem _ hc))
      (endsDigits_cons (by decide) _) (by rwa [hvalue]), hvalue]
    show readExponent negative coefficient _ (exponentText written ++ rest) = _
    rw [readExponent_exponentText hwritten hrest.endsDigits]
    congr 2
    ring

/-- A written coefficient and power of ten are read back. -/
theorem readNumber_decimalText (hzero : coefficient = 0 → power = 0)
    (hlimit : coefficient < significandLimit) (hpower : power.natAbs ≤ 1000) :
    readNumber negative (decimalText coefficient power ++ rest) =
      (assemble negative (readBack coefficient power).1 (readBack coefficient power).2).map
        (·, rest) := by
  unfold decimalText readBack
  dsimp only
  -- the cases are the ways of writing a decimal, by the position of its point
  split
  · rename_i hwhole
    rw [← readNumber_whole_zero hrest negative hwhole.1 hwhole.2 hzero]
    simp
  rename_i hwhole
  have hcoefficient : 0 < coefficient := by
    by_contra h
    have hnone : coefficient = 0 := by omega
    exact hwhole (by simp [hnone, hzero hnone])
  have hlength : (Nat.toDigits 10 coefficient).length ≤ 20 :=
    (Nat.length_toDigits_le_iff (by decide) (by decide)).2 (hlimit.trans (by decide))
  split
  · rename_i hposition
    obtain ⟨position, hcast⟩ := Int.eq_ofNat_of_zero_le hposition.1.le
    rw [hcast, Int.toNat_natCast, List.append_assoc, List.cons_append,
      readNumber_point hrest negative (by omega) (by omega) hcoefficient hlimit]
    congr 2
    omega
  split
  · rename_i hposition
    rw [List.cons_append, List.cons_append, List.cons_append, List.cons_append,
      readNumber_behind hrest negative _ hlimit]
    congr 2
    omega
  · obtain ⟨digit, more, hdigits⟩ :=
      List.exists_cons_of_ne_nil (Nat.toDigits_ne_nil (n := coefficient) (b := 10))
    have hwritten : ((Nat.toDigits 10 coefficient).length + power - 1).natAbs < exponentLimit := by
      have : exponentLimit = 2 ^ 31 := rfl
      omega
    have hread := readNumber_exponent hrest negative hdigits hcoefficient hlimit hwritten
    have hexponent : ((Nat.toDigits 10 coefficient).length + power - 1 - more.length : ℤ) =
        power := by
      rw [hdigits, List.length_cons]
      push_cast
      ring
    rw [hexponent] at hread
    rw [← hread, hdigits]
    cases more <;> simp [List.append_assoc]

end Decimal

end StatusDigest.Json
