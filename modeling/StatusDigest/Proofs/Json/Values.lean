import StatusDigest.Proofs.Json.Acceptance
import StatusDigest.Proofs.Json.Quoting
import Mathlib

/-!
# Reading single values back

The text of a number or of a string is read as the value that was written, whatever follows.

* `reread` is what comes back of a double; `isSome_reread`: something does just when it is finite.
* `read_signed`, `read_unsigned`, `read_real` and `read_text` are about the readers for one value.
* `write_eq_cons`: only what is written as `null` starts like it.
-/

namespace StatusDigest.Json

open Decimal
open Float.Model (UnpackedFloat)

/-- What a reader gives for something that comes back, and why it refuses it otherwise. -/
def answer {α : Type} (back : Option α) (rest : List Char) : Except Fault (α × List Char) :=
  match back with
  | some value => .ok (value, rest)
  | none => .error .mismatched

theorem skipSpace_cons {c : Char} (h : isSpace c = false) (rest : List Char) :
    skipSpace (c :: rest) = c :: rest := by
  simp [skipSpace, h]

theorem isSpace_of_isDigit {c : Char} (h : c.isDigit = true) : isSpace c = false := by
  by_contra hspace
  simp only [isSpace, Bool.not_eq_false, Bool.or_eq_true, decide_eq_true_eq] at hspace
  obtain ((rfl | rfl) | rfl) | rfl := hspace <;> exact absurd h (by decide)

/-! ## Numbers -/

/-- A minus sign for what is negative. -/
def minus (negative : Bool) : List Char :=
  if negative then ['-'] else []

theorem exists_digit_of_readNumber {negative : Bool} {text : List Char}
    {result : Number × List Char} (h : readNumber negative text = .ok result) :
    ∃ c more, text = c :: more ∧ c.isDigit = true := by
  cases text with
  | nil => cases h
  | cons c more =>
    refine ⟨c, more, rfl, ?_⟩
    by_contra hc
    rw [readNumber, if_pos (by simpa using hc)] at h
    cases h

/-- What stands at the start of a number is no blank and no letter. -/
theorem minus_append {negative : Bool} {text : List Char} {result : Number × List Char}
    (h : readNumber negative text = .ok result) :
    ∃ c more, minus negative ++ text = c :: more ∧ isSpace c = false ∧ c ≠ 'n' := by
  obtain ⟨c, more, rfl, hc⟩ := exists_digit_of_readNumber h
  cases negative with
  | true => exact ⟨'-', c :: more, rfl, by decide, by decide⟩
  | false =>
    refine ⟨c, more, rfl, isSpace_of_isDigit hc, ?_⟩
    rintro rfl
    exact absurd hc (by decide)

/-- A number with its sign is given to the function that accepts it. -/
theorem readNumberAs_of_readNumber {accept : Number → Option Value} {negative : Bool}
    {digits text rest : List Char} {number : Number}
    (hread : readNumber negative digits = .ok (number, rest))
    (htext : skipSpace text = minus negative ++ digits) :
    readNumberAs accept text = answer (accept number) rest := by
  obtain ⟨c, more, rfl, hc⟩ := exists_digit_of_readNumber hread
  unfold readNumberAs
  rw [htext]
  cases negative with
  | true =>
    simp only [minus, if_true, List.singleton_append, true_or, hread, bind, Except.bind]
    cases accept number <;> rfl
  | false =>
    have hminus : c ≠ '-' := by
      rintro rfl
      exact absurd hc (by decide)
    simp only [minus, Bool.false_eq_true, if_false, List.nil_append, hminus, hc, or_true, if_true,
      hread, bind, Except.bind]
    cases accept number <;> rfl

/-- Integers of 64 bits are read as they were, with sign or without. -/
theorem readNumber_integerText {i : ℤ} (hleast : -2 ^ 63 ≤ i) (hmost : i < 2 ^ 64)
    {rest : List Char} (hrest : Closes rest) :
    ∃ negative digits, (integerText i).toList = minus negative ++ digits ∧
      readNumber negative (digits ++ rest) = .ok (.integer i, rest) := by
  have hlimit : i.natAbs < significandLimit := by
    show i.natAbs < 2 ^ 64
    omega
  refine ⟨decide (i < 0), Nat.toDigits 10 i.natAbs, ?_, ?_⟩
  · rw [toList_integerText]
    simp [minus]
  · rw [readNumber_toDigits hlimit hrest]
    rcases lt_or_ge i 0 with hsign | hsign
    · have hfits : ¬ (i.natAbs = 0 ∨ Nat.pow 2 63 < i.natAbs) := by
        show ¬ (i.natAbs = 0 ∨ 2 ^ 63 < i.natAbs)
        omega
      simp only [hsign, decide_true, ofInteger, if_true, if_neg hfits]
      rw [Int.ofNat_natAbs_of_nonpos hsign.le, neg_neg]
    · simp only [hsign.not_gt, decide_false, ofInteger, Bool.false_eq_true, if_false]
      rw [Int.natAbs_of_nonneg hsign]

/-- A finite double is written as a sign and a decimal that is accepted. -/
theorem readNumber_realText {x : Float} (hx : x.isFinite = true) :
    ∃ negative digits y, realText x = minus negative ++ digits ∧
      ∀ rest, Closes rest → readNumber negative (digits ++ rest) = .ok (.real y, rest) := by
  have hsign : ∀ sign : UnpackedFloat.Sign, ∃ negative, signText sign = minus negative := by
    intro sign
    cases sign with
    | positive => exact ⟨false, rfl⟩
    | negative => exact ⟨true, rfl⟩
  have hfinite : x.toModel.unpack.isFinite = true := hx
  unfold realText
  cases hunpack : x.toModel.unpack with
  | notANumber =>
    rw [hunpack] at hfinite
    cases hfinite
  | infinity sign =>
    rw [hunpack] at hfinite
    cases hfinite
  | zero sign =>
    obtain ⟨negative, hnegative⟩ := hsign sign
    obtain ⟨y, hy⟩ : ∃ y, assemble negative 0 (-1) = .ok (.real y) :=
      assemble_of_scale (scale_of_neg _ (by decide))
    refine ⟨negative, decimalText 0 0, y, by rw [← hnegative]; rfl, fun rest hrest => ?_⟩
    rw [readNumber_decimalText hrest negative (fun _ => rfl) (by decide) (by decide)]
    show (assemble negative 0 (-1)).map _ = _
    rw [hy]
    rfl
  | finite sign m e h =>
    obtain ⟨negative, hnegative⟩ := hsign sign
    have hx := Binary.isFinite_of_unpack hunpack
    obtain ⟨y, hy⟩ := assemble_shortest hx negative
    refine ⟨negative, decimalText (Binary.shortest ⟨m, e⟩).1 (Binary.shortest ⟨m, e⟩).2, y,
      by rw [← hnegative], fun rest hrest => ?_⟩
    -- the reader asks for a coefficient of 64 bits and an exponent that is not too long
    have hbounds : ((Binary.shortest ⟨m, e⟩).1 = 0 → (Binary.shortest ⟨m, e⟩).2 = 0) ∧
        (Binary.shortest ⟨m, e⟩).1 < significandLimit ∧
        (Binary.shortest ⟨m, e⟩).2.natAbs ≤ 1000 := by
      rcases Binary.isShort_shortest hx with hzero | hshort
      · rw [hzero]
        exact ⟨fun _ => rfl, by decide, by decide⟩
      · have hpos := hshort.coefficient_pos
        have hleast := hshort.le_power
        have hmost := power_le hx hshort
        exact ⟨fun hzero => absurd hzero (by omega), hshort.coefficient_lt, by omega⟩
    rw [readNumber_decimalText hrest negative hbounds.1 hbounds.2.1 hbounds.2.2, hy]
    rfl

theorem realText_eq_cons {x : Float} (hx : x.isFinite = true) :
    ∃ c more, realText x = c :: more ∧ isSpace c = false ∧ c ≠ 'n' := by
  obtain ⟨negative, digits, y, htext, hdigits⟩ := readNumber_realText hx
  have hnil := hdigits [] closes_nil
  rw [List.append_nil] at hnil
  rw [htext]
  exact minus_append hnil

/-- What comes back of a double: the double that is read where it was written. -/
def reread (x : Float) : Option Float :=
  match Shape.real.ofText (Value.real x).render with
  | .ok (.real y) => some y
  | _ => none

theorem realText_of_not_isFinite {x : Float} (hx : ¬ x.isFinite = true) :
    realText x = nullText := by
  have hfinite : ¬ x.toModel.unpack.isFinite = true := hx
  unfold realText
  cases hunpack : x.toModel.unpack with
  | notANumber => rfl
  | infinity sign => rfl
  | zero sign => exact absurd (by rw [hunpack]; rfl) hfinite
  | finite sign m e h => exact absurd (by rw [hunpack]; rfl) hfinite

/-- Nothing is read as a number where `null` stands. -/
theorem readNumberAs_null (accept : Number → Option Value) {text rest : List Char}
    (htext : skipSpace text = nullText ++ rest) :
    readNumberAs accept text = .error .mismatched := by
  unfold readNumberAs
  rw [htext]
  rfl

/-- A text that is read to its end. -/
theorem Shape.ofText_of_read {shape : Shape} {text : String} {back : Option Value}
    (h : shape.read text.toList = answer back []) :
    shape.ofText text = back.elim (.error .mismatched) .ok := by
  rw [Shape.ofText, h]
  cases back <;> rfl

theorem toList_render (value : Value) : value.render.toList = value.write 0 :=
  String.toList_ofList

theorem reread_of_not_isFinite {x : Float} (hx : ¬ x.isFinite = true) : reread x = none := by
  have hread : Shape.real.read (Value.real x).render.toList = answer none [] := by
    rw [toList_render]
    have hnull : skipSpace (Value.write 0 (.real x)) = nullText ++ [] := by
      rw [Value.write, realText_of_not_isFinite hx]
      rfl
    exact readNumberAs_null real? hnull
  rw [reread, Shape.ofText_of_read hread]
  rfl

/-- A finite double is reread as the same double whatever follows. -/
theorem exists_reread {x : Float} (hx : x.isFinite = true) :
    ∃ y, reread x = some y ∧ ∀ text rest, skipSpace text = realText x ++ rest → Closes rest →
      readNumberAs real? text = .ok (.real y, rest) := by
  obtain ⟨negative, digits, y, htext, hdigits⟩ := readNumber_realText hx
  have hread : ∀ text rest, skipSpace text = realText x ++ rest → Closes rest →
      readNumberAs real? text = .ok (.real y, rest) := by
    intro text rest hskip hrest
    rw [htext, List.append_assoc] at hskip
    exact readNumberAs_of_readNumber (hdigits rest hrest) hskip
  refine ⟨y, ?_, hread⟩
  have hstart : skipSpace (realText x) = realText x := by
    obtain ⟨c, more, hcons, hc, -⟩ := realText_eq_cons hx
    rw [hcons, skipSpace_cons hc]
  have hwhole : Shape.real.read (Value.real x).render.toList = answer (some (.real y)) [] := by
    rw [toList_render]
    exact hread _ [] (by rw [Value.write, hstart, List.append_nil]) closes_nil
  rw [reread, Shape.ofText_of_read hwhole]
  rfl

/-- Something comes back of a double just when it is finite. -/
theorem isSome_reread (x : Float) : (reread x).isSome = x.isFinite := by
  by_cases hx : x.isFinite = true
  · obtain ⟨y, hy, -⟩ := exists_reread hx
    rw [hy, hx]
    rfl
  · rw [reread_of_not_isFinite hx, Bool.not_eq_true _ |>.mp hx]
    rfl

/-- Where a double stands, it is reread. -/
theorem read_real {x : Float} {text rest : List Char}
    (htext : skipSpace text = realText x ++ rest) (hrest : Closes rest) :
    readNumberAs real? text = answer ((reread x).map .real) rest := by
  by_cases hx : x.isFinite = true
  · obtain ⟨y, hy, hread⟩ := exists_reread hx
    rw [hread text rest htext hrest, hy]
    rfl
  · rw [realText_of_not_isFinite hx] at htext
    rw [readNumberAs_null real? htext, reread_of_not_isFinite hx]
    rfl

/-! ## Integers and texts -/

theorem read_signed {i : ℤ} (hleast : -2 ^ 63 ≤ i) (hmost : i < 2 ^ 63) {text rest : List Char}
    (htext : skipSpace text = (integerText i).toList ++ rest) (hrest : Closes rest) :
    readNumberAs signed? text = .ok (.integer i, rest) := by
  obtain ⟨negative, digits, hdigits, hread⟩ :=
    readNumber_integerText hleast (by omega) hrest
  rw [hdigits, List.append_assoc] at htext
  rw [readNumberAs_of_readNumber hread htext, signed?, if_pos (by simpa using hmost)]
  rfl

theorem read_unsigned {i : ℤ} (hleast : 0 ≤ i) (hmost : i < 2 ^ 64) {text rest : List Char}
    (htext : skipSpace text = (integerText i).toList ++ rest) (hrest : Closes rest) :
    readNumberAs unsigned? text = .ok (.integer i, rest) := by
  obtain ⟨negative, digits, hdigits, hread⟩ :=
    readNumber_integerText (by omega) hmost hrest
  rw [hdigits, List.append_assoc] at htext
  rw [readNumberAs_of_readNumber hread htext, unsigned?, if_pos hleast]
  rfl

theorem read_text {s : String} {text rest : List Char}
    (htext : skipSpace text = quote s ++ rest) : readTextValue text = .ok (.text s, rest) := by
  obtain ⟨inner, hquote, hread⟩ := readString_quote s rest
  rw [readTextValue, htext, hquote]
  simp only [hread]
  rfl

/-! ## Starts of values -/

/-- Whether a value is written as `null`. -/
def Value.isNull : Value → Bool
  | .absent => true
  | .real x => !x.isFinite
  | _ => false

/-- What stands at the start of a value is no blank, and the letter of `null` only there. -/
theorem write_eq_cons (value : Value) (depth : ℕ) :
    ∃ c more, value.write depth = c :: more ∧ isSpace c = false ∧
      (c = 'n' → value.isNull = true) := by
  cases value with
  | integer i =>
    obtain ⟨digits, hnonempty, hdigits, htext | htext⟩ := isInteger_integerText i
    · obtain ⟨c, more, rfl⟩ := List.exists_cons_of_ne_nil hnonempty
      have hc := hdigits c List.mem_cons_self
      refine ⟨c, more, by rw [Value.write, htext], isSpace_of_isDigit hc, ?_⟩
      rintro rfl
      exact absurd hc (by decide)
    · exact ⟨'-', digits, by rw [Value.write, htext], by decide, fun h => absurd h (by decide)⟩
  | real x =>
    by_cases hx : x.isFinite = true
    · obtain ⟨c, more, hcons, hc, hletter⟩ := realText_eq_cons hx
      exact ⟨c, more, by rw [Value.write, hcons], hc, fun h => absurd h hletter⟩
    · refine ⟨'n', ['u', 'l', 'l'], ?_, by decide, fun _ => by simpa [Value.isNull] using hx⟩
      rw [Value.write, realText_of_not_isFinite hx]
      rfl
  | text s =>
    exact ⟨'"', _, by rw [Value.write, quote, List.cons_append], by decide,
      fun h => absurd h (by decide)⟩
  | absent => exact ⟨'n', _, by rw [Value.write, nullText], by decide, fun _ => rfl⟩
  | record fields =>
    cases fields with
    | nil => exact ⟨'{', ['}'], by rw [Value.write], by decide, fun h => absurd h (by decide)⟩
    | cons field fields =>
      exact ⟨'{', _, by rw [Value.write, List.cons_append, List.cons_append, List.cons_append],
        by decide, fun h => absurd h (by decide)⟩

/-- There is nothing to pass over before a value. -/
theorem skipSpace_write (value : Value) (depth : ℕ) (rest : List Char) :
    skipSpace (value.write depth ++ rest) = value.write depth ++ rest := by
  obtain ⟨c, more, hcons, hc, -⟩ := write_eq_cons value depth
  rw [hcons, List.cons_append, skipSpace_cons hc]

end StatusDigest.Json
