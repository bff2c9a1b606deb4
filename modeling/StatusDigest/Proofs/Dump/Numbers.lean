import StatusDigest.Dump.Field
import StatusDigest.Proofs.Decimal.Numerals
import StatusDigest.Proofs.Dump.Writing
import StatusDigest.Proofs.Text.Pieces
import StatusDigest.Stats.Recency
import Mathlib

/-!
# Numbers in fields

A number that the daemon writes into a field is read back as that number:

* `denotesInteger_integerText`: the text of an integer is of the grammar of integers.
  `Field.integerOf_append` finds an integer at the start of a text that goes on with anything but a
  digit, and clamps it;
* `Field.integer_of_denotes` and `Field.real_of_denotes` are about texts that are a number as a
  whole, and `Writable.numbers` shows that numbers can be written;
* `Field.integer_int64Text` and `Field.triple_text` are the two ways in which a field holds
  numbers: one number, and three of them with commas between them.
-/

namespace StatusDigest

open Decimal Json Stats

theorem Text.toNat_of_isDigit {c : Char} (hc : c.isDigit = true) :
    0x30 ≤ c.toNat ∧ c.toNat ≤ 0x39 := by
  simpa [Char.isDigit, UInt32.le_iff_toNat_le] using hc

theorem Text.isBlank_eq_false_of_isDigit {c : Char} (hc : c.isDigit = true) :
    Text.isBlank c = false := by
  have hrange := Text.toNat_of_isDigit hc
  simp only [Text.isBlank, Text.blankRanges, List.any_cons, List.any_nil, Bool.or_false,
    Bool.or_eq_false_iff, Bool.and_eq_false_iff, decide_eq_false_iff_not]
  omega

/-! ## The integer at the start of a text -/

namespace Decimal

theorem IsInteger.ne_nil {text : String} (h : IsInteger text) : text.toList ≠ [] := by
  obtain ⟨digits, hdigits, -, htext | htext⟩ := h
  · rwa [htext]
  · simp [htext]

/-- There is nothing but digits and minus signs in an integer. -/
theorem IsInteger.isDigit_or_eq_minus {text : String} (h : IsInteger text) {c : Char}
    (hc : c ∈ text.toList) : c.isDigit = true ∨ c = '-' := by
  obtain ⟨digits, -, hdigits, htext | htext⟩ := h
  · exact .inl (hdigits c (htext ▸ hc))
  · rw [htext] at hc
    rcases List.mem_cons.1 hc with rfl | hmem
    · exact .inr rfl
    · exact .inl (hdigits c hmem)

theorem IsInteger.isBlank_eq_false {text : String} (h : IsInteger text) {c : Char}
    (hc : c ∈ text.toList) : Text.isBlank c = false := by
  rcases h.isDigit_or_eq_minus hc with hdigit | rfl
  · exact Text.isBlank_eq_false_of_isDigit hdigit
  · decide

theorem IsInteger.comma_not_mem {text : String} (h : IsInteger text) : ',' ∉ text.toList := by
  intro hmem
  rcases h.isDigit_or_eq_minus hmem with hdigit | hminus
  · exact absurd hdigit (by decide)
  · exact absurd hminus (by decide)

/-- The text of an integer denotes the integer. -/
theorem denotesInteger_integerText (i : ℤ) : DenotesInteger (integerText i).toList i := by
  have hdigits : IsDigits (Nat.toDigits 10 i.natAbs) :=
    ⟨Nat.toDigits_ne_nil, fun c => isDigit_of_mem_toDigits⟩
  have hvalue : placeValue (Nat.toDigits 10 i.natAbs) = i.natAbs := by
    rw [← ofDigits_eq_placeValue, ofDigits, Nat.ofDigitChars_ten_toDigits]
  rw [toList_integerText]
  by_cases hneg : i < 0
  · have hsigned : signed true (placeValue (Nat.toDigits 10 i.natAbs)) = i := by
      simp only [hvalue, signed, if_true]
      omega
    have hdenotes := DenotesInteger.mk .minus hdigits
    rw [hsigned] at hdenotes
    rwa [if_pos hneg]
  · have hsigned : signed false (placeValue (Nat.toDigits 10 i.natAbs)) = i := by
      simp only [hvalue, signed, Bool.false_eq_true, if_false]
      omega
    have hdenotes := DenotesInteger.mk .none hdigits
    rw [hsigned] at hdenotes
    rwa [if_neg hneg]

/-! ## Numbers are kept when blank characters are dropped -/

theorem IsDigits.isBlank_head {digits : List Char} (h : IsDigits digits) (rest : List Char)
    {c : Char} (hc : (digits ++ rest).head? = some c) : Text.isBlank c = false := by
  rw [List.head?_append_of_ne_nil _ h.ne_nil] at hc
  exact Text.isBlank_eq_false_of_isDigit (h.isDigit c (List.mem_of_mem_head? hc))

theorem IsMantissa.isBlank_head {mantissa whole fraction : List Char}
    (h : IsMantissa mantissa whole fraction) (rest : List Char) {c : Char}
    (hc : (mantissa ++ rest).head? = some c) : Text.isBlank c = false := by
  cases h with
  | whole hwhole => exact hwhole.isBlank_head rest hc
  | pointed hwhole hfraction =>
    rw [List.append_assoc] at hc
    exact hwhole.isBlank_head _ hc
  | fraction hfraction =>
    obtain rfl : '.' = c := by simpa using hc
    decide

/-- Nothing is dropped in front of a sign, nor without one if the text does not start with a blank
character. -/
theorem IsSign.dropBlank_append {sign rest : List Char} {negative : Bool}
    (hsign : IsSign sign negative)
    (hrest : ∀ c, rest.head? = some c → Text.isBlank c = false) :
    Text.dropBlank (sign ++ rest) = sign ++ rest := by
  cases hsign with
  | none => exact Text.dropWhile_eq_self_of_head hrest
  | plus => rfl
  | minus => rfl

theorem DenotesInteger.dropBlank_append {text : List Char} {i : ℤ} (h : DenotesInteger text i)
    (rest : List Char) : Text.dropBlank (text ++ rest) = text ++ rest := by
  rcases h with @⟨sign, digits, negative, hsign, hdigits⟩
  rw [List.append_assoc]
  apply hsign.dropBlank_append
  intro c hc
  exact hdigits.isBlank_head rest hc

theorem DenotesNumeral.dropBlank_eq {text : List Char} {numeral : Numeral}
    (h : DenotesNumeral text numeral) : Text.dropBlank text = text := by
  rcases h with @⟨sign, mantissa, whole, fraction, power, negative, exponent, hsign, hmantissa, -⟩
  rw [List.append_assoc]
  apply hsign.dropBlank_append
  intro c hc
  exact hmantissa.isBlank_head power hc

end Decimal

/-! ## Fields that hold numbers -/

/-- The text of rates: the counts with commas between them. -/
def Stats.Rates.text (rates : Rates) : String :=
  int64Text rates.last1 ++ "," ++ int64Text rates.last5 ++ "," ++ int64Text rates.last15

theorem Stats.Rates.text_ne_nil (rates : Rates) : rates.text.toList ≠ [] := by
  simp [Rates.text]

/-- The characters of numbers, and of numbers with commas between them. -/
def Decimal.InNumbers (c : Char) : Prop :=
  c.isDigit = true ∨ c = '-' ∨ c = ','

/-- A line can hold these characters anywhere. -/
theorem Decimal.InNumbers.ne_padding {c : Char} (h : InNumbers c) :
    c ≠ '\n' ∧ c ≠ ' ' ∧ c ≠ '\t' ∧ c ≠ '\r' := by
  rcases h with hdigit | rfl | rfl
  · refine ⟨?_, ?_, ?_, ?_⟩ <;> rintro rfl <;> exact absurd hdigit (by decide)
  · decide
  · decide

theorem Decimal.inNumbers_of_mem_int64Text {n : Int64} {c : Char}
    (hc : c ∈ (int64Text n).toList) : InNumbers c := by
  rcases (isInteger_int64Text n).isDigit_or_eq_minus hc with hdigit | hminus
  · exact .inl hdigit
  · exact .inr (.inl hminus)

theorem Stats.Rates.inNumbers_of_mem_text {rates : Rates} {c : Char}
    (hc : c ∈ rates.text.toList) : InNumbers c := by
  simp only [Rates.text, String.toList_append, List.mem_append] at hc
  rcases hc with (((hfirst | hcomma) | hsecond) | hcomma) | hthird
  · exact inNumbers_of_mem_int64Text hfirst
  · exact .inr (.inr (by simpa using hcomma))
  · exact inNumbers_of_mem_int64Text hsecond
  · exact .inr (.inr (by simpa using hcomma))
  · exact inNumbers_of_mem_int64Text hthird

/-- Numbers can be written under every key under which a zero can. -/
theorem Dump.Writable.numbers {key value : String} (hkey : Writable key "0")
    (hfilled : value.toList ≠ []) (hvalue : ∀ c ∈ value.toList, InNumbers c) :
    Writable key value := by
  obtain ⟨hline, -, hend, hstart, -, -⟩ := hkey
  refine ⟨hline, ?_, hend, hstart, ?_, ?_⟩
  · intro hmem
    exact (hvalue '\n' hmem).ne_padding.1 rfl
  · rintro rfl
    exact hfilled rfl
  · intro c hc
    exact (hvalue c (List.mem_of_getLast? hc)).ne_padding.2

namespace Dump.Field

/-- The integer of a field is the one that is written at its start, clamped. -/
theorem integerOf_append {text rest : List Char} {i : ℤ} (h : DenotesInteger text i)
    (hrest : EndsDigits rest) : integerOf (text ++ rest) = Int64.ofIntClamp i := by
  rw [integerOf, h.dropBlank_append rest, (h.leadingInteger_append hrest).1]

theorem integerOf_of_denotes {text : List Char} {i : ℤ} (h : DenotesInteger text i) :
    integerOf text = Int64.ofIntClamp i := by
  have hend : EndsDigits [] := by simp [EndsDigits]
  have hread := integerOf_append h hend
  rwa [List.append_nil] at hread

/-- A number in a field is read as that number, whatever its sign and the zeros in front of it. -/
theorem integer_of_denotes {raw : String} {i : ℤ} (h : DenotesInteger raw.toList i) :
    integer raw = Int64.ofIntClamp i :=
  integerOf_of_denotes h

theorem integerOf_int64Text (n : Int64) : integerOf (int64Text n).toList = n := by
  have hread := integerOf_of_denotes (denotesInteger_integerText n.toInt)
  rwa [Int64.ofIntClamp_toInt] at hread

theorem integer_int64Text (n : Int64) : integer (int64Text n) = n :=
  integerOf_int64Text n

/-- A numeral in a field is read as the double nearest to it. -/
theorem real_of_denotes {raw : String} {numeral : Numeral}
    (h : DenotesNumeral raw.toList numeral) : real raw = numeral.toFloat := by
  rw [real, h.dropBlank_eq, h.leadingNumeral_eq_some]

theorem allBlank_int64Text (n : Int64) : Text.allBlank (int64Text n).toList = false := by
  have hinteger := isInteger_int64Text n
  obtain ⟨c, rest, htext⟩ := List.exists_cons_of_ne_nil hinteger.ne_nil
  have hc : Text.isBlank c = false := hinteger.isBlank_eq_false (by simp [htext])
  simp [Text.allBlank, htext, hc]

/-- The pieces of rates are the texts of their counts. -/
theorem pieces_text (rates : Rates) :
    Text.pieces ',' rates.text.toList =
      [(int64Text rates.last1).toList, (int64Text rates.last5).toList,
        (int64Text rates.last15).toList] := by
  have hcomma : ∀ n, ',' ∉ (int64Text n).toList := fun n => (isInteger_int64Text n).comma_not_mem
  have htext : rates.text.toList = [','].intercalate
      [(int64Text rates.last1).toList, (int64Text rates.last5).toList,
        (int64Text rates.last15).toList] := by
    simp [Rates.text]
  rw [Text.pieces_eq_splitOn, htext]
  apply List.splitOn_intercalate
  · intro piece hpiece
    simp only [List.mem_cons, List.not_mem_nil, or_false] at hpiece
    rcases hpiece with rfl | rfl | rfl
    · exact hcomma _
    · exact hcomma _
    · exact hcomma _
  · exact List.cons_ne_nil _ _

/-- Rates in a field are read as those rates. -/
theorem triple_text (rates : Rates) : Rates.ofTriple (triple rates.text) = rates := by
  simp [triple, pieces_text, allBlank_int64Text, integerOf_int64Text, Rates.ofTriple]

end Dump.Field

end StatusDigest
