import StatusDigest.Decimal.Text
import Mathlib

/-!
# Integers in decimal text

What the text of an integer looks like:

* `IsInteger`: digits, one at least, behind a minus sign perhaps;
* `isInteger_integerText`: the text of every integer looks like that;
* `lt_ten_pow_length`: the digits of a number say how great it is at most.
-/

namespace StatusDigest.Decimal

/-- One or more digits, with nothing before them but a minus sign perhaps. -/
def IsInteger (text : String) : Prop :=
  ∃ digits : List Char, digits ≠ [] ∧ (∀ c ∈ digits, c.isDigit = true) ∧
    (text.toList = digits ∨ text.toList = '-' :: digits)

theorem isDigit_of_mem_toDigits {n : ℕ} {c : Char} (h : c ∈ Nat.toDigits 10 n) :
    c.isDigit = true :=
  Nat.isDigit_of_mem_toDigits (by decide) (by decide) h

/-- A number is below the power of ten of its digits. -/
theorem lt_ten_pow_length (n : ℕ) : n < 10 ^ (Nat.toDigits 10 n).length :=
  (Nat.length_toDigits_le_iff (by decide) Nat.length_toDigits_pos).1 le_rfl

theorem isInteger_naturalText (n : ℕ) : IsInteger (naturalText n) := by
  refine ⟨Nat.toDigits 10 n, Nat.toDigits_ne_nil, fun c => isDigit_of_mem_toDigits, .inl ?_⟩
  rw [naturalText, String.toList_ofList]

theorem toList_integerText (i : ℤ) :
    (integerText i).toList = (if i < 0 then ['-'] else []) ++ Nat.toDigits 10 i.natAbs := by
  unfold integerText naturalText
  split <;> simp [String.toList_append]

theorem isInteger_integerText (i : ℤ) : IsInteger (integerText i) := by
  refine ⟨Nat.toDigits 10 i.natAbs, Nat.toDigits_ne_nil, fun c => isDigit_of_mem_toDigits, ?_⟩
  rw [toList_integerText]
  split
  · exact .inr rfl
  · exact .inl rfl

theorem isInteger_uint64Text (n : UInt64) : IsInteger (uint64Text n) :=
  isInteger_naturalText n.toNat

theorem isInteger_int64Text (i : Int64) : IsInteger (int64Text i) :=
  isInteger_integerText i.toInt

end StatusDigest.Decimal
