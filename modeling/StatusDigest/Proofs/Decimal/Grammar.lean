import StatusDigest.Decimal.Numeral
import StatusDigest.Proofs.Json.Numbers
import StatusDigest.Proofs.Text.Pieces
import Mathlib

/-!
# Which texts are numbers

The two grammars of numbers, said without reading, and with what each text denotes:

* `DenotesInteger`: a sign or none, and digits;
* `DenotesNumeral`: a sign or none, digits with a point at their end or among them or in front of
  them, and an exponent or none.

Of all the prefixes of a text that are integers, reading finds the longest one (`IsLongest`):
`integer_longest` says so for every text, and that what is read is what the longest one denotes.
-/

namespace StatusDigest.Decimal

open Json

/-! ## Grammars -/

/-- One or more digits. -/
structure IsDigits (text : List Char) : Prop where
  ne_nil : text ≠ []
  isDigit : ∀ c ∈ text, c.isDigit = true

/-- The number that digits denote by their places. -/
def placeValue (digits : List Char) : ℕ :=
  Nat.ofDigits 10 (digits.reverse.map fun c => c.toNat - '0'.toNat)

/-- A sign or none, and whether it is a minus sign. -/
inductive IsSign : List Char → Bool → Prop where
  | none : IsSign [] false
  | plus : IsSign ['+'] false
  | minus : IsSign ['-'] true

/-- The text is a sign or none and digits, and denotes the integer. -/
inductive DenotesInteger : List Char → ℤ → Prop where
  | mk {sign digits : List Char} {negative : Bool} (hsign : IsSign sign negative)
      (hdigits : IsDigits digits) :
      DenotesInteger (sign ++ digits) (signed negative (placeValue digits))

/-- The text is digits with a point or none; before the point stand the whole digits, and behind it
those of the fraction. One of the two sides may be empty. -/
inductive IsMantissa : List Char → List Char → List Char → Prop where
  | whole {whole : List Char} (hwhole : IsDigits whole) : IsMantissa whole whole []
  | pointed {whole fraction : List Char} (hwhole : IsDigits whole)
      (hfraction : fraction = [] ∨ IsDigits fraction) :
      IsMantissa (whole ++ '.' :: fraction) whole fraction
  | fraction {fraction : List Char} (hfraction : IsDigits fraction) :
      IsMantissa ('.' :: fraction) [] fraction

/-- The text is an exponent or empty. -/
inductive IsExponent : List Char → ℤ → Prop where
  | none : IsExponent [] 0
  | power {letter : Char} {number : List Char} {i : ℤ} (hletter : letter = 'e' ∨ letter = 'E')
      (hnumber : DenotesInteger number i) : IsExponent (letter :: number) i

/-- The text is a sign or none, digits with a point or none, and an exponent or none. -/
inductive DenotesNumeral : List Char → Numeral → Prop where
  | mk {sign mantissa whole fraction power : List Char} {negative : Bool} {exponent : ℤ}
      (hsign : IsSign sign negative) (hmantissa : IsMantissa mantissa whole fraction)
      (hpower : IsExponent power exponent) :
      DenotesNumeral (sign ++ mantissa ++ power)
        { negative
          coefficient := placeValue (whole ++ fraction)
          exponent := exponent - fraction.length }

def IsIntegerText (text : List Char) : Prop :=
  ∃ i, DenotesInteger text i

def IsNumeralText (text : List Char) : Prop :=
  ∃ numeral, DenotesNumeral text numeral

/-- The longest of the prefixes of a text that are as they should be. -/
structure IsLongest (p : List Char → Prop) (text found : List Char) : Prop where
  accepted : p found
  isPrefix : found <+: text
  longest : ∀ other, p other → other <+: text → other.length ≤ found.length

/-- There is one longest prefix at most. -/
theorem IsLongest.unique {p : List Char → Prop} {text found other : List Char}
    (h : IsLongest p text found) (h' : IsLongest p text other) : found = other := by
  have hle := h'.longest found h.accepted h.isPrefix
  have hge := h.longest other h'.accepted h'.isPrefix
  have hprefixes := List.prefix_of_prefix_length_le h.isPrefix h'.isPrefix hle
  exact hprefixes.eq_of_length (le_antisymm hle hge)

/-! ## Digits and signs -/

theorem ofDigits_eq_placeValue (digits : List Char) : ofDigits digits = placeValue digits := by
  induction digits with
  | nil => rfl
  | cons c rest ih =>
    rw [ofDigits] at ih ⊢
    rw [placeValue, List.map_reverse] at ih ⊢
    rw [Nat.ofDigitChars_cons, Nat.ofDigitChars_eq_ofDigitChars_zero, ih, List.map_cons,
      Nat.ofDigits_reverse_cons, List.length_map]
    ring

/-- A text that does not start with a sign. -/
def Unsigned (text : List Char) : Prop :=
  ∀ c ∈ text.head?, c ≠ '-' ∧ c ≠ '+'

theorem IsDigits.unsigned {digits : List Char} (h : IsDigits digits) (rest : List Char) :
    Unsigned (digits ++ rest) := by
  intro c hc
  rw [List.head?_append_of_ne_nil _ h.ne_nil] at hc
  have hdigit := h.isDigit c (List.mem_of_mem_head? hc)
  constructor <;> rintro rfl <;> exact absurd hdigit (by decide)

theorem takeSign_sound (text : List Char) :
    ∃ sign, IsSign sign (takeSign text).1 ∧ text = sign ++ (takeSign text).2 := by
  unfold takeSign
  split
  · exact ⟨['-'], .minus, rfl⟩
  · exact ⟨['+'], .plus, rfl⟩
  · exact ⟨[], .none, rfl⟩

theorem takeSign_complete {sign rest : List Char} {negative : Bool} (h : IsSign sign negative)
    (hrest : Unsigned rest) : takeSign (sign ++ rest) = (negative, rest) := by
  cases h with
  | minus => rfl
  | plus => rfl
  | none =>
    rw [List.nil_append]
    unfold takeSign
    split
    · exact absurd rfl (hrest '-' rfl).1
    · exact absurd rfl (hrest '+' rfl).2
    · rfl

theorem endsDigits_dropWhile (text : List Char) : EndsDigits (text.dropWhile Char.isDigit) :=
  fun _ hc => Text.head?_dropWhile hc

theorem isDigits_takeWhile {text : List Char} (h : text.takeWhile Char.isDigit ≠ []) :
    IsDigits (text.takeWhile Char.isDigit) :=
  ⟨h, fun _ => List.mem_takeWhile_imp⟩

/-! ## Integers -/

/-- What stands behind the sign of a text and its digits. -/
def behindInteger (text : List Char) : List Char :=
  (takeSign text).2.dropWhile Char.isDigit

/-- How many characters the integer at the start of a text takes up. -/
def integerLength (text : List Char) : ℕ :=
  if (takeSign text).2.takeWhile Char.isDigit = [] then 0
  else text.length - (behindInteger text).length

theorem leadingInteger_eq (text : List Char) :
    leadingInteger text =
      signed (takeSign text).1 (placeValue ((takeSign text).2.takeWhile Char.isDigit)) := by
  rw [← ofDigits_eq_placeValue]
  rfl

/-- Digits that are read as an integer are one with their sign. -/
theorem leadingInteger_sound {text : List Char}
    (h : (takeSign text).2.takeWhile Char.isDigit ≠ []) :
    ∃ found, DenotesInteger found (leadingInteger text) ∧ text = found ++ behindInteger text := by
  obtain ⟨sign, hsign, htext⟩ := takeSign_sound text
  refine ⟨sign ++ (takeSign text).2.takeWhile Char.isDigit, ?_, ?_⟩
  · rw [leadingInteger_eq]
    exact .mk hsign (isDigits_takeWhile h)
  · rw [List.append_assoc, behindInteger, List.takeWhile_append_dropWhile, ← htext]

section Read

variable {found : List Char} {i : ℤ} (h : DenotesInteger found i)

include h

/-- An integer is read whatever the text goes on with, and perhaps more. -/
theorem DenotesInteger.read_append (tail : List Char) :
    (takeSign (found ++ tail)).2.takeWhile Char.isDigit ≠ [] ∧
      (behindInteger (found ++ tail)).length ≤ tail.length := by
  cases h with
  | @mk sign digits negative hsign hdigits =>
    have hread : takeSign (sign ++ digits ++ tail) = (negative, digits ++ tail) := by
      rw [List.append_assoc]
      exact takeSign_complete hsign (hdigits.unsigned tail)
    rw [behindInteger, hread, List.takeWhile_append_of_pos hdigits.isDigit,
      List.dropWhile_append_of_pos hdigits.isDigit]
    exact ⟨List.append_ne_nil_of_left_ne_nil hdigits.ne_nil _, (List.dropWhile_suffix _).length_le⟩

/-- An integer is read as what it denotes, if the text does not go on with digits. -/
theorem DenotesInteger.leadingInteger_append {rest : List Char} (hrest : EndsDigits rest) :
    leadingInteger (found ++ rest) = i ∧ behindInteger (found ++ rest) = rest := by
  cases h with
  | @mk sign digits negative hsign hdigits =>
    have hread : takeSign (sign ++ digits ++ rest) = (negative, digits ++ rest) := by
      rw [List.append_assoc]
      exact takeSign_complete hsign (hdigits.unsigned rest)
    rw [leadingInteger_eq, behindInteger, hread, takeWhile_digits hdigits.isDigit hrest,
      dropWhile_digits hdigits.isDigit hrest]
    exact ⟨rfl, rfl⟩

end Read

/-- The integer that is read is denoted by the longest prefix that is an integer, and is zero if
there is none. -/
theorem integer_longest (text : List Char) :
    (∃ found, IsLongest IsIntegerText text found ∧ DenotesInteger found (leadingInteger text) ∧
      integerLength text = found.length) ∨
    ((∀ found, found <+: text → ¬ IsIntegerText found) ∧ leadingInteger text = 0 ∧
      integerLength text = 0) := by
  by_cases hdigits : (takeSign text).2.takeWhile Char.isDigit = []
  · right
    refine ⟨?_, ?_, ?_⟩
    · rintro found ⟨tail, rfl⟩ ⟨i, hfound⟩
      exact (hfound.read_append tail).1 hdigits
    · rw [leadingInteger_eq, hdigits]
      cases (takeSign text).1 <;> rfl
    · rw [integerLength, if_pos hdigits]
  · left
    obtain ⟨found, hdenotes, htext⟩ := leadingInteger_sound hdigits
    have hlength := congrArg List.length htext
    rw [List.length_append] at hlength
    refine ⟨found, ⟨⟨_, hdenotes⟩, ⟨_, htext.symm⟩, ?_⟩, hdenotes, ?_⟩
    · -- any other prefix that is an integer is read too, and leaves no less behind
      rintro other ⟨i, hother⟩ ⟨tail, rfl⟩
      have hread := (hother.read_append tail).2
      rw [List.length_append] at hlength
      omega
    · rw [integerLength, if_neg hdigits]
      omega

end StatusDigest.Decimal
