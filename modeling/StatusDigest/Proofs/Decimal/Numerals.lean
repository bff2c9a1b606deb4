import StatusDigest.Proofs.Decimal.Grammar
import Mathlib

/-!
# The longest numeral at the start of a text

A numeral is read in three parts, and each part takes as much as it can. Of all the prefixes of a
text that are numerals the longest one is found in that way:

* `takeDigits_sound`, `takeExponent_sound` and `leadingNumeral_sound`: what is read is of the
  grammar;
* `IsMantissa.exists_takeDigits`, `IsExponent.length_le` and `DenotesNumeral.exists_leadingNumeral`:
  what is of the grammar is read, whatever follows it, and perhaps more;
* `numeral_longest` puts both together, and `DenotesNumeral.leadingNumeral_eq_some` is the case of
  a text that is a numeral as a whole.
-/

namespace StatusDigest.Decimal

open Json

/-! ## Digits with a point -/

theorem IsMantissa.unsigned {mantissa whole fraction : List Char}
    (h : IsMantissa mantissa whole fraction) (rest : List Char) : Unsigned (mantissa ++ rest) := by
  cases h with
  | whole hwhole => exact hwhole.unsigned rest
  | pointed hwhole hfraction =>
    rw [List.append_assoc]
    exact hwhole.unsigned _
  | fraction hfraction =>
    intro c hc
    obtain rfl : '.' = c := by simpa using hc
    decide

/-- What can stand behind digits with a point or none without being read with them. -/
def EndsMantissa (rest : List Char) : Prop :=
  ∀ c ∈ rest.head?, c.isDigit = false ∧ c ≠ '.'

section Digits

variable {whole : List Char} (hwhole : ∀ c ∈ whole, c.isDigit = true)

include hwhole

/-- A point is read with the digits on both sides, if there is one on either. -/
theorem takeDigits_point (rest : List Char) :
    takeDigits (whole ++ '.' :: rest) =
      if whole = [] ∧ rest.takeWhile Char.isDigit = [] then none
      else some (whole, rest.takeWhile Char.isDigit, rest.dropWhile Char.isDigit) := by
  have hpoint : EndsDigits ('.' :: rest) := endsDigits_cons (by decide) rest
  rw [takeDigits, takeWhile_digits hwhole hpoint, dropWhile_digits hwhole hpoint]
  simp only [Bool.and_eq_true, List.isEmpty_iff]

/-- Without a point the digits are read alone, if there is one. -/
theorem takeDigits_plain {rest : List Char} (hrest : EndsMantissa rest) :
    takeDigits (whole ++ rest) = if whole = [] then none else some (whole, [], rest) := by
  have hends : EndsDigits rest := fun c hc => (hrest c hc).1
  rw [takeDigits, takeWhile_digits hwhole hends, dropWhile_digits hwhole hends]
  dsimp only
  split
  · exact absurd rfl (hrest '.' rfl).2
  · simp only [List.isEmpty_iff]

end Digits

/-- Every text is digits, perhaps none, with a point behind them or without one. -/
theorem exists_digits (text : List Char) :
    ∃ whole rest, (∀ c ∈ whole, c.isDigit = true) ∧ text = whole ++ rest ∧
      (EndsMantissa rest ∨ ∃ after, rest = '.' :: after) := by
  refine ⟨text.takeWhile Char.isDigit, text.dropWhile Char.isDigit,
    fun _ => List.mem_takeWhile_imp, List.takeWhile_append_dropWhile.symm, ?_⟩
  have hends := endsDigits_dropWhile text
  generalize text.dropWhile Char.isDigit = rest at hends
  by_cases hpoint : rest.head? = some '.'
  · obtain ⟨after, rfl⟩ := List.head?_eq_some_iff.1 hpoint
    exact .inr ⟨after, rfl⟩
  · left
    intro c hc
    refine ⟨hends c hc, ?_⟩
    rintro rfl
    exact hpoint hc

/-- What is read as digits with a point or none is that. -/
theorem takeDigits_sound {text whole fraction rest : List Char}
    (h : takeDigits text = some (whole, fraction, rest)) :
    ∃ mantissa, IsMantissa mantissa whole fraction ∧ text = mantissa ++ rest := by
  obtain ⟨digits, behind, hdigits, rfl, hbehind | ⟨after, rfl⟩⟩ := exists_digits text
  · rw [takeDigits_plain hdigits hbehind] at h
    split at h
    · cases h
    · rename_i hsome
      cases h
      exact ⟨whole, .whole ⟨hsome, hdigits⟩, rfl⟩
  · rw [takeDigits_point hdigits] at h
    split at h
    · cases h
    · rename_i hsome
      cases h
      have hafter : after = after.takeWhile Char.isDigit ++ after.dropWhile Char.isDigit :=
        List.takeWhile_append_dropWhile.symm
      refine ⟨whole ++ '.' :: after.takeWhile Char.isDigit, ?_, ?_⟩
      · by_cases hwhole : whole = []
        · -- without digits in front of the point there are some behind it
          have hfraction : after.takeWhile Char.isDigit ≠ [] := fun hnil => hsome ⟨hwhole, hnil⟩
          rw [hwhole]
          exact .fraction (isDigits_takeWhile hfraction)
        · refine .pointed ⟨hwhole, hdigits⟩ ?_
          by_cases hfraction : after.takeWhile Char.isDigit = []
          · exact .inl hfraction
          · exact .inr (isDigits_takeWhile hfraction)
      · rw [List.append_assoc, List.cons_append, ← hafter]

/-- Digits with a point or none are read as what they are, if the text goes on with neither. -/
theorem IsMantissa.takeDigits_append {mantissa whole fraction rest : List Char}
    (h : IsMantissa mantissa whole fraction) (hrest : EndsMantissa rest) :
    takeDigits (mantissa ++ rest) = some (whole, fraction, rest) := by
  have hends : EndsDigits rest := fun c hc => (hrest c hc).1
  cases h with
  | whole hwhole => rw [takeDigits_plain hwhole.isDigit hrest, if_neg hwhole.ne_nil]
  | pointed hwhole hfraction =>
    have hdigits : ∀ c ∈ fraction, c.isDigit = true := by
      rcases hfraction with rfl | hfraction
      · simp
      · exact hfraction.isDigit
    rw [List.append_assoc, List.cons_append, takeDigits_point hwhole.isDigit,
      if_neg fun hnone => hwhole.ne_nil hnone.1, takeWhile_digits hdigits hends,
      dropWhile_digits hdigits hends]
  | fraction hfraction =>
    have hread := takeDigits_point (List.forall_mem_nil _) (fraction ++ rest)
    rw [takeWhile_digits hfraction.isDigit hends, dropWhile_digits hfraction.isDigit hends,
      if_neg fun hnone => hfraction.ne_nil hnone.2] at hread
    exact hread

/-- Digits with a point or none are read, whatever the text goes on with, and perhaps more. -/
theorem IsMantissa.exists_takeDigits {mantissa whole fraction : List Char}
    (h : IsMantissa mantissa whole fraction) (tail : List Char) :
    ∃ read, takeDigits (mantissa ++ tail) = some read ∧ read.2.2.length ≤ tail.length := by
  have hdrop : ∀ text : List Char, (text.dropWhile Char.isDigit).length ≤ text.length :=
    fun text => (List.dropWhile_suffix _).length_le
  cases h with
  | whole hwhole =>
    -- the digits go on in the tail, and there may be a point behind them
    obtain ⟨digits, behind, hdigits, rfl, hbehind⟩ := exists_digits tail
    have hall : ∀ c ∈ mantissa ++ digits, c.isDigit = true := by
      rw [List.forall_mem_append]
      exact ⟨hwhole.isDigit, hdigits⟩
    have hne : mantissa ++ digits ≠ [] := List.append_ne_nil_of_left_ne_nil hwhole.ne_nil _
    rw [← List.append_assoc, List.length_append]
    rcases hbehind with hbehind | ⟨after, rfl⟩
    · have hread := takeDigits_plain hall hbehind
      rw [if_neg hne] at hread
      exact ⟨_, hread, Nat.le_add_left _ _⟩
    · have hread := takeDigits_point hall after
      have hlength := hdrop after
      rw [if_neg fun hnone => hne hnone.1] at hread
      refine ⟨_, hread, ?_⟩
      rw [List.length_cons]
      dsimp only
      omega
  | pointed hwhole hfraction =>
    have hdigits : ∀ c ∈ fraction, c.isDigit = true := by
      rcases hfraction with rfl | hfraction
      · simp
      · exact hfraction.isDigit
    have hread := takeDigits_point hwhole.isDigit (fraction ++ tail)
    rw [if_neg fun hnone => hwhole.ne_nil hnone.1] at hread
    rw [List.append_assoc, List.cons_append]
    refine ⟨_, hread, ?_⟩
    rw [List.dropWhile_append_of_pos hdigits]
    exact hdrop tail
  | fraction hfraction =>
    have hsome : (fraction ++ tail).takeWhile Char.isDigit ≠ [] := by
      rw [List.takeWhile_append_of_pos hfraction.isDigit]
      exact List.append_ne_nil_of_left_ne_nil hfraction.ne_nil _
    have hread := takeDigits_point (List.forall_mem_nil _) (fraction ++ tail)
    rw [if_neg fun hnone => hsome hnone.2] at hread
    refine ⟨_, hread, ?_⟩
    rw [List.dropWhile_append_of_pos hfraction.isDigit]
    exact hdrop tail

/-! ## Exponents -/

/-- Behind its letter an exponent is read as an integer, and is none if there is no integer. -/
theorem takeExponent_letter {letter : Char} (hletter : letter = 'e' ∨ letter = 'E')
    (text : List Char) :
    takeExponent (letter :: text) =
      if (takeSign text).2.takeWhile Char.isDigit = [] then (0, letter :: text)
      else (leadingInteger text, behindInteger text) := by
  rw [takeExponent, if_pos hletter]
  dsimp only
  split
  · rename_i hnone
    rw [if_pos hnone]
  · rename_i hsome
    rw [if_neg fun hnone => hsome hnone]
    rfl

theorem takeExponent_other {text : List Char} (htext : ∀ c ∈ text.head?, ¬ (c = 'e' ∨ c = 'E')) :
    takeExponent text = (0, text) := by
  cases text with
  | nil => rfl
  | cons c text => rw [takeExponent, if_neg (htext c rfl)]

/-- What is read as an exponent is one. -/
theorem takeExponent_sound (text : List Char) :
    ∃ power, IsExponent power (takeExponent text).1 ∧ text = power ++ (takeExponent text).2 := by
  by_cases hletter : ∃ letter rest, text = letter :: rest ∧ (letter = 'e' ∨ letter = 'E')
  · obtain ⟨letter, rest, rfl, hletter⟩ := hletter
    rw [takeExponent_letter hletter]
    split
    · exact ⟨[], .none, rfl⟩
    · rename_i hsome
      obtain ⟨number, hnumber, hrest⟩ := leadingInteger_sound hsome
      exact ⟨letter :: number, .power hletter hnumber, congrArg (letter :: ·) hrest⟩
  · have hother : ∀ c ∈ text.head?, ¬ (c = 'e' ∨ c = 'E') := by
      intro c hc hcletter
      obtain ⟨rest, rfl⟩ := List.head?_eq_some_iff.1 hc
      exact hletter ⟨c, rest, rfl, hcletter⟩
    rw [takeExponent_other hother]
    exact ⟨[], .none, rfl⟩

/-- An exponent is read, whatever the text goes on with, and perhaps more. -/
theorem IsExponent.length_le {power : List Char} {exponent : ℤ} (h : IsExponent power exponent)
    (tail : List Char) : (takeExponent (power ++ tail)).2.length ≤ tail.length := by
  cases h with
  | none =>
    obtain ⟨read, -, htail⟩ := takeExponent_sound tail
    have hlength := congrArg List.length htail
    rw [List.length_append] at hlength
    rw [List.nil_append]
    omega
  | power hletter hnumber =>
    obtain ⟨hdigits, hlength⟩ := hnumber.read_append tail
    rw [List.cons_append, takeExponent_letter hletter, if_neg hdigits]
    exact hlength

/-- An exponent at the end of a text is read as what it is. -/
theorem IsExponent.takeExponent_eq {power : List Char} {exponent : ℤ}
    (h : IsExponent power exponent) : takeExponent power = (exponent, []) := by
  cases h with
  | none => rfl
  | power hletter hnumber =>
    have hdigits := (hnumber.read_append []).1
    have hend : EndsDigits [] := by simp [EndsDigits]
    have hread := hnumber.leadingInteger_append hend
    rw [List.append_nil] at hdigits hread
    rw [takeExponent_letter hletter, if_neg hdigits, hread.1, hread.2]

theorem endsMantissa_letter {letter : Char} (hletter : letter = 'e' ∨ letter = 'E')
    (text : List Char) : EndsMantissa (letter :: text) := by
  intro c hc
  obtain rfl : letter = c := by simpa using hc
  rcases hletter with rfl | rfl <;> decide

theorem IsExponent.endsMantissa {power : List Char} {exponent : ℤ}
    (h : IsExponent power exponent) : EndsMantissa power := by
  cases h with
  | none => simp [EndsMantissa]
  | power hletter hnumber => exact endsMantissa_letter hletter _

/-! ## Numerals -/

/-- How many characters the numeral at the start of a text takes up. -/
def numeralLength (text : List Char) : ℕ :=
  (leadingNumeral text).elim 0 fun read => text.length - read.2.length

theorem leadingNumeral_eq (text : List Char) :
    leadingNumeral text = (takeDigits (takeSign text).2).map fun read =>
      ({ negative := (takeSign text).1
         coefficient := placeValue (read.1 ++ read.2.1)
         exponent := (takeExponent read.2.2).1 - read.2.1.length }, (takeExponent read.2.2).2) := by
  rw [leadingNumeral]
  dsimp only
  cases takeDigits (takeSign text).2 with
  | none => rfl
  | some read =>
    dsimp only
    rw [ofDigits_eq_placeValue]
    rfl

/-- What is read as a numeral is one. -/
theorem leadingNumeral_sound {text rest : List Char} {numeral : Numeral}
    (h : leadingNumeral text = some (numeral, rest)) :
    ∃ found, DenotesNumeral found numeral ∧ text = found ++ rest := by
  rw [leadingNumeral_eq, Option.map_eq_some_iff] at h
  obtain ⟨⟨whole, fraction, behind⟩, hdigits, hread⟩ := h
  obtain ⟨rfl, rfl⟩ := Prod.mk.inj hread
  obtain ⟨sign, hsign, htext⟩ := takeSign_sound text
  obtain ⟨mantissa, hmantissa, hbehind⟩ := takeDigits_sound hdigits
  obtain ⟨power, hpower, hrest⟩ := takeExponent_sound behind
  refine ⟨sign ++ mantissa ++ power, .mk hsign hmantissa hpower, ?_⟩
  rw [List.append_assoc, List.append_assoc, ← hrest, ← hbehind, ← htext]

section Read

variable {found : List Char} {numeral : Numeral} (h : DenotesNumeral found numeral)

include h

/-- A numeral is read, whatever the text goes on with, and perhaps more. -/
theorem DenotesNumeral.exists_leadingNumeral (tail : List Char) :
    ∃ read, leadingNumeral (found ++ tail) = some read ∧ read.2.length ≤ tail.length := by
  cases h with
  | @mk sign mantissa whole fraction power negative exponent hsign hmantissa hpower =>
    have hread : takeSign (sign ++ mantissa ++ power ++ tail) =
        (negative, mantissa ++ (power ++ tail)) := by
      rw [List.append_assoc, List.append_assoc]
      exact takeSign_complete hsign (hmantissa.unsigned _)
    rw [leadingNumeral_eq, hread]
    cases hpower with
    | none =>
      obtain ⟨read, hdigits, hlength⟩ := hmantissa.exists_takeDigits tail
      rw [List.nil_append, hdigits]
      exact ⟨_, rfl, (IsExponent.none.length_le read.2.2).trans hlength⟩
    | @power letter number i hletter hnumber =>
      -- the letter ends the digits, so that they are read as they are
      have hends : EndsMantissa (letter :: number ++ tail) := endsMantissa_letter hletter _
      rw [hmantissa.takeDigits_append hends]
      exact ⟨_, rfl, (IsExponent.power hletter hnumber).length_le tail⟩

/-- Of a text that is a numeral nothing is left, and it is read as what it denotes. -/
theorem DenotesNumeral.leadingNumeral_eq_some : leadingNumeral found = some (numeral, []) := by
  cases h with
  | @mk sign mantissa whole fraction power negative exponent hsign hmantissa hpower =>
    have hread : takeSign (sign ++ mantissa ++ power) = (negative, mantissa ++ power) := by
      rw [List.append_assoc]
      exact takeSign_complete hsign (hmantissa.unsigned _)
    rw [leadingNumeral_eq, hread, hmantissa.takeDigits_append hpower.endsMantissa,
      Option.map_some, hpower.takeExponent_eq]

end Read

/-- The numeral that is read is denoted by the longest prefix that is a numeral. -/
theorem numeral_longest (text : List Char) :
    (∃ found numeral rest, leadingNumeral text = some (numeral, rest) ∧
      IsLongest IsNumeralText text found ∧ DenotesNumeral found numeral ∧
      numeralLength text = found.length) ∨
    ((∀ found, found <+: text → ¬ IsNumeralText found) ∧ leadingNumeral text = none ∧
      numeralLength text = 0) := by
  cases hread : leadingNumeral text with
  | none =>
    right
    refine ⟨?_, rfl, ?_⟩
    · rintro found ⟨tail, rfl⟩ ⟨numeral, hfound⟩
      obtain ⟨read, hsome, -⟩ := hfound.exists_leadingNumeral tail
      rw [hread] at hsome
      cases hsome
    · rw [numeralLength, hread]
      rfl
  | some read =>
    left
    obtain ⟨numeral, rest⟩ := read
    obtain ⟨found, hdenotes, rfl⟩ := leadingNumeral_sound hread
    refine ⟨found, numeral, rest, rfl, ⟨⟨_, hdenotes⟩, List.prefix_append _ _, ?_⟩, hdenotes, ?_⟩
    · -- any other prefix that is a numeral is read too, and leaves no less behind
      rintro other ⟨i, hother⟩ ⟨tail, htail⟩
      obtain ⟨read, hsome, hlength⟩ := hother.exists_leadingNumeral tail
      rw [htail, hread] at hsome
      cases hsome
      have hlengths := congrArg List.length htail
      rw [List.length_append, List.length_append] at hlengths
      dsimp only at hlength
      omega
    · rw [numeralLength, hread, Option.elim_some, List.length_append]
      dsimp only
      omega

end StatusDigest.Decimal
