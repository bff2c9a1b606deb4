import StatusDigest.Proofs.Decimal.Numerals
import StatusDigest.Proofs.Dump.Numbers
import StatusDigest.Proofs.Snapshot.Folding
import StatusDigest.Proofs.Stats.Clamping
import StatusDigest.Proofs.Text.Octets
import Mathlib

/-!
# What the values of fields are read as

A value is read as the number at its start, and the number is the longest that is there. Where it
ends can be found octet by octet, and is never inside of a character:

* `SpansLongest` says how many octets a number takes up; `spansLongest_integer` and
  `spansLongest_numeral` are the two grammars;
* `Field.readsIntegers` is the result for integers and for three of them with commas;
* `Field.real_reads_longest` is the result for numerals, whichever function reads the part that is
  cut out.
-/

namespace StatusDigest

open Decimal Dump Json Stats Text

/-! ## Numbers are ASCII -/

namespace Decimal

theorem isAscii_of_isDigit {text : List Char} (h : ∀ c ∈ text, c.isDigit = true) :
    IsAscii text := by
  intro c hc
  have hrange := toNat_of_isDigit (h c hc)
  omega

theorem IsSign.isAscii {sign : List Char} {negative : Bool} (h : IsSign sign negative) :
    IsAscii sign := by
  cases h <;> simp [IsAscii]

theorem DenotesInteger.isAscii {text : List Char} {i : ℤ} (h : DenotesInteger text i) :
    IsAscii text := by
  cases h with
  | mk hsign hdigits => exact hsign.isAscii.append (isAscii_of_isDigit hdigits.isDigit)

theorem IsMantissa.isAscii {mantissa whole fraction : List Char}
    (h : IsMantissa mantissa whole fraction) : IsAscii mantissa := by
  cases h with
  | whole hwhole => exact isAscii_of_isDigit hwhole.isDigit
  | pointed hwhole hfraction =>
    refine (isAscii_of_isDigit hwhole.isDigit).append (.cons (by decide) ?_)
    rcases hfraction with rfl | hfraction
    · simp [IsAscii]
    · exact isAscii_of_isDigit hfraction.isDigit
  | fraction hfraction => exact .cons (by decide) (isAscii_of_isDigit hfraction.isDigit)

theorem IsExponent.isAscii {power : List Char} {exponent : ℤ} (h : IsExponent power exponent) :
    IsAscii power := by
  cases h with
  | none => simp [IsAscii]
  | power hletter hnumber =>
    refine .cons ?_ hnumber.isAscii
    rcases hletter with rfl | rfl <;> decide

theorem DenotesNumeral.isAscii {text : List Char} {numeral : Numeral}
    (h : DenotesNumeral text numeral) : IsAscii text := by
  cases h with
  | mk hsign hmantissa hpower =>
    exact (hsign.isAscii.append hmantissa.isAscii).append hpower.isAscii

/-! ## Octets of a number -/

/-- So many octets of a text are taken up by the longest of its prefixes that are as they should
be, and none if there is no such prefix. -/
def SpansLongest (p : List Char → Prop) (text : List Char) (length : ℕ) : Prop :=
  (∃ found, IsLongest p text found ∧ length = (octetsOf found).length) ∨
    (∀ found, found <+: text → ¬ p found) ∧ length = 0

section Spans

variable {p : List Char → Prop} (hp : ∀ text, p text → IsAscii text)

include hp

/-- The longest prefix can be looked for in the octets. -/
theorem IsLongest.of_octetsOf {text found : List Char} (h : IsLongest p (octetsOf text) found) :
    IsLongest p text found := by
  refine ⟨h.accepted, (prefix_octetsOf_iff (hp _ h.accepted) text).1 h.isPrefix, ?_⟩
  intro other hother hstart
  exact h.longest other hother ((prefix_octetsOf_iff (hp _ hother) text).2 hstart)

/-- A length that is right for the characters of a text is right for its octets, if they are read
in place of the characters. -/
theorem spansLongest_octetsOf {length : List Char → ℕ}
    (hlength : ∀ text, (∃ found, IsLongest p text found ∧ length text = found.length) ∨
      (∀ found, found <+: text → ¬ p found) ∧ length text = 0) (text : List Char) :
    SpansLongest p text (length (octetsOf text)) := by
  rcases hlength (octetsOf text) with ⟨found, hlongest, hfound⟩ | ⟨hnone, hzero⟩
  · left
    refine ⟨found, hlongest.of_octetsOf hp, ?_⟩
    rw [octetsOf_of_isAscii (hp _ hlongest.accepted), hfound]
  · right
    refine ⟨?_, hzero⟩
    intro found hstart hfound
    exact hnone found ((prefix_octetsOf_iff (hp _ hfound) text).2 hstart) hfound

/-- A number does not end inside of a character. -/
theorem SpansLongest.isValid {text : List Char} {length : ℕ} (h : SpansLongest p text length) :
    (⟨length⟩ : String.Pos.Raw).IsValid (String.ofList text) := by
  rcases h with ⟨found, hlongest, rfl⟩ | ⟨-, rfl⟩
  · rw [octetsOf_of_isAscii (hp _ hlongest.accepted)]
    exact isValid_length (hp _ hlongest.accepted) hlongest.isPrefix
  · have hempty : IsAscii [] := by simp [IsAscii]
    exact isValid_length hempty ⟨text, rfl⟩

end Spans

theorem IsIntegerText.isAscii {text : List Char} (h : IsIntegerText text) : IsAscii text := by
  obtain ⟨i, hi⟩ := h
  exact hi.isAscii

theorem IsNumeralText.isAscii {text : List Char} (h : IsNumeralText text) : IsAscii text := by
  obtain ⟨numeral, hnumeral⟩ := h
  exact hnumeral.isAscii

theorem spansLongest_integer (text : List Char) :
    SpansLongest IsIntegerText text (integerLength (octetsOf text)) := by
  apply spansLongest_octetsOf fun _ => IsIntegerText.isAscii
  intro text
  rcases integer_longest text with ⟨found, hlongest, -, hlength⟩ | ⟨hnone, -, hzero⟩
  · exact .inl ⟨found, hlongest, hlength⟩
  · exact .inr ⟨hnone, hzero⟩

theorem spansLongest_numeral (text : List Char) :
    SpansLongest IsNumeralText text (numeralLength (octetsOf text)) := by
  apply spansLongest_octetsOf fun _ => IsNumeralText.isAscii
  intro text
  rcases numeral_longest text with ⟨found, _, _, -, hlongest, -, hlength⟩ | ⟨hnone, -, hzero⟩
  · exact .inl ⟨found, hlongest, hlength⟩
  · exact .inr ⟨hnone, hzero⟩

end Decimal

/-! ## Integers -/

namespace Dump.Field

/-- The word is the longest integer at the start of the text, brought into its range, or zero if
there is none. The integer takes up so many octets, and does not end inside of a character. -/
structure ReadsInteger (text : List Char) (n : Int64) : Prop where
  value : (∃ found i, IsLongest IsIntegerText text found ∧ DenotesInteger found i ∧
      n.toInt = max Int64.minValue.toInt (min Int64.maxValue.toInt i)) ∨
    (∀ found, found <+: text → ¬ IsIntegerText found) ∧ n = 0
  span : SpansLongest IsIntegerText text (integerLength (octetsOf text))
  cut : (⟨integerLength (octetsOf text)⟩ : String.Pos.Raw).IsValid (String.ofList text)

/-- Without an integer at its start a text is read as zero. -/
theorem integerOf_eq_zero {text : List Char}
    (h : ∀ found, found <+: dropBlank text → ¬ IsIntegerText found) : integerOf text = 0 := by
  rcases integer_longest (dropBlank text) with ⟨found, hlongest, -, -⟩ | ⟨-, hzero, -⟩
  · exact absurd hlongest.accepted (h _ hlongest.isPrefix)
  · rw [integerOf, hzero]
    decide

theorem readsInteger (raw : String) : ReadsInteger (dropBlank raw.toList) (integer raw) := by
  have hspan := spansLongest_integer (dropBlank raw.toList)
  refine ⟨?_, hspan, hspan.isValid fun _ => IsIntegerText.isAscii⟩
  rcases integer_longest (dropBlank raw.toList) with ⟨found, hlongest, hdenotes, -⟩ | ⟨hnone, -, -⟩
  · exact .inl ⟨found, _, hlongest, hdenotes, toInt_ofIntClamp _⟩
  · exact .inr ⟨hnone, integerOf_eq_zero hnone⟩

/-! ## Three integers -/

/-- The decimal text of a number with blank characters around it. -/
def ShowsNumber (piece : List Char) (n : Int64) : Prop :=
  ∃ left right, allBlank left = true ∧ allBlank right = true ∧
    piece = left ++ (int64Text n).toList ++ right

theorem endsDigits_of_allBlank {text : List Char} (h : allBlank text = true) : EndsDigits text := by
  intro c hc
  have hblank : isBlank c = true := List.all_eq_true.1 h c (List.mem_of_mem_head? hc)
  by_contra hdigit
  rw [isBlank_eq_false_of_isDigit (by simpa using hdigit)] at hblank
  cases hblank

theorem integerOf_shown {piece : List Char} {n : Int64} (h : ShowsNumber piece n) :
    integerOf piece = n := by
  obtain ⟨left, right, hleft, hright, rfl⟩ := h
  have hskip : dropBlank (left ++ (int64Text n).toList ++ right) =
      dropBlank ((int64Text n).toList ++ right) := by
    rw [List.append_assoc]
    exact List.dropWhile_append_of_pos (List.all_eq_true.1 hleft)
  have hread := integerOf_append (denotesInteger_integerText n.toInt)
    (endsDigits_of_allBlank hright)
  rw [integerOf, hskip]
  rwa [Int64.ofIntClamp_toInt] at hread

/-- The pieces between commas that hold more than blank characters. -/
def filledPieces (raw : String) : List (List Char) :=
  (raw.toList.splitOn ',').filter fun piece => !allBlank piece

/-- The integers of the filled pieces. -/
def integersOf (raw : String) : List Int64 :=
  (filledPieces raw).map integerOf

/-- The first three integers stand at their places, and missing ones are zero. -/
theorem triple_eq_getD (raw : String) :
    triple raw =
      ((integersOf raw).getD 0 0, (integersOf raw).getD 1 0, (integersOf raw).getD 2 0) := by
  rw [triple, integersOf, filledPieces, ← pieces_eq_splitOn]
  generalize List.map integerOf _ = read
  rcases read with _ | ⟨x, _ | ⟨y, _ | ⟨z, rest⟩⟩⟩ <;> rfl

theorem map_integerOf_of_shown {shown : List (List Char)} {numbers : List Int64}
    (h : List.Forall₂ ShowsNumber shown numbers) : shown.map integerOf = numbers := by
  induction h with
  | nil => rfl
  | cons hfirst _ ih => rw [List.map_cons, integerOf_shown hfirst, ih]

/-- The numbers in the first three filled pieces are found at their places. -/
theorem triple_of_shown {raw : String} {numbers : List Int64}
    (h : List.Forall₂ ShowsNumber ((filledPieces raw).take 3) numbers) :
    triple raw = (numbers.getD 0 0, numbers.getD 1 0, numbers.getD 2 0) := by
  have hread : numbers = (integersOf raw).take 3 := by
    rw [integersOf, ← List.map_take, map_integerOf_of_shown h]
  rw [triple_eq_getD, hread]
  simp [List.getD_eq_getElem?_getD]

/-- Every value is read as the longest integer at its start, clamped, or as zero. So a number is
read back whatever the value goes on with, unless with more digits, and three numbers are read back
whatever blank characters stand around them, blank pieces between them and pieces behind them. -/
theorem readsIntegers :
    (∀ raw : String, ReadsInteger (dropBlank raw.toList) (integer raw)) ∧
      (∀ (n : Int64) (suffix : String), EndsDigits suffix.toList →
        integer (int64Text n ++ suffix) = n) ∧
      ∀ (raw : String) (numbers : List Int64),
        List.Forall₂ ShowsNumber ((filledPieces raw).take 3) numbers →
          triple raw = (numbers.getD 0 0, numbers.getD 1 0, numbers.getD 2 0) := by
  refine ⟨readsInteger, ?_, fun raw numbers => triple_of_shown⟩
  intro n suffix hsuffix
  have hread := integerOf_append (denotesInteger_integerText n.toInt) hsuffix
  rw [Int64.ofIntClamp_toInt] at hread
  rw [integer, String.toList_append]
  exact hread

/-- The least number with a unit, and two numbers among blank pieces without a third. -/
theorem readsIntegers_spaced :
    EndsDigits " ms".toList ∧ integer (int64Text Int64.minValue ++ " ms") = Int64.minValue ∧
      List.Forall₂ ShowsNumber ((filledPieces ", 15 ,,\t,\u00a0-2\u3000,").take 3) [15, -2] ∧
      triple ", 15 ,,\t,\u00a0-2\u3000," = (15, -2, 0) := by
  have hsuffix : EndsDigits " ms".toList := by simp [EndsDigits]
  have hpieces : (filledPieces ", 15 ,,\t,\u00a0-2\u3000,").take 3 =
      [" 15 ".toList, "\u00a0-2\u3000".toList] := by decide
  have hshown : List.Forall₂ ShowsNumber ((filledPieces ", 15 ,,\t,\u00a0-2\u3000,").take 3)
      [15, -2] := by
    rw [hpieces]
    exact .cons ⟨[' '], [' '], by decide, by decide, rfl⟩
      (.cons ⟨['\u00a0'], ['\u3000'], by decide, by decide, rfl⟩ .nil)
  exact ⟨hsuffix, readsIntegers.2.1 _ _ hsuffix, hshown, readsIntegers.2.2 _ _ hshown⟩

end Dump.Field

/-! ## Numerals -/

namespace Decimal

/-- The words that are doubles without being numerals, whatever the case of their letters. -/
def IsDoubleWord (text : List Char) : Prop :=
  ∃ sign word negative, IsSign sign negative ∧ text = sign ++ word ∧
    String.ofList (word.map Char.toLower) ∈ ["inf", "infinity", "nan"]

/-- A function from texts to doubles accepts the numerals and perhaps those words, and rounds every
numeral to the double nearest to it. -/
structure ReadsDoubles (read? : List Char → Option Float) : Prop where
  numeral : ∀ {text numeral}, DenotesNumeral text numeral → read? text = some numeral.toFloat
  nothingElse : ∀ {text}, ¬ IsNumeralText text → ¬ IsDoubleWord text → read? text = none

theorem IsDoubleWord.ne_nil {text : List Char} (h : IsDoubleWord text) : text ≠ [] := by
  rintro rfl
  obtain ⟨sign, word, negative, -, htext, hword⟩ := h
  obtain ⟨-, rfl⟩ := List.append_eq_nil_iff.1 htext.symm
  exact absurd hword (by decide)

theorem IsNumeralText.ne_nil {text : List Char} (h : IsNumeralText text) : text ≠ [] := by
  rintro rfl
  obtain ⟨numeral, hnumeral⟩ := h
  have hnone : leadingNumeral [] = none := rfl
  rw [hnumeral.leadingNumeral_eq_some] at hnone
  cases hnone

/-- The part of a text that is its longest numeral, or nothing. -/
def numeralPart (text : List Char) : List Char :=
  text.take (numeralLength text)

/-- The part is the longest numeral, if there is one. -/
theorem numeralPart_cases (text : List Char) :
    (∃ numeral rest, leadingNumeral text = some (numeral, rest) ∧
      IsLongest IsNumeralText text (numeralPart text) ∧
      DenotesNumeral (numeralPart text) numeral) ∨
    ((∀ found, found <+: text → ¬ IsNumeralText found) ∧ leadingNumeral text = none ∧
      numeralPart text = []) := by
  rcases numeral_longest text with
    ⟨found, numeral, rest, hread, hlongest, hdenotes, hlength⟩ | ⟨hnone, hread, hzero⟩
  · have hpart : numeralPart text = found := by
      rw [numeralPart, hlength]
      exact (List.prefix_iff_eq_take.1 hlongest.isPrefix).symm
    rw [← hpart] at hlongest hdenotes
    exact .inl ⟨numeral, rest, hread, hlongest, hdenotes⟩
  · refine .inr ⟨hnone, hread, ?_⟩
    rw [numeralPart, hzero, List.take_zero]

/-- The part has as many octets as are counted in the octets of the text. -/
theorem length_octetsOf_numeralPart (text : List Char) :
    (octetsOf (numeralPart text)).length = numeralLength (octetsOf text) := by
  rcases numeralPart_cases text, spansLongest_numeral text with
    ⟨⟨numeral, rest, -, hpart, -⟩ | ⟨hnone, -, hpart⟩, ⟨found, hfound, hlength⟩ | ⟨hno, hzero⟩⟩
  · rw [hlength, hfound.unique hpart]
  · exact absurd hpart.accepted (hno _ hpart.isPrefix)
  · exact absurd hfound.accepted (hnone _ hfound.isPrefix)
  · rw [hpart, hzero, octetsOf_nil, List.length_nil]

/-- Reads a text that is a numeral as a whole. -/
def wholeNumeral? (text : List Char) : Option Float :=
  match leadingNumeral text with
  | some (numeral, []) => some numeral.toFloat
  | _ => none

theorem readsDoubles_wholeNumeral : ReadsDoubles wholeNumeral? := by
  constructor
  · intro text numeral hnumeral
    rw [wholeNumeral?, hnumeral.leadingNumeral_eq_some]
  · intro text hnumeral _
    unfold wholeNumeral?
    split
    · rename_i numeral hread
      obtain ⟨found, hfound, rfl⟩ := leadingNumeral_sound hread
      rw [List.append_nil] at hnumeral
      exact absurd ⟨numeral, hfound⟩ hnumeral
    · rfl

end Decimal

namespace Dump.Field

/-- The double is read by the function from the longest numeral at the start of the text. The
numeral is cut out between two characters and is accepted, and zero stands in only where there is
no numeral. -/
structure ReadsReal (read? : List Char → Option Float) (text : List Char) (x : Float) : Prop where
  cut : (⟨numeralLength (octetsOf text)⟩ : String.Pos.Raw).IsValid (String.ofList text)
  isPrefix : numeralPart text <+: text
  octets : (octetsOf (numeralPart text)).length = numeralLength (octetsOf text)
  accepted : numeralPart text ≠ [] → ∃ numeral, DenotesNumeral (numeralPart text) numeral ∧
    read? (numeralPart text) = some numeral.toFloat
  rejected : read? (numeralPart text) = none ↔ ∀ found, found <+: text → ¬ IsNumeralText found
  value : x = (read? (numeralPart text)).getD 0.0

theorem readsReal {read? : List Char → Option Float} (hread : ReadsDoubles read?) (raw : String) :
    ReadsReal read? (dropBlank raw.toList) (real raw) := by
  rw [real]
  generalize dropBlank raw.toList = text
  have hcut := (spansLongest_numeral text).isValid fun _ => IsNumeralText.isAscii
  have hoctets := length_octetsOf_numeralPart text
  have hstart : numeralPart text <+: text := List.take_prefix ..
  rcases numeralPart_cases text with
    ⟨numeral, rest, hleading, hlongest, hdenotes⟩ | ⟨hnone, hleading, hpart⟩
  · have haccept := hread.numeral hdenotes
    refine ⟨hcut, hstart, hoctets, fun _ => ⟨numeral, hdenotes, haccept⟩, ?_, ?_⟩
    · rw [haccept]
      constructor
      · intro hrejected
        cases hrejected
      · intro hnone
        exact absurd hlongest.accepted (hnone _ hstart)
    · rw [hleading, haccept, Option.getD_some]
  · -- nothing is cut out, and the empty text is neither a numeral nor a word
    have hreject : read? [] = none :=
      hread.nothingElse (fun h => h.ne_nil rfl) (fun h => h.ne_nil rfl)
    refine ⟨hcut, hstart, hoctets, fun hne => absurd hpart hne, ?_, ?_⟩
    · rw [hpart]
      exact ⟨fun _ => hnone, fun _ => hreject⟩
    · rw [hleading, hpart, hreject, Option.getD_none]

/-- The octets that are counted for a numeral are those of the longest one at the start of a text,
and none if there is none. So whichever function reads the numeral that is cut out of a value, it
accepts it; a value is never read as something that is not a number, and is read as its numeral. -/
theorem real_reads_longest {read? : List Char → Option Float} (hread : ReadsDoubles read?) :
    (∀ text, SpansLongest IsNumeralText text (numeralLength (octetsOf text))) ∧
      (∀ raw : String, ReadsReal read? (dropBlank raw.toList) (real raw) ∧
        (real raw).isNaN = false) ∧
      ∀ raw other : String,
        numeralPart (dropBlank raw.toList) = numeralPart (dropBlank other.toList) →
          real raw = real other := by
  refine ⟨spansLongest_numeral, fun raw => ⟨readsReal hread raw, isNaN_real raw⟩, ?_⟩
  intro raw other hsame
  rw [(readsReal hread raw).value, (readsReal hread other).value, hsame]

/-- A point without digits behind it is read, an exponent without digits is not, and a blank
character and a unit make no difference. -/
theorem real_reads_longest_unit :
    ReadsDoubles wholeNumeral? ∧
      (numeralPart (dropBlank "\u2003-12.e+m\u00b2".toList) = "-12.".toList ∧
        ReadsReal wholeNumeral? (dropBlank "\u2003-12.e+m\u00b2".toList)
          (real "\u2003-12.e+m\u00b2")) ∧
      numeralPart (dropBlank "\u2003-12.e+m\u00b2".toList) =
        numeralPart (dropBlank "-12.".toList) ∧
      real "\u2003-12.e+m\u00b2" = real "-12." := by
  have hsame : numeralPart (dropBlank "\u2003-12.e+m\u00b2".toList) =
      numeralPart (dropBlank "-12.".toList) := by decide
  obtain ⟨-, hvalues, hdepends⟩ := real_reads_longest readsDoubles_wholeNumeral
  exact ⟨readsDoubles_wholeNumeral, ⟨by decide, (hvalues _).1⟩, hsame, hdepends _ _ hsame⟩

end Dump.Field

end StatusDigest
