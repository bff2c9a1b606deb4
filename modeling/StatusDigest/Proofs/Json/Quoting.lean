import StatusDigest.Json.Writer
import StatusDigest.Json.Skip
import Mathlib

/-!
# Reading quoted texts

What is written in quotes is read as it was: a character either stands for itself or is escaped,
by a letter or by the number of a control character, and every way is read back
(`readEscaped`). `readString_quote` is the same for whole texts, whatever follows the closing
quote.
-/

namespace StatusDigest.Json

/-! ## Escapes -/

theorem hexValue?_hexDigit : ∀ n < 16, hexValue? (hexDigit n) = some n := by
  decide

/-- Four digits are enough for a number. -/
theorem utf8ByteSize_hexDigits : ∀ n < 0x20,
    (String.ofList ['0', '0', hexDigit (n / 16), hexDigit (n % 16)]).utf8ByteSize = 4 := by
  decide

/-- The number of a control character is read after the letter of its escape. -/
theorem readUnit_control {n : ℕ} (hn : n < 0x20) (rest : List Char) :
    readUnit ('0' :: '0' :: hexDigit (n / 16) :: hexDigit (n % 16) :: rest) =
      .ok (Char.ofNat n, rest) := by
  have hlength : isShort ('0' :: '0' :: hexDigit (n / 16) :: hexDigit (n % 16) :: rest) =
      false := by
    simp only [isShort, List.take, utf8ByteSize_hexDigits n hn]
    rfl
  have hhigh := hexValue?_hexDigit (n / 16) (by omega)
  have hlow := hexValue?_hexDigit (n % 16) (by omega)
  have hzero : hexValue? '0' = some 0 := by decide
  have hvalue : ((0 * 16 + 0) * 16 + n / 16) * 16 + n % 16 = n := by omega
  have hleading : isLeading n = false := by simp [isLeading]; omega
  have htrailing : isTrailing n = false := by simp [isTrailing]; omega
  have hhex : readHex ('0' :: '0' :: hexDigit (n / 16) :: hexDigit (n % 16) :: rest) =
      .ok (n, rest) := by
    simp only [readHex, hlength, hzero, hhigh, hlow, hvalue]
    rfl
  simp [readUnit, hhex, hleading, htrailing, bind, Except.bind]

/-- The closing quote ends a text. -/
theorem readQuoted_end (escape : List Char → Except Fault (Char × List Char)) (rest : List Char) :
    readQuoted escape ('"' :: rest) = .ok ([], rest) := by
  rw [readQuoted]

/-- A backslash and an escape that can be read. -/
theorem readQuoted_backslash {letters after : List Char} {c : Char}
    (h : readEscape letters = .ok (c, after)) (hlength : after.length ≤ letters.length) :
    readQuoted readEscape ('\\' :: letters) =
      (readQuoted readEscape after).map fun (chars, rest) => (c :: chars, rest) := by
  rw [readQuoted, h]
  simp only [hlength, dite_true]

/-- A character that stands for itself. -/
theorem readQuoted_plain {c : Char} (hquote : c ≠ '"') (hbackslash : c ≠ '\\')
    (hcontrol : ¬ c.toNat < 0x20) (rest : List Char) :
    readQuoted readEscape (c :: rest) =
      (readQuoted readEscape rest).map fun (chars, rest) => (c :: chars, rest) := by
  rw [readQuoted.eq_4 _ _ _ hquote hbackslash, if_neg hcontrol]

/-- However a character is written, it is read. -/
theorem readQuoted_escape (c : Char) (rest : List Char) :
    readQuoted readEscape (escape c ++ rest) =
      (readQuoted readEscape rest).map fun (chars, rest) => (c :: chars, rest) := by
  unfold escape
  split
  case h_8 hquote hbackslash _ _ _ _ _ =>
    split
    · rename_i hcontrol
      have hread := readUnit_control hcontrol rest
      rw [Char.ofNat_toNat] at hread
      exact readQuoted_backslash hread (Nat.le_add_right rest.length 5)
    · rename_i hcontrol
      exact readQuoted_plain (by simpa using hquote) (by simpa using hbackslash) hcontrol rest
  -- the escapes of one letter
  all_goals exact readQuoted_backslash rfl (Nat.le_succ _)

/-! ## Texts -/

theorem readQuoted_flatMap_escape (chars rest : List Char) :
    readQuoted readEscape (chars.flatMap escape ++ '"' :: rest) = .ok (chars, rest) := by
  induction chars with
  | nil => exact readQuoted_end _ rest
  | cons c chars ih =>
    rw [List.flatMap_cons, List.append_assoc, readQuoted_escape, ih]
    rfl

/-- A text in quotes is read as it was. -/
theorem readString_quote (text : String) (rest : List Char) :
    ∃ inner, quote text ++ rest = '"' :: inner ∧ readString inner = .ok (text, rest) := by
  refine ⟨text.toList.flatMap escape ++ '"' :: rest, by simp [quote], ?_⟩
  rw [readString, readQuoted_flatMap_escape]
  show Except.ok (String.ofList text.toList, rest) = _
  rw [String.ofList_toList]

end StatusDigest.Json
