import StatusDigest.Toml.Quoted
import Mathlib

/-!
# How texts are spelled in double quotes

Between double quotes a character stands for itself, unless it is a quote, a backslash or a control
character, or is written as an escape: by a letter of its own or by the digits of its code point.
Every spelling of a text is read as that text:

* `SpellsChar` and `Spells` are the spellings, said without reading;
* `readEscape_spells` reads one escape, and `readBasic_spells` a whole text up to its closing quote;
* `spell` is one spelling of each text, so that there always is one (`spells_spell`).
-/

namespace StatusDigest.Toml

/-! ## Spellings -/

/-- The letters that stand for a character behind a backslash. -/
def letterEscapes : List (Char × Char) :=
  [('"', '"'), ('\\', '\\'), ('b', '\x08'), ('e', '\x1b'), ('f', '\x0c'), ('n', '\n'), ('r', '\r'),
   ('t', '\t')]

/-- The letters that announce a code point behind a backslash, and how many digits it has. -/
def codeEscapes : List (Char × ℕ) :=
  [('x', 2), ('u', 4), ('U', 8)]

/-- The hexadecimal digits with their values. Letters may be capitals. -/
def hexDigits : List (Char × ℕ) :=
  "0123456789abcdef".toList.zipIdx ++ "ABCDEF".toList.zipIdx 10

/-- The number that hexadecimal digits denote behind a number that was denoted before. -/
def hexValue (n : ℕ) (digits : List (Char × ℕ)) : ℕ :=
  digits.foldl (fun n digit => n * 16 + digit.2) n

/-- The ways to write a character between double quotes. -/
inductive SpellsChar : Char → List Char → Prop where
  /-- All but quotes, backslashes and control characters stand for themselves, and so does the
  tab. -/
  | plain {c : Char} (hplain : c = '\t' ∨ 0x20 ≤ c.toNat ∧ c.toNat ≠ 0x7F) (hquote : c ≠ '"')
      (hbackslash : c ≠ '\\') : SpellsChar c [c]
  | letter {c letter : Char} (hletter : (letter, c) ∈ letterEscapes) : SpellsChar c ['\\', letter]
  | code {c letter : Char} {digits : List (Char × ℕ)}
      (hletter : (letter, digits.length) ∈ codeEscapes)
      (hdigits : ∀ digit ∈ digits, digit ∈ hexDigits) (hvalue : hexValue 0 digits = c.toNat) :
      SpellsChar c ('\\' :: letter :: digits.map Prod.fst)

/-- The ways to write a text between double quotes. -/
inductive Spells : List Char → List Char → Prop where
  | nil : Spells [] []
  | cons {c : Char} {letters text spelling : List Char} (hc : SpellsChar c letters)
      (htext : Spells text spelling) : Spells (c :: text) (letters ++ spelling)

/-! ## Reading escapes -/

theorem isPlain_iff {c : Char} :
    isPlain c = true ↔ c = '\t' ∨ 0x20 ≤ c.toNat ∧ c.toNat ≠ 0x7F := by
  simp [isPlain]

theorem digitValue_of_mem_hexDigits {digit : Char × ℕ} (h : digit ∈ hexDigits) :
    digitValue digit.1 = digit.2 ∧ digit.2 < 16 := by
  have hall : ∀ digit ∈ hexDigits, digitValue digit.1 = digit.2 ∧ digit.2 < 16 := by decide
  exact hall digit h

/-- So many hexadecimal digits are read as the number that they denote. -/
theorem readHex_append {digits : List (Char × ℕ)} (hdigits : ∀ digit ∈ digits, digit ∈ hexDigits)
    (n : ℕ) (rest : List Char) :
    readHex digits.length n (digits.map Prod.fst ++ rest) = some (hexValue n digits, rest) := by
  induction digits generalizing n with
  | nil => rfl
  | cons digit digits ih =>
    obtain ⟨hvalue, hlt⟩ := digitValue_of_mem_hexDigits (hdigits digit List.mem_cons_self)
    rw [List.length_cons, List.map_cons, List.cons_append, readHex, if_pos (hvalue ▸ hlt), hvalue,
      ih fun other hother => hdigits other (List.mem_cons_of_mem _ hother)]
    rfl

/-- The code point of a character is read as that character. -/
theorem readCodePoint_append {c : Char} {digits : List (Char × ℕ)}
    (hdigits : ∀ digit ∈ digits, digit ∈ hexDigits) (hvalue : hexValue 0 digits = c.toNat)
    (rest : List Char) :
    readCodePoint digits.length (digits.map Prod.fst ++ rest) = some (c, rest) := by
  have hvalid : c.toNat.isValidChar := c.valid
  simp only [readCodePoint, readHex_append hdigits, hvalue, Option.bind_eq_bind, Option.bind_some,
    if_pos hvalid, Char.ofNat_toNat]
  rfl

theorem readEscape_letter {c letter : Char} (h : (letter, c) ∈ letterEscapes) (rest : List Char) :
    readEscape (letter :: rest) = some (c, rest) := by
  simp only [letterEscapes, List.mem_cons, List.not_mem_nil, or_false, Prod.mk.injEq] at h
  rcases h with ⟨rfl, rfl⟩ | ⟨rfl, rfl⟩ | ⟨rfl, rfl⟩ | ⟨rfl, rfl⟩ | ⟨rfl, rfl⟩ | ⟨rfl, rfl⟩ |
    ⟨rfl, rfl⟩ | ⟨rfl, rfl⟩
  all_goals rfl

theorem readEscape_code {c letter : Char} {digits : List (Char × ℕ)}
    (hletter : (letter, digits.length) ∈ codeEscapes)
    (hdigits : ∀ digit ∈ digits, digit ∈ hexDigits) (hvalue : hexValue 0 digits = c.toNat)
    (rest : List Char) :
    readEscape (letter :: (digits.map Prod.fst ++ rest)) = some (c, rest) := by
  have hread := readCodePoint_append hdigits hvalue rest
  simp only [codeEscapes, List.mem_cons, List.not_mem_nil, or_false, Prod.mk.injEq] at hletter
  rcases hletter with ⟨rfl, hlength⟩ | ⟨rfl, hlength⟩ | ⟨rfl, hlength⟩
  all_goals
    rw [hlength] at hread
    exact hread

/-! ## Reading texts -/

/-- An escape goes in front of what is read behind it. -/
theorem readBasic_escape {c : Char} {escape rest : List Char}
    (hescape : ∀ rest, readEscape (escape ++ rest) = some (c, rest)) :
    readBasic ('\\' :: (escape ++ rest)) = prepend [c] (readBasic rest) := by
  have hshorter : rest.length ≤ (escape ++ rest).length := by simp
  rw [readBasic, hescape]
  simp only [dif_pos hshorter]

/-- Every spelling of a text is read as the text, up to the closing quote. -/
theorem readBasic_spells {text spelling : List Char} (h : Spells text spelling)
    (rest : List Char) : readBasic (spelling ++ '"' :: rest) = some (text, rest) := by
  induction h with
  | nil => rw [List.nil_append, readBasic]
  | @cons c letters text spelling hc htext ih =>
    rw [List.append_assoc]
    have hread : readBasic (letters ++ (spelling ++ '"' :: rest)) =
        prepend [c] (readBasic (spelling ++ '"' :: rest)) := by
      cases hc with
      | plain hplain hquote hbackslash =>
        rw [List.singleton_append, readBasic, if_pos (isPlain_iff.2 hplain)]
        · exact hquote
        · exact hbackslash
      | letter hletter => exact readBasic_escape fun rest => readEscape_letter hletter rest
      | code hletter hdigits hvalue =>
        exact readBasic_escape fun rest => readEscape_code hletter hdigits hvalue rest
    rw [hread, ih]
    rfl

/-- A spelling does not start with a quote. -/
theorem Spells.head?_ne {text spelling : List Char} (h : Spells text spelling) :
    spelling.head? ≠ some '"' := by
  cases h with
  | nil => simp
  | cons hc _ =>
    cases hc with
    | plain _ hquote _ => simpa using hquote
    | letter _ => simp
    | code _ _ _ => simp

/-! ## A spelling of every text -/

/-- A character as it is written when only what must be escaped is. -/
def spellChar (c : Char) : List Char :=
  if c = '"' ∨ c = '\\' then ['\\', c]
  else if isPlain c then [c]
  else ['\\', 'u', '0', '0', Nat.digitChar (c.toNat / 16), Nat.digitChar (c.toNat % 16)]

/-- A text as it is written when only what must be escaped is. -/
def spell (text : List Char) : List Char :=
  text.flatMap spellChar

theorem spellsChar_spellChar (c : Char) : SpellsChar c (spellChar c) := by
  unfold spellChar
  split
  · rename_i hescaped
    rcases hescaped with rfl | rfl
    · exact .letter (by decide)
    · exact .letter (by decide)
  split
  · rename_i hescaped hplain
    rw [not_or] at hescaped
    exact .plain (isPlain_iff.1 hplain) hescaped.1 hescaped.2
  · -- what is left are control characters, whose code points have two digits
    rename_i hplain
    rw [isPlain_iff] at hplain
    have hlt : c.toNat < 128 := by omega
    have hdigit : ∀ n < 16, (Nat.digitChar n, n) ∈ hexDigits := by decide
    have hspells : SpellsChar c ('\\' :: 'u' :: [('0', 0), ('0', 0),
        (Nat.digitChar (c.toNat / 16), c.toNat / 16),
        (Nat.digitChar (c.toNat % 16), c.toNat % 16)].map Prod.fst) := by
      refine .code (by simp [codeEscapes]) ?_ ?_
      · simp only [List.forall_mem_cons, List.not_mem_nil, false_implies, implies_true, and_true]
        exact ⟨by decide, by decide, hdigit _ (by omega), hdigit _ (by omega)⟩
      · simp only [hexValue, List.foldl_cons, List.foldl_nil]
        omega
    exact hspells

theorem spells_spell (text : List Char) : Spells text (spell text) := by
  induction text with
  | nil => exact .nil
  | cons c text ih => exact .cons (spellsChar_spellChar c) ih

end StatusDigest.Toml
