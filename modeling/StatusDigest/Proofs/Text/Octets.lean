import StatusDigest.Proofs.Text.Utf8
import Mathlib

/-!
# Reading a text octet by octet

Whoever looks for ASCII characters only may read the octets of a text in place of its characters,
and may cut the text where reading stops:

* `octetsOf` gives the octets of a text, each as the character of its number;
* `prefix_octetsOf_iff`: the octets start with the same ASCII texts as the characters;
* `isValid_length`: so many octets as an ASCII prefix has characters end between two characters.
-/

namespace StatusDigest.Text

/-- The octets of a text, each as the character of its number. -/
def octetsOf (text : List Char) : List Char :=
  (Utf8.encode (String.ofList text)).map fun octet => Char.ofNat octet.toNat

/-- A text of ASCII characters. -/
def IsAscii (text : List Char) : Prop :=
  ∀ c ∈ text, c.toNat ≤ 0x7F

theorem IsAscii.append {text more : List Char} (h : IsAscii text) (hmore : IsAscii more) :
    IsAscii (text ++ more) := by
  rw [IsAscii, List.forall_mem_append]
  exact ⟨h, hmore⟩

theorem IsAscii.cons {c : Char} {text : List Char} (hc : c.toNat ≤ 0x7F) (h : IsAscii text) :
    IsAscii (c :: text) :=
  List.forall_mem_cons.2 ⟨hc, h⟩

theorem octetsOf_nil : octetsOf [] = [] := by
  rw [octetsOf, Utf8.encode_eq_flatMap, String.toList_ofList]
  rfl

theorem octetsOf_cons (c : Char) (rest : List Char) :
    octetsOf (c :: rest) =
      (String.utf8EncodeChar c).map (fun octet => Char.ofNat octet.toNat) ++ octetsOf rest := by
  simp only [octetsOf, Utf8.encode_eq_flatMap, String.toList_ofList, List.flatMap_cons,
    List.map_append]

theorem utf8Size_of_ascii {c : Char} (hc : c.toNat ≤ 0x7F) : c.utf8Size = 1 := by
  rw [Char.utf8Size_eq_one_iff, UInt32.le_iff_toNat_le]
  exact hc

theorem octetsOf_cons_ascii {c : Char} (hc : c.toNat ≤ 0x7F) (rest : List Char) :
    octetsOf (c :: rest) = c :: octetsOf rest := by
  have hoctet : c.val.toUInt8.toNat = c.toNat := by
    rw [UInt32.toNat_toUInt8]
    exact Nat.mod_eq_of_lt (lt_of_le_of_lt hc (by decide))
  rw [octetsOf_cons, String.utf8EncodeChar_eq_singleton (utf8Size_of_ascii hc),
    List.map_singleton, hoctet, Char.ofNat_toNat, List.singleton_append]

/-- The first octet of any other character is beyond ASCII. -/
theorem exists_octetsOf_cons {c : Char} (hc : ¬ c.toNat ≤ 0x7F) (rest : List Char) :
    ∃ d more, octetsOf (c :: rest) = d :: more ∧ ¬ d.toNat ≤ 0x7F := by
  have hne : String.utf8EncodeChar c ≠ [] := by
    rw [ne_eq, ← List.length_eq_zero_iff, String.length_utf8EncodeChar]
    exact c.utf8Size_pos.ne'
  obtain ⟨octet, octets, hencode⟩ := List.exists_cons_of_ne_nil hne
  have hoctet : (Char.ofNat octet.toNat).toNat = octet.toNat := by
    have hvalid : octet.toNat.isValidChar := .inl (by have := octet.toNat_lt; omega)
    rw [Char.toNat_ofNat, if_pos hvalid]
  refine ⟨Char.ofNat octet.toNat, _, by rw [octetsOf_cons, hencode]; rfl, ?_⟩
  rw [hoctet]
  intro hascii
  have hsame := Utf8.toNat_of_mem_encodeChar (c := c) (by simp [hencode]) hascii
  exact hc (hsame.trans_le hascii)

theorem octetsOf_of_isAscii {text : List Char} (h : IsAscii text) : octetsOf text = text := by
  induction text with
  | nil => exact octetsOf_nil
  | cons c rest ih =>
    obtain ⟨hc, hrest⟩ := List.forall_mem_cons.1 h
    rw [octetsOf_cons_ascii hc, ih hrest]

/-- The octets of a text start with the same ASCII texts as its characters. -/
theorem prefix_octetsOf_iff {found : List Char} (h : IsAscii found) (text : List Char) :
    found <+: octetsOf text ↔ found <+: text := by
  induction text generalizing found with
  | nil => rw [octetsOf_nil]
  | cons c rest ih =>
    cases found with
    | nil => simp
    | cons a found =>
      obtain ⟨ha, hfound⟩ := List.forall_mem_cons.1 h
      by_cases hc : c.toNat ≤ 0x7F
      · rw [octetsOf_cons_ascii hc, List.cons_prefix_cons, List.cons_prefix_cons, ih hfound]
      · -- neither the octets nor the characters start with an ASCII character
        obtain ⟨d, more, hoctets, hd⟩ := exists_octetsOf_cons hc rest
        rw [hoctets, List.cons_prefix_cons, List.cons_prefix_cons]
        constructor
        · rintro ⟨rfl, -⟩
          exact absurd ha hd
        · rintro ⟨rfl, -⟩
          exact absurd ha hc

/-- A text may be cut behind as many octets as an ASCII prefix has characters. -/
theorem isValid_length {found text : List Char} (h : IsAscii found) (hstart : found <+: text) :
    (⟨found.length⟩ : String.Pos.Raw).IsValid (String.ofList text) := by
  have hsize : (String.ofList found).utf8ByteSize = found.length := by
    clear hstart
    rw [String.utf8ByteSize_ofList]
    induction found with
    | nil => rfl
    | cons c rest ih =>
      obtain ⟨hc, hrest⟩ := List.forall_mem_cons.1 h
      rw [String.utf8Len_cons, ih hrest, utf8Size_of_ascii hc, List.length_cons]
  obtain ⟨rest, rfl⟩ := hstart
  refine String.Pos.Raw.isValid_iff_exists_append.2 ⟨.ofList found, .ofList rest, ?_, ?_⟩
  · exact String.ofList_append
  · rw [String.rawEndPos, hsize]

end StatusDigest.Text
