import StatusDigest.Text.Utf8
import Mathlib

/-!
# Reading back encoded text

Repairing leaves well-formed octets alone:

* `repair_encodeChars`: the octets of characters read as those characters;
* `toNat_of_mem_encodeChar`: an ASCII octet stands for nothing but its own character, so that
  cutting octets at such an octet cuts the text at the character.
-/

namespace StatusDigest.Text.Utf8

/-! ## The octets of a text -/

theorem toList_loop (bytes : ByteArray) (i : Nat) (read : List UInt8) :
    ByteArray.toList.loop bytes i read = read.reverse ++ bytes.data.toList.drop i := by
  have hlength : bytes.data.toList.length = bytes.size := Array.length_toList
  induction hn : bytes.size - i generalizing i read with
  | zero =>
    have hend : bytes.data.toList.length ≤ i := by omega
    unfold ByteArray.toList.loop
    rw [if_neg (by omega), List.drop_eq_nil_of_le hend, List.append_nil]
  | succ n ih =>
    have hi : i < bytes.size := by omega
    have hdata : i < bytes.data.toList.length := by omega
    have hget : bytes.get! i = bytes.data.toList[i] := by
      change bytes.data[i]! = _
      rw [getElem!_pos bytes.data i hi, Array.getElem_toList]
    unfold ByteArray.toList.loop
    rw [if_pos hi, ih (i + 1) _ (by omega), hget, List.drop_eq_getElem_cons hdata]
    simp only [List.reverse_cons, List.append_assoc, List.cons_append, List.nil_append]

/-- The octets of a text are those of its characters, one after the other. -/
theorem encode_eq_flatMap (text : String) :
    encode text = text.toList.flatMap String.utf8EncodeChar := by
  have hbytes : text.toUTF8 = (text.toList.flatMap String.utf8EncodeChar).toByteArray := by
    rw [String.toUTF8_eq_toByteArray, ← String.utf8Encode_toList]
    rfl
  rw [encode, ByteArray.toList, toList_loop, hbytes, List.toList_data_toByteArray]
  rfl

/-! ## Reading one character -/

theorem start_ascii (octet : UInt8) (h : octet.toNat ≤ 0x7F) :
    start octet = ([some (Char.ofNat octet.toNat)], .nothing) := by
  have hle : octet ≤ 0x7F := UInt8.le_iff_toNat_le.2 h
  simp [start, hle]

/-- The first octet of two. -/
theorem start_two {octet : UInt8} (hlow : 0xC2 ≤ octet.toNat) (hhigh : octet.toNat ≤ 0xDF) :
    start octet = ([], .continuation 1 0x80 0xBF (octet.toNat - 0xC0)) := by
  have h1 : ¬ octet ≤ 0x7F := by rw [UInt8.le_iff_toNat_le]; simp; omega
  have h2 : ¬ octet < 0xC2 := by rw [UInt8.lt_iff_toNat_lt]; simp; omega
  have h3 : octet ≤ 0xDF := UInt8.le_iff_toNat_le.2 hhigh
  simp [start, h1, h2, h3]

/-- The first octet of three: it asks for two more, the first of them in a window that depends
on it. -/
theorem start_three {octet : UInt8} (hlow : 0xE0 ≤ octet.toNat) (hhigh : octet.toNat ≤ 0xEF) :
    start octet =
      ([], .continuation 2 (if octet.toNat = 0xE0 then 0xA0 else 0x80)
        (if octet.toNat = 0xED then 0x9F else 0xBF) (octet.toNat - 0xE0)) := by
  have h1 : ¬ octet ≤ 0x7F := by rw [UInt8.le_iff_toNat_le]; simp; omega
  have h2 : ¬ octet < 0xC2 := by rw [UInt8.lt_iff_toNat_lt]; simp; omega
  have h3 : ¬ octet ≤ 0xDF := by rw [UInt8.le_iff_toNat_le]; simp; omega
  have h4 : octet ≤ 0xEF := UInt8.le_iff_toNat_le.2 hhigh
  by_cases hE0 : octet = 0xE0
  · subst hE0
    rfl
  by_cases hED : octet = 0xED
  · subst hED
    rfl
  have hnE0 : octet.toNat ≠ 0xE0 := fun h => hE0 (UInt8.toNat_inj.1 h)
  have hnED : octet.toNat ≠ 0xED := fun h => hED (UInt8.toNat_inj.1 h)
  simp [start, h1, h2, h3, h4, hE0, hED, hnE0, hnED]

/-- The first octet of four. -/
theorem start_four {octet : UInt8} (hlow : 0xF0 ≤ octet.toNat) (hhigh : octet.toNat ≤ 0xF4) :
    start octet =
      ([], .continuation 3 (if octet.toNat = 0xF0 then 0x90 else 0x80)
        (if octet.toNat = 0xF4 then 0x8F else 0xBF) (octet.toNat - 0xF0)) := by
  have h1 : ¬ octet ≤ 0x7F := by rw [UInt8.le_iff_toNat_le]; simp; omega
  have h2 : ¬ octet < 0xC2 := by rw [UInt8.lt_iff_toNat_lt]; simp; omega
  have h3 : ¬ octet ≤ 0xDF := by rw [UInt8.le_iff_toNat_le]; simp; omega
  have h4 : ¬ octet ≤ 0xEF := by rw [UInt8.le_iff_toNat_le]; simp; omega
  have h5 : octet ≠ 0xE0 := by rintro rfl; simp at hlow
  have h6 : octet ≠ 0xED := by rintro rfl; simp at hlow
  by_cases hF0 : octet = 0xF0
  · subst hF0
    rfl
  by_cases hF4 : octet = 0xF4
  · subst hF4
    rfl
  have hnF0 : octet.toNat ≠ 0xF0 := fun h => hF0 (UInt8.toNat_inj.1 h)
  have hnF4 : octet.toNat ≠ 0xF4 := fun h => hF4 (UInt8.toNat_inj.1 h)
  have h7 : octet ≤ 0xF3 := by rw [UInt8.le_iff_toNat_le]; simp; omega
  simp [start, h1, h2, h3, h4, h5, h6, h7, hF0, hnF0, hnF4]

/-- A continuation octet within the window is taken up, and leaves one octet less to come. -/
theorem step_continuation (count value : Nat) {low high octet : UInt8}
    (hlow : low.toNat ≤ octet.toNat) (hhigh : octet.toNat ≤ high.toNat) :
    step (.continuation (count + 2) low high value) octet =
      ([], .continuation (count + 1) 0x80 0xBF (value * 64 + (octet.toNat - 0x80))) := by
  have hwindow : low ≤ octet ∧ octet ≤ high :=
    ⟨UInt8.le_iff_toNat_le.2 hlow, UInt8.le_iff_toNat_le.2 hhigh⟩
  simp [step, hwindow]

/-- The last continuation octet completes the character. -/
theorem step_last (value : Nat) {low high octet : UInt8}
    (hlow : low.toNat ≤ octet.toNat) (hhigh : octet.toNat ≤ high.toNat) :
    step (.continuation 1 low high value) octet =
      ([some (Char.ofNat (value * 64 + (octet.toNat - 0x80)))], .nothing) := by
  have hwindow : low ≤ octet ∧ octet ≤ high :=
    ⟨UInt8.le_iff_toNat_le.2 hlow, UInt8.le_iff_toNat_le.2 hhigh⟩
  simp [step, hwindow]

/-! ## Reading all octets of a character -/

theorem scanFrom_two {a b : UInt8} (ha : 0xC2 ≤ a.toNat ∧ a.toNat ≤ 0xDF)
    (hb : 0x80 ≤ b.toNat ∧ b.toNat ≤ 0xBF) (rest : List UInt8) :
    scanFrom .nothing (a :: b :: rest) =
      some (Char.ofNat ((a.toNat - 0xC0) * 64 + (b.toNat - 0x80))) :: scanFrom .nothing rest := by
  have h1 := start_two ha.1 ha.2
  have hlow : (0x80 : UInt8).toNat ≤ b.toNat := hb.1
  have hhigh : b.toNat ≤ (0xBF : UInt8).toNat := hb.2
  have h2 := step_last (a.toNat - 0xC0) hlow hhigh
  simp [scanFrom, step.eq_1, h1, h2]

theorem scanFrom_three {a b c : UInt8} (ha : 0xE0 ≤ a.toNat ∧ a.toNat ≤ 0xEF)
    (hb : 0x80 ≤ b.toNat ∧ b.toNat ≤ 0xBF) (hc : 0x80 ≤ c.toNat ∧ c.toNat ≤ 0xBF)
    (hlong : a.toNat = 0xE0 → 0xA0 ≤ b.toNat) (hsurrogate : a.toNat = 0xED → b.toNat ≤ 0x9F)
    (rest : List UInt8) :
    scanFrom .nothing (a :: b :: c :: rest) =
      some (Char.ofNat (((a.toNat - 0xE0) * 64 + (b.toNat - 0x80)) * 64 + (c.toNat - 0x80))) ::
        scanFrom .nothing rest := by
  have h1 := start_three ha.1 ha.2
  have hlow : (if a.toNat = 0xE0 then 0xA0 else 0x80 : UInt8).toNat ≤ b.toNat := by
    split
    · exact hlong ‹_›
    · exact hb.1
  have hhigh : b.toNat ≤ (if a.toNat = 0xED then 0x9F else 0xBF : UInt8).toNat := by
    split
    · exact hsurrogate ‹_›
    · exact hb.2
  have hlow' : (0x80 : UInt8).toNat ≤ c.toNat := hc.1
  have hhigh' : c.toNat ≤ (0xBF : UInt8).toNat := hc.2
  have h2 := step_continuation 0 (a.toNat - 0xE0) hlow hhigh
  have h3 := step_last ((a.toNat - 0xE0) * 64 + (b.toNat - 0x80)) hlow' hhigh'
  simp only [Nat.zero_add] at h2
  simp [scanFrom, step.eq_1, h1, h2, h3]

theorem scanFrom_four {a b c d : UInt8} (ha : 0xF0 ≤ a.toNat ∧ a.toNat ≤ 0xF4)
    (hb : 0x80 ≤ b.toNat ∧ b.toNat ≤ 0xBF) (hc : 0x80 ≤ c.toNat ∧ c.toNat ≤ 0xBF)
    (hd : 0x80 ≤ d.toNat ∧ d.toNat ≤ 0xBF) (hlong : a.toNat = 0xF0 → 0x90 ≤ b.toNat)
    (hlarge : a.toNat = 0xF4 → b.toNat ≤ 0x8F) (rest : List UInt8) :
    scanFrom .nothing (a :: b :: c :: d :: rest) =
      some (Char.ofNat ((((a.toNat - 0xF0) * 64 + (b.toNat - 0x80)) * 64 + (c.toNat - 0x80)) * 64 +
        (d.toNat - 0x80))) :: scanFrom .nothing rest := by
  have h1 := start_four ha.1 ha.2
  have hlow : (if a.toNat = 0xF0 then 0x90 else 0x80 : UInt8).toNat ≤ b.toNat := by
    split
    · exact hlong ‹_›
    · exact hb.1
  have hhigh : b.toNat ≤ (if a.toNat = 0xF4 then 0x8F else 0xBF : UInt8).toNat := by
    split
    · exact hlarge ‹_›
    · exact hb.2
  have hlow' : (0x80 : UInt8).toNat ≤ c.toNat := hc.1
  have hhigh' : c.toNat ≤ (0xBF : UInt8).toNat := hc.2
  have hlow'' : (0x80 : UInt8).toNat ≤ d.toNat := hd.1
  have hhigh'' : d.toNat ≤ (0xBF : UInt8).toNat := hd.2
  have h2 := step_continuation 1 (a.toNat - 0xF0) hlow hhigh
  have h3 := step_continuation 0 ((a.toNat - 0xF0) * 64 + (b.toNat - 0x80)) hlow' hhigh'
  have h4 := step_last (((a.toNat - 0xF0) * 64 + (b.toNat - 0x80)) * 64 + (c.toNat - 0x80))
    hlow'' hhigh''
  simp only [Nat.zero_add, Nat.reduceAdd] at h2 h3
  simp [scanFrom, step.eq_1, h1, h2, h3, h4]

/-- The octets of a character read as that character, whatever follows them. -/
theorem scanFrom_encodeChar (c : Char) (rest : List UInt8) :
    scanFrom .nothing (String.utf8EncodeChar c ++ rest) = some c :: scanFrom .nothing rest := by
  have hc : Char.ofNat c.val.toNat = c := Char.ofNat_toNat c
  have hvalid : c.val.toNat < 0xD800 ∨ 0xDFFF < c.val.toNat ∧ c.val.toNat < 0x110000 := c.valid
  have octet : ∀ {n}, n < 256 → (UInt8.ofNat n).toNat = n := UInt8.toNat_ofNat_of_lt
  unfold String.utf8EncodeChar
  generalize c.val.toNat = v at hc hvalid
  dsimp only
  split
  · -- one octet
    have h1 : (UInt8.ofNat v).toNat = v := octet (by omega)
    have hstart := start_ascii (UInt8.ofNat v) (by omega)
    simp [scanFrom, step.eq_1, hstart, h1, hc]
  split
  · -- two octets
    have h1 : (UInt8.ofNat (v / 64 % 0x20 + 0xC0)).toNat = v / 64 + 0xC0 := by
      rw [octet (by omega)]; omega
    have h2 : (UInt8.ofNat (v % 0x40 + 0x80)).toNat = v % 64 + 0x80 := octet (by omega)
    have hv : (v / 64 + 0xC0 - 0xC0) * 64 + (v % 64 + 0x80 - 0x80) = v := by omega
    rw [List.cons_append, List.cons_append, List.nil_append,
      scanFrom_two ⟨by omega, by omega⟩ ⟨by omega, by omega⟩, h1, h2, hv, hc]
  split
  · -- three octets
    have h1 : (UInt8.ofNat (v / 4096 % 0x10 + 0xE0)).toNat = v / 4096 + 0xE0 := by
      rw [octet (by omega)]; omega
    have h2 : (UInt8.ofNat (v / 64 % 0x40 + 0x80)).toNat = v / 64 % 64 + 0x80 := octet (by omega)
    have h3 : (UInt8.ofNat (v % 0x40 + 0x80)).toNat = v % 64 + 0x80 := octet (by omega)
    have hv : ((v / 4096 + 0xE0 - 0xE0) * 64 + (v / 64 % 64 + 0x80 - 0x80)) * 64 +
        (v % 64 + 0x80 - 0x80) = v := by omega
    rw [List.cons_append, List.cons_append, List.cons_append, List.nil_append,
      scanFrom_three ⟨by omega, by omega⟩ ⟨by omega, by omega⟩ ⟨by omega, by omega⟩ (by omega)
        (by omega), h1, h2, h3, hv, hc]
  · -- four octets
    have h1 : (UInt8.ofNat (v / 262144 % 0x08 + 0xF0)).toNat = v / 262144 + 0xF0 := by
      rw [octet (by omega)]; omega
    have h2 : (UInt8.ofNat (v / 4096 % 0x40 + 0x80)).toNat = v / 4096 % 64 + 0x80 :=
      octet (by omega)
    have h3 : (UInt8.ofNat (v / 64 % 0x40 + 0x80)).toNat = v / 64 % 64 + 0x80 := octet (by omega)
    have h4 : (UInt8.ofNat (v % 0x40 + 0x80)).toNat = v % 64 + 0x80 := octet (by omega)
    have hv : (((v / 262144 + 0xF0 - 0xF0) * 64 + (v / 4096 % 64 + 0x80 - 0x80)) * 64 +
        (v / 64 % 64 + 0x80 - 0x80)) * 64 + (v % 64 + 0x80 - 0x80) = v := by omega
    rw [List.cons_append, List.cons_append, List.cons_append, List.cons_append, List.nil_append,
      scanFrom_four ⟨by omega, by omega⟩ ⟨by omega, by omega⟩ ⟨by omega, by omega⟩
        ⟨by omega, by omega⟩ (by omega) (by omega), h1, h2, h3, h4, hv, hc]

theorem scan_encodeChars (chars : List Char) :
    scan (chars.flatMap String.utf8EncodeChar) = chars.map some := by
  unfold scan
  induction chars with
  | nil => rfl
  | cons c chars ih => rw [List.flatMap_cons, scanFrom_encodeChar, ih, List.map_cons]

/-- Octets that are well-formed are read as the text that they encode. -/
theorem repair_encodeChars (chars : List Char) :
    repair (chars.flatMap String.utf8EncodeChar) = chars := by
  rw [repair, scan_encodeChars, List.map_map]
  simp

/-! ## ASCII octets -/

/-- An ASCII octet is never part of a longer character. -/
theorem toNat_of_mem_encodeChar {c : Char} {octet : UInt8} (hmem : octet ∈ String.utf8EncodeChar c)
    (hascii : octet.toNat ≤ 0x7F) : c.val.toNat = octet.toNat := by
  have htoNat : ∀ n, (UInt8.ofNat n).toNat = n % 256 := fun n => UInt8.toNat_ofNat'
  have hvalid : c.val.toNat < 0xD800 ∨ 0xDFFF < c.val.toNat ∧ c.val.toNat < 0x110000 := c.valid
  unfold String.utf8EncodeChar at hmem
  generalize c.val.toNat = v at hmem hvalid
  dsimp only at hmem
  split at hmem
  · obtain rfl : octet = UInt8.ofNat v := by simpa using hmem
    rw [htoNat]
    omega
  · -- every octet of a longer character is above the ASCII range
    have hlarge : 0x80 ≤ octet.toNat := by
      split at hmem
      · simp only [List.mem_cons, List.not_mem_nil, or_false] at hmem
        rcases hmem with rfl | rfl <;> rw [htoNat] <;> omega
      split at hmem
      · simp only [List.mem_cons, List.not_mem_nil, or_false] at hmem
        rcases hmem with rfl | rfl | rfl <;> rw [htoNat] <;> omega
      · simp only [List.mem_cons, List.not_mem_nil, or_false] at hmem
        rcases hmem with rfl | rfl | rfl | rfl <;> rw [htoNat] <;> omega
    omega

end StatusDigest.Text.Utf8
