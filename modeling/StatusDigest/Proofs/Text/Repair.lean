import StatusDigest.Proofs.Text.Utf8
import Mathlib

/-!
# Repairing a text in pieces

An ASCII octet stands for itself wherever it occurs: it ends a character that is unfinished before
it, and the next character starts behind it. Repairing therefore commutes with cutting:

* `Pending.Sound` says what an unfinished character waits for: octets above the ASCII range, and
  bits enough for a character above it;
* `scanFrom_append_ascii` cuts a scan at an ASCII octet, whatever the octets around it are;
* `repair_intercalate`: the repaired pieces, put together, are the repaired whole;
* `exists_octet_of_mem_repair`: repairing makes no ASCII character that was not there as an octet.
-/

namespace StatusDigest.Text.Utf8

/-! ## What an unfinished character waits for -/

/-- An unfinished character waits for octets above the ASCII range, and is going to be above the
ASCII range itself: its bits are enough already, or the next octet brings enough of them. -/
def Pending.Sound : Pending → Prop
  | .nothing => True
  | .continuation count low _ value =>
    1 ≤ count ∧ 0x80 ≤ low.toNat ∧
      if count = 1 then 2 ≤ value else 2 ≤ value * 64 + (low.toNat - 0x80)

/-- An octet that starts no character. -/
theorem start_other {octet : UInt8} (hascii : 0x80 ≤ octet.toNat)
    (hother : octet.toNat < 0xC2 ∨ 0xF4 < octet.toNat) : start octet = ([none], .nothing) := by
  have h1 : ¬ octet ≤ 0x7F := by rw [UInt8.le_iff_toNat_le]; simp; omega
  rcases hother with hlow | hhigh
  · have h2 : octet < 0xC2 := UInt8.lt_iff_toNat_lt.2 hlow
    simp [start, h1, h2]
  · have h2 : ¬ octet < 0xC2 := by rw [UInt8.lt_iff_toNat_lt]; simp; omega
    have h3 : ¬ octet ≤ 0xDF := by rw [UInt8.le_iff_toNat_le]; simp; omega
    have h4 : ¬ octet ≤ 0xEF := by rw [UInt8.le_iff_toNat_le]; simp; omega
    have h5 : ¬ octet ≤ 0xF3 := by rw [UInt8.le_iff_toNat_le]; simp; omega
    have hE0 : octet ≠ 0xE0 := by rintro rfl; simp at hhigh
    have hED : octet ≠ 0xED := by rintro rfl; simp at hhigh
    have hF0 : octet ≠ 0xF0 := by rintro rfl; simp at hhigh
    have hF4 : octet ≠ 0xF4 := by rintro rfl; simp at hhigh
    simp [start, h1, h2, h3, h4, h5, hE0, hED, hF0, hF4]

/-- An octet above the ASCII range gives no character yet, and leaves something sound behind. -/
theorem start_beyond_ascii {octet : UInt8} (hascii : 0x80 ≤ octet.toNat) :
    (∀ c, some c ∉ (start octet).1) ∧ (start octet).2.Sound := by
  by_cases htwo : 0xC2 ≤ octet.toNat ∧ octet.toNat ≤ 0xDF
  · rw [start_two htwo.1 htwo.2]
    simp [Pending.Sound]
    omega
  by_cases hthree : 0xE0 ≤ octet.toNat ∧ octet.toNat ≤ 0xEF
  · rw [start_three hthree.1 hthree.2]
    by_cases hE0 : octet.toNat = 0xE0
    · simp [Pending.Sound, hE0]
    · simp [Pending.Sound, hE0]
      omega
  by_cases hfour : 0xF0 ≤ octet.toNat ∧ octet.toNat ≤ 0xF4
  · rw [start_four hfour.1 hfour.2]
    by_cases hF0 : octet.toNat = 0xF0
    · simp [Pending.Sound, hF0]
    · simp [Pending.Sound, hF0]
      omega
  · rw [start_other hascii (by omega)]
    simp [Pending.Sound]

/-- Every octet leaves something sound behind. -/
theorem sound_start (octet : UInt8) : (start octet).2.Sound := by
  by_cases hascii : octet.toNat ≤ 0x7F
  · rw [start_ascii octet hascii]
    trivial
  · exact (start_beyond_ascii (by omega)).2

/-- An octet that does not fit makes an ill-formed part of what was pending, and starts anew. -/
theorem step_misfit (count value : ℕ) {low high octet : UInt8}
    (hmisfit : ¬ (low.toNat ≤ octet.toNat ∧ octet.toNat ≤ high.toNat)) :
    step (.continuation count low high value) octet =
      (none :: (start octet).1, (start octet).2) := by
  have hwindow : ¬ (low ≤ octet ∧ octet ≤ high) := by
    rw [UInt8.le_iff_toNat_le, UInt8.le_iff_toNat_le]
    exact hmisfit
  simp only [step, hwindow, if_false]

/-- Reading an octet keeps what is pending sound. -/
theorem Pending.Sound.step {pending : Pending} (h : pending.Sound) (octet : UInt8) :
    (Utf8.step pending octet).2.Sound := by
  cases pending with
  | nothing => exact sound_start octet
  | continuation count low high value =>
    obtain ⟨hcount, hlow, hbits⟩ := h
    by_cases hfits : low.toNat ≤ octet.toNat ∧ octet.toNat ≤ high.toNat
    · rcases count with _ | _ | more
      · omega
      · rw [step_last value hfits.1 hfits.2]
        trivial
      · -- the bits that the octet brings are those of the window at least
        rw [step_continuation more value hfits.1 hfits.2]
        rw [if_neg (by omega)] at hbits
        refine ⟨by omega, by decide, ?_⟩
        split <;> omega
    · rw [step_misfit count value hfits]
      exact sound_start octet

/-! ## Cutting a scan at an ASCII octet -/

/-- An ASCII octet ends what is pending, and is a character of its own. -/
theorem Pending.Sound.scanFrom_ascii {pending : Pending} (h : pending.Sound) {octet : UInt8}
    (hascii : octet.toNat ≤ 0x7F) (rest : List UInt8) :
    scanFrom pending (octet :: rest) =
      scanFrom pending [] ++ some (Char.ofNat octet.toNat) :: scanFrom .nothing rest := by
  have hstart := start_ascii octet hascii
  cases pending with
  | nothing => simp [scanFrom, Utf8.step, hstart]
  | continuation count low high value =>
    have hmisfit : ¬ (low.toNat ≤ octet.toNat ∧ octet.toNat ≤ high.toNat) := by
      have hlow := h.2.1
      omega
    simp [scanFrom, step_misfit count value hmisfit, hstart]

/-- A scan is cut by an ASCII octet: nothing that stands before it has an effect behind it. -/
theorem Pending.Sound.scanFrom_append_ascii {pending : Pending} (h : pending.Sound)
    {octet : UInt8} (hascii : octet.toNat ≤ 0x7F) (before after : List UInt8) :
    scanFrom pending (before ++ octet :: after) =
      scanFrom pending before ++ some (Char.ofNat octet.toNat) :: scanFrom .nothing after := by
  induction before generalizing pending with
  | nil => exact h.scanFrom_ascii hascii after
  | cons first before ih =>
    have hrest := ih (h.step first)
    rw [List.cons_append]
    cases pending <;> simp only [scanFrom, hrest, List.append_assoc]

/-- Repairing is cut by an ASCII octet. -/
theorem repair_append_ascii {octet : UInt8} (hascii : octet.toNat ≤ 0x7F)
    (before after : List UInt8) :
    repair (before ++ octet :: after) =
      repair before ++ Char.ofNat octet.toNat :: repair after := by
  have hsound : Pending.Sound .nothing := trivial
  simp [repair, scan, hsound.scanFrom_append_ascii hascii]

/-- ASCII octets at the start are characters of their own. -/
theorem repair_append_left {run : List UInt8} (hascii : ∀ octet ∈ run, octet.toNat ≤ 0x7F)
    (rest : List UInt8) :
    repair (run ++ rest) =
      run.map (fun octet => Char.ofNat octet.toNat) ++ repair rest := by
  induction run with
  | nil => rfl
  | cons octet run ih =>
    have hfirst := repair_append_ascii (hascii octet List.mem_cons_self) [] (run ++ rest)
    rw [List.nil_append] at hfirst
    have hrest := ih fun other hother => hascii other (List.mem_cons_of_mem _ hother)
    rw [List.cons_append, hfirst, hrest]
    rfl

/-- ASCII octets at the end are characters of their own, even behind a character that is cut
off. -/
theorem repair_append_right {run : List UInt8} (hascii : ∀ octet ∈ run, octet.toNat ≤ 0x7F)
    (octets : List UInt8) :
    repair (octets ++ run) =
      repair octets ++ run.map (fun octet => Char.ofNat octet.toNat) := by
  cases run with
  | nil => simp
  | cons octet run =>
    have hrest : repair run = run.map (fun octet => Char.ofNat octet.toNat) := by
      have hleft := repair_append_left
        (fun other hother => hascii other (List.mem_cons_of_mem _ hother)) []
      rw [List.append_nil] at hleft
      rw [hleft]
      exact List.append_nil _
    rw [repair_append_ascii (hascii octet List.mem_cons_self), hrest, List.map_cons]

/-- The repaired pieces, put together, are the repaired whole. -/
theorem repair_intercalate {octet : UInt8} (hascii : octet.toNat ≤ 0x7F)
    (pieces : List (List UInt8)) :
    repair ([octet].intercalate pieces) =
      [Char.ofNat octet.toNat].intercalate (pieces.map repair) := by
  induction pieces with
  | nil => rfl
  | cons piece rest ih =>
    cases rest with
    | nil => simp
    | cons next rest =>
      rw [List.map_cons, List.map_cons, List.intercalate_cons_cons, List.intercalate_cons_cons,
        List.append_assoc, List.singleton_append, repair_append_ascii hascii, ih]
      simp

/-! ## What repairing can make -/

/-- An ASCII character comes from an octet of its own. -/
theorem Pending.Sound.exists_octet {pending : Pending} (h : pending.Sound) {octets : List UInt8}
    {c : Char} (hc : 0 < c.toNat ∧ c.toNat ≤ 0x7F) (hmem : some c ∈ scanFrom pending octets) :
    ∃ octet ∈ octets, octet.toNat = c.toNat := by
  induction octets generalizing pending with
  | nil => cases pending <;> simp [scanFrom] at hmem
  | cons octet rest ih =>
    have hsplit : some c ∈ (Utf8.step pending octet).1 ∨
        some c ∈ scanFrom (Utf8.step pending octet).2 rest := by
      cases pending <;> simpa [scanFrom] using hmem
    rcases hsplit with hread | hrest
    · -- the character is read at this octet: then it is this octet, or too large for ASCII
      have hstart : some c ∈ (start octet).1 → octet.toNat = c.toNat := by
        intro hread
        by_cases hascii : octet.toNat ≤ 0x7F
        · rw [start_ascii octet hascii] at hread
          have hchar : c = Char.ofNat octet.toNat := by simpa using hread
          rw [hchar, Char.toNat_ofNat, if_pos (by left; omega)]
        · exact absurd hread ((start_beyond_ascii (by omega)).1 c)
      refine ⟨octet, List.mem_cons_self, ?_⟩
      cases pending with
      | nothing => exact hstart hread
      | continuation count low high value =>
        obtain ⟨hcount, hlow, hbits⟩ := h
        by_cases hfits : low.toNat ≤ octet.toNat ∧ octet.toNat ≤ high.toNat
        · rcases count with _ | _ | more
          · omega
          · rw [step_last value hfits.1 hfits.2] at hread
            have hchar : c = Char.ofNat (value * 64 + (octet.toNat - 0x80)) := by
              simpa using hread
            rw [if_pos rfl] at hbits
            rw [hchar, Char.toNat_ofNat] at hc
            split at hc <;> omega
          · rw [step_continuation more value hfits.1 hfits.2] at hread
            simp at hread
        · rw [step_misfit count value hfits] at hread
          exact hstart (by simpa using hread)
    · obtain ⟨found, hfound, heq⟩ := ih (h.step octet) hrest
      exact ⟨found, List.mem_cons_of_mem _ hfound, heq⟩

/-- Repairing makes no ASCII character that was not there as an octet. -/
theorem exists_octet_of_mem_repair {octets : List UInt8} {c : Char}
    (hc : 0 < c.toNat ∧ c.toNat ≤ 0x7F) (hmem : c ∈ repair octets) :
    ∃ octet ∈ octets, octet.toNat = c.toNat := by
  have hsound : Pending.Sound .nothing := trivial
  obtain ⟨read, hread, heq⟩ := List.mem_map.1 hmem
  cases read with
  | none =>
    -- the character that stands for ill-formed parts is no ASCII character
    obtain rfl : replacement = c := heq
    exact absurd hc.2 (by decide)
  | some other =>
    obtain rfl : other = c := heq
    exact hsound.exists_octet hc hread

/-- Whatever is pending or follows gives at least one character. -/
theorem scanFrom_ne_nil {pending : Pending} {octets : List UInt8}
    (h : pending ≠ .nothing ∨ octets ≠ []) : scanFrom pending octets ≠ [] := by
  induction octets generalizing pending with
  | nil => cases pending <;> simp_all [scanFrom]
  | cons octet rest ih =>
    -- an octet is read as something, or it leaves something pending
    have hstep : (step pending octet).1 ≠ [] ∨ (step pending octet).2 ≠ .nothing := by
      have hstart : (start octet).1 ≠ [] ∨ (start octet).2 ≠ .nothing := by
        unfold start
        split_ifs <;> simp
      cases pending with
      | nothing => exact hstart
      | continuation count low high value =>
        unfold step
        dsimp only
        split_ifs <;> simp
    have hcut : scanFrom pending (octet :: rest) =
        (step pending octet).1 ++ scanFrom (step pending octet).2 rest := by
      cases pending <;> simp [scanFrom]
    rw [hcut]
    rcases hstep with hread | hpending
    · exact fun hnil => hread (List.append_eq_nil_iff.1 hnil).1
    · exact fun hnil => ih (.inl hpending) (List.append_eq_nil_iff.1 hnil).2

theorem repair_eq_nil_iff {octets : List UInt8} : repair octets = [] ↔ octets = [] := by
  constructor
  · intro hnil
    by_contra hne
    have hscan : scanFrom .nothing octets ≠ [] := scanFrom_ne_nil (.inr hne)
    exact hscan (List.map_eq_nil_iff.1 hnil)
  · rintro rfl
    rfl

end StatusDigest.Text.Utf8
