import StatusDigest.Locate
import StatusDigest.Proofs.Dump.Writing
import StatusDigest.Proofs.Text.Repair
import Mathlib

/-!
# Dumps that are repaired beforehand

Octets that are no text are repaired line by line, as they are read. It makes no difference to
repair the whole of them first and to read the octets of the repaired text: a character that is cut
off by a line feed is ill-formed in either case, and never takes the line feed with it.

* `Source.Repairs` says that one source delivers the repaired octets of another;
* `textsOf_repaired`: once they are read as texts, both have the same lines;
* `Source.Repairs.indistinguishable`: a reader, a digest and the search for the status file get the
  same from both.
-/

namespace StatusDigest.Dump

/-- The octets of the text that some octets are repaired to, all at once. -/
def repaired (octets : List UInt8) : List UInt8 :=
  Text.Utf8.encode (String.ofList (Text.Utf8.repair octets))

/-- A source delivers the repaired octets of another one, and both end well. In which chunks either
of them arrives is left open. -/
structure Source.Repairs (source original : Source) : Prop where
  bytes : source.bytes = repaired original.bytes
  ends : source.failure = none
  original_ends : original.failure = none

/-! ## Pieces between line feeds -/

/-- The pieces that cutting at a separator leaves do not hold it. -/
theorem not_mem_of_mem_splitOn {α : Type} [DecidableEq α] {separator : α} {xs piece : List α}
    (hpiece : piece ∈ xs.splitOn separator) : separator ∉ piece := by
  induction xs generalizing piece with
  | nil =>
    obtain rfl : piece = [] := by simpa using hpiece
    exact List.not_mem_nil
  | cons x rest ih =>
    rw [List.splitOn_cons_eq_if_modifyHead] at hpiece
    split at hpiece
    · rcases List.mem_cons.1 hpiece with rfl | hmem
      · exact List.not_mem_nil
      · exact ih hmem
    · -- an element goes in front of the first piece, and is no separator
      rename_i hx
      have hne : x ≠ separator := fun h => hx (beq_iff_eq.2 h)
      cases hcut : rest.splitOn separator with
      | nil => exact absurd hcut (List.splitOn_ne_nil _ _)
      | cons first more =>
        rw [hcut] at hpiece ih
        rcases List.mem_cons.1 hpiece with rfl | hmem
        · have hfirst : separator ∉ first := ih List.mem_cons_self
          simp [hne.symm, hfirst]
        · exact ih (List.mem_cons_of_mem _ hmem)

theorem repaired_eq_flatMap (octets : List UInt8) :
    repaired octets = (Text.Utf8.repair octets).flatMap String.utf8EncodeChar := by
  rw [repaired, Text.Utf8.encode_eq_flatMap, String.toList_ofList]

/-- What has been repaired needs no repair. -/
theorem repair_repaired (octets : List UInt8) :
    Text.Utf8.repair (repaired octets) = Text.Utf8.repair octets := by
  rw [repaired_eq_flatMap, Text.Utf8.repair_encodeChars]

theorem repaired_eq_nil_iff {octets : List UInt8} : repaired octets = [] ↔ octets = [] := by
  rw [← Text.Utf8.repair_eq_nil_iff, repair_repaired, Text.Utf8.repair_eq_nil_iff]

/-- Repairing makes no line feed. -/
theorem lineFeed_not_mem_repaired {octets : List UInt8} (h : lineFeed ∉ octets) :
    lineFeed ∉ repaired octets := by
  rw [repaired_eq_flatMap]
  apply lineFeed_not_mem_encode
  intro hmem
  obtain ⟨octet, hoctet, hfeed⟩ := Text.Utf8.exists_octet_of_mem_repair (by decide) hmem
  obtain rfl : octet = lineFeed := UInt8.toNat_inj.1 hfeed
  exact h hoctet

/-- The pieces between line feeds are repaired one by one. -/
theorem splitOn_repaired (octets : List UInt8) :
    (repaired octets).splitOn lineFeed = (octets.splitOn lineFeed).map repaired := by
  have hwhole : repaired octets =
      [lineFeed].intercalate ((octets.splitOn lineFeed).map repaired) := by
    have hascii : lineFeed.toNat ≤ 0x7F := by decide
    have hfeed : Char.ofNat lineFeed.toNat = '\n' := rfl
    have hpieces : (octets.splitOn lineFeed).map repaired =
        ((octets.splitOn lineFeed).map Text.Utf8.repair).map
          (·.flatMap String.utf8EncodeChar) := by
      rw [List.map_map]
      exact List.map_congr_left fun piece _ => repaired_eq_flatMap piece
    rw [hpieces, ← flatMap_intercalate, ← hfeed, ← Text.Utf8.repair_intercalate hascii,
      List.intercalate_splitOn, repaired_eq_flatMap]
  rw [hwhole]
  apply List.splitOn_intercalate
  · intro piece hpiece
    obtain ⟨original, horiginal, rfl⟩ := List.mem_map.1 hpiece
    exact lineFeed_not_mem_repaired (not_mem_of_mem_splitOn horiginal)
  · simp [List.splitOn_ne_nil]

/-! ## Lines -/

/-- The lines are repaired one by one as well: a piece behind the last line feed is empty after the
repair only if it was empty before. -/
theorem linesOf_repaired (octets : List UInt8) :
    linesOf (repaired octets) = (linesOf octets).map repaired := by
  have hlast : ((octets.splitOn lineFeed).map repaired).getLast? = some [] ↔
      (octets.splitOn lineFeed).getLast? = some [] := by
    rw [List.getLast?_map, Option.map_eq_some_iff]
    constructor
    · rintro ⟨piece, hpiece, hnil⟩
      rw [hpiece, repaired_eq_nil_iff.1 hnil]
    · intro hnil
      exact ⟨[], hnil, repaired_eq_nil_iff.2 rfl⟩
  simp only [linesOf, splitOn_repaired, hlast]
  split
  · exact (List.map_dropLast ..).symm
  · rfl

/-- Once they are read as texts, the lines are the same. -/
theorem textsOf_repaired (octets : List UInt8) : textsOf (repaired octets) = textsOf octets := by
  rw [textsOf, textsOf, linesOf_repaired, List.map_map]
  apply List.map_congr_left
  intro line _
  show lineText (repaired line) = lineText line
  rw [lineText, lineText, repair_repaired]

/-! ## Everything that is read from a source -/

/-- The texts of the lines that a source delivers. -/
theorem Source.map_lineText_lines {source : Source} (hends : source.failure = none) :
    source.lines.map lineText = textsOf source.bytes := by
  rw [Source.lines_eq_linesOf hends, textsOf]

variable {source original : Source}

/-- A reader of the one starts like a reader of the other. -/
theorem Source.Repairs.ofSource (h : source.Repairs original) :
    Reader.ofSource source = Reader.ofSource original := by
  have hlines : ∀ {s : Source}, s.lines.map Line.ofOctets = (s.lines.map lineText).map .ofText := by
    intro s
    rw [List.map_map]
    rfl
  rw [Reader.ofSource, Reader.ofSource, hlines, hlines, Source.map_lineText_lines h.ends,
    Source.map_lineText_lines h.original_ends, h.bytes, textsOf_repaired, h.ends, h.original_ends]

/-- It makes no difference to repair a dump or a configuration beforehand: every pull from a reader
gives the same, the digest is the same at every time, and the same status file is found. -/
theorem Source.Repairs.indistinguishable (h : source.Repairs original) :
    (∀ n, (Reader.ofSource source).pulled n = (Reader.ofSource original).pulled n) ∧
      (∀ now, Snapshot.ofSource source now = Snapshot.ofSource original now) ∧
      scanConfig source = scanConfig original := by
  refine ⟨?_, ?_, ?_⟩
  · intro n
    rw [h.ofSource]
  · intro now
    rw [Snapshot.ofSource, Snapshot.ofSource, h.ofSource]
  · rw [scanConfig, scanConfig, h.ends, h.original_ends, Source.map_lineText_lines h.ends,
      Source.map_lineText_lines h.original_ends, h.bytes, textsOf_repaired]

/-- A dump with a character cut off by a line feed, one cut off by a brace, an over-long form of the
line feed, a surrogate, and a character cut off by the end. -/
def damagedDump : Source where
  chunks :=
    [Text.Utf8.encode "host \x7b\ncheck_command=", [0xE2, 0x82], [0x0A],
      Text.Utf8.encode "\x7d\n", [0xF0, 0x9F, 0x98, 0x7D, 0x0A, 0xC0, 0x8A],
      Text.Utf8.encode "status_file=", [0xED, 0xA0, 0x80, 0xF4]]

theorem Source.Repairs.indistinguishable_damaged :
    (Source.ofBytes (repaired damagedDump.bytes)).Repairs damagedDump ∧
      (∀ n, (Reader.ofSource (.ofBytes (repaired damagedDump.bytes))).pulled n =
        (Reader.ofSource damagedDump).pulled n) ∧
      (∀ now, Snapshot.ofSource (.ofBytes (repaired damagedDump.bytes)) now =
        Snapshot.ofSource damagedDump now) ∧
      scanConfig (.ofBytes (repaired damagedDump.bytes)) = scanConfig damagedDump := by
  have hrepairs : (Source.ofBytes (repaired damagedDump.bytes)).Repairs damagedDump :=
    ⟨by simp [Source.ofBytes, Source.bytes], rfl, rfl⟩
  exact ⟨hrepairs, hrepairs.indistinguishable⟩

end StatusDigest.Dump
