import StatusDigest.Proofs.Dump.Reading
import StatusDigest.Proofs.Text.Utf8
import Mathlib

/-!
# Writing dumps

A written dump shows its blocks one after the other: a marker, a line for each field, a brace.
The writer is free to choose between the spellings of a marker, to put the fields in any order, to
pad every line, and to leave out the line feed at the very end.

* `WritesBlock` and `Writes` say which lines write which blocks, and `EndsLines` which text the
  lines make;
* `Writable` is what a field must be like so that it fits in a line and keeps its ends;
* `Reader.pulled_of_writes`: what is written is read back, block after block, and nothing else.
-/

namespace StatusDigest.Dump

/-! ## What writes what -/

/-- Characters that may be put around the text of a line. -/
def IsGap (run : List Char) : Prop :=
  ∀ c ∈ run, c = ' ' ∨ c = '\t' ∨ c = '\r'

/-- The line shows the text, with gaps around it. -/
def Shows (line text : List Char) : Prop :=
  ∃ left right, IsGap left ∧ IsGap right ∧ line = left ++ text ++ right

/-- The text of a field. -/
def fieldText (field : String × String) : List Char :=
  field.1.toList ++ '=' :: field.2.toList

/-- The texts of a block: its marker, its fields and a brace. -/
def blockTexts (marker : String) (fields : List (String × String)) : List (List Char) :=
  marker.toList :: fields.map fieldText ++ [['\x7d']]

/-- The lines write the block: a marker of its kind, its fields in some order, and a brace. -/
def WritesBlock (lines : List (List Char)) (block : Block) : Prop :=
  ∃ (marker : String) (fields : List (String × String)),
    marker ∈ block.kind.markers ∧ fields.Perm block.fields.toList ∧
      List.Forall₂ Shows lines (blockTexts marker fields)

/-- The lines write the blocks, one after the other. -/
inductive Writes : List (List Char) → List Block → Prop
  | nil : Writes [] []
  | cons {part lines : List (List Char)} {block : Block} {blocks : List Block}
      (first : WritesBlock part block) (rest : Writes lines blocks) :
      Writes (part ++ lines) (block :: blocks)

/-- The text consists of the lines, each ended by a line feed, but for the last line perhaps. -/
def EndsLines (text : List Char) (lines : List (List Char)) : Prop :=
  text = lines.flatMap (· ++ ['\n']) ∨ text = ['\n'].intercalate lines

/-- A field that can be written in a line: the key does not go on past its end, its start does
not make the line a comment and is not stripped, and neither is the end of the value. -/
structure Writable (key value : String) : Prop where
  key_line : '\n' ∉ key.toList
  value_line : '\n' ∉ value.toList
  key_ends : '=' ∉ key.toList
  key_starts : ∀ c, key.toList.head? = some c → c ≠ '#' ∧ c ≠ ' ' ∧ c ≠ '\t' ∧ c ≠ '\r'
  filled : value ≠ ""
  value_ends : ∀ c, value.toList.getLast? = some c → c ≠ ' ' ∧ c ≠ '\t' ∧ c ≠ '\r'

instance (key value : String) : Decidable (Writable key value) :=
  decidable_of_iff
    ('\n' ∉ key.toList ∧ '\n' ∉ value.toList ∧ '=' ∉ key.toList ∧
      (key.toList.head?.all fun c => c ≠ '#' ∧ c ≠ ' ' ∧ c ≠ '\t' ∧ c ≠ '\r') ∧ value ≠ "" ∧
      value.toList.getLast?.all fun c => c ≠ ' ' ∧ c ≠ '\t' ∧ c ≠ '\r') <| by
    simp only [Option.all_eq_true, decide_eq_true_eq]
    constructor
    · rintro ⟨h1, h2, h3, h4, h5, h6⟩
      exact ⟨h1, h2, h3, h4, h5, h6⟩
    · rintro ⟨h1, h2, h3, h4, h5, h6⟩
      exact ⟨h1, h2, h3, h4, h5, h6⟩

/-- The events of a block that is opened and closed. -/
def Block.events (block : Block) : List Event :=
  (if block.kind.isEntry then [.opened block.kind] else []) ++ [.closed block]

/-! ## Cutting a written text into its lines -/

/-- A character other than the line feed has no octet of a line feed. -/
theorem lineFeed_not_mem_encode {line : List Char} (h : '\n' ∉ line) :
    lineFeed ∉ line.flatMap String.utf8EncodeChar := by
  intro hmem
  obtain ⟨c, hc, hoctet⟩ := List.mem_flatMap.1 hmem
  have hcode : c.val.toNat = lineFeed.toNat :=
    Text.Utf8.toNat_of_mem_encodeChar hoctet (by decide)
  have hfeed : c = '\n' := Char.ext (UInt32.toNat_inj.1 hcode)
  exact h (hfeed ▸ hc)

theorem flatMap_intercalate (lines : List (List Char)) :
    (['\n'].intercalate lines).flatMap String.utf8EncodeChar =
      [lineFeed].intercalate (lines.map (·.flatMap String.utf8EncodeChar)) := by
  induction lines with
  | nil => rfl
  | cons line rest ih =>
    cases rest with
    | nil => simp
    | cons next rest =>
      rw [List.map_cons, List.map_cons, List.intercalate_cons_cons, List.intercalate_cons_cons,
        List.flatMap_append, List.flatMap_append, ih]
      rfl

/-- The lines of a written text are the lines that were written, with or without a line feed
behind the last, as long as the last is not empty. -/
theorem linesOf_encode {text : String} {lines : List (List Char)}
    (hlines : ∀ line ∈ lines, '\n' ∉ line) (hlast : lines.getLast? ≠ some [])
    (htext : EndsLines text.toList lines) :
    linesOf (Text.Utf8.encode text) = lines.map (·.flatMap String.utf8EncodeChar) := by
  have hfeeds : ∀ octets ∈ lines.map (·.flatMap String.utf8EncodeChar), lineFeed ∉ octets := by
    intro octets hoctets
    obtain ⟨line, hline, rfl⟩ := List.mem_map.1 hoctets
    exact lineFeed_not_mem_encode (hlines line hline)
  rw [Text.Utf8.encode_eq_flatMap, linesOf]
  rcases htext with h | h
  · -- the last line feed is followed by an empty piece, which is no line
    rw [h, Text.flatMap_ended, flatMap_intercalate, List.map_append]
    rw [List.splitOn_intercalate]
    · simp
    · intro octets hoctets
      rcases List.mem_append.1 hoctets with hmem | hmem
      · exact hfeeds octets hmem
      · obtain rfl : octets = [] := by simpa using hmem
        simp
    · simp
  · by_cases hempty : lines = []
    · subst hempty
      simp [h]
    · rw [h, flatMap_intercalate, List.splitOn_intercalate lineFeed hfeeds (by simpa using hempty)]
      have hfull : (lines.map (·.flatMap String.utf8EncodeChar)).getLast? ≠ some [] := by
        intro hnil
        rw [List.getLast?_map] at hnil
        obtain ⟨line, hline, hcode⟩ := Option.map_eq_some_iff.1 hnil
        have hnone : line = [] := by
          cases line with
          | nil => rfl
          | cons c rest => simp [String.utf8EncodeChar_ne_nil] at hcode
        exact hlast (hnone ▸ hline)
      simp only [if_neg hfull]

/-- Their texts are what stripping leaves of them. -/
theorem textsOf_encode {text : String} {lines : List (List Char)}
    (hlines : ∀ line ∈ lines, '\n' ∉ line) (hlast : lines.getLast? ≠ some [])
    (htext : EndsLines text.toList lines) :
    textsOf (Text.Utf8.encode text) = lines.map (Text.trimEnds isPadding) := by
  rw [textsOf, linesOf_encode hlines hlast htext, List.map_map]
  apply List.map_congr_left
  intro line _
  show lineText (line.flatMap String.utf8EncodeChar) = _
  rw [lineText, Text.Utf8.repair_encodeChars]

/-! ## Texts that fit in a line -/

/-- A text that is found again in a line that shows it. -/
structure FitsLine (text : List Char) : Prop where
  unbroken : '\n' ∉ text
  filled : text ≠ []
  stripped : Text.trimEnds isPadding text = text

theorem IsGap.isPadding {run : List Char} (h : IsGap run) : ∀ c ∈ run, isPadding c = true := by
  intro c hc
  rcases h c hc with rfl | rfl | rfl <;> decide

/-- Stripping a line takes the gaps away again. -/
theorem Shows.trimEnds {line text : List Char} (h : Shows line text) (hfits : FitsLine text) :
    Text.trimEnds isPadding line = text := by
  obtain ⟨left, right, hleft, hright, rfl⟩ := h
  rw [Text.trimEnds_pad hleft.isPadding hright.isPadding, hfits.stripped]

theorem Shows.unbroken {line text : List Char} (h : Shows line text) (hfits : FitsLine text) :
    '\n' ∉ line := by
  obtain ⟨left, right, hleft, hright, rfl⟩ := h
  have hgap : ∀ {run}, IsGap run → '\n' ∉ run := by
    intro run hrun hmem
    rcases hrun '\n' hmem with h | h | h <;> cases h
  simp [hfits.unbroken, hgap hleft, hgap hright]

theorem Shows.ne_nil {line text : List Char} (h : Shows line text) (hfits : FitsLine text) :
    line ≠ [] := by
  obtain ⟨left, right, -, -, rfl⟩ := h
  simp [hfits.filled]

theorem fitsLine_marker {marker : String} {kind : Kind} (h : marker ∈ kind.markers) :
    FitsLine marker.toList := by
  cases kind <;> simp only [Kind.markers, List.mem_cons, List.not_mem_nil, or_false] at h
  · subst h
    exact ⟨by decide, by decide, by decide⟩
  · rcases h with rfl | rfl <;> exact ⟨by decide, by decide, by decide⟩
  · rcases h with rfl | rfl <;> exact ⟨by decide, by decide, by decide⟩
  · rcases h with rfl | rfl <;> exact ⟨by decide, by decide, by decide⟩

theorem fitsLine_brace : FitsLine ['\x7d'] :=
  ⟨by decide, by decide, by decide⟩

theorem isPadding_eq_false {c : Char} (hfeed : c ≠ '\n') (h : c ≠ ' ' ∧ c ≠ '\t' ∧ c ≠ '\r') :
    isPadding c = false := by
  simp [isPadding, hfeed, h.1, h.2.1, h.2.2]

/-- A writable field starts with its key or the equals sign, and ends with its value. -/
theorem Writable.fitsLine {field : String × String} (h : Writable field.1 field.2) :
    FitsLine (fieldText field) := by
  refine ⟨?_, ?_, ?_⟩
  · simp [fieldText, h.key_line, h.value_line]
  · simp [fieldText]
  apply Text.trimEnds_eq_self
  · -- the first character is that of the key, or the equals sign behind an empty key
    intro c hc
    cases hkey : field.1.toList with
    | nil =>
      obtain rfl : '=' = c := by simpa [fieldText, hkey] using hc
      decide
    | cons first rest =>
      obtain rfl : first = c := by simpa [fieldText, hkey] using hc
      have hfeed : first ≠ '\n' := by
        rintro rfl
        exact h.key_line (by simp [hkey])
      exact isPadding_eq_false hfeed (h.key_starts first (by simp [hkey])).2
  · -- the last character is that of the value, because the value is not empty
    intro c hc
    have hvalue : field.2.toList ≠ [] := fun hnil => h.filled (String.toList_eq_nil_iff.1 hnil)
    have hlast : field.2.toList.getLast? = some c := by
      rw [fieldText, List.getLast?_append_of_ne_nil _ (List.cons_ne_nil _ _),
        List.getLast?_cons_of_ne_nil hvalue] at hc
      exact hc
    have hfeed : c ≠ '\n' := by
      rintro rfl
      exact h.value_line (List.mem_of_getLast? hlast)
    exact isPadding_eq_false hfeed (h.value_ends c hlast)

theorem fitsLine_of_mem_blockTexts {marker : String} {fields : List (String × String)} {kind : Kind}
    (hmarker : marker ∈ kind.markers) (hfields : ∀ field ∈ fields, Writable field.1 field.2) :
    ∀ text ∈ blockTexts marker fields, FitsLine text := by
  intro text htext
  simp only [blockTexts, List.cons_append, List.mem_cons, List.mem_append, List.mem_map,
    List.not_mem_nil, or_false] at htext
  rcases htext with rfl | ⟨field, hfield, rfl⟩ | rfl
  · exact fitsLine_marker hmarker
  · exact (hfields field hfield).fitsLine
  · exact fitsLine_brace

/-- Lines that show fitting texts can be ended by line feeds and stripped. -/
theorem forall₂_shows {lines texts : List (List Char)} (h : List.Forall₂ Shows lines texts)
    (hfits : ∀ text ∈ texts, FitsLine text) :
    lines.map (Text.trimEnds isPadding) = texts ∧ ∀ line ∈ lines, '\n' ∉ line ∧ line ≠ [] := by
  -- line by line: each line is stripped to its own text, whatever the others hold
  induction h with
  | nil => simp
  | @cons line text lines texts hline _ ih =>
    have hfirst : FitsLine text := hfits text List.mem_cons_self
    obtain ⟨hmap, hall⟩ := ih fun text htext => hfits text (List.mem_cons_of_mem _ htext)
    refine ⟨?_, ?_⟩
    · rw [List.map_cons, hline.trimEnds hfirst, hmap]
    · intro other hother
      rcases List.mem_cons.1 hother with rfl | hmem
      · exact ⟨hline.unbroken hfirst, hline.ne_nil hfirst⟩
      · exact hall other hmem

/-! ## Reading the lines of one block -/

/-- The text of a writable field is read as that field. -/
theorem Writable.assigns {field : String × String} (h : Writable field.1 field.2) :
    Assigns (fieldText field) field.1 field.2 := by
  refine ⟨?_, h.key_ends, h.filled, rfl⟩
  intro hhead
  cases hkey : field.1.toList with
  | nil => simp [fieldText, hkey] at hhead
  | cons first rest =>
    obtain rfl : first = '#' := by simpa [fieldText, hkey] using hhead
    exact (h.key_starts '#' (by simp [hkey])).1 rfl

theorem map_ofText_blockTexts {marker : String} {fields : List (String × String)} {kind : Kind}
    (hmarker : marker ∈ kind.markers) (hfields : ∀ field ∈ fields, Writable field.1 field.2) :
    (blockTexts marker fields).map Line.ofText =
      .opening kind :: fields.map (fun field => .field field.1 field.2) ++ [.closing] := by
  have hopening : Line.ofText marker.toList = .opening kind := by
    rw [Line.ofText_eq_opening_iff, Opens, String.ofList_toList]
    exact hmarker
  have hclosing : Line.ofText ['\x7d'] = .closing := Line.ofText_eq_closing_iff.2 rfl
  have hread : fields.map (Line.ofText ∘ fieldText) =
      fields.map (fun field => .field field.1 field.2) := by
    apply List.map_congr_left
    intro field hfield
    exact Line.ofText_eq_field_iff.2 (hfields field hfield).assigns
  rw [blockTexts, List.map_append, List.map_cons, List.map_map, hopening, hread]
  simp [hclosing]

/-- The block with the fields put into it, one after the other. -/
def Block.putAll (block : Block) (fields : List (String × String)) : Block :=
  fields.foldl (fun block field => block.put field.1 field.2) block

theorem Block.kind_putAll (block : Block) (fields : List (String × String)) :
    (block.putAll fields).kind = block.kind := by
  induction fields generalizing block with
  | nil => rfl
  | cons field rest ih => exact ih (block.put field.1 field.2)

/-- Fields with different keys do not replace each other. -/
theorem Block.get?_putAll {fields : List (String × String)}
    (hkeys : fields.Pairwise fun a b => a.1 ≠ b.1) (block : Block) (key value : String) :
    (block.putAll fields).get? key = some value ↔
      (key, value) ∈ fields ∨ block.get? key = some value ∧ ∀ other, (key, other) ∉ fields := by
  induction fields generalizing block with
  | nil => simp [Block.putAll]
  | cons field rest ih =>
    obtain ⟨key', value'⟩ := field
    obtain ⟨hfirst, hrest⟩ := List.pairwise_cons.1 hkeys
    have hstep : block.putAll ((key', value') :: rest) = (block.put key' value').putAll rest := rfl
    rw [hstep, ih hrest, Block.get?_put]
    by_cases hkey : key' = key
    · -- the key does not come again, so that the value of its field is the one that stays
      subst hkey
      have hnone : ∀ other, (key', other) ∉ rest := fun other hmem => hfirst _ hmem rfl
      simp [hnone, eq_comm]
    · simp [hkey, Ne.symm hkey]

/-- The fields of a block, put in any order, give the block. -/
theorem Block.putAll_of_perm {block : Block} {fields : List (String × String)}
    (hperm : fields.Perm block.fields.toList) :
    Block.putAll { kind := block.kind } fields = block := by
  have hkeys : fields.Pairwise fun a b => a.1 ≠ b.1 := by
    -- the map has each key once, and so has every order of its pairs
    have hdistinct : block.fields.toList.Pairwise fun a b => a.1 ≠ b.1 :=
      block.fields.distinct_keys_toList.imp fun hne heq => hne (by simp [heq])
    exact hperm.symm.pairwise hdistinct fun hne => hne.symm
  refine Block.eq_of_get? (Block.kind_putAll _ _) ?_
  intro key value
  rw [Block.get?_putAll hkeys, hperm.mem_iff, Std.ExtTreeMap.mem_toList_iff_getElem?_eq_some]
  simp [Block.get?]

theorem eventsFrom_fields (block : Block) (fields : List (String × String)) (rest : List Line) :
    eventsFrom (some block) (fields.map (fun field => .field field.1 field.2) ++ rest) =
      eventsFrom (some (block.putAll fields)) rest := by
  induction fields generalizing block with
  | nil => rfl
  | cons field fields ih => exact ih (block.put field.1 field.2)

/-- Reading the lines of a block gives its events, whatever block was open before, and leaves none
open. -/
theorem eventsFrom_block {block : Block} {fields : List (String × String)}
    (hperm : fields.Perm block.fields.toList) (current : Option Block) (rest : List Line) :
    eventsFrom current
        (.opening block.kind :: fields.map (fun field => .field field.1 field.2) ++
          .closing :: rest) =
      block.events ++ eventsFrom none rest := by
  have hopening : ∀ lines, eventsFrom current (.opening block.kind :: lines) =
      (if block.kind.isEntry then [.opened block.kind] else []) ++
        eventsFrom (some { kind := block.kind }) lines := by
    intro lines
    cases hentry : block.kind.isEntry <;> simp [eventsFrom, Line.apply, hentry]
  rw [List.cons_append, hopening, eventsFrom_fields, Block.putAll_of_perm hperm, Block.events,
    List.append_assoc]
  rfl

/-! ## Reading a written dump -/

variable {lines : List (List Char)} {blocks : List Block} {block : Block}

/-- The fields that write a block are those of the block, so that they are writable with it. -/
theorem writable_of_perm {fields : List (String × String)}
    (hwritable : ∀ key value, block.get? key = some value → Writable key value)
    (hperm : fields.Perm block.fields.toList) : ∀ field ∈ fields, Writable field.1 field.2 := by
  intro field hfield
  have hmem : (field.1, field.2) ∈ block.fields.toList := hperm.mem_iff.1 hfield
  exact hwritable _ _ (Std.ExtTreeMap.mem_toList_iff_getElem?_eq_some.1 hmem)

/-- The lines of one block are whole lines, and reading them gives the events of the block. -/
theorem WritesBlock.read (h : WritesBlock lines block)
    (hwritable : ∀ key value, block.get? key = some value → Writable key value) :
    (∀ line ∈ lines, '\n' ∉ line ∧ line ≠ []) ∧
      ∀ current rest, eventsFrom current
          ((lines.map (Text.trimEnds isPadding)).map Line.ofText ++ rest) =
        block.events ++ eventsFrom none rest := by
  obtain ⟨marker, fields, hmarker, hperm, hshows⟩ := h
  have hfields := writable_of_perm hwritable hperm
  obtain ⟨hmap, hwhole⟩ := forall₂_shows hshows (fitsLine_of_mem_blockTexts hmarker hfields)
  refine ⟨hwhole, ?_⟩
  intro current rest
  rw [hmap, map_ofText_blockTexts hmarker hfields, List.append_assoc]
  exact eventsFrom_block hperm current rest

/-- The same for the lines of all blocks. -/
theorem Writes.read (h : Writes lines blocks)
    (hwritable : ∀ block ∈ blocks, ∀ key value, block.get? key = some value → Writable key value) :
    (∀ line ∈ lines, '\n' ∉ line ∧ line ≠ []) ∧
      eventsFrom none ((lines.map (Text.trimEnds isPadding)).map Line.ofText) =
        blocks.flatMap Block.events := by
  -- block by block: the part before leaves no block open, and none is open at the start
  induction h with
  | nil => exact ⟨by simp, rfl⟩
  | @cons part lines block blocks hpart _ ih =>
    obtain ⟨hpartWhole, hpartEvents⟩ := hpart.read (hwritable block List.mem_cons_self)
    obtain ⟨hwhole, hevents⟩ :=
      ih fun other hother => hwritable other (List.mem_cons_of_mem _ hother)
    refine ⟨?_, ?_⟩
    · intro line hline
      rcases List.mem_append.1 hline with hmem | hmem
      · exact hpartWhole line hmem
      · exact hwhole line hmem
    · rw [List.map_append, List.map_append, hpartEvents, hevents, List.flatMap_cons]

/-- Reading undoes writing: the octets of a written dump, however they arrive, give for each block
in turn its opening, if it is a host or a service, and then the block as it was written, with the
same kind and the same fields. Nothing else is given, and nothing follows. -/
theorem Reader.pulled_of_writes {text : String} {source : Source}
    (hwritable : ∀ block ∈ blocks, ∀ key value, block.get? key = some value → Writable key value)
    (hwrites : Writes lines blocks) (htext : EndsLines text.toList lines)
    (hbytes : source.bytes = Text.Utf8.encode text) (hends : source.failure = none) (n : ℕ) :
    (Reader.ofSource source).pulled n = ((blocks.flatMap Block.events).map .ok)[n]? := by
  obtain ⟨hwhole, hevents⟩ := hwrites.read hwritable
  -- every line shows a text, so that the last one is not mistaken for a line feed at the end
  have hlast : lines.getLast? ≠ some [] := by
    intro hlast
    exact (hwhole [] (List.mem_of_getLast? hlast)).2 rfl
  have htexts := textsOf_encode (fun line hline => (hwhole line hline).1) hlast htext
  have hfailure : (Reader.ofSource source).failure = none := by simp [Reader.ofSource, hends]
  rw [Reader.pulled_eq_items, Reader.items, hfailure, Reader.events_ofSource hends, hbytes, htexts,
    hevents]
  simp

/-- Blocks with fields that look like a marker, a comment or a brace, and one without fields. -/
def awkwardBlocks : List Block :=
  [Block.putAll { kind := .service } [("host \x7b", "a = b\t\x7d"), ("", "#=\x7b")],
    { kind := .info }]

/-- Their lines, with gaps of every kind. -/
def awkwardLines : List (List Char) :=
  [" servicestatus \x7b\r", "\t=#=\x7b", "host \x7b=a = b\t\x7d  ", "\x7d", "info \x7b",
    " \x7d"].map String.toList

/-- The text of the lines without a line feed at its end. -/
def awkwardText : String :=
  .ofList (['\n'].intercalate awkwardLines)

theorem Reader.pulled_of_writes_awkward :
    (∀ block ∈ awkwardBlocks, ∀ key value, block.get? key = some value → Writable key value) ∧
      Writes awkwardLines awkwardBlocks ∧ EndsLines awkwardText.toList awkwardLines ∧
      ∀ n, (Reader.ofSource (.ofBytes (Text.Utf8.encode awkwardText))).pulled n =
        ((awkwardBlocks.flatMap Block.events).map .ok)[n]? := by
  have hwritable : ∀ block ∈ awkwardBlocks, ∀ key value,
      block.get? key = some value → Writable key value := by
    intro block hblock key value hget
    rcases List.mem_pair.1 hblock with rfl | rfl
    · rw [Block.get?_putAll (by decide)] at hget
      rcases hget with hmem | ⟨hnone, -⟩
      · rcases List.mem_pair.1 hmem with h | h
        · obtain ⟨rfl, rfl⟩ := Prod.mk.inj h
          decide
        · obtain ⟨rfl, rfl⟩ := Prod.mk.inj h
          decide
      · simp [Block.get?] at hnone
    · simp [Block.get?] at hget
  have hwrites : Writes awkwardLines awkwardBlocks := by
    have hservice : WritesBlock (awkwardLines.take 4) awkwardBlocks[0] :=
      ⟨"servicestatus \x7b", [("", "#=\x7b"), ("host \x7b", "a = b\t\x7d")], by decide,
        by decide +kernel,
        .cons ⟨[' '], ['\r'], by simp [IsGap], by simp [IsGap], rfl⟩ <|
        .cons ⟨['\t'], [], by simp [IsGap], by simp [IsGap], rfl⟩ <|
        .cons ⟨[], [' ', ' '], by simp [IsGap], by simp [IsGap], rfl⟩ <|
        .cons ⟨[], [], by simp [IsGap], by simp [IsGap], rfl⟩ .nil⟩
    have hinfo : WritesBlock (awkwardLines.drop 4) awkwardBlocks[1] :=
      ⟨"info \x7b", [], by decide, by decide +kernel,
        .cons ⟨[], [], by simp [IsGap], by simp [IsGap], rfl⟩ <|
        .cons ⟨[' '], [], by simp [IsGap], by simp [IsGap], rfl⟩ .nil⟩
    exact .cons hservice (.cons hinfo .nil)
  have htext : EndsLines awkwardText.toList awkwardLines := by
    right
    rw [awkwardText, String.toList_ofList]
  have hbytes : (Source.ofBytes (Text.Utf8.encode awkwardText)).bytes =
      Text.Utf8.encode awkwardText := by simp [Source.ofBytes, Source.bytes]
  exact ⟨hwritable, hwrites, htext, Reader.pulled_of_writes hwritable hwrites htext hbytes rfl⟩

end StatusDigest.Dump
