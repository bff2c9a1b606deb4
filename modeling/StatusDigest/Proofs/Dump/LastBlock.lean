import StatusDigest.Proofs.Dump.Joining
import StatusDigest.Proofs.Dump.Writing
import Mathlib

/-!
# The last block of a kind

What stands before and behind a block makes no difference to it. A block that is open when its
marker comes is abandoned, and behind its brace nothing of it is left:

* `IsBlock` says of some texts that they are one block, whatever its fields are, and
  `isBlock_written` that what is written as a block is one;
* `OpenSince.exists_block` is the block that is open behind its lines, whatever stood before them;
* `not_concerns_of_mem_eventsFrom`: without a marker of the kind there is no event of the kind;
* `IsBlock.events_between` puts the three together.
-/

namespace StatusDigest.Dump

variable {kind : Kind}

/-! ## One block -/

/-- The texts are a block: a marker of the kind and lines that do not end it, which are the opened
texts, and then a brace. -/
structure IsBlock (texts opened : List (List Char)) (kind : Kind) : Prop where
  since : OpenSince opened 0 opened.length kind
  ended : ∃ brace, Closes brace ∧ texts = opened ++ [brace]

/-- Behind a marker it makes no difference which block was open before. -/
theorem OpenSince.blockBefore_eq {texts : List (List Char)}
    (h : OpenSince texts 0 texts.length kind) (current : Option Block) :
    blockBefore current (texts.map Line.ofText) texts.length =
      blockBefore none (texts.map Line.ofText) texts.length := by
  obtain ⟨marker, hline, hopens⟩ := h.opened
  cases texts with
  | nil => cases hline
  | cons text rest =>
    obtain rfl : text = marker := by simpa using hline
    have hread := Line.ofText_eq_opening_iff.2 hopens
    simp [blockBefore, hread, Line.apply]

/-- The block that is open behind a marker and its lines holds the fields of these lines. -/
theorem OpenSince.exists_block {texts : List (List Char)}
    (h : OpenSince texts 0 texts.length kind) (current : Option Block) :
    ∃ block : Block, block.kind = kind ∧
      blockBefore current (texts.map Line.ofText) texts.length = some block ∧
      ∀ key value, block.get? key = some value ↔ LastAssigned texts 0 texts.length key value := by
  have htracks := tracks_blockBefore texts le_rfl
  rw [h.blockBefore_eq current]
  cases hblock : blockBefore none (texts.map Line.ofText) texts.length with
  | none =>
    rw [hblock] at htracks
    exact absurd h (htracks 0 kind)
  | some block =>
    rw [hblock] at htracks
    obtain ⟨i, hsince, hfields⟩ := htracks
    obtain ⟨rfl, hkind⟩ := hsince.unique h
    exact ⟨block, hkind, rfl, hfields⟩

/-! ## Written blocks -/

section Written

variable {marker : String} {fields : List (String × String)}

/-- The lines of a written block show its texts. -/
theorem textsOf_written {text : String} {lines : List (List Char)}
    (hmarker : marker ∈ kind.markers) (hwritable : ∀ field ∈ fields, Writable field.1 field.2)
    (hshows : List.Forall₂ Shows lines (blockTexts marker fields))
    (htext : EndsLines text.toList lines) :
    textsOf (Text.Utf8.encode text) = blockTexts marker fields := by
  obtain ⟨hmap, hwhole⟩ := forall₂_shows hshows (fitsLine_of_mem_blockTexts hmarker hwritable)
  have hlast : lines.getLast? ≠ some [] := by
    intro hlast
    exact (hwhole [] (List.mem_of_getLast? hlast)).2 rfl
  rw [textsOf_encode (fun line hline => (hwhole line hline).1) hlast htext, hmap]

/-- Lines that have been ended end at a line feed. -/
theorem endsAtFeed_encode {text : String} {lines : List (List Char)}
    (htext : text.toList = lines.flatMap (· ++ ['\n'])) : EndsAtFeed (Text.Utf8.encode text) := by
  rw [EndsAtFeed, Text.Utf8.encode_eq_flatMap, htext]
  rcases List.eq_nil_or_concat lines with rfl | ⟨rest, line, rfl⟩
  · exact .inl rfl
  · right
    have hfeed : String.utf8EncodeChar '\n' = [lineFeed] := by decide
    simp [hfeed]

/-- What is written as a block is one, whatever its fields are and in whatever order they come. -/
theorem isBlock_written (hmarker : marker ∈ kind.markers)
    (hwritable : ∀ field ∈ fields, Writable field.1 field.2) :
    IsBlock (blockTexts marker fields) (marker.toList :: fields.map fieldText) kind := by
  refine ⟨⟨Nat.succ_pos _, ⟨marker.toList, rfl, ?_⟩, ?_⟩, ['\x7d'], rfl, rfl⟩
  · rw [Opens, String.ofList_toList]
    exact hmarker
  · intro m text hm _ hline
    obtain ⟨m, rfl⟩ := Nat.exists_eq_succ_of_ne_zero hm.ne'
    rw [List.getElem?_cons_succ, List.getElem?_map] at hline
    obtain ⟨field, hfield, rfl⟩ := Option.map_eq_some_iff.1 hline
    have hassigns := (hwritable field (List.mem_of_getElem? hfield)).assigns
    constructor
    · rintro ⟨other, hopens⟩
      exact hopens.shape.2.2 hassigns.mem
    · exact hassigns.shape.2.2

/-- Every field of a written block is the last of its key, because no key comes twice. -/
theorem lastAssigned_written {key value : String}
    (hkeys : fields.Pairwise fun a b => a.1 ≠ b.1)
    (hwritable : ∀ field ∈ fields, Writable field.1 field.2) (hfield : (key, value) ∈ fields) :
    LastAssigned (marker.toList :: fields.map fieldText) 0
      (marker.toList :: fields.map fieldText).length key value := by
  obtain ⟨m, hm⟩ := List.mem_iff_getElem?.1 hfield
  have hread : ∀ (n : ℕ) (field : String × String), fields[n]? = some field →
      Assigns (fieldText field) field.1 field.2 := by
    intro n field hget
    exact (hwritable field (List.mem_of_getElem? hget)).assigns
  have hlt : m < fields.length := (List.getElem?_eq_some_iff.1 hm).1
  refine ⟨m + 1, fieldText (key, value), Nat.succ_pos m, ?_, ?_, hread m _ hm, ?_⟩
  · simpa using hlt
  · simp [hm]
  · intro n text hmn hn hline other hother
    obtain ⟨n, rfl⟩ := Nat.exists_eq_succ_of_ne_zero (by omega : n ≠ 0)
    rw [List.getElem?_cons_succ, List.getElem?_map] at hline
    obtain ⟨field, hget, rfl⟩ := Option.map_eq_some_iff.1 hline
    -- two fields of the same key cannot both be there
    have hsame : field.1 = key := ((hread n field hget).unique hother).1
    have hdiffer := List.pairwise_iff_getElem.1 hkeys m n hlt
      (List.getElem?_eq_some_iff.1 hget).1 (by omega)
    rw [(List.getElem?_eq_some_iff.1 hm).2, (List.getElem?_eq_some_iff.1 hget).2] at hdiffer
    exact hdiffer hsame.symm

end Written

/-! ## Lines without a marker of the kind -/

/-- A line that is no marker of a kind gives no event of the kind while no block of the kind is
open, and opens none. -/
theorem Line.apply_elsewhere {line : Line} {current : Option Block}
    (hline : line ≠ .opening kind) (hcurrent : ∀ block ∈ current, block.kind ≠ kind) :
    (∀ event ∈ (line.apply current).1, event.concerns kind = false) ∧
      ∀ block ∈ (line.apply current).2, block.kind ≠ kind := by
  cases line with
  | opening found =>
    have hfound : found ≠ kind := by
      rintro rfl
      exact hline rfl
    constructor
    · intro event hevent
      cases hentry : found.isEntry with
      | true =>
        obtain rfl : Event.opened found = event := by simpa [Line.apply, hentry] using hevent
        simp [Event.concerns, hfound]
      | false => simp [Line.apply, hentry] at hevent
    · intro block hblock
      obtain rfl : ({ kind := found } : Block) = block := by simpa [Line.apply] using hblock
      exact hfound
  | closing =>
    constructor
    · intro event hevent
      obtain ⟨block, hblock, rfl⟩ : ∃ block, current = some block ∧ Event.closed block = event := by
        simpa [Line.apply] using hevent
      exact decide_eq_false (hcurrent block hblock)
    · intro block hblock
      simp [Line.apply] at hblock
  | field key value =>
    constructor
    · intro event hevent
      simp [Line.apply] at hevent
    · intro block hblock
      obtain ⟨before, hbefore, rfl⟩ :
          ∃ before, current = some before ∧ before.put key value = block := by
        simpa [Line.apply] using hblock
      exact hcurrent before hbefore
  | idle =>
    constructor
    · intro event hevent
      simp [Line.apply] at hevent
    · exact hcurrent

/-- Lines without a marker of a kind give no event of the kind. -/
theorem not_concerns_of_mem_eventsFrom {current : Option Block} {lines : List Line}
    (hlines : Line.opening kind ∉ lines) (hcurrent : ∀ block ∈ current, block.kind ≠ kind) :
    ∀ event ∈ eventsFrom current lines, event.concerns kind = false := by
  -- line by line, with the block that is open, which is never of the kind
  induction lines generalizing current with
  | nil =>
    intro event hevent
    cases hevent
  | cons line rest ih =>
    obtain ⟨hfirst, hrest⟩ := not_or.1 (mt List.mem_cons.2 hlines)
    obtain ⟨hevents, hafter⟩ := Line.apply_elsewhere (Ne.symm hfirst) hcurrent
    intro event hevent
    rw [eventsFrom_cons] at hevent
    rcases List.mem_append.1 hevent with hmem | hmem
    · exact hevents event (Option.mem_toList.1 hmem)
    · exact ih hrest hafter event hmem

/-! ## A block with a dump around it -/

/-- A block closes what its lines say, whatever stands before it, and behind it there is no event
of its kind unless there is a marker. -/
theorem IsBlock.events_between {texts opened after : List (List Char)}
    (h : IsBlock texts opened kind) (before : List (List Char))
    (hafter : ∀ text ∈ after, ¬ Opens text kind) :
    ∃ (earlier later : List Event) (block : Block),
      eventsFrom none ((before ++ texts ++ after).map Line.ofText) =
        earlier ++ .closed block :: later ∧
      block.kind = kind ∧
      (∀ key value, block.get? key = some value ↔
        LastAssigned opened 0 opened.length key value) ∧
      ∀ event ∈ later, event.concerns kind = false := by
  obtain ⟨brace, hcloses, rfl⟩ := h.ended
  obtain ⟨block, hkind, hblock, hfields⟩ := h.since.exists_block
    (blockBefore none (before.map Line.ofText) before.length)
  have hopen : blockBefore none ((before ++ opened).map Line.ofText)
      ((before ++ opened).map Line.ofText).length = some block := by
    rw [List.map_append, blockBefore_append, List.length_map, List.length_map, hblock]
  refine ⟨eventsFrom none ((before ++ opened).map Line.ofText),
    eventsFrom none (after.map Line.ofText), block, ?_, hkind, hfields, ?_⟩
  · have hsplit : (before ++ (opened ++ [brace]) ++ after).map Line.ofText =
        (before ++ opened).map Line.ofText ++ Line.closing :: after.map Line.ofText := by
      simp [Line.ofText_eq_closing_iff.2 hcloses]
    rw [hsplit, eventsFrom_append, hopen]
    rfl
  · apply not_concerns_of_mem_eventsFrom
    · intro hmem
      obtain ⟨text, htext, hread⟩ := List.mem_map.1 hmem
      exact hafter text htext (Line.ofText_eq_opening_iff.1 hread)
    · intro block hnone
      cases hnone

end StatusDigest.Dump
