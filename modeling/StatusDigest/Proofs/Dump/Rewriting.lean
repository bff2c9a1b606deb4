import StatusDigest.Proofs.Dump.Failing
import StatusDigest.Proofs.Dump.Repaired
import Mathlib

/-!
# What is read can be written

Whatever a source delivers, the fields that come through the reader fit into lines again: a line
holds no line feed, and stripping leaves no padding at its ends. So the blocks that are closed in a
run can be written and read again without a change.

* `Block.IsWritable` is the invariant of the block that a reader keeps. `Assigns.writable` is what a
  line contributes to it, `Line.IsWritable.apply` the step, and `isWritable_of_closed` the run;
* `canonicalLines` writes any blocks without gaps, in the order of their keys;
* `Reader.blocksOf_rewritten` is the result, for every source and every way of writing its blocks.
-/

namespace StatusDigest.Dump

/-! ## Lines as they are left by stripping -/

/-- A line of some octets holds no line feed. -/
theorem lineFeed_not_mem_linesOf {octets line : List UInt8} (h : line ∈ linesOf octets) :
    lineFeed ∉ line := by
  have hpiece : line ∈ octets.splitOn lineFeed := by
    simp only [linesOf] at h
    split at h
    · exact List.dropLast_subset _ h
    · exact h
  exact not_mem_of_mem_splitOn hpiece

/-- However it ends, a source delivers lines without line feeds. -/
theorem Source.lineFeed_not_mem_lines {source : Source} {line : List UInt8}
    (h : line ∈ source.lines) : lineFeed ∉ line := by
  cases hfailure : source.failure with
  | none =>
    rw [Source.lines_eq_linesOf hfailure] at h
    exact lineFeed_not_mem_linesOf h
  | some reason =>
    rw [Source.lines_of_failure hfailure] at h
    exact lineFeed_not_mem_linesOf h

/-- What stripping leaves of a line, if anything, is found again in a line that shows it. -/
theorem fitsLine_lineText {octets : List UInt8} (hfeed : lineFeed ∉ octets)
    (hfilled : lineText octets ≠ []) : FitsLine (lineText octets) := by
  refine ⟨?_, hfilled, ?_⟩
  · intro hmem
    have hrepaired : '\n' ∈ Text.Utf8.repair octets := Text.mem_of_mem_trimEnds hmem
    -- a line feed is an octet of its own, and none is made by repairing
    obtain ⟨octet, hoctet, hcode⟩ := Text.Utf8.exists_octet_of_mem_repair (by decide) hrepaired
    obtain rfl : octet = lineFeed := UInt8.toNat_inj.1 hcode
    exact hfeed hoctet
  · apply Text.trimEnds_eq_self
    · intro c hc
      exact Text.head?_trimEnds hc
    · intro c hc
      exact Text.getLast?_trimEnds hc

theorem ne_of_isPadding_eq_false {c : Char} (h : isPadding c = false) :
    c ≠ ' ' ∧ c ≠ '\t' ∧ c ≠ '\r' := by
  refine ⟨?_, ?_, ?_⟩ <;> rintro rfl <;> cases h

/-- A field that is read from a stripped line fits into a line: its key starts where the line
starts, and its value ends where the line ends. -/
theorem Assigns.writable {text : List Char} {key value : String} (h : Assigns text key value)
    (hfits : FitsLine text) : Writable key value := by
  have hunbroken := hfits.unbroken
  have hstripped := hfits.stripped
  rw [h.cut] at hunbroken
  have hvalue : value.toList ≠ [] := fun hnil => h.filled (String.toList_eq_nil_iff.1 hnil)
  constructor
  case key_line =>
    intro hmem
    exact hunbroken (List.mem_append_left _ hmem)
  case value_line =>
    intro hmem
    exact hunbroken (List.mem_append_right _ (List.mem_cons_of_mem _ hmem))
  case key_ends => exact h.key_ends
  case key_starts =>
    intro c hc
    have hhead : text.head? = some c := by rw [h.cut, List.head?_append, hc, Option.some_or]
    have huncommented : c ≠ '#' := by
      rintro rfl
      exact h.uncommented hhead
    rw [← hstripped] at hhead
    exact ⟨huncommented, ne_of_isPadding_eq_false (Text.head?_trimEnds hhead)⟩
  case filled => exact h.filled
  case value_ends =>
    intro c hc
    have hlast : text.getLast? = some c := by
      rw [h.cut, List.getLast?_append_of_ne_nil _ (List.cons_ne_nil _ _),
        List.getLast?_cons_of_ne_nil hvalue, hc]
    rw [← hstripped] at hlast
    exact ne_of_isPadding_eq_false (Text.getLast?_trimEnds hlast)

/-! ## The fields of a run -/

/-- All fields of the block fit into lines. -/
def Block.IsWritable (block : Block) : Prop :=
  ∀ key value, block.get? key = some value → Writable key value

/-- If the line is a field, it fits into a line. -/
def Line.IsWritable : Line → Prop
  | .field key value => Writable key value
  | .opening _ | .closing | .idle => True

theorem Line.isWritable_ofOctets {octets : List UInt8} (hfeed : lineFeed ∉ octets) :
    (Line.ofOctets octets).IsWritable := by
  cases hread : Line.ofOctets octets with
  | opening kind => trivial
  | closing => trivial
  | idle => trivial
  | field key value =>
    have hassigns : Assigns (lineText octets) key value := Line.ofText_eq_field_iff.1 hread
    have hfilled : lineText octets ≠ [] := List.ne_nil_of_mem hassigns.mem
    exact hassigns.writable (fitsLine_lineText hfeed hfilled)

theorem Block.isWritable_empty (kind : Kind) : Block.IsWritable { kind } := by
  intro key value hget
  simp [Block.get?] at hget

theorem Block.IsWritable.put {block : Block} {key value : String} (h : block.IsWritable)
    (hfield : Writable key value) : (block.put key value).IsWritable := by
  intro key' value' hget
  rw [Block.get?_put] at hget
  split at hget
  · rename_i hkey
    obtain rfl : value = value' := Option.some.inj hget
    exact hkey ▸ hfield
  · exact h key' value' hget

/-- A line leaves a writable block open, and closes writable blocks only. -/
theorem Line.IsWritable.apply {line : Line} {current : Option Block} (h : line.IsWritable)
    (hcurrent : ∀ block ∈ current, block.IsWritable) :
    (∀ block ∈ (line.apply current).2, block.IsWritable) ∧
      ∀ block, (line.apply current).1 = some (.closed block) → block.IsWritable := by
  cases line with
  | opening kind =>
    refine ⟨?_, ?_⟩
    · intro block hblock
      obtain rfl : { kind } = block := Option.some.inj hblock
      exact Block.isWritable_empty kind
    · intro block hevent
      simp only [Line.apply] at hevent
      split at hevent <;> cases hevent
  | closing =>
    refine ⟨?_, ?_⟩
    · intro block hblock
      cases hblock
    · intro block hevent
      obtain ⟨found, hfound, hclosed⟩ := Option.map_eq_some_iff.1 hevent
      obtain rfl : found = block := Event.closed.inj hclosed
      exact hcurrent found hfound
  | field key value =>
    refine ⟨?_, ?_⟩
    · intro block hblock
      obtain ⟨found, hfound, rfl⟩ := Option.map_eq_some_iff.1 hblock
      exact (hcurrent found hfound).put h
    · intro block hevent
      cases hevent
  | idle =>
    refine ⟨hcurrent, ?_⟩
    intro block hevent
    cases hevent

/-- All blocks that are closed in a run are writable. -/
theorem isWritable_of_closed {current : Option Block} {lines : List Line}
    (hlines : ∀ line ∈ lines, line.IsWritable) (hcurrent : ∀ block ∈ current, block.IsWritable)
    {block : Block} (hclosed : .closed block ∈ eventsFrom current lines) : block.IsWritable := by
  induction lines generalizing current with
  | nil => cases hclosed
  | cons line rest ih =>
    obtain ⟨hopen, hevent⟩ := (hlines line List.mem_cons_self).apply hcurrent
    rw [eventsFrom_cons] at hclosed
    rcases List.mem_append.1 hclosed with hfirst | hrest
    · exact hevent block (Option.mem_toList.1 hfirst)
    · exact ih (fun other hother => hlines other (List.mem_cons_of_mem _ hother)) hopen hrest

/-- Whatever the source delivers, the blocks that are closed in its run are writable. -/
theorem Reader.isWritable_of_closed {source : Source} {block : Block}
    (hclosed : .closed block ∈ (Reader.ofSource source).events) : block.IsWritable := by
  refine Dump.isWritable_of_closed ?_ ?_ hclosed
  · intro line hline
    obtain ⟨octets, hoctets, rfl⟩ := List.mem_map.1 hline
    exact Line.isWritable_ofOctets (Source.lineFeed_not_mem_lines hoctets)
  · intro block hblock
    cases hblock

/-! ## Writing the blocks of a run -/

/-- The block that an item closes, if it closes one. -/
def closedBy : Item → Option Block
  | .ok (.closed block) => some block
  | .ok (.opened _) | .error _ => none

/-- The blocks that are closed in a sequence of items, in their order. -/
def blocksOf (items : List Item) : List Block :=
  items.filterMap closedBy

/-- The event behind each opening closes a block of the kind that was opened. -/
def ClosesAtOnce (events : List Event) : Prop :=
  ∀ (n : ℕ) (kind : Kind), events[n]? = some (.opened kind) →
    ∃ block : Block, block.kind = kind ∧ events[n + 1]? = some (.closed block)

/-- The shorter spelling of the marker of a kind. -/
def Kind.marker : Kind → String
  | .info => "info \x7b"
  | .program => "program \x7b"
  | .host => "host \x7b"
  | .service => "service \x7b"

/-- The lines that write the blocks without gaps, each with its fields in the order of their
keys. -/
def canonicalLines (blocks : List Block) : List (List Char) :=
  blocks.flatMap fun block => blockTexts block.kind.marker block.fields.toList

theorem Kind.marker_mem (kind : Kind) : kind.marker ∈ kind.markers := by
  cases kind <;> decide

theorem shows_self (text : List Char) : Shows text text :=
  ⟨[], [], by simp [IsGap], by simp [IsGap], by simp⟩

theorem writes_canonicalLines (blocks : List Block) : Writes (canonicalLines blocks) blocks := by
  induction blocks with
  | nil => exact .nil
  | cons block rest ih =>
    have hshows : ∀ texts : List (List Char), List.Forall₂ Shows texts texts := fun _ =>
      List.forall₂_same.2 fun text _ => shows_self text
    exact .cons ⟨block.kind.marker, block.fields.toList, block.kind.marker_mem, .refl _,
      hshows _⟩ ih

theorem mem_blocksOf {items : List Item} {block : Block} :
    block ∈ blocksOf items ↔ .ok (.closed block) ∈ items := by
  rw [blocksOf, List.mem_filterMap]
  constructor
  · rintro ⟨item, hitem, hclosed⟩
    match item with
    | .ok (.closed found) =>
      obtain rfl : found = block := Option.some.inj hclosed
      exact hitem
    | .ok (.opened _) => cases hclosed
    | .error _ => cases hclosed
  · intro hitem
    exact ⟨_, hitem, rfl⟩

/-- The events of a block close that block and no other. -/
theorem blocksOf_events (blocks : List Block) :
    blocksOf ((blocks.flatMap Block.events).map .ok) = blocks := by
  induction blocks with
  | nil => rfl
  | cons block rest ih =>
    have hfirst : blocksOf (block.events.map .ok) = [block] := by
      cases hentry : block.kind.isEntry <;>
        simp [Block.events, hentry, blocksOf, closedBy, List.filterMap_cons]
    rw [List.flatMap_cons, List.map_append, blocksOf, List.filterMap_append]
    exact congrArg₂ _ hfirst ih

/-- In the events of a sequence of blocks, every opening belongs to the block behind it. -/
theorem closesAtOnce_events (blocks : List Block) :
    ClosesAtOnce (blocks.flatMap Block.events) := by
  induction blocks with
  | nil =>
    intro n kind hopened
    cases hopened
  | cons block rest ih =>
    intro n kind hopened
    rw [List.flatMap_cons] at hopened ⊢
    cases hentry : block.kind.isEntry with
    | true =>
      -- the first two events are those of the block, and the others come behind them
      have hevents : block.events = [.opened block.kind, .closed block] := by
        simp [Block.events, hentry]
      rw [hevents] at hopened ⊢
      rcases n with _ | _ | n
      · obtain rfl : block.kind = kind := by simpa using hopened
        exact ⟨block, rfl, rfl⟩
      · simp at hopened
      · exact ih n kind hopened
    | false =>
      have hevents : block.events = [.closed block] := by simp [Block.events, hentry]
      rw [hevents] at hopened ⊢
      rcases n with _ | n
      · simp at hopened
      · exact ih n kind hopened

/-- Reading written blocks gives their events. -/
theorem Writes.events_ofSource {blocks : List Block} {lines : List (List Char)} {text : String}
    {source : Source} (hwrites : Writes lines blocks)
    (hwritable : ∀ block ∈ blocks, block.IsWritable) (htext : EndsLines text.toList lines)
    (hbytes : source.bytes = Text.Utf8.encode text) (hends : source.failure = none) :
    (Reader.ofSource source).events = blocks.flatMap Block.events := by
  obtain ⟨hwhole, hevents⟩ := hwrites.read hwritable
  have hlast : lines.getLast? ≠ some [] := by
    intro hlast
    exact (hwhole [] (List.mem_of_getLast? hlast)).2 rfl
  have htexts := textsOf_encode (fun line hline => (hwhole line hline).1) hlast htext
  rw [Reader.events_ofSource hends, hbytes, htexts, hevents]

/-! ## The result -/

/-- A reader gives one sequence of items only. -/
theorem Reader.Gives.eq_items {reader : Reader} {items : List Item} (h : reader.Gives items) :
    items = reader.items := by
  apply List.ext_getElem?
  intro n
  rw [← h n, reader.gives_items n]

/-- Whatever a source delivers and however it ends, the blocks that are closed in its run are
writable, and reading them again after writing them closes the same blocks in the same order.
Nothing fails then, and a block that is opened is closed at once. The writer is free in the
spelling of the markers, in the order of the fields and in the gaps of the lines. -/
theorem Reader.blocksOf_rewritten {source : Source} {items : List Item}
    (hgives : (Reader.ofSource source).Gives items) :
    (∀ block ∈ blocksOf items, block.IsWritable) ∧
      Writes (canonicalLines (blocksOf items)) (blocksOf items) ∧
      ∀ (lines : List (List Char)) (text : String) (rewritten : Source),
        Writes lines (blocksOf items) → EndsLines text.toList lines →
          rewritten.bytes = Text.Utf8.encode text → rewritten.failure = none →
            ∃ again : List Event, (Reader.ofSource rewritten).Gives (again.map .ok) ∧
              blocksOf (again.map .ok) = blocksOf items ∧ ClosesAtOnce again := by
  have hwritable : ∀ block ∈ blocksOf items, block.IsWritable := by
    intro block hblock
    have hitem := mem_blocksOf.1 hblock
    rw [hgives.eq_items, Reader.items] at hitem
    -- a block is closed by an event, and not by the failure at the end
    rcases List.mem_append.1 hitem with hmem | hmem
    · obtain ⟨event, hevent, heq⟩ := List.mem_map.1 hmem
      obtain rfl : event = .closed block := Except.ok.inj heq
      exact Reader.isWritable_of_closed hevent
    · obtain ⟨failure, -, heq⟩ := List.mem_map.1 (Option.toList_map ▸ hmem)
      cases heq
  refine ⟨hwritable, writes_canonicalLines _, ?_⟩
  intro lines text rewritten hwrites htext hbytes hends
  refine ⟨(blocksOf items).flatMap Block.events, ?_, blocksOf_events _, closesAtOnce_events _⟩
  rw [← hwrites.events_ofSource hwritable htext hbytes hends]
  exact Reader.gives_events hends

/-- A dump with an abandoned host, a host whose fields have no key, padding around the equals sign,
a carriage return and a broken character, a service without fields, and a connection that is
lost. -/
def garbledDump : Source where
  chunks :=
    [Text.Utf8.encode "host \x7b\nleft=1\nhoststatus \x7b\r\n \t=x\r y\na =  b\n#c=1\nd=\nbad=",
      [0xE2, 0x82, 0x0A], Text.Utf8.encode "\x7d\n\x7d\nservice \x7b\n\x7d\ninfo \x7b\nversion=4"]
  failure := some "connection lost"

/-- What a reader of it gives. -/
def garbledItems : List Item :=
  (Reader.ofSource garbledDump).items

/-- The blocks that come through, written without gaps. -/
def rewrittenText : String :=
  .ofList ((canonicalLines (blocksOf garbledItems)).flatMap (· ++ ['\n']))

theorem Reader.blocksOf_rewritten_garbled :
    (Reader.ofSource garbledDump).Gives garbledItems ∧
      (blocksOf garbledItems).map (fun block => (block.kind, block.fields.toList)) =
        [(.host, [("", "x\r y"), ("a ", "  b"), ("bad", "\uFFFD")]), (.service, [])] ∧
      (∀ block ∈ blocksOf garbledItems, block.IsWritable) ∧
      ∃ again : List Event,
        (Reader.ofSource (.ofBytes (Text.Utf8.encode rewrittenText))).Gives (again.map .ok) ∧
          blocksOf (again.map .ok) = blocksOf garbledItems ∧ ClosesAtOnce again := by
  have hgives : (Reader.ofSource garbledDump).Gives garbledItems := Reader.gives_items _
  obtain ⟨hwritable, hwrites, hagain⟩ := Reader.blocksOf_rewritten hgives
  have htext : EndsLines rewrittenText.toList (canonicalLines (blocksOf garbledItems)) := by
    left
    rw [rewrittenText, String.toList_ofList]
  have hbytes : (Source.ofBytes (Text.Utf8.encode rewrittenText)).bytes =
      Text.Utf8.encode rewrittenText := by simp [Source.ofBytes, Source.bytes]
  exact ⟨hgives, by decide +kernel, hwritable, hagain _ _ _ hwrites htext hbytes rfl⟩

end StatusDigest.Dump
