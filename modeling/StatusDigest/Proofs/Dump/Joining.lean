import StatusDigest.Proofs.Dump.Bracketing
import StatusDigest.Proofs.Dump.Reading
import StatusDigest.Proofs.Snapshot.Interleaving
import Mathlib

/-!
# Dumps put together

A dump may be cut into two behind a line feed. Reading the first part gives what reading the whole
gives up to there, and if no block is open at the cut, reading the second part gives the rest:

* `EndsAtFeed` is where a cut may be, and `linesOf_append` shows that no line goes on behind it;
* `NoneOpen` says of a text that its last marker has been followed by a brace, and
  `blockBefore_eq_none` that a reader has no block open at its end;
* `Source.Joins.pulled_joined` is the result, for the pulls of the three readers and for the
  snapshots that their events lead to.
-/

namespace StatusDigest.Dump

/-! ## Lines on both sides of a cut -/

/-- The octets end where a line ends: they are none, or the last of them is a line feed. -/
def EndsAtFeed (octets : List UInt8) : Prop :=
  octets = [] ∨ octets.getLast? = some lineFeed

/-- Octets with a line feed at their end are ended lines. -/
theorem linesOf_ended (octets : List UInt8) :
    linesOf (octets ++ [lineFeed]) = octets.splitOn lineFeed := by
  simp [linesOf, List.splitOn_append_cons_self]

/-- The pieces behind a line feed are those of the octets there. -/
theorem splitOn_append_of_endsAtFeed {octets : List UInt8} (hcut : EndsAtFeed octets)
    (more : List UInt8) :
    (octets ++ more).splitOn lineFeed = linesOf octets ++ more.splitOn lineFeed := by
  rcases hcut with rfl | hlast
  · simp [linesOf]
  · obtain ⟨body, rfl⟩ := List.getLast?_eq_some_iff.1 hlast
    rw [linesOf_ended, List.append_assoc]
    exact List.splitOn_append_cons_self body more

theorem linesOf_append {octets : List UInt8} (hcut : EndsAtFeed octets) (more : List UInt8) :
    linesOf (octets ++ more) = linesOf octets ++ linesOf more := by
  have hne := List.splitOn_ne_nil lineFeed more
  -- whether the last piece is a line is decided by the octets behind the cut
  rw [linesOf, linesOf.eq_1 more, splitOn_append_of_endsAtFeed hcut,
    List.getLast?_append_of_ne_nil _ hne, List.dropLast_append_of_ne_nil hne]
  split <;> rfl

theorem textsOf_append {octets : List UInt8} (hcut : EndsAtFeed octets) (more : List UInt8) :
    textsOf (octets ++ more) = textsOf octets ++ textsOf more := by
  rw [textsOf, linesOf_append hcut, List.map_append]
  rfl

/-! ## Events on both sides of a cut -/

/-- Behind some lines a reader goes on with the block that they leave open. -/
theorem eventsFrom_append (current : Option Block) (lines more : List Line) :
    eventsFrom current (lines ++ more) =
      eventsFrom current lines ++ eventsFrom (blockBefore current lines lines.length) more := by
  induction lines generalizing current with
  | nil => rfl
  | cons line rest ih =>
    have hopen : blockBefore current (line :: rest) (rest.length + 1) =
        blockBefore (line.apply current).2 rest rest.length := rfl
    rw [List.cons_append, eventsFrom_cons, eventsFrom_cons, ih, List.append_assoc,
      List.length_cons, hopen]

theorem blockBefore_append (current : Option Block) (lines more : List Line) :
    blockBefore current (lines ++ more) (lines ++ more).length =
      blockBefore (blockBefore current lines lines.length) more more.length := by
  simp only [blockBefore, List.take_length, List.foldl_append]

/-- No block is open at the end of the texts: their last marker, if there is any, is followed by a
brace. -/
def NoneOpen (texts : List (List Char)) : Prop :=
  ∀ (i : ℕ) (text : List Char), texts[i]? = some text → IsMarker text →
    (∀ (m : ℕ) (other : List Char), i < m → texts[m]? = some other → ¬ IsMarker other) →
      ∃ (m : ℕ) (other : List Char), i < m ∧ texts[m]? = some other ∧ Closes other

/-- A reader that has gone through such texts keeps no block. -/
theorem blockBefore_eq_none {texts : List (List Char)} (h : NoneOpen texts) :
    blockBefore none (texts.map Line.ofText) texts.length = none := by
  have htracks := tracks_blockBefore texts le_rfl
  cases hblock : blockBefore none (texts.map Line.ofText) texts.length with
  | none => rfl
  | some block =>
    -- the marker of a block that is kept would be the last, and no brace would follow it
    rw [hblock] at htracks
    obtain ⟨i, hopen, -⟩ := htracks
    obtain ⟨text, hline, hmarker⟩ := hopen.opened
    have hin : ∀ {m other}, texts[m]? = some other → m < texts.length := by
      intro m other hother
      exact (List.getElem?_eq_some_iff.1 hother).1
    obtain ⟨m, other, him, hother, hcloses⟩ := h i text hline ⟨block.kind, hmarker⟩ <| by
      intro m other him hother
      exact (hopen.unended m other him (hin hother) hother).1
    exact absurd hcloses (hopen.unended m other him (hin hother) hother).2

/-! ## Sources on both sides of a cut -/

/-- Pulling from the reader gives the items, one after the other, and then nothing any more. -/
def Reader.Gives (reader : Reader) (items : List Item) : Prop :=
  ∀ n, reader.pulled n = items[n]?

theorem Reader.gives_items (reader : Reader) : reader.Gives reader.items :=
  reader.pulled_eq_items

/-- From a source that ends well a reader gives events only. -/
theorem Reader.gives_events {source : Source} (hends : source.failure = none) :
    (Reader.ofSource source).Gives ((Reader.ofSource source).events.map .ok) := by
  rw [← Reader.items_ofSource hends]
  exact Reader.gives_items _

/-- A source delivers what two others deliver one after the other. The first of them ends where a
line ends, and all of them end well. -/
structure Source.Joins (whole first second : Source) : Prop where
  bytes : whole.bytes = first.bytes ++ second.bytes
  cut : EndsAtFeed first.bytes
  ends : whole.failure = none
  first_ends : first.failure = none
  second_ends : second.failure = none

namespace Source.Joins

variable {whole first second : Source}

/-- The events of the whole are those of the first part and those of the lines of the second part,
read with the block that the first part leaves open. -/
theorem events_ofSource (h : whole.Joins first second) :
    (Reader.ofSource whole).events = (Reader.ofSource first).events ++
      eventsFrom
        (blockBefore none ((textsOf first.bytes).map Line.ofText) (textsOf first.bytes).length)
        ((textsOf second.bytes).map Line.ofText) := by
  rw [Reader.events_ofSource h.ends, Reader.events_ofSource h.first_ends, h.bytes,
    textsOf_append h.cut, List.map_append, eventsFrom_append, List.length_map]

/-- What a reader of the first part gives is the beginning of what a reader of the whole gives. If
no block is open at the cut, a reader of the second part gives the rest of it, and the two parts,
one after the other, lead from every snapshot to the one that the whole leads to. -/
theorem pulled_joined (h : whole.Joins first second) :
    ∃ before after all : List Event,
      (Reader.ofSource first).Gives (before.map .ok) ∧
      (Reader.ofSource second).Gives (after.map .ok) ∧
      (Reader.ofSource whole).Gives (all.map .ok) ∧
      before <+: all ∧
      (NoneOpen (textsOf first.bytes) →
        all = before ++ after ∧
          ∀ (snapshot : Snapshot) (now : Int64),
            (snapshot.applyAll now before).applyAll now after = snapshot.applyAll now all) := by
  have hall := h.events_ofSource
  refine ⟨(Reader.ofSource first).events, (Reader.ofSource second).events,
    (Reader.ofSource whole).events, Reader.gives_events h.first_ends,
    Reader.gives_events h.second_ends, Reader.gives_events h.ends, ?_, ?_⟩
  · rw [hall]
    exact List.prefix_append _ _
  · intro hnone
    rw [blockBefore_eq_none hnone, ← Reader.events_ofSource h.second_ends] at hall
    refine ⟨hall, ?_⟩
    intro snapshot now
    rw [hall, Snapshot.applyAll_append]

end Source.Joins

/-- The first part of a dump: an abandoned host, a service, a stray brace and a character that is
cut off by the line feed at the end. -/
def firstPart : Source where
  chunks :=
    [Text.Utf8.encode "host \x7b\na=1\nservice \x7b\ncheck_laten",
      Text.Utf8.encode "cy=0.25\n\x7d\n\x7d\nb=2", [0xE2, 0x82, 0x0A]]

/-- The second part: a field outside of any block, and a program whose brace has no line feed. -/
def secondPart : Source where
  chunks := [[0xAC], Text.Utf8.encode "=3\nprogramstatus \x7b\nnagios_pid=7\n\x7d"]

/-- Both parts at once. -/
def wholeDump : Source :=
  .ofBytes (firstPart.bytes ++ secondPart.bytes)

theorem Source.Joins.pulled_joined_parts :
    wholeDump.Joins firstPart secondPart ∧ NoneOpen (textsOf firstPart.bytes) ∧
      ∃ before after all : List Event,
        (Reader.ofSource firstPart).Gives (before.map .ok) ∧
        (Reader.ofSource secondPart).Gives (after.map .ok) ∧
        (Reader.ofSource wholeDump).Gives (all.map .ok) ∧
        before <+: all ∧ all = before ++ after ∧
        ∀ (snapshot : Snapshot) (now : Int64),
          (snapshot.applyAll now before).applyAll now after = snapshot.applyAll now all := by
  have hjoins : wholeDump.Joins firstPart secondPart :=
    ⟨by simp [wholeDump, Source.ofBytes, Source.bytes], .inr (by decide +kernel), rfl, rfl, rfl⟩
  have hbrace : (textsOf firstPart.bytes)[4]? = some ['\x7d'] := by decide +kernel
  have hback : ∀ text ∈ (textsOf firstPart.bytes).drop 4, Kind.ofMarker? text = none := by
    decide +kernel
  have hnone : NoneOpen (textsOf firstPart.bytes) := by
    intro i text hline hmarker _
    refine ⟨4, ['\x7d'], ?_, hbrace, rfl⟩
    -- a marker behind the brace would be among the lines there
    by_contra hge
    have hmem : text ∈ (textsOf firstPart.bytes).drop 4 := by
      apply List.mem_of_getElem? (i := i - 4)
      rw [List.getElem?_drop, Nat.add_sub_cancel' (not_lt.1 hge), hline]
    obtain ⟨kind, hopens⟩ := hmarker
    have hread := hback text hmem
    rw [Kind.ofMarker?_eq_some_iff.2 hopens] at hread
    cases hread
  obtain ⟨before, after, all, hbefore, hafter, hall, hprefix, hrest⟩ := hjoins.pulled_joined
  obtain ⟨hsplit, hsnapshots⟩ := hrest hnone
  exact ⟨hjoins, hnone, before, after, all, hbefore, hafter, hall, hprefix, hsplit, hsnapshots⟩

end StatusDigest.Dump
