import StatusDigest.Proofs.Dump.Failing
import StatusDigest.Proofs.Text.Repair
import Mathlib

/-!
# Edits that a reader does not notice

Some changes to the lines of a dump make no difference to what a reader gives: padding around a
line, lines that say nothing anywhere, and any lines but markers where no block is open. What may
be changed depends on the open block, which a reader keeps to itself.

* `Silent` says which lines say nothing, wherever they stand; `Line.ofText_eq_idle_iff` shows that
  the reader takes just these for idle;
* `Edit` is one such change. `Edit.eventsFrom_eq` shows that both texts are read alike, because
  neither idle lines nor lines outside of blocks change the open block;
* `Source.IsMadeOf.pulled_edited` is the result for any number of changes, in both directions.
-/

namespace StatusDigest.Dump

/-! ## Lines that say nothing -/

/-- A stripped line that says nothing, wherever it stands. -/
inductive Silent (text : List Char) : Prop
  | empty (nothing : text = [])
  | comment (starts : text.head? = some '#')
  /-- Nothing follows the first equals sign. -/
  | valueless {key : List Char} (key_ends : '=' ∉ key) (cut : text = key ++ ['='])
  /-- There is no equals sign, and the line is neither a brace nor a marker. -/
  | keyless (uncut : '=' ∉ text) (closes : ¬ Closes text) (marker : ¬ IsMarker text)

/-- A line with an equals sign that is no field says nothing. -/
theorem silent_of_not_assigns {text : List Char} (hsign : '=' ∈ text)
    (hnone : ∀ key value, ¬ Assigns text key value) : Silent text := by
  obtain ⟨key, rest, htext, hkey⟩ := List.eq_append_cons_of_mem hsign
  by_cases hcomment : text.head? = some '#'
  · exact .comment hcomment
  cases rest with
  | nil => exact .valueless hkey htext
  | cons c value =>
    -- something follows the sign, so that the line would be a field
    refine absurd ⟨hcomment, ?_, ?_, ?_⟩ (hnone (String.ofList key) (String.ofList (c :: value)))
    · simpa using hkey
    · simp
    · simpa using htext

theorem Silent.not_assigns {text : List Char} (h : Silent text) (key value : String) :
    ¬ Assigns text key value := by
  intro hassigns
  cases h with
  | empty hnothing =>
    have hmem := hassigns.mem
    rw [hnothing] at hmem
    cases hmem
  | comment hstarts => exact hassigns.uncommented hstarts
  | @valueless before hbefore hcut =>
    -- the first equals sign is the last character, so that the value would be empty
    have hfirst := Text.cutFirst_append hbefore []
    rw [← hcut, hassigns.cut, Text.cutFirst_append hassigns.key_ends] at hfirst
    have hvalue : value.toList = [] := (Prod.mk.inj (Option.some.inj hfirst)).2
    exact hassigns.filled (String.toList_eq_nil_iff.1 hvalue)
  | keyless huncut _ _ => exact huncut hassigns.mem

theorem Silent.not_isMarker {text : List Char} (h : Silent text) : ¬ IsMarker text := by
  rintro ⟨kind, hopens⟩
  obtain ⟨hidle, -, hsign⟩ := hopens.shape
  cases h with
  | empty hnothing => simp [isIdle, hnothing] at hidle
  | comment hstarts => simp [isIdle, hstarts] at hidle
  | valueless _ hcut => exact hsign (by simp [hcut])
  | keyless _ _ hmarker => exact hmarker ⟨kind, hopens⟩

theorem Silent.not_closes {text : List Char} (h : Silent text) : ¬ Closes text := by
  intro hcloses
  have htext := closes_iff.1 hcloses
  cases h with
  | empty hnothing => simp [hnothing] at htext
  | comment hstarts => simp [htext] at hstarts
  | @valueless key _ hcut =>
    rw [htext] at hcut
    have hlast := congrArg List.getLast? hcut
    simp at hlast
  | keyless _ hother _ => exact hother hcloses

/-- The lines that a reader takes for idle are those that say nothing. -/
theorem Line.ofText_eq_idle_iff {text : List Char} : Line.ofText text = .idle ↔ Silent text := by
  constructor
  · intro hread
    obtain ⟨hmarker, hcloses, hassigns⟩ := shape_of_idle hread
    by_cases hsign : '=' ∈ text
    · exact silent_of_not_assigns hsign hassigns
    · exact .keyless hsign hcloses hmarker
  · intro h
    cases hread : Line.ofText text with
    | opening kind => exact absurd ⟨kind, Line.ofText_eq_opening_iff.1 hread⟩ h.not_isMarker
    | closing => exact absurd (Line.ofText_eq_closing_iff.1 hread) h.not_closes
    | field key value =>
      exact absurd (Line.ofText_eq_field_iff.1 hread) (h.not_assigns key value)
    | idle => rfl

/-! ## Edits -/

/-- Octets of padding that may stand at the ends of a line. -/
def IsPad (run : List UInt8) : Prop :=
  ∀ octet ∈ run, octet = 0x20 ∨ octet = 0x09 ∨ octet = 0x0D

/-- One change to the lines of a dump. Read backwards, it takes away what it adds. -/
inductive Edit : List (List UInt8) → List (List UInt8) → Prop
  /-- Padding is put around a line. -/
  | pad {before after : List (List UInt8)} {line left right : List UInt8} (hleft : IsPad left)
      (hright : IsPad right) :
      Edit (before ++ line :: after) (before ++ (left ++ line ++ right) :: after)
  /-- Lines that say nothing are put in anywhere. -/
  | silent {before inserted after : List (List UInt8)}
      (hsilent : ∀ line ∈ inserted, Silent (lineText line)) :
      Edit (before ++ after) (before ++ inserted ++ after)
  /-- Any lines but markers are put in where no block is open. -/
  | outside {before inserted after : List (List UInt8)} (hnone : NoneOpen (before.map lineText))
      (hunmarked : ∀ line ∈ inserted, ¬ IsMarker (lineText line)) :
      Edit (before ++ after) (before ++ inserted ++ after)

/-! ## Padding -/

theorem IsPad.toNat_le {run : List UInt8} (h : IsPad run) : ∀ octet ∈ run, octet.toNat ≤ 0x7F := by
  intro octet hoctet
  rcases h octet hoctet with rfl | rfl | rfl <;> decide

theorem IsPad.isPadding {run : List UInt8} (h : IsPad run) :
    ∀ c ∈ run.map (fun octet => Char.ofNat octet.toNat), isPadding c = true := by
  intro c hc
  obtain ⟨octet, hoctet, rfl⟩ := List.mem_map.1 hc
  rcases h octet hoctet with rfl | rfl | rfl <;> decide

/-- Stripping takes padding away again. -/
theorem lineText_padded {left right : List UInt8} (hleft : IsPad left) (hright : IsPad right)
    (line : List UInt8) : lineText (left ++ line ++ right) = lineText line := by
  rw [lineText, Text.Utf8.repair_append_right hright.toNat_le,
    Text.Utf8.repair_append_left hleft.toNat_le,
    Text.trimEnds_pad hleft.isPadding hright.isPadding]
  rfl

/-! ## Lines that are put in -/

/-- Idle lines give nothing, and leave the open block as it is. -/
theorem eventsFrom_idle {inserted : List Line} (hidle : ∀ line ∈ inserted, line = .idle)
    (current : Option Block) (rest : List Line) :
    eventsFrom current (inserted ++ rest) = eventsFrom current rest := by
  induction inserted with
  | nil => rfl
  | cons line inserted ih =>
    obtain rfl : line = .idle := hidle line List.mem_cons_self
    exact ih fun other hother => hidle other (List.mem_cons_of_mem _ hother)

/-- Where no block is open, lines that open none give nothing, and none is open behind them. -/
theorem eventsFrom_unopened {inserted : List Line}
    (hnone : ∀ line ∈ inserted, ∀ kind, line ≠ .opening kind) (rest : List Line) :
    eventsFrom none (inserted ++ rest) = eventsFrom none rest := by
  induction inserted with
  | nil => rfl
  | cons line inserted ih =>
    have hrest := ih fun other hother => hnone other (List.mem_cons_of_mem _ hother)
    cases line with
    | opening kind => exact absurd rfl (hnone _ List.mem_cons_self kind)
    | closing => exact hrest
    | field key value => exact hrest
    | idle => exact hrest

/-- An edit makes no difference to the events of the lines. -/
theorem Edit.eventsFrom_eq {lines edited : List (List UInt8)} (h : Edit lines edited) :
    eventsFrom none (lines.map Line.ofOctets) = eventsFrom none (edited.map Line.ofOctets) := by
  cases h with
  | @pad before after line left right hleft hright =>
    have hsame : Line.ofOctets (left ++ line ++ right) = Line.ofOctets line :=
      congrArg Line.ofText (lineText_padded hleft hright line)
    rw [List.map_append, List.map_append, List.map_cons, List.map_cons, hsame]
  | @silent before inserted after hsilent =>
    have hidle : ∀ line ∈ inserted.map Line.ofOctets, line = .idle := by
      intro line hline
      obtain ⟨octets, hoctets, rfl⟩ := List.mem_map.1 hline
      exact Line.ofText_eq_idle_iff.2 (hsilent octets hoctets)
    rw [List.append_assoc, List.map_append, List.map_append, List.map_append, eventsFrom_append,
      eventsFrom_append, eventsFrom_idle hidle]
  | @outside before inserted after hnone hunmarked =>
    have hopening : ∀ line ∈ inserted.map Line.ofOctets, ∀ kind, line ≠ .opening kind := by
      intro line hline kind hread
      obtain ⟨octets, hoctets, rfl⟩ := List.mem_map.1 hline
      exact hunmarked octets hoctets ⟨kind, Line.ofText_eq_opening_iff.1 hread⟩
    have hclosed : blockBefore none (before.map Line.ofOctets) (before.map Line.ofOctets).length =
        none := by
      have hbefore := blockBefore_eq_none hnone
      rwa [List.map_map, List.length_map, ← List.length_map] at hbefore
    rw [List.append_assoc, List.map_append, List.map_append, List.map_append, eventsFrom_append,
      eventsFrom_append, hclosed, eventsFrom_unopened hopening]

/-- Neither do any number of edits, made or undone. -/
theorem eventsFrom_edited {lines edited : List (List UInt8)}
    (h : Relation.EqvGen Edit lines edited) :
    eventsFrom none (lines.map Line.ofOctets) = eventsFrom none (edited.map Line.ofOctets) := by
  induction h with
  | rel _ _ hedit => exact hedit.eventsFrom_eq
  | refl _ => rfl
  | symm _ _ _ ih => exact ih.symm
  | trans _ _ _ _ _ ih ih' => exact ih.trans ih'

/-! ## Sources that are made of lines -/

/-- The source delivers the lines, each ended by a line feed, but for the last line perhaps if the
source ends well. In which chunks they arrive is left open. -/
structure Source.IsMadeOf (source : Source) (lines : List (List UInt8)) : Prop where
  unbroken : ∀ line ∈ lines, lineFeed ∉ line
  bytes : source.bytes = lines.flatMap (· ++ [lineFeed]) ∨
    source.failure = none ∧ source.bytes = [lineFeed].intercalate lines

/-- Ended lines are cut into themselves. -/
theorem linesOf_flatMap {lines : List (List UInt8)} (hlines : ∀ line ∈ lines, lineFeed ∉ line) :
    linesOf (lines.flatMap (· ++ [lineFeed])) = lines := by
  simp [linesOf, Text.splitOn_ended hlines]

theorem endsAtFeed_flatMap (lines : List (List UInt8)) :
    EndsAtFeed (lines.flatMap (· ++ [lineFeed])) := by
  rcases List.eq_nil_or_concat lines with rfl | ⟨rest, line, rfl⟩
  · exact .inl rfl
  · right
    simp

theorem upToLastFeed_of_endsAtFeed {octets : List UInt8} (h : EndsAtFeed octets) :
    upToLastFeed octets = octets := by
  rw [upToLastFeed, List.rdropWhile_eq_self_iff]
  intro hne
  rcases h with rfl | hlast
  · exact absurd rfl hne
  · rw [List.getLast?_eq_some_getLast hne, Option.some.injEq] at hlast
    simp [hlast]

/-- Lines between line feeds become ended lines with one more line feed. -/
theorem intercalate_ended {lines : List (List UInt8)} (hne : lines ≠ []) :
    [lineFeed].intercalate lines ++ [lineFeed] = lines.flatMap (· ++ [lineFeed]) := by
  induction lines with
  | nil => exact absurd rfl hne
  | cons line rest ih =>
    cases rest with
    | nil => simp
    | cons next rest =>
      rw [List.intercalate_cons_cons, List.append_assoc, ih (List.cons_ne_nil _ _)]
      simp

/-- A reader of the source gives the events of its lines. -/
theorem Source.IsMadeOf.events {source : Source} {lines : List (List UInt8)}
    (h : source.IsMadeOf lines) :
    (Reader.ofSource source).events = eventsFrom none (lines.map Line.ofOctets) := by
  have hread : ∀ octets, (textsOf octets).map Line.ofText =
      (linesOf octets).map Line.ofOctets := by
    intro octets
    rw [textsOf, List.map_map]
    rfl
  rcases h.bytes with hbytes | ⟨hends, hbytes⟩
  · cases hfailure : source.failure with
    | none =>
      rw [Reader.events_ofSource hfailure, hbytes, hread, linesOf_flatMap h.unbroken]
    | some reason =>
      rw [Reader.events_of_failure hfailure, hbytes,
        upToLastFeed_of_endsAtFeed (endsAtFeed_flatMap lines), hread, linesOf_flatMap h.unbroken]
  · -- without its line feed the last line is read as if it had been ended
    rw [Reader.events_ofSource hends, hbytes]
    by_cases hempty : lines = []
    · subst hempty
      rfl
    · rw [← eventsFrom_textsOf_ended, intercalate_ended hempty, hread,
        linesOf_flatMap h.unbroken]

/-! ## The result -/

/-- Two sources whose lines differ by edits, and which end alike, cannot be told apart by a
reader. -/
theorem Source.IsMadeOf.pulled_edited {source other : Source} {lines edited : List (List UInt8)}
    (hsource : source.IsMadeOf lines) (hother : other.IsMadeOf edited)
    (hends : source.failure = other.failure) (hedits : Relation.EqvGen Edit lines edited) (n : ℕ) :
    (Reader.ofSource source).pulled n = (Reader.ofSource other).pulled n := by
  have hfailure : (Reader.ofSource source).failure = (Reader.ofSource other).failure := by
    simp [Reader.ofSource, hends]
  rw [Reader.pulled_eq_items, Reader.pulled_eq_items, Reader.items, Reader.items, hsource.events,
    hother.events, eventsFrom_edited hedits, hfailure]

/-- A host whose only field ends in a broken character. -/
def hostLines : List (List UInt8) :=
  [Text.Utf8.encode "host \x7b", Text.Utf8.encode "a=b" ++ [0xC3], Text.Utf8.encode "\x7d"]

/-- A comment, a key without a value, and an opening brace alone. -/
def silentLines : List (List UInt8) :=
  [Text.Utf8.encode " #a=c", Text.Utf8.encode "a=", Text.Utf8.encode "\x7b"]

/-- A block of an unknown kind. -/
def unknownLines : List (List UInt8) :=
  [Text.Utf8.encode "contactstatus \x7b", Text.Utf8.encode "a=d", Text.Utf8.encode "\x7d"]

/-- The host with a field behind it. -/
def plainLines : List (List UInt8) :=
  hostLines ++ [Text.Utf8.encode "c=1"]

/-- The host with silent lines in it, with padding behind the broken character, and with the unknown
block in place of the field. -/
def editedLines : List (List UInt8) :=
  [Text.Utf8.encode "host \x7b"] ++ silentLines ++
    ([0x20, 0x09] ++ (Text.Utf8.encode "a=b" ++ [0xC3]) ++ [0x0D]) ::
      (Text.Utf8.encode "\x7d" :: unknownLines)

/-- The plain lines in two chunks, the last line without its line feed. -/
def plainDump : Source where
  chunks := [([lineFeed].intercalate plainLines).take 7, ([lineFeed].intercalate plainLines).drop 7]

/-- The edited lines at once, all of them ended. -/
def editedDump : Source :=
  .ofBytes (editedLines.flatMap (· ++ [lineFeed]))

theorem noneOpen_hostLines : NoneOpen (hostLines.map lineText) := by
  have hbrace : (hostLines.map lineText)[2]? = some ['\x7d'] := by decide +kernel
  intro i text hline hmarker _
  have hlt : i < hostLines.length := by
    simpa using (List.getElem?_eq_some_iff.1 hline).1
  -- the marker stands before the brace, which is none itself
  have hne : i ≠ 2 := by
    rintro rfl
    rw [hbrace] at hline
    obtain ⟨kind, hopens⟩ := hmarker
    exact hopens.shape.2.1 (closes_iff.2 (Option.some.inj hline).symm)
  refine ⟨2, ['\x7d'], ?_, hbrace, rfl⟩
  simp only [hostLines, List.length_cons, List.length_nil] at hlt
  omega

theorem eqvGen_plainLines : Relation.EqvGen Edit plainLines editedLines := by
  have hunmarked : ∀ lines : List (List UInt8),
      (∀ line ∈ lines, Kind.ofMarker? (lineText line) = none) →
        ∀ line ∈ lines, ¬ IsMarker (lineText line) := by
    rintro lines hnone line hline ⟨kind, hopens⟩
    have hread := hnone line hline
    rw [Kind.ofMarker?_eq_some_iff.2 hopens] at hread
    cases hread
  have hsilent : ∀ line ∈ silentLines, Silent (lineText line) := by
    have hidle : ∀ line ∈ silentLines, Line.ofText (lineText line) = .idle := by decide +kernel
    intro line hline
    exact Line.ofText_eq_idle_iff.1 (hidle line hline)
  have hremoved : Edit (hostLines ++ []) (hostLines ++ [Text.Utf8.encode "c=1"] ++ []) :=
    .outside noneOpen_hostLines (hunmarked _ (by decide +kernel))
  have hadded : Edit (hostLines ++ []) (hostLines ++ unknownLines ++ []) :=
    .outside noneOpen_hostLines (hunmarked _ (by decide +kernel))
  -- the field of the host, and the lines behind it
  set host := [Text.Utf8.encode "host \x7b"]
  set field := Text.Utf8.encode "a=b" ++ [0xC3]
  set rest := Text.Utf8.encode "\x7d" :: unknownLines
  have hpadded : Edit (host ++ field :: rest)
      (host ++ ([0x20, 0x09] ++ field ++ [0x0D]) :: rest) :=
    .pad (by simp [IsPad]) (by simp [IsPad])
  have hput : Edit (host ++ ([0x20, 0x09] ++ field ++ [0x0D]) :: rest)
      (host ++ silentLines ++ ([0x20, 0x09] ++ field ++ [0x0D]) :: rest) :=
    .silent hsilent
  exact .trans _ _ _ (.symm _ _ (.rel _ _ hremoved)) <| .trans _ _ _ (.rel _ _ hadded) <|
    .trans _ _ _ (.rel _ _ hpadded) (.rel _ _ hput)

theorem Source.IsMadeOf.pulled_edited_varied :
    plainDump.IsMadeOf plainLines ∧ editedDump.IsMadeOf editedLines ∧
      plainDump.failure = editedDump.failure ∧ Relation.EqvGen Edit plainLines editedLines ∧
      ∀ n, (Reader.ofSource plainDump).pulled n = (Reader.ofSource editedDump).pulled n := by
  have hplain : plainDump.IsMadeOf plainLines :=
    ⟨by decide +kernel, .inr ⟨rfl, by simp [plainDump, Source.bytes]⟩⟩
  have hedited : editedDump.IsMadeOf editedLines :=
    ⟨by decide +kernel, .inl (by simp [editedDump, Source.ofBytes, Source.bytes])⟩
  exact ⟨hplain, hedited, rfl, eqvGen_plainLines,
    hplain.pulled_edited hedited rfl eqvGen_plainLines⟩

end StatusDigest.Dump
