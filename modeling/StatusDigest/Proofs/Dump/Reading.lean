import StatusDigest.Proofs.Dump.Lines
import Mathlib

/-!
# What a reader hands out, read off the whole text

A reader goes through a dump line by line and keeps one block. The same items can be read off the
text without going through it:

* `OpenSince` and `LastAssigned` look back from a line to the marker that is still open there and
  to the fields since that marker; `Yields` says which event a line gives by them;
* `Tracks` is the invariant: the block that the reader keeps is the one that is open by `OpenSince`
  and holds the fields by `LastAssigned`. `Tracks.apply` shows that every line keeps it;
* `Reader.pulled_eq_yielded` is the result for all sources that end well.
-/

namespace StatusDigest.Dump

/-! ## Pulling again and again -/

/-- The reader after so many items have been pulled. -/
def Reader.after (reader : Reader) : ℕ → Reader
  | 0 => reader
  | n + 1 => reader.next.2.after n

/-- What the pull after `n` others gives. -/
def Reader.pulled (reader : Reader) (n : ℕ) : Option Item :=
  (reader.after n).next.1

/-- A reader that gives nothing has nothing left. -/
theorem Reader.items_next_of_none {reader : Reader} (h : reader.next.1 = none) :
    reader.next.2.items = [] := by
  obtain ⟨lines, failure, current⟩ := reader
  unfold Reader.next at *
  dsimp only at *
  induction lines generalizing current with
  | nil => rfl
  | cons line rest ih =>
    rcases happly : line.apply current with ⟨_ | event, after⟩
    · simp only [Reader.advance, happly] at h ⊢
      exact ih after h
    · simp [Reader.advance, happly] at h

/-- The pulls give the items one after the other, and nothing once they are used up. -/
theorem Reader.pulled_eq_items (reader : Reader) (n : ℕ) : reader.pulled n = reader.items[n]? := by
  induction n generalizing reader with
  | zero =>
    rw [Reader.items_next]
    cases hnext : reader.next.1 with
    | none => simp [Reader.pulled, Reader.after, hnext, Reader.items_next_of_none hnext]
    | some item => simp [Reader.pulled, Reader.after, hnext]
  | succ n ih =>
    have hstep : reader.pulled (n + 1) = reader.next.2.pulled n := rfl
    rw [hstep, ih, Reader.items_next reader]
    cases hnext : reader.next.1 with
    | none => simp [Reader.items_next_of_none hnext]
    | some item => simp

/-! ## The events of a run, line by line -/

/-- The block that is open before line `j`. -/
def blockBefore (current : Option Block) (lines : List Line) (j : ℕ) : Option Block :=
  (lines.take j).foldl (fun current line => (line.apply current).2) current

/-- The event that line `j` gives. -/
def eventAt (current : Option Block) (lines : List Line) (j : ℕ) : Option Event :=
  lines[j]?.bind fun line => (line.apply (blockBefore current lines j)).1

theorem eventsFrom_eq_filterMap (current : Option Block) (lines : List Line) :
    eventsFrom current lines = (List.range lines.length).filterMap (eventAt current lines) := by
  induction lines generalizing current with
  | nil => rfl
  | cons line rest ih =>
    have hfirst : eventAt current (line :: rest) 0 = (line.apply current).1 := rfl
    -- behind the first line, a run is the run of the rest from the block that is open there
    have hrest : eventAt current (line :: rest) ∘ Nat.succ =
        eventAt (line.apply current).2 rest := rfl
    rw [List.length_cons, List.range_succ_eq_map, List.filterMap_cons, List.filterMap_map, hrest,
      hfirst, ← ih]
    cases h : (line.apply current).1 <;> simp [eventsFrom, h]

theorem blockBefore_succ {current : Option Block} {lines : List Line} {j : ℕ} {line : Line}
    (hline : lines[j]? = some line) :
    blockBefore current lines (j + 1) = (line.apply (blockBefore current lines j)).2 := by
  rw [blockBefore, List.take_add_one, hline, List.foldl_append]
  rfl

/-! ## Looking back from a line -/

/-- Line `i` is a marker of the kind, and no line between it and line `j` ends its block. -/
structure OpenSince (texts : List (List Char)) (i j : ℕ) (kind : Kind) : Prop where
  before : i < j
  opened : ∃ text, texts[i]? = some text ∧ Opens text kind
  unended : ∀ m text, i < m → m < j → texts[m]? = some text → ¬ IsMarker text ∧ ¬ Closes text

/-- The last line between line `i` and line `j` that is a field of the key gives it the value. -/
def LastAssigned (texts : List (List Char)) (i j : ℕ) (key value : String) : Prop :=
  ∃ m text, i < m ∧ m < j ∧ texts[m]? = some text ∧ Assigns text key value ∧
    ∀ m' text', m < m' → m' < j → texts[m']? = some text' → ∀ other, ¬ Assigns text' key other

/-- Line `j` gives the event. -/
inductive Yields (texts : List (List Char)) (j : ℕ) : Event → Prop
  /-- A marker of a host or a service. -/
  | opened {text : List Char} {kind : Kind} (line : texts[j]? = some text)
      (opens : Opens text kind) (entry : kind.isEntry = true) : Yields texts j (.opened kind)
  /-- A brace that ends the block of a marker, with the fields since that marker. -/
  | closed {text : List Char} {i : ℕ} {block : Block} (line : texts[j]? = some text)
      (closes : Closes text) (since : OpenSince texts i j block.kind)
      (fields : ∀ key value, block.get? key = some value ↔ LastAssigned texts i j key value) :
      Yields texts j (.closed block)

variable {texts : List (List Char)} {i j : ℕ} {text : List Char} {kind : Kind}

/-- Only one marker is open before a line. -/
theorem OpenSince.unique {i' : ℕ} {kind' : Kind} (h : OpenSince texts i j kind)
    (h' : OpenSince texts i' j kind') : i = i' ∧ kind = kind' := by
  obtain ⟨text, hget, hopens⟩ := h.opened
  obtain ⟨text', hget', hopens'⟩ := h'.opened
  have hi : i = i' := by
    rcases lt_trichotomy i i' with hlt | heq | hgt
    · exact absurd ⟨kind', hopens'⟩ (h.unended i' text' hlt h'.before hget').1
    · exact heq
    · exact absurd ⟨kind, hopens⟩ (h'.unended i text hgt h.before hget).1
  subst hi
  rw [hget] at hget'
  cases hget'
  exact ⟨rfl, hopens.unique hopens'⟩

/-- A marker stays open over a line that is neither a marker nor a brace. -/
theorem OpenSince.succ (h : OpenSince texts i j kind) (hline : texts[j]? = some text)
    (hmarker : ¬ IsMarker text) (hcloses : ¬ Closes text) : OpenSince texts i (j + 1) kind := by
  refine ⟨Nat.lt_succ_of_lt h.before, h.opened, ?_⟩
  intro m other him hmj hget
  rcases Nat.lt_succ_iff_lt_or_eq.1 hmj with hlt | rfl
  · exact h.unended m other him hlt hget
  · rw [hline] at hget
    cases hget
    exact ⟨hmarker, hcloses⟩

/-- A marker that is open after a line that is none was open before that line. -/
theorem OpenSince.pred (h : OpenSince texts i (j + 1) kind) (hline : texts[j]? = some text)
    (hmarker : ¬ IsMarker text) : OpenSince texts i j kind := by
  obtain ⟨found, hget, hopens⟩ := h.opened
  have hne : i ≠ j := by
    rintro rfl
    rw [hline] at hget
    cases hget
    exact hmarker ⟨kind, hopens⟩
  have hlt : i < j := lt_of_le_of_ne (Nat.lt_succ_iff.1 h.before) hne
  refine ⟨hlt, h.opened, ?_⟩
  intro m other him hmj
  exact h.unended m other him (Nat.lt_succ_of_lt hmj)

/-- A line that is a field decides the value of its key. -/
theorem lastAssigned_succ_of_assigns {key value other : String} (hij : i < j)
    (hline : texts[j]? = some text) (hassigns : Assigns text key value) :
    LastAssigned texts i (j + 1) key other ↔ value = other := by
  constructor
  · rintro ⟨m, found, him, hmj, hget, hfound, hlast⟩
    rcases Nat.lt_succ_iff_lt_or_eq.1 hmj with hlt | rfl
    · exact absurd hassigns (hlast j text hlt (Nat.lt_succ_self j) hline value)
    · rw [hline] at hget
      cases hget
      exact (hassigns.unique hfound).2
  · rintro rfl
    refine ⟨j, text, hij, Nat.lt_succ_self j, hline, hassigns, ?_⟩
    intro m' _ hjm hmj
    omega

/-- A line that is no field of a key leaves the value of that key. -/
theorem lastAssigned_succ_of_not_assigns {key other : String} (hline : texts[j]? = some text)
    (hnone : ∀ value, ¬ Assigns text key value) :
    LastAssigned texts i (j + 1) key other ↔ LastAssigned texts i j key other := by
  constructor
  · rintro ⟨m, found, him, hmj, hget, hfound, hlast⟩
    rcases Nat.lt_succ_iff_lt_or_eq.1 hmj with hlt | rfl
    · refine ⟨m, found, him, hlt, hget, hfound, ?_⟩
      intro m' text' hmm hmj'
      exact hlast m' text' hmm (Nat.lt_succ_of_lt hmj')
    · rw [hline] at hget
      cases hget
      exact absurd hfound (hnone other)
  · rintro ⟨m, found, him, hmj, hget, hfound, hlast⟩
    refine ⟨m, found, him, Nat.lt_succ_of_lt hmj, hget, hfound, ?_⟩
    intro m' text' hmm hmj' hget'
    rcases Nat.lt_succ_iff_lt_or_eq.1 hmj' with hlt | rfl
    · exact hlast m' text' hmm hlt hget'
    · rw [hline] at hget'
      cases hget'
      exact hnone

/-! ## The invariant -/

/-- The block that is kept before line `j` is the one that is open there. -/
def Tracks (texts : List (List Char)) (j : ℕ) : Option Block → Prop
  | none => ∀ i kind, ¬ OpenSince texts i j kind
  | some block =>
    ∃ i, OpenSince texts i j block.kind ∧
      ∀ key value, block.get? key = some value ↔ LastAssigned texts i j key value

/-- Blocks are the same if they have the same kind and the same fields. -/
theorem Block.eq_of_get? {block other : Block} (hkind : block.kind = other.kind)
    (hfields : ∀ key value, block.get? key = some value ↔ other.get? key = some value) :
    block = other := by
  obtain ⟨kind, fields⟩ := block
  obtain ⟨kind', fields'⟩ := other
  obtain rfl : kind = kind' := hkind
  have : fields = fields' := by
    apply Std.ExtTreeMap.ext_getElem?
    intro key
    exact Option.ext (hfields key)
  rw [this]

theorem Block.get?_put (block : Block) (key value key' : String) :
    (block.put key value).get? key' = if key = key' then some value else block.get? key' := by
  simp [Block.get?, Block.put, Std.ExtTreeMap.getElem?_insert]

theorem tracks_zero (texts : List (List Char)) : Tracks texts 0 none := by
  intro i kind hopen
  exact absurd hopen.before (Nat.not_lt_zero i)

/-- A marker is open behind its own line, and no field has followed it yet. -/
theorem tracks_opening (hline : texts[j]? = some text) (hopens : Opens text kind) :
    Tracks texts (j + 1) (some { kind }) := by
  refine ⟨j, ⟨Nat.lt_succ_self j, ⟨text, hline, hopens⟩, ?_⟩, ?_⟩
  · intro m _ hjm hmj
    omega
  · intro key value
    constructor
    · intro hget
      simp [Block.get?] at hget
    · rintro ⟨m, _, hjm, hmj, -⟩
      omega

/-- No marker is open behind a brace, not even one in its own line. -/
theorem tracks_closing (hline : texts[j]? = some text) (hcloses : Closes text) :
    Tracks texts (j + 1) none := by
  intro i kind hopen
  have hmarker : ¬ IsMarker text := by
    rintro ⟨kind', hopens⟩
    exact hopens.shape.2.1 hcloses
  have hbefore := (hopen.pred hline hmarker).before
  exact (hopen.unended j text hbefore (Nat.lt_succ_self j) hline).2 hcloses

/-- A field goes into the block that is open, and decides the value of its key. -/
theorem Tracks.field {current : Option Block} {key value : String} (h : Tracks texts j current)
    (hline : texts[j]? = some text) (hassigns : Assigns text key value) :
    Tracks texts (j + 1) (current.map fun block => block.put key value) := by
  -- a field is neither a marker nor a brace, so that the same marker stays open
  have hmarker : ¬ IsMarker text := by
    rintro ⟨kind, hopens⟩
    exact hopens.shape.2.2 hassigns.mem
  cases current with
  | none =>
    intro i kind hopen
    exact h i kind (hopen.pred hline hmarker)
  | some block =>
    obtain ⟨i, hopen, hfields⟩ := h
    refine ⟨i, hopen.succ hline hmarker hassigns.shape.2.2, ?_⟩
    intro key' value'
    rw [Block.get?_put]
    by_cases hkey : key = key'
    · subst hkey
      rw [if_pos rfl, lastAssigned_succ_of_assigns hopen.before hline hassigns, Option.some.injEq]
    · have hnone : ∀ other, ¬ Assigns text key' other := by
        intro other hother
        exact hkey (hassigns.unique hother).1
      rw [if_neg hkey, lastAssigned_succ_of_not_assigns hline hnone]
      exact hfields key' value'

/-- A line that is neither a marker nor a brace nor a field changes nothing. -/
theorem Tracks.idle {current : Option Block} (h : Tracks texts j current)
    (hline : texts[j]? = some text) (hmarker : ¬ IsMarker text) (hcloses : ¬ Closes text)
    (hassigns : ∀ key value, ¬ Assigns text key value) : Tracks texts (j + 1) current := by
  cases current with
  | none =>
    intro i kind hopen
    exact h i kind (hopen.pred hline hmarker)
  | some block =>
    obtain ⟨i, hopen, hfields⟩ := h
    refine ⟨i, hopen.succ hline hmarker hcloses, ?_⟩
    intro key value
    rw [lastAssigned_succ_of_not_assigns hline (hassigns key)]
    exact hfields key value

/-- A line that says nothing is none of the three. -/
theorem shape_of_idle (hread : Line.ofText text = .idle) :
    ¬ IsMarker text ∧ ¬ Closes text ∧ ∀ key value, ¬ Assigns text key value := by
  refine ⟨?_, ?_, ?_⟩
  · rintro ⟨kind, hopens⟩
    rw [Line.ofText_eq_opening_iff.2 hopens] at hread
    cases hread
  · intro hcloses
    rw [Line.ofText_eq_closing_iff.2 hcloses] at hread
    cases hread
  · intro key value hassigns
    rw [Line.ofText_eq_field_iff.2 hassigns] at hread
    cases hread

/-- A line keeps the invariant, whatever it says. -/
theorem Tracks.apply {current : Option Block} (h : Tracks texts j current)
    (hline : texts[j]? = some text) :
    Tracks texts (j + 1) ((Line.ofText text).apply current).2 := by
  cases hread : Line.ofText text with
  | opening kind => exact tracks_opening hline (Line.ofText_eq_opening_iff.1 hread)
  | closing => exact tracks_closing hline (Line.ofText_eq_closing_iff.1 hread)
  | field key value => exact h.field hline (Line.ofText_eq_field_iff.1 hread)
  | idle =>
    obtain ⟨hmarker, hcloses, hassigns⟩ := shape_of_idle hread
    exact h.idle hline hmarker hcloses hassigns

/-- With the invariant, the event that a line gives is one that the whole text says it gives. -/
theorem Tracks.yields_of_apply {current : Option Block} {event : Event}
    (h : Tracks texts j current) (hline : texts[j]? = some text)
    (hevent : ((Line.ofText text).apply current).1 = some event) : Yields texts j event := by
  -- an event comes from a marker or from a brace
  cases hread : Line.ofText text with
  | opening kind =>
    rw [hread] at hevent
    by_cases hentry : kind.isEntry = true
    · simp only [Line.apply, hentry, if_true, Option.some.injEq] at hevent
      subst hevent
      exact .opened hline (Line.ofText_eq_opening_iff.1 hread) hentry
    · simp [Line.apply, hentry] at hevent
  | closing =>
    rw [hread] at hevent
    cases current with
    | none => simp [Line.apply] at hevent
    | some block =>
      simp only [Line.apply, Option.map_some, Option.some.injEq] at hevent
      subst hevent
      obtain ⟨i, hopen, hfields⟩ := h
      exact .closed hline (Line.ofText_eq_closing_iff.1 hread) hopen hfields
  | field key value => simp [hread, Line.apply] at hevent
  | idle => simp [hread, Line.apply] at hevent

/-- With the invariant, a line gives the event that the whole text says it gives. -/
theorem Tracks.apply_of_yields {current : Option Block} {event : Event}
    (h : Tracks texts j current) (hline : texts[j]? = some text) (hyields : Yields texts j event) :
    ((Line.ofText text).apply current).1 = some event := by
  cases hyields with
  | opened hline' hopens hentry =>
    rw [hline] at hline'
    cases hline'
    rw [Line.ofText_eq_opening_iff.2 hopens]
    simp [Line.apply, hentry]
  | closed hline' hcloses hopen' hfields' =>
    rw [hline] at hline'
    cases hline'
    rw [Line.ofText_eq_closing_iff.2 hcloses]
    cases current with
    | none => exact absurd hopen' (h _ _)
    | some block =>
      -- both blocks have been open since the same marker, and hold the same fields
      obtain ⟨i, hopen, hfields⟩ := h
      obtain ⟨rfl, hkind⟩ := hopen.unique hopen'
      have hsame := Block.eq_of_get? hkind fun key value =>
        (hfields key value).trans (hfields' key value).symm
      rw [hsame]
      rfl

/-- The invariant holds before every line. -/
theorem tracks_blockBefore (texts : List (List Char)) {j : ℕ} (hj : j ≤ texts.length) :
    Tracks texts j (blockBefore none (texts.map Line.ofText) j) := by
  induction j with
  | zero => exact tracks_zero texts
  | succ j ih =>
    have hlt : j < texts.length := hj
    have hline : texts[j]? = some texts[j] := List.getElem?_eq_getElem hlt
    have hread : (texts.map Line.ofText)[j]? = some (Line.ofText texts[j]) := by simp [hline]
    rw [blockBefore_succ hread]
    exact (ih hlt.le).apply hline

theorem Yields.exists_line {event : Event} (h : Yields texts j event) :
    ∃ text, texts[j]? = some text := by
  cases h with
  | opened hline => exact ⟨_, hline⟩
  | closed hline => exact ⟨_, hline⟩

theorem eventAt_eq_some_iff_yields {event : Event} :
    eventAt none (texts.map Line.ofText) j = some event ↔ Yields texts j event := by
  by_cases hj : j < texts.length
  · have hline : texts[j]? = some texts[j] := List.getElem?_eq_getElem hj
    have htracks := tracks_blockBefore texts hj.le
    have hgives : eventAt none (texts.map Line.ofText) j =
        ((Line.ofText texts[j]).apply (blockBefore none (texts.map Line.ofText) j)).1 := by
      simp [eventAt, hline]
    rw [hgives]
    exact ⟨htracks.yields_of_apply hline, htracks.apply_of_yields hline⟩
  · have hnone : texts[j]? = none := List.getElem?_eq_none (not_lt.1 hj)
    constructor
    · intro hevent
      simp [eventAt, hnone] at hevent
    · intro hyields
      obtain ⟨text, hline⟩ := hyields.exists_line
      rw [hnone] at hline
      cases hline

/-! ## The result -/

theorem Reader.events_ofSource {source : Source} (hends : source.failure = none) :
    (Reader.ofSource source).events = eventsFrom none ((textsOf source.bytes).map Line.ofText) := by
  rw [Reader.events, Reader.ofSource, Source.lines_eq_linesOf hends, textsOf, List.map_map]
  rfl

/-- A source that ends well gives what its text says: each line gives at most one event, which
`Yields` reads off the lines around it, the pulls give these events in the order of their lines,
and every further pull gives nothing. -/
theorem Reader.pulled_eq_yielded (source : Source) (hends : source.failure = none) :
    ∃ given : ℕ → Option Event,
      (∀ j event, given j = some event ↔ Yields (textsOf source.bytes) j event) ∧
        ∀ n, (Reader.ofSource source).pulled n =
          ((List.range (textsOf source.bytes).length).filterMap given)[n]?.map .ok := by
  refine ⟨eventAt none ((textsOf source.bytes).map Line.ofText), ?_, ?_⟩
  · intro j event
    exact eventAt_eq_some_iff_yields
  · intro n
    have hfailure : (Reader.ofSource source).failure = none := by simp [Reader.ofSource, hends]
    rw [Reader.pulled_eq_items, Reader.items, hfailure, Reader.events_ofSource hends,
      eventsFrom_eq_filterMap, List.length_map]
    simp

/-- A dump that arrives in the middle of a marker, abandons a block, and has fields and a brace
outside of any block. -/
def brokenDump : Source where
  chunks :=
    ["program \x7b\na=1\nservi",
      "ce \x7b \r\nb=x=y\n#c=1\nb=\n\x7d\nd=1\n\x7d\nhost \x7b"].map Text.Utf8.encode

theorem Reader.pulled_eq_yielded_broken :
    brokenDump.failure = none ∧
      ∃ given : ℕ → Option Event,
        (∀ j event, given j = some event ↔ Yields (textsOf brokenDump.bytes) j event) ∧
          ∀ n, (Reader.ofSource brokenDump).pulled n =
            ((List.range (textsOf brokenDump.bytes).length).filterMap given)[n]?.map .ok :=
  ⟨rfl, Reader.pulled_eq_yielded brokenDump rfl⟩

end StatusDigest.Dump
