import StatusDigest.Dump.Block
import StatusDigest.Dump.Line
import StatusDigest.Dump.Source
import StatusDigest.Failure

/-!
# Reading a dump

A reader hands out what it meets in a dump, one item at a time and in line order:

* an event when a host or service block is opened, so that entries are counted before any of
  their fields is read;
* an event when a block is closed, with its fields;
* one failure, if the source fails, after which nothing follows.

A block that is opened while another is open abandons that one, and a block that is open at the
end is dropped. `Reader.next` pulls one item; `Reader.items` are all of them.
-/

namespace StatusDigest.Dump

/-- What a reader meets in a dump. -/
inductive Event where
  /-- A host or service block was opened. -/
  | opened (kind : Kind)
  /-- A block was closed; its fields are final. -/
  | closed (block : Block)

/-- What a line does to the block that is open before it: the event that it gives, if any, and
the block that is open after it. -/
def Line.apply (current : Option Block) : Line → Option Event × Option Block
  | .opening kind => (if kind.isEntry then some (.opened kind) else none, some { kind })
  | .closing => (current.map .closed, none)
  | .field key value => (none, current.map fun block => block.put key value)
  | .idle => (none, current)

/-- One thing that a reader hands out. -/
abbrev Item := Except StatusFailure Event

/-- A reader in the middle of a dump: the lines to come, the failure that follows them, if any,
and the block that is open. -/
structure Reader where
  lines : List Line
  failure : Option StatusFailure := none
  current : Option Block := none

namespace Reader

/-- A reader at the start of a source. -/
def ofSource (source : Source) : Reader where
  lines := source.lines.map .ofOctets
  failure := source.failure.map .readFailed

/-- A reader that has nothing left to hand out. -/
def finished : Reader where
  lines := []

/-- Reads up to the next item, and gives it with the reader after it. -/
def advance (failure : Option StatusFailure) (current : Option Block) :
    List Line → Option Item × Reader
  | [] => (failure.map .error, finished)
  | line :: rest =>
    match line.apply current with
    | (some event, current) => (some (.ok event), { lines := rest, failure, current })
    | (none, current) => advance failure current rest

/-- The next item of a reader, and the reader after it. -/
def next (reader : Reader) : Option Item × Reader :=
  advance reader.failure reader.current reader.lines

end Reader

/-- The events of a sequence of lines, given the block that is open before it. -/
def eventsFrom (current : Option Block) : List Line → List Event
  | [] => []
  | line :: rest =>
    let (event, current) := line.apply current
    event.toList ++ eventsFrom current rest

namespace Reader

/-- The events that a reader still hands out. -/
def events (reader : Reader) : List Event :=
  eventsFrom reader.current reader.lines

/-- Everything that a reader still hands out: its events, and then its failure. -/
def items (reader : Reader) : List Item :=
  reader.events.map .ok ++ (reader.failure.map .error).toList

end Reader

/-- Pulling from a reader takes the first of its items and leaves the others. -/
theorem Reader.items_next (reader : Reader) :
    reader.items = reader.next.1.toList ++ reader.next.2.items := by
  obtain ⟨lines, failure, current⟩ := reader
  unfold Reader.next
  induction lines generalizing current with
  | nil => cases failure <;> rfl
  | cons line rest ih =>
    rcases h : line.apply current with ⟨_ | event, after⟩
    · simpa [Reader.items, Reader.events, eventsFrom, Reader.advance, h] using ih after
    · simp [Reader.items, Reader.events, eventsFrom, Reader.advance, h]

end StatusDigest.Dump
