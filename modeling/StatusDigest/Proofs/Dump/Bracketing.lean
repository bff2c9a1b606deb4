import StatusDigest.Proofs.Dump.Lines
import Mathlib

/-!
# Every closed entry was opened

A host or service block is announced when it is opened, so that at any time no more such blocks
have been closed than announced, even after abandoned blocks and stray braces:

* `countP_opens_eventsFrom`: the announcements are exactly the marker lines;
* `countP_closes_le`: the bound, for every part of the events that starts at their beginning.
-/

namespace StatusDigest.Dump

/-- The event says that a block of the kind is opened. -/
def Event.opens (kind : Kind) : Event → Bool
  | .opened found => found = kind
  | .closed _ => false

/-- The block of the kind that the event closes, if it closes one. -/
def Event.closed? (kind : Kind) : Event → Option Block
  | .opened _ => none
  | .closed block => if block.kind = kind then some block else none

/-- The event closes a block of the kind. -/
def Event.closes (kind : Kind) (event : Event) : Bool :=
  (event.closed? kind).isSome

variable {kind : Kind}

theorem eventsFrom_cons (current : Option Block) (line : Line) (rest : List Line) :
    eventsFrom current (line :: rest) =
      (line.apply current).1.toList ++ eventsFrom (line.apply current).2 rest :=
  rfl

/-- A line gives one event at most. -/
theorem length_eventsFrom_le (current : Option Block) (lines : List Line) :
    (eventsFrom current lines).length ≤ lines.length := by
  induction lines generalizing current with
  | nil => simp [eventsFrom]
  | cons line rest ih =>
    have hfirst : (line.apply current).1.toList.length ≤ 1 := by
      cases (line.apply current).1 <;> simp
    have hrest := ih (line.apply current).2
    rw [eventsFrom_cons, List.length_append, List.length_cons]
    omega

/-- Every marker of a host or service is announced, and nothing else is. -/
theorem countP_opens_eventsFrom (hentry : kind.isEntry = true) (current : Option Block)
    (lines : List Line) :
    (eventsFrom current lines).countP (Event.opens kind) = lines.countP (· = .opening kind) := by
  induction lines generalizing current with
  | nil => rfl
  | cons line rest ih =>
    rw [eventsFrom_cons, List.countP_append, List.countP_cons, ih, Nat.add_comm]
    congr 1
    cases line with
    | opening found =>
      by_cases hfound : found = kind
      · subst hfound
        simp [Line.apply, hentry, Event.opens]
      · cases hfoundEntry : found.isEntry <;> simp [Line.apply, hfoundEntry, Event.opens, hfound]
    | closing => cases current <;> simp [Line.apply, Event.opens]
    | field key value => simp [Line.apply]
    | idle => simp [Line.apply]

/-- One if a block of the kind is open. -/
def isOpen (kind : Kind) (current : Option Block) : ℕ :=
  if current.map Block.kind = some kind then 1 else 0

theorem isOpen_some (kind : Kind) (block : Block) :
    isOpen kind (some block) = if block.kind = kind then 1 else 0 := by
  simp [isOpen]

/-- A line that leaves a block of the kind open, or closes one, either found it open or announces
it. -/
theorem isOpen_apply (hentry : kind.isEntry = true) (current : Option Block) (line : Line) :
    (line.apply current).1.toList.countP (Event.closes kind) + isOpen kind (line.apply current).2 ≤
      (line.apply current).1.toList.countP (Event.opens kind) + isOpen kind current := by
  cases line with
  | opening found =>
    by_cases hfound : found = kind
    · subst hfound
      simp [Line.apply, hentry, Event.opens, Event.closes, Event.closed?, isOpen_some]
    · cases hfoundEntry : found.isEntry <;>
        simp [Line.apply, hfoundEntry, Event.opens, Event.closes, Event.closed?, isOpen_some,
          hfound]
  | closing =>
    cases current with
    | none => simp [Line.apply]
    | some block =>
      by_cases hkind : block.kind = kind
      · simp [Line.apply, Event.opens, Event.closes, Event.closed?, isOpen, hkind]
      · simp [Line.apply, Event.opens, Event.closes, Event.closed?, isOpen, hkind]
  | field key value =>
    -- a field changes the block that is open, but not its kind
    have hsame : (current.map fun block => block.put key value).map Block.kind =
        current.map Block.kind := by cases current <;> rfl
    simp [Line.apply, isOpen, hsame]
  | idle => simp [Line.apply]

/-- Closed blocks were announced, but for the one that was open at the start. -/
theorem countP_closes_le (hentry : kind.isEntry = true) {current : Option Block} {lines : List Line}
    {part : List Event} (hpart : part <+: eventsFrom current lines) :
    part.countP (Event.closes kind) ≤ part.countP (Event.opens kind) + isOpen kind current := by
  induction lines generalizing current part with
  | nil =>
    rw [eventsFrom, List.prefix_nil] at hpart
    simp [hpart]
  | cons line rest ih =>
    have hstep := isOpen_apply hentry current line
    rw [eventsFrom_cons] at hpart
    -- a part that goes beyond this line has all of its event, and a shorter one is empty
    cases hevent : (line.apply current).1 with
    | none =>
      rw [hevent] at hpart hstep
      have hrest := ih hpart
      simp only [Option.toList_none, List.countP_nil] at hstep
      omega
    | some event =>
      rw [hevent] at hpart hstep
      rcases List.prefix_cons_iff.1 hpart with rfl | ⟨part', rfl, hpart'⟩
      · simp
      · have hrest := ih hpart'
        simp only [Option.toList_some, List.countP_cons, List.countP_nil] at hstep ⊢
        omega

end StatusDigest.Dump
