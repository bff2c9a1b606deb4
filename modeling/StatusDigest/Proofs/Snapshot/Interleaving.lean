import StatusDigest.Proofs.Snapshot.Folding
import Mathlib

/-!
# Blocks of different kinds do not interfere

A snapshot has one part for each kind of block. An event works on the part of its own kind, and
what it makes of that part depends on nothing else, so that the order in which blocks of different
kinds follow each other makes no difference:

* `Snapshot.part` is the part of a kind, and `Event.concerns` says which events work on it;
* `Snapshot.part_apply` and `Part.follow_of_not_concerns` are the step: an event works on each part
  by itself, and leaves the parts that it does not concern;
* `Snapshot.part_foldl` and `Snapshot.part_applyAll` are the run: each part goes through it by
  itself, and depends on the events that concern it and on nothing else;
* `Snapshot.applyAll_interleaved` is the result for all sequences of events.
-/

namespace StatusDigest

open Stats Dump

/-! ## Parts of a snapshot -/

/-- The event works on what a snapshot knows about the kind: it opens an entry of the kind, or
closes a block of the kind. Opening any other block has no effect. -/
def Dump.Event.concerns (kind : Kind) : Event → Bool
  | .opened found => decide (found = kind) && kind.isEntry
  | .closed block => decide (block.kind = kind)

/-- What a snapshot knows about the blocks of a kind. -/
abbrev Part : Kind → Type
  | .info => DumpInfo
  | .program => Program
  | .host => Hosts
  | .service => Services

namespace Snapshot

/-- The part of a snapshot that is about the blocks of a kind. -/
def part (snapshot : Snapshot) : (kind : Kind) → Part kind
  | .info => snapshot.info
  | .program => snapshot.program
  | .host => snapshot.hosts
  | .service => snapshot.services

/-- A snapshot consists of its four parts. -/
theorem eq_of_part {first second : Snapshot} (h : ∀ kind, first.part kind = second.part kind) :
    first = second := by
  obtain ⟨info, program, services, hosts⟩ := first
  obtain ⟨info', program', services', hosts'⟩ := second
  obtain rfl : info = info' := h .info
  obtain rfl : program = program' := h .program
  obtain rfl : services = services' := h .service
  obtain rfl : hosts = hosts' := h .host
  rfl

/-- The snapshot after a sequence of events, all of them seen from one time. -/
def applyAll (snapshot : Snapshot) (now : Int64) (events : List Event) : Snapshot :=
  events.foldl (fun snapshot event => snapshot.apply now event) snapshot

theorem applyAll_append (snapshot : Snapshot) (now : Int64) (events more : List Event) :
    snapshot.applyAll now (events ++ more) = (snapshot.applyAll now events).applyAll now more :=
  List.foldl_append

end Snapshot

/-! ## What an event does to each part -/

/-- What is known about the dump after one more event. -/
def DumpInfo.follow (info : DumpInfo) : Event → DumpInfo
  | .opened _ => info
  | .closed block => if block.kind = .info then info.update block.infoRecord else info

/-- What is known about the daemon after one more event. -/
def Program.follow (program : Program) : Event → Program
  | .opened _ => program
  | .closed block => if block.kind = .program then program.update block.programRecord else program

/-- The part of a kind after one more event. -/
def Part.follow (now : Int64) (event : Event) : (kind : Kind) → Part kind → Part kind
  | .info, info => DumpInfo.follow info event
  | .program, program => Program.follow program event
  | .host, hosts => Target.follow hosts .host now event
  | .service, services => Target.follow services .service now event

/-- An event leaves the parts that it does not concern. -/
theorem Part.follow_of_not_concerns {kind : Kind} {event : Event}
    (h : event.concerns kind = false) (now : Int64) (part : Part kind) :
    Part.follow now event kind part = part := by
  cases event with
  | opened found =>
    -- only entries are counted when they are opened
    cases kind with
    | info => rfl
    | program => rfl
    | host =>
      have hfound : found ≠ .host := by simpa [Event.concerns, Kind.isEntry] using h
      exact if_neg hfound
    | service =>
      have hfound : found ≠ .service := by simpa [Event.concerns, Kind.isEntry] using h
      exact if_neg hfound
  | closed block =>
    have hkind : block.kind ≠ kind := by simpa [Event.concerns] using h
    cases kind <;> exact if_neg hkind

namespace Snapshot

theorem info_apply (snapshot : Snapshot) (now : Int64) (event : Event) :
    (snapshot.apply now event).info = snapshot.info.follow event := by
  cases event with
  | opened kind => cases kind <;> rfl
  | closed block =>
    obtain ⟨kind, fields⟩ := block
    cases kind <;> rfl

theorem program_apply (snapshot : Snapshot) (now : Int64) (event : Event) :
    (snapshot.apply now event).program = snapshot.program.follow event := by
  cases event with
  | opened kind => cases kind <;> rfl
  | closed block =>
    obtain ⟨kind, fields⟩ := block
    cases kind <;> rfl

/-- An event works on each part by itself. -/
theorem part_apply (snapshot : Snapshot) (now : Int64) (event : Event) (kind : Kind) :
    (snapshot.apply now event).part kind = Part.follow now event kind (snapshot.part kind) := by
  cases kind with
  | info => exact info_apply snapshot now event
  | program => exact program_apply snapshot now event
  | host => exact hosts_apply snapshot now event
  | service => exact services_apply snapshot now event

/-! ## What a run does to each part -/

/-- Each part goes through a run by itself. -/
theorem part_foldl (snapshot : Snapshot) (now : Int64) (events : List Event) (kind : Kind) :
    (snapshot.applyAll now events).part kind =
      events.foldl (fun part event => Part.follow now event kind part) (snapshot.part kind) := by
  induction events generalizing snapshot with
  | nil => rfl
  | cons event rest ih =>
    rw [List.foldl_cons, ← part_apply]
    exact ih (snapshot.apply now event)

/-- A part after a run depends on the part before it and on the events that concern it, in their
order, and on nothing else. -/
theorem part_applyAll (snapshot : Snapshot) (now : Int64) (events : List Event) (kind : Kind) :
    (snapshot.applyAll now events).part kind =
      (events.filter (Event.concerns kind)).foldl
        (fun part event => Part.follow now event kind part) (snapshot.part kind) := by
  rw [part_foldl, List.foldl_filter]
  congr 1
  funext part event
  cases hconcerns : event.concerns kind with
  | true => rfl
  | false => exact Part.follow_of_not_concerns hconcerns now part

/-- A run in which no event concerns a part leaves it. -/
theorem part_applyAll_of_not_concerns {events : List Event} {kind : Kind}
    (h : ∀ event ∈ events, event.concerns kind = false) (snapshot : Snapshot) (now : Int64) :
    (snapshot.applyAll now events).part kind = snapshot.part kind := by
  have hnone : events.filter (Event.concerns kind) = [] := by
    rw [List.filter_eq_nil_iff]
    intro event hevent
    rw [h event hevent]
    exact Bool.false_ne_true
  rw [part_applyAll, hnone, List.foldl_nil]

/-- How the four kinds are interleaved makes no difference. Two sequences of events with the same
openings and closings of hosts, the same of services, the same closed info blocks and the same
closed program blocks lead from every snapshot to the same snapshot, and an event that does not
concern a part leaves it as it is. -/
theorem applyAll_interleaved (snapshot : Snapshot) (now : Int64) {first second : List Event}
    (hsame : ∀ kind,
      first.filter (Event.concerns kind) = second.filter (Event.concerns kind)) :
    snapshot.applyAll now first = snapshot.applyAll now second ∧
      ∀ (event : Event) (kind : Kind), event.concerns kind = false →
        (snapshot.apply now event).part kind = snapshot.part kind := by
  constructor
  · apply eq_of_part
    intro kind
    rw [part_applyAll, part_applyAll, hsame kind]
  · intro event kind hconcerns
    rw [part_apply, Part.follow_of_not_concerns hconcerns]

/-- A host and a service that are open at the same time, an info block closed between them, and the
openings of a program and of an info block that have no effect. -/
def nestedEvents : List Event :=
  [.opened .host, .opened .program, .opened .service,
   .closed (Block.put { kind := .info } "version" "4.5"),
   .closed (Block.put { kind := .service } "check_latency" "0.1"),
   .closed (Block.put { kind := .host } "percent_state_change" "6.25"), .opened .host,
   .closed (Block.put { kind := .info } "version" "5")]

/-- The same, one kind after the other. -/
def sortedEvents : List Event :=
  [.opened .info,
   .closed (Block.put { kind := .info } "version" "4.5"),
   .closed (Block.put { kind := .info } "version" "5"),
   .opened .service, .closed (Block.put { kind := .service } "check_latency" "0.1"),
   .opened .host, .closed (Block.put { kind := .host } "percent_state_change" "6.25"),
   .opened .host]

theorem applyAll_interleaved_nested :
    (∀ kind, nestedEvents.filter (Event.concerns kind) =
        sortedEvents.filter (Event.concerns kind)) ∧
      applyAll { info := { created := 7 } } 100 nestedEvents =
        applyAll { info := { created := 7 } } 100 sortedEvents ∧
      ∀ (event : Event) (kind : Kind), event.concerns kind = false →
        (apply { info := { created := 7 } } 100 event).part kind =
          part { info := { created := 7 } } kind := by
  have hsame : ∀ kind, nestedEvents.filter (Event.concerns kind) =
      sortedEvents.filter (Event.concerns kind) := by
    intro kind
    cases kind <;> rfl
  exact ⟨hsame, applyAll_interleaved { info := { created := 7 } } 100 hsame⟩

end Snapshot

end StatusDigest
