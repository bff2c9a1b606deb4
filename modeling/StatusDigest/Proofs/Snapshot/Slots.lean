import StatusDigest.Proofs.Dump.Reading
import StatusDigest.Proofs.Dump.Values
import StatusDigest.Proofs.Snapshot.Interleaving
import Mathlib

/-!
# What a snapshot keeps of the fields

What is known about the dump and about the daemon is kept in slots. Each slot belongs to one field
of the blocks of one kind, and keeps what the last closed block that mentions the field says, while
blocks that do not mention it leave the slot as it is:

* `Follows` is the step: how an event changes what is in a `Slot`;
* `slots` is the table of all slots, each with its field and its `Format`;
* `Slot.value_afterRun` is the run: a slot holds what is said last;
* `Slot.reachedBy_iff` says that nothing but its own field reaches a slot, and
  `Snapshot.eq_of_slots` that the slots are all there is;
* `Snapshot.slots_afterRun` is the result for all runs.
-/

namespace StatusDigest

open Decimal Stats Dump

/-! ## Mentions -/

/-- What an event says about a field of the blocks of a kind, if it closes one that has it. -/
def Dump.Event.says? (kind : Kind) (key : String) (event : Event) : Option String :=
  (event.closed? kind).bind fun block => block.get? key

theorem Dump.Event.says?_closed (kind : Kind) (key : String) (block : Block) :
    Event.says? kind key (.closed block) = if block.kind = kind then block.get? key else none := by
  rw [Event.says?, Event.closed?]
  split <;> rfl

theorem Dump.Event.says?_eq_some {kind : Kind} {key text : String} {event : Event} :
    event.says? kind key = some text ↔
      ∃ block, event = .closed block ∧ block.kind = kind ∧ block.get? key = some text := by
  cases event with
  | opened found => simp [Event.says?, Event.closed?]
  | closed block => simp [says?_closed]

/-- What the run says about the field, one after the other. -/
def said (kind : Kind) (key : String) (run : Run) : List String :=
  run.filterMap fun step => step.2.says? kind key

/-- No closed block of the kind has the field. -/
def Unmentioned (run : Run) (kind : Kind) (key : String) : Prop :=
  ∀ now block, (now, Event.closed block) ∈ run → block.kind = kind → block.get? key = none

/-- The text is the value of the field in the last closed block of the kind that has it. -/
def LastMention (run : Run) (kind : Kind) (key text : String) : Prop :=
  ∃ before now block after, run = before ++ (now, Event.closed block) :: after ∧
    block.kind = kind ∧ block.get? key = some text ∧ Unmentioned after kind key

section Said

variable {kind : Kind} {key : String}

theorem said_append (run more : Run) :
    said kind key (run ++ more) = said kind key run ++ said kind key more :=
  List.filterMap_append

theorem said_cons (now : Int64) (event : Event) (run : Run) :
    said kind key ((now, event) :: run) = (event.says? kind key).toList ++ said kind key run := by
  rw [said, List.filterMap_cons]
  cases event.says? kind key <;> rfl

theorem said_eq_nil_iff {run : Run} : said kind key run = [] ↔ Unmentioned run kind key := by
  rw [said, List.filterMap_eq_nil_iff]
  constructor
  · intro h now block hmem hkind
    have hsays := h _ hmem
    rwa [Event.says?_closed, if_pos hkind] at hsays
  · rintro h ⟨now, event⟩ hstep
    rw [Option.eq_none_iff_forall_ne_some]
    intro text hsays
    obtain ⟨block, rfl, hkind, hget⟩ := Event.says?_eq_some.1 hsays
    rw [h now block hstep hkind] at hget
    cases hget

theorem getLast?_said_eq_some_iff {run : Run} {text : String} :
    (said kind key run).getLast? = some text ↔ LastMention run kind key text := by
  rw [List.getLast?_eq_some_iff]
  constructor
  · -- what is said last is said by one event, behind which nothing is said
    rintro ⟨earlier, hsaid⟩
    obtain ⟨before, behind, rfl, -, hbehind⟩ := List.filterMap_eq_append_iff.1 hsaid
    obtain ⟨silent, ⟨now, event⟩, after, rfl, -, hsays, hafter⟩ :=
      List.filterMap_eq_cons_iff.1 hbehind
    obtain ⟨block, rfl, hkind, hget⟩ := Event.says?_eq_some.1 hsays
    refine ⟨before ++ silent, now, block, after, ?_, hkind, hget, said_eq_nil_iff.1 hafter⟩
    rw [List.append_assoc]
  · rintro ⟨before, now, block, after, rfl, hkind, hget, hafter⟩
    have hsays : Event.says? kind key (.closed block) = some text :=
      Event.says?_eq_some.2 ⟨block, rfl, hkind, hget⟩
    refine ⟨said kind key before, ?_⟩
    rw [said_append, said_cons, hsays, said_eq_nil_iff.2 hafter]
    rfl

end Said

/-! ## Slots -/

/-- How the value of a field is read, and what stands in its place before there is one. A malformed
value is read as if there were none, and some value is read as something else. -/
structure Format (Value : Type) where
  read : String → Value
  initial : Value
  IsMalformed : String → Prop
  read_malformed : ∀ text, IsMalformed text → read text = initial
  exists_read_ne : ∃ text, read text ≠ initial

namespace Format

/-- A number is malformed if it does not start with an integer. -/
def number : Format Int64 where
  read := Field.integer
  initial := 0
  IsMalformed text := ∀ found, found <+: Text.dropBlank text.toList → ¬ IsIntegerText found
  read_malformed _ h := Field.integerOf_eq_zero h
  exists_read_ne := ⟨"1", by decide⟩

/-- Rates are malformed if none of their pieces starts with an integer. -/
def rates : Format Rates where
  read text := .ofTriple (Field.triple text)
  initial := {}
  IsMalformed text := ∀ piece ∈ Field.filledPieces text,
    ∀ found, found <+: Text.dropBlank piece → ¬ IsIntegerText found
  read_malformed text h := by
    have hzero : ∀ i, (Field.integersOf text).getD i 0 = 0 := by
      intro i
      rw [Field.integersOf, List.getD_eq_getElem?_getD, List.getElem?_map]
      cases hpiece : (Field.filledPieces text)[i]? with
      | none => rfl
      | some piece => exact Field.integerOf_eq_zero (h piece (List.mem_of_getElem? hpiece))
    rw [Field.triple_eq_getD, hzero, hzero, hzero]
    rfl
  exists_read_ne := ⟨"1", by decide⟩

/-- Any text is as good as another. -/
def text : Format (Option String) where
  read := some
  initial := none
  IsMalformed _ := False
  read_malformed _ h := h.elim
  exists_read_ne := ⟨"", by simp⟩

end Format

/-- An event that mentions the field replaces the value by what it says, and any other event leaves
the value. -/
def Follows {α : Type} (value : Snapshot → α) (format : Format α) (kind : Kind) (key : String) :
    Prop :=
  ∀ (snapshot : Snapshot) (now : Int64) (event : Event),
    value (snapshot.apply now event) =
      ((event.says? kind key).map format.read).getD (value snapshot)

section Follows

variable {α : Type} {format : Format α} {key : String}

theorem follows_info {value : DumpInfo → α}
    (hupdate : ∀ (info : DumpInfo) (block : Block), value (info.update block.infoRecord) =
      ((block.get? key).map format.read).getD (value info)) :
    Follows (fun snapshot => value snapshot.info) format .info key := by
  intro snapshot now event
  dsimp only
  rw [Snapshot.info_apply]
  cases event with
  | opened found => rfl
  | closed block =>
    rw [Event.says?_closed, DumpInfo.follow]
    split
    · exact hupdate snapshot.info block
    · rfl

theorem follows_program {value : Program → α}
    (hupdate : ∀ (program : Program) (block : Block), value (program.update block.programRecord) =
      ((block.get? key).map format.read).getD (value program)) :
    Follows (fun snapshot => value snapshot.program) format .program key := by
  intro snapshot now event
  dsimp only
  rw [Snapshot.program_apply]
  cases event with
  | opened found => rfl
  | closed block =>
    rw [Event.says?_closed, Program.follow]
    split
    · exact hupdate snapshot.program block
    · rfl

end Follows

/-- A place in snapshots that is filled from a field of the blocks of a kind, and from nothing
else. -/
structure Slot where
  Value : Type
  format : Format Value
  kind : Kind
  key : String
  value : Snapshot → Value
  value_empty : value {} = format.initial
  follows : Follows value format kind key

namespace Slot

/-- A slot in what is known about the dump. -/
def ofInfo {α : Type} (format : Format α) (key : String) (value : DumpInfo → α)
    (hempty : value {} = format.initial := by rfl)
    (hupdate : ∀ (info : DumpInfo) (block : Block), value (info.update block.infoRecord) =
      ((block.get? key).map format.read).getD (value info) := by exact fun _ _ => rfl) : Slot where
  Value := α
  format := format
  kind := .info
  key := key
  value snapshot := value snapshot.info
  value_empty := hempty
  follows := follows_info hupdate

/-- A slot in what is known about the daemon. -/
def ofProgram {α : Type} (format : Format α) (key : String) (value : Program → α)
    (hempty : value {} = format.initial := by rfl)
    (hupdate : ∀ (program : Program) (block : Block), value (program.update block.programRecord) =
      ((block.get? key).map format.read).getD (value program) := by exact fun _ _ => rfl) :
    Slot where
  Value := α
  format := format
  kind := .program
  key := key
  value snapshot := value snapshot.program
  value_empty := hempty
  follows := follows_program hupdate

end Slot

theorem version_update (info : DumpInfo) (block : Block) :
    (info.update block.infoRecord).version =
      ((block.get? "version").map Format.text.read).getD info.version := by
  rw [DumpInfo.update, Block.infoRecord]
  cases block.get? "version" <;> rfl

open Slot in
/-- All slots, each with its field. -/
def slots : List Slot :=
  [ofInfo .number "created" (·.created),
   ofInfo .text "version" (·.version) rfl version_update,
   ofProgram .number "program_start" (·.start),
   ofProgram .number "nagios_pid" (·.pid),
   ofProgram .number "total_external_command_buffer_slots" (·.commandBuffer.total),
   ofProgram .number "used_external_command_buffer_slots" (·.commandBuffer.used),
   ofProgram .number "high_external_command_buffer_slots" (·.commandBuffer.high),
   ofProgram .number "total_check_result_buffer_slots" (·.checkResultBuffer.total),
   ofProgram .number "used_check_result_buffer_slots" (·.checkResultBuffer.used),
   ofProgram .number "high_check_result_buffer_slots" (·.checkResultBuffer.high),
   ofProgram .rates "active_scheduled_host_check_stats" (·.hostChecks.activeScheduled),
   ofProgram .rates "active_ondemand_host_check_stats" (·.hostChecks.activeOndemand),
   ofProgram .rates "cached_host_check_stats" (·.hostChecks.cached),
   ofProgram .rates "passive_host_check_stats" (·.hostChecks.passive),
   ofProgram .rates "parallel_host_check_stats" (·.hostChecks.parallel),
   ofProgram .rates "serial_host_check_stats" (·.hostChecks.serial),
   ofProgram .rates "active_scheduled_service_check_stats" (·.serviceChecks.activeScheduled),
   ofProgram .rates "active_ondemand_service_check_stats" (·.serviceChecks.activeOndemand),
   ofProgram .rates "cached_service_check_stats" (·.serviceChecks.cached),
   ofProgram .rates "passive_service_check_stats" (·.serviceChecks.passive),
   ofProgram .rates "external_command_stats" (·.externalCommands)]

/-- No field has two slots. -/
theorem pairwise_slots :
    slots.Pairwise fun first second => ¬ (first.kind = second.kind ∧ first.key = second.key) := by
  decide +kernel

/-! ## What a run does to a slot -/

namespace Slot

variable (slot : Slot)

/-- After a run a slot holds what is said last about its field. -/
theorem value_afterRun (run : Run) :
    slot.value (Snapshot.afterRun run) =
      ((said slot.kind slot.key run).getLast?.map slot.format.read).getD slot.format.initial := by
  -- a run grows at its end, one event at a time
  induction run using List.reverseRecOn with
  | nil => exact slot.value_empty
  | append_singleton run step ih =>
    have hstep : Snapshot.afterRun (run ++ [step]) =
        (Snapshot.afterRun run).apply step.1 step.2 := List.foldl_concat ..
    rw [hstep, slot.follows, said_append, said_cons, ih]
    cases step.2.says? slot.kind slot.key with
    | none => simp [said]
    | some text => simp [said]

/-- The value is what the last mention of the slot's field is read as, or the initial one without
a mention and for a malformed one. -/
structure Holds (run : Run) (value : slot.Value) : Prop where
  mentioned : ∀ text, LastMention run slot.kind slot.key text → value = slot.format.read text
  malformed : ∀ text, LastMention run slot.kind slot.key text → slot.format.IsMalformed text →
    value = slot.format.initial
  unmentioned : Unmentioned run slot.kind slot.key → value = slot.format.initial
  total : Unmentioned run slot.kind slot.key ∨ ∃ text, LastMention run slot.kind slot.key text

theorem holds_afterRun (run : Run) :
    slot.Holds run (slot.value (Snapshot.afterRun run)) := by
  have hmentioned : ∀ text, LastMention run slot.kind slot.key text →
      slot.value (Snapshot.afterRun run) = slot.format.read text := by
    intro text hlast
    rw [value_afterRun, getLast?_said_eq_some_iff.2 hlast]
    rfl
  refine ⟨hmentioned, ?_, ?_, ?_⟩
  · intro text hlast hmalformed
    rw [hmentioned text hlast, slot.format.read_malformed text hmalformed]
  · intro hunmentioned
    rw [value_afterRun, said_eq_nil_iff.2 hunmentioned]
    rfl
  · cases hsaid : (said slot.kind slot.key run).getLast? with
    | none => exact .inl (said_eq_nil_iff.1 (List.getLast?_eq_none_iff.1 hsaid))
    | some text => exact .inr ⟨text, getLast?_said_eq_some_iff.1 hsaid⟩

/-! ## What reaches a slot -/

/-- A change of this field of one closed block of the kind can make a difference to the slot. -/
def ReachedBy (kind : Kind) (key : String) : Prop :=
  ∃ before now block other after, block.kind = kind ∧ other.kind = kind ∧
    (∀ key', key' ≠ key → block.get? key' = other.get? key') ∧
    slot.value (Snapshot.afterRun (before ++ (now, .closed block) :: after)) ≠
      slot.value (Snapshot.afterRun (before ++ (now, .closed other) :: after))

/-- Nothing but its own field reaches a slot, and its own field does. -/
theorem reachedBy_iff (kind : Kind) (key : String) :
    slot.ReachedBy kind key ↔ kind = slot.kind ∧ key = slot.key := by
  constructor
  · rintro ⟨before, now, block, other, after, hblock, hother, hsame, hdiffers⟩
    by_contra hfield
    apply hdiffers
    -- both events say the same about the slot's own field, if they say anything
    have hsays : Event.says? slot.kind slot.key (.closed block) =
        Event.says? slot.kind slot.key (.closed other) := by
      rw [Event.says?_closed, Event.says?_closed, hblock, hother]
      split
      · rename_i hkind
        exact hsame slot.key fun hkey => hfield ⟨hkind, hkey.symm⟩
      · rfl
    rw [value_afterRun, value_afterRun, said_append, said_append, said_cons, said_cons,
      hsays]
  · rintro ⟨rfl, rfl⟩
    obtain ⟨text, hread⟩ := slot.format.exists_read_ne
    -- a block with nothing but the field, and the same block without it
    let empty : Block := { kind := slot.kind }
    refine ⟨[], 0, empty.put slot.key text, empty, [], rfl, rfl, ?_, ?_⟩
    · intro key hkey
      rw [Block.get?_put, if_neg hkey.symm]
    · have hempty : empty.get? slot.key = none := by simp [empty, Block.get?]
      have hput : (empty.put slot.key text).get? slot.key = some text := by
        rw [Block.get?_put, if_pos rfl]
      have hkind : (empty.put slot.key text).kind = slot.kind := rfl
      rw [value_afterRun, value_afterRun, List.nil_append, List.nil_append, said_cons,
        said_cons, Event.says?_closed, Event.says?_closed, hempty, if_pos hkind, hput]
      simpa [said] using hread

end Slot

namespace Snapshot

/-- The slots are all that is known about the dump and the daemon. -/
theorem eq_of_slots {first second : Snapshot}
    (h : ∀ slot ∈ slots, slot.value first = slot.value second) :
    first.info = second.info ∧ first.program = second.program := by
  rcases first with ⟨⟨⟩, ⟨_, _, ⟨⟩, ⟨⟩, ⟨⟩, ⟨⟩, _⟩, _, _⟩
  rcases second with ⟨⟨⟩, ⟨_, _, ⟨⟩, ⟨⟩, ⟨⟩, ⟨⟩, _⟩, _, _⟩
  simpa [slots, Slot.ofInfo, Slot.ofProgram, and_assoc] using h

/-- After every run each slot holds what the last mention of its own field is read as, and its
initial value without a mention. No other field reaches it, no field reaches two slots, and the
last mentions of the fields in the table are all that what is known about the dump and the daemon
depends on. -/
theorem slots_afterRun :
    (∀ run, ∀ slot ∈ slots, slot.Holds run (slot.value (afterRun run))) ∧
      (∀ slot ∈ slots, ∀ kind key, slot.ReachedBy kind key ↔ kind = slot.kind ∧ key = slot.key) ∧
      (slots.Pairwise fun first second =>
        ¬ (first.kind = second.kind ∧ first.key = second.key)) ∧
      ∀ first second : Run,
        (∀ slot ∈ slots, ∀ text, LastMention first slot.kind slot.key text ↔
          LastMention second slot.kind slot.key text) →
        (afterRun first).info = (afterRun second).info ∧
          (afterRun first).program = (afterRun second).program := by
  refine ⟨fun run slot _ => slot.holds_afterRun run, fun slot _ => slot.reachedBy_iff,
    pairwise_slots, ?_⟩
  intro first second hsame
  apply eq_of_slots
  intro slot hslot
  have hlast : (said slot.kind slot.key first).getLast? =
      (said slot.kind slot.key second).getLast? := by
    apply Option.ext
    intro text
    rw [getLast?_said_eq_some_iff, getLast?_said_eq_some_iff]
    exact hsame slot hslot text
  rw [Slot.value_afterRun, Slot.value_afterRun, hlast]

/-- Two program blocks, of which the second gives a malformed number and a field of another kind,
and an info block between them. -/
def overriddenRun : Run :=
  [(5, .closed (Block.put (Block.put { kind := .program } "program_start" "60") "nagios_pid" "7")),
   (5, .closed (Block.put { kind := .info } "version" "4.5")),
   (9, .closed (Block.put (Block.put { kind := .program } "nagios_pid" "x") "created" "9"))]

/-- The same with nothing but the last mentions. -/
def plainRun : Run :=
  [(0, .closed (Block.put { kind := .info } "version" "4.5")),
   (0, .closed (Block.put (Block.put { kind := .program } "nagios_pid" "x") "program_start" "60"))]

theorem slots_afterRun_overridden :
    (LastMention overriddenRun .program "nagios_pid" "x" ∧ Format.number.IsMalformed "x" ∧
        (afterRun overriddenRun).program.pid = 0) ∧
      (LastMention overriddenRun .program "program_start" "60" ∧
        (afterRun overriddenRun).program.start = 60) ∧
      (Unmentioned overriddenRun .info "created" ∧ (afterRun overriddenRun).info.created = 0) ∧
      (∀ slot ∈ slots, ∀ text, LastMention overriddenRun slot.kind slot.key text ↔
        LastMention plainRun slot.kind slot.key text) ∧
      (afterRun overriddenRun).info = (afterRun plainRun).info ∧
      (afterRun overriddenRun).program = (afterRun plainRun).program := by
  have hmalformed : Format.number.IsMalformed "x" := by
    rintro found ⟨tail, htext⟩ ⟨i, hfound⟩
    have hdigits := (hfound.read_append tail).1
    rw [htext] at hdigits
    exact hdigits (by decide)
  have hpid : LastMention overriddenRun .program "nagios_pid" "x" := by
    rw [← getLast?_said_eq_some_iff]
    decide
  have hstart : LastMention overriddenRun .program "program_start" "60" := by
    rw [← getLast?_said_eq_some_iff]
    decide
  have hcreated : Unmentioned overriddenRun .info "created" := by
    rw [← said_eq_nil_iff]
    decide
  have hsame : ∀ slot ∈ slots, ∀ text, LastMention overriddenRun slot.kind slot.key text ↔
      LastMention plainRun slot.kind slot.key text := by
    have hlast : ∀ slot ∈ slots, (said slot.kind slot.key overriddenRun).getLast? =
        (said slot.kind slot.key plainRun).getLast? := by
      simp only [slots, List.forall_mem_cons]
      decide +kernel
    intro slot hslot text
    rw [← getLast?_said_eq_some_iff, ← getLast?_said_eq_some_iff, hlast slot hslot]
  obtain ⟨hholds, -, -, hdepends⟩ := slots_afterRun
  have hread : Format.number.read "60" = 60 := by decide
  refine ⟨⟨hpid, hmalformed, ?_⟩, ⟨hstart, ?_⟩, ⟨hcreated, ?_⟩, hsame, hdepends _ _ hsame⟩
  · exact (hholds overriddenRun (.ofProgram .number "nagios_pid" (·.pid))
      (by simp [slots])).malformed "x" hpid hmalformed
  · exact ((hholds overriddenRun (.ofProgram .number "program_start" (·.start))
      (by simp [slots])).mentioned "60" hstart).trans hread
  · exact (hholds overriddenRun (.ofInfo .number "created" (·.created))
      (by simp [slots])).unmentioned hcreated

end Snapshot

end StatusDigest
