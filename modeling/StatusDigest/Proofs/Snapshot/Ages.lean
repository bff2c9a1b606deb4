import StatusDigest.Proofs.Dump.Numbers
import StatusDigest.Proofs.Dump.Rewriting
import StatusDigest.Proofs.Mrtg.Names
import StatusDigest.Proofs.Snapshot.Interleaving
import Mathlib

/-!
# What depends on the time of looking

A dump is digested as it is seen from some time. Two digests of one dump, seen from two times,
differ in the windows of recent checks at most, and the windows count ages:

* `Snapshot.withoutWindows` is what a snapshot knows besides the windows.
  `Snapshot.withoutWindows_apply` is the step for two runs over the same events, seen from two
  times, and `Snapshot.withoutWindows_applyAll` is the run;
* `Moves` puts the times of all checks forward by the same number of seconds, or back.
  `Snapshot.apply_moved` shows that a check counts as before if it is looked at so much later;
* `Snapshot.ofSource_depends_on_ages` is the result.
-/

namespace StatusDigest

open Stats Dump Mrtg Decimal

/-! ## Two times, the same events -/

section Target

variable {τ : Type} [Tally τ]

/-- What is known of hosts or services besides the windows. -/
def Stats.Target.withoutWindows (target : Target τ) : Target τ :=
  { target with
    active := { target.active with windows := {} }
    passive := { target.passive with windows := {} } }

/-- Besides the windows, the time makes no difference to what a check adds. -/
theorem Stats.Target.withoutWindows_count (target : Target τ) (check : Check) (now later : Int64) :
    (target.count check now).withoutWindows =
      (target.withoutWindows.count check later).withoutWindows := by
  cases horigin : check.origin with
  | active =>
    simp only [Target.count, Target.countOrigin, horigin]
    rfl
  | passive =>
    simp only [Target.count, Target.countOrigin, horigin]
    rfl

theorem Stats.Target.withoutWindows_follow (target : Target τ) (kind : Kind) (event : Event)
    (now later : Int64) : (target.follow kind now event).withoutWindows =
      (target.withoutWindows.follow kind later event).withoutWindows := by
  cases event with
  | opened found =>
    by_cases hkind : found = kind
    · simp only [Target.follow, if_pos hkind]
      rfl
    · simp only [Target.follow, if_neg hkind]
      rfl
  | closed block =>
    by_cases hkind : block.kind = kind
    · simp only [Target.follow, if_pos hkind]
      exact target.withoutWindows_count block.check now later
    · simp only [Target.follow, if_neg hkind]
      rfl

/-- Statistics that agree besides the windows go on doing so. -/
theorem Stats.Target.follow_congr {first second : Target τ}
    (h : first.withoutWindows = second.withoutWindows) (kind : Kind) (event : Event)
    (now later : Int64) : (first.follow kind now event).withoutWindows =
      (second.follow kind later event).withoutWindows := by
  rw [first.withoutWindows_follow kind event now later, h,
    ← second.withoutWindows_follow kind event later later]

theorem Stats.Target.eq_of_withoutWindows {first second : Target τ}
    (h : first.withoutWindows = second.withoutWindows)
    (hactive : first.active.windows = second.active.windows)
    (hpassive : first.passive.windows = second.passive.windows) : first = second := by
  obtain ⟨_, _, _, _, ⟨_, _, _, _⟩, ⟨_, _, _⟩, _, _, _, _, _⟩ := first
  obtain ⟨_, _, _, _, ⟨_, _, _, _⟩, ⟨_, _, _⟩, _, _, _, _, _⟩ := second
  simp only [Target.withoutWindows, Target.mk.injEq, ActiveChecks.mk.injEq,
    PassiveChecks.mk.injEq] at h hactive hpassive ⊢
  simp_all

end Target

namespace Snapshot

/-- Everything that a snapshot knows besides the four windows. -/
def withoutWindows (snapshot : Snapshot) : Snapshot :=
  { snapshot with
    services := snapshot.services.withoutWindows
    hosts := snapshot.hosts.withoutWindows }

/-- Two snapshots agree besides the windows if their parts do. -/
theorem withoutWindows_eq_iff {first second : Snapshot} :
    first.withoutWindows = second.withoutWindows ↔
      first.info = second.info ∧ first.program = second.program ∧
        first.services.withoutWindows = second.services.withoutWindows ∧
          first.hosts.withoutWindows = second.hosts.withoutWindows := by
  simp [withoutWindows]

/-- Nothing but the windows is left out. -/
theorem eq_of_withoutWindows {first second : Snapshot}
    (h : first.withoutWindows = second.withoutWindows)
    (hwindows : ∀ subject origin,
      windowsOf first subject origin = windowsOf second subject origin) : first = second := by
  obtain ⟨hinfo, hprogram, hservices, hhosts⟩ := withoutWindows_eq_iff.1 h
  apply eq_of_part
  intro kind
  cases kind with
  | info => exact hinfo
  | program => exact hprogram
  | host =>
    exact Target.eq_of_withoutWindows hhosts (hwindows .hosts .active) (hwindows .hosts .passive)
  | service =>
    exact Target.eq_of_withoutWindows hservices (hwindows .services .active)
      (hwindows .services .passive)

/-- Snapshots that agree besides the windows still do so after one more event, from whatever times
the event is seen. -/
theorem withoutWindows_apply {first second : Snapshot}
    (h : first.withoutWindows = second.withoutWindows) (event : Event) (now later : Int64) :
    (first.apply now event).withoutWindows = (second.apply later event).withoutWindows := by
  obtain ⟨hinfo, hprogram, hservices, hhosts⟩ := withoutWindows_eq_iff.1 h
  rw [withoutWindows_eq_iff]
  refine ⟨?_, ?_, ?_, ?_⟩
  · rw [info_apply, info_apply, hinfo]
  · rw [program_apply, program_apply, hprogram]
  · rw [services_apply, services_apply]
    exact Target.follow_congr hservices .service event now later
  · rw [hosts_apply, hosts_apply]
    exact Target.follow_congr hhosts .host event now later

/-- They do so after every run. -/
theorem withoutWindows_applyAll {first second : Snapshot}
    (h : first.withoutWindows = second.withoutWindows) (events : List Event) (now later : Int64) :
    (first.applyAll now events).withoutWindows = (second.applyAll later events).withoutWindows := by
  induction events generalizing first second with
  | nil => exact h
  | cons event rest ih => exact ih (withoutWindows_apply h event now later)

/-- A source gives the same besides the windows, or fails in the same way, from all times. -/
theorem withoutWindows_ofSource (source : Source) (now later : Int64) :
    (ofSource source now).map withoutWindows = (ofSource source later).map withoutWindows := by
  cases hfailure : source.failure with
  | none =>
    have hdigest := (Source.answers_of_ends hfailure).digest
    rw [hdigest now, hdigest later]
    exact congrArg Except.ok (withoutWindows_applyAll rfl _ now later)
  | some reason =>
    rw [Dump.Snapshot.ofSource_of_failure hfailure now,
      Dump.Snapshot.ofSource_of_failure hfailure later]

end Snapshot

/-! ## Variables that do not show windows -/

/-- Only the counts within a window look at the windows. -/
theorem Mrtg.Variable.value_withoutWindows (snapshot : Snapshot) (now : Int64) {x : Variable}
    (hcount : ∀ count, x ≠ .windowCount count) :
    x.value snapshot.withoutWindows now = x.value snapshot now := by
  cases x with
  | fact x => cases x <;> rfl
  | statistic x =>
    obtain ⟨pick, gauge, subject⟩ := x
    cases gauge <;> cases subject <;> rfl
  | windowCount count => exact absurd rfl (hcount count)
  | rateCount x => rfl

/-- Every name but those of counts within a window is answered without looking at the windows. -/
theorem Snapshot.mrtgValue_withoutWindows (snapshot : Snapshot) {name : String}
    (hname : name ∉ documentedWindows) (now : Int64) :
    snapshot.withoutWindows.mrtgValue name now = snapshot.mrtgValue name now := by
  rw [mrtgValue, mrtgValue]
  cases hx : Variable.ofName? name with
  | none => rfl
  | some x =>
    apply Variable.value_withoutWindows snapshot now
    rintro count rfl
    -- a count within a window has a documented name
    have hcount : WindowCount.ofName? name = some count :=
      WindowCount.ofName?_eq_some_iff.2 (Variable.ofName?_eq_some_iff.1 hx)
    exact hname (isSome_windowCount_iff.1 (by rw [hcount]; rfl))

/-! ## The same ages, other times -/

theorem Stats.age?_eq_of_sub_eq {now later time moved : Int64}
    (h : later.toInt - moved.toInt = now.toInt - time.toInt) :
    age? later moved = age? now time := by
  rw [age?, age?, h]

section Moved

variable {check : Check} {now later moved : Int64}
  (h : later.toInt - moved.toInt = now.toInt - check.lastCheck.toInt)

include h

theorem Stats.Windows.recordCheck_moved (windows : Windows) :
    windows.recordCheck { check with lastCheck := moved } later =
      windows.recordCheck check now := by
  rw [Windows.recordCheck, Windows.recordCheck, age?_eq_of_sub_eq h]

theorem Stats.ActiveChecks.count_moved (checks : ActiveChecks) :
    checks.count { check with lastCheck := moved } later = checks.count check now := by
  simp only [ActiveChecks.count, checks.windows.recordCheck_moved h]

theorem Stats.PassiveChecks.count_moved (checks : PassiveChecks) :
    checks.count { check with lastCheck := moved } later = checks.count check now := by
  simp only [PassiveChecks.count, checks.windows.recordCheck_moved h]

/-- A check that ran at another time counts as before if its age is as before. -/
theorem Stats.Target.count_moved {τ : Type} [Tally τ] (target : Target τ) :
    target.count { check with lastCheck := moved } later = target.count check now := by
  have horigin : target.countOrigin { check with lastCheck := moved } later =
      target.countOrigin check now := by
    simp only [Target.countOrigin, target.active.count_moved h, target.passive.count_moved h]
  rw [Target.count, Target.count, horigin]
  rfl

end Moved

namespace Dump

/-- The time of a check stands in one field, and the other fields do not hang on it. -/
theorem Block.check_put_lastCheck (block : Block) (raw : String) :
    (block.put "last_check" raw).check = { block.check with lastCheck := Field.integer raw } := by
  simp [Block.check, Block.integer?, Block.get?_put]

theorem Block.infoRecord_put_lastCheck (block : Block) (raw : String) :
    (block.put "last_check" raw).infoRecord = block.infoRecord := by
  simp [Block.infoRecord, Block.integer?, Block.get?_put]

theorem Block.programRecord_put_lastCheck (block : Block) (raw : String) :
    (block.put "last_check" raw).programRecord = block.programRecord := by
  simp [Block.programRecord, Block.integer?, Block.rates?, Block.get?_put]

/-- The block with the time of its check moved by so many seconds. Blocks that are no checks may
have such a field too, and it may be moved or left, whatever it holds. -/
inductive Moves (seconds : ℤ) : Block → Block → Prop
  | check {block : Block} {raw : String} {time moved : Int64} (entry : block.kind.isEntry = true)
      (written : block.get? "last_check" = some raw)
      (denotes : DenotesInteger raw.toList time.toInt)
      (fits : moved.toInt = time.toInt + seconds) :
      Moves seconds block (block.put "last_check" (int64Text moved))
  | left {block : Block} (entry : block.kind.isEntry = false) : Moves seconds block block
  | unread {block : Block} {raw : String} (entry : block.kind.isEntry = false)
      (writable : Writable "last_check" raw) : Moves seconds block (block.put "last_check" raw)

theorem writable_lastCheck (n : Int64) : Writable "last_check" (int64Text n) := by
  have hkey : Writable "last_check" "0" := by decide
  exact hkey.numbers (isInteger_int64Text n).ne_nil fun c => inNumbers_of_mem_int64Text

theorem Moves.kind_eq {seconds : ℤ} {block moved : Block} (h : Moves seconds block moved) :
    moved.kind = block.kind := by
  cases h <;> rfl

theorem Moves.isWritable {seconds : ℤ} {block moved : Block} (h : Moves seconds block moved)
    (hblock : block.IsWritable) : moved.IsWritable := by
  cases h with
  | check _ _ _ _ => exact hblock.put (writable_lastCheck _)
  | left _ => exact hblock
  | unread _ writable => exact hblock.put writable

theorem isWritable_of_moves {seconds : ℤ} {blocks moved : List Block}
    (h : List.Forall₂ (Moves seconds) blocks moved)
    (hblocks : ∀ block ∈ blocks, block.IsWritable) : ∀ block ∈ moved, block.IsWritable := by
  induction h with
  | nil => exact hblocks
  | cons hfirst _ ih =>
    rw [List.forall_mem_cons] at hblocks ⊢
    exact ⟨hfirst.isWritable hblocks.1, ih hblocks.2⟩

/-- The source delivers the blocks, written in one of the ways in which they can be written. -/
structure Source.IsDumpOf (source : Source) (blocks : List Block) : Prop where
  written : ∃ (lines : List (List Char)) (text : String),
    Writes lines blocks ∧ EndsLines text.toList lines ∧ source.bytes = Text.Utf8.encode text
  ends : source.failure = none

end Dump

namespace Snapshot

/-- A dump of writable blocks is digested block by block. -/
theorem ofSource_of_isDumpOf {source : Source} {blocks : List Block} (h : source.IsDumpOf blocks)
    (hwritable : ∀ block ∈ blocks, block.IsWritable) (now : Int64) :
    ofSource source now = .ok (applyAll {} now (blocks.flatMap Block.events)) := by
  obtain ⟨lines, text, hwrites, htext, hbytes⟩ := h.written
  rw [(Source.answers_of_ends h.ends).digest now,
    hwrites.events_ofSource hwritable htext hbytes h.ends]

/-- Looked at so many seconds later, a block whose check has been moved by so many seconds says
what it said before. -/
theorem apply_moved {seconds : ℤ} {block moved : Block} (h : Moves seconds block moved)
    {now later : Int64} (hlater : later.toInt = now.toInt + seconds) (snapshot : Snapshot) :
    snapshot.apply later (.closed moved) = snapshot.apply now (.closed block) := by
  cases h with
  | @check raw time shifted entry written denotes fits =>
    -- the time that was read, and the time that is read
    have htime : block.check.lastCheck = time := by
      simp [Block.check, Block.integer?, written, Field.integer_of_denotes denotes]
    have hage : later.toInt - shifted.toInt = now.toInt - block.check.lastCheck.toInt := by
      rw [htime]
      omega
    have hcheck : (block.put "last_check" (int64Text shifted)).check =
        { block.check with lastCheck := shifted } := by
      rw [Block.check_put_lastCheck, Field.integer_int64Text]
    apply eq_of_part
    intro kind
    rw [part_apply, part_apply]
    cases kind with
    | info | program =>
      obtain ⟨kind, fields⟩ := block
      cases kind <;> first | rfl | cases entry
    | host | service =>
      simp only [Part.follow, Target.follow, hcheck, Target.count_moved hage]
      rfl
  | left entry =>
    obtain ⟨kind, fields⟩ := block
    cases kind <;> first | rfl | cases entry
  | @unread raw entry writable =>
    apply eq_of_part
    intro kind
    rw [part_apply, part_apply]
    cases kind with
    | info =>
      simp only [Part.follow, DumpInfo.follow, Block.infoRecord_put_lastCheck]
      rfl
    | program =>
      simp only [Part.follow, Program.follow, Block.programRecord_put_lastCheck]
      rfl
    | host | service =>
      obtain ⟨kind, fields⟩ := block
      cases kind <;> first | rfl | cases entry

theorem applyAll_events (snapshot : Snapshot) (now : Int64) (block : Block) :
    snapshot.applyAll now block.events =
      (if block.kind.isEntry then snapshot.countOpened block.kind else snapshot).apply now
        (.closed block) := by
  rw [Block.events]
  split <;> rfl

/-- So do all blocks together. -/
theorem applyAll_moved {seconds : ℤ} {blocks moved : List Block}
    (h : List.Forall₂ (Moves seconds) blocks moved) {now later : Int64}
    (hlater : later.toInt = now.toInt + seconds) (snapshot : Snapshot) :
    snapshot.applyAll later (moved.flatMap Block.events) =
      snapshot.applyAll now (blocks.flatMap Block.events) := by
  -- block by block: a block is opened as before, and then closed as before
  induction h generalizing snapshot with
  | nil => simp only [List.flatMap_nil, applyAll, List.foldl_nil]
  | cons hfirst _ ih =>
    rw [List.flatMap_cons, List.flatMap_cons, applyAll_append, applyAll_append, ih,
      applyAll_events, applyAll_events, hfirst.kind_eq, apply_moved hfirst hlater]

/-- A snapshot depends on the time of looking through the ages of checks only.

From two times, one source gives results that agree besides the windows, whether it fails or not,
so that every name that does not ask for the windows is answered alike. And if the times of all
checks in a dump are moved by some seconds, and the time of looking with them, then the dump gives
the same snapshot, windows and all. -/
theorem ofSource_depends_on_ages :
    (∀ (source : Source) (now later : Int64),
      (ofSource source now).map withoutWindows = (ofSource source later).map withoutWindows ∧
      ∀ first second, ofSource source now = .ok first → ofSource source later = .ok second →
        ∀ name ∉ documentedWindows, ∀ asked,
          first.mrtgValue name asked = second.mrtgValue name asked) ∧
    (∀ first second : Snapshot, first.withoutWindows = second.withoutWindows →
      (∀ subject origin, windowsOf first subject origin = windowsOf second subject origin) →
        first = second) ∧
    ∀ (blocks moved : List Block) (source other : Source) (now later : Int64) (seconds : ℤ),
      (∀ block ∈ blocks, block.IsWritable) → List.Forall₂ (Moves seconds) blocks moved →
        source.IsDumpOf blocks → other.IsDumpOf moved → later.toInt = now.toInt + seconds →
          ∃ snapshot, ofSource source now = .ok snapshot ∧ ofSource other later = .ok snapshot := by
  refine ⟨?_, fun first second => eq_of_withoutWindows, ?_⟩
  · intro source now later
    have hagree := withoutWindows_ofSource source now later
    refine ⟨hagree, ?_⟩
    intro first second hfirst hsecond name hname asked
    rw [hfirst, hsecond] at hagree
    have hsame : first.withoutWindows = second.withoutWindows := Except.ok.inj hagree
    rw [← first.mrtgValue_withoutWindows hname, hsame, second.mrtgValue_withoutWindows hname]
  · intro blocks moved source other now later seconds hwritable hmoves hsource hother hlater
    refine ⟨_, ofSource_of_isDumpOf hsource hwritable now, ?_⟩
    rw [ofSource_of_isDumpOf hother (isWritable_of_moves hmoves hwritable) later,
      applyAll_moved hmoves hlater]

/-- A passive host, a service whose time is written with a sign and a zero, and a block that is no
check. -/
def agedBlocks : List Block :=
  [Block.putAll { kind := .host } [("check_type", "1"), ("last_check", "-7")],
    Block.putAll { kind := .service } [("last_check", "+0290")],
    Block.putAll { kind := .program } [("last_check", "never")]]

/-- The same blocks with the times of the checks put forward by ten seconds. -/
def laterBlocks : List Block :=
  [Block.put (Block.putAll { kind := .host } [("check_type", "1"), ("last_check", "-7")])
      "last_check" (int64Text 3),
    Block.put (Block.putAll { kind := .service } [("last_check", "+0290")])
      "last_check" (int64Text 300),
    Block.putAll { kind := .program } [("last_check", "never")]]

/-- A dump of the blocks in their plainest spelling. -/
def plainDumpOf (blocks : List Block) : Source :=
  .ofBytes (Text.Utf8.encode (.ofList ((canonicalLines blocks).flatMap (· ++ ['\n']))))

theorem isDumpOf_plainDumpOf (blocks : List Block) : (plainDumpOf blocks).IsDumpOf blocks := by
  have hbytes : (plainDumpOf blocks).bytes =
      Text.Utf8.encode (.ofList ((canonicalLines blocks).flatMap (· ++ ['\n']))) := by
    simp [plainDumpOf, Source.ofBytes, Source.bytes]
  exact ⟨⟨_, _, writes_canonicalLines blocks, .inl String.toList_ofList, hbytes⟩, rfl⟩

theorem ofSource_depends_on_ages_moved :
    (∀ block ∈ agedBlocks, block.IsWritable) ∧
      List.Forall₂ (Moves 10) agedBlocks laterBlocks ∧
      ∃ snapshot, ofSource (plainDumpOf agedBlocks) 300 = .ok snapshot ∧
        ofSource (plainDumpOf laterBlocks) 310 = .ok snapshot ∧
        windowsOf snapshot .hosts .passive = { last15 := 1, last60 := 1 } ∧
        windowsOf snapshot .services .active =
          { last1 := 1, last5 := 1, last15 := 1, last60 := 1 } := by
  have hwritable : ∀ block ∈ agedBlocks, block.IsWritable := by
    simp only [agedBlocks, List.forall_mem_cons]
    refine ⟨?_, ?_, ?_, by simp⟩
    · exact ((Block.isWritable_empty _).put (by decide)).put (by decide)
    · exact (Block.isWritable_empty _).put (by decide)
    · exact (Block.isWritable_empty _).put (by decide)
  have hhost : DenotesInteger "-7".toList (-7 : Int64).toInt := by
    have htext : integerText (-7) = "-7" := by decide +kernel
    rw [← htext]
    exact denotesInteger_integerText (-7)
  have hservice : DenotesInteger "+0290".toList (290 : Int64).toInt := by
    have hdigits : IsDigits ['0', '2', '9', '0'] := ⟨by decide, by simp⟩
    have hvalue : signed false (placeValue ['0', '2', '9', '0']) = 290 := by
      rw [← ofDigits_eq_placeValue]
      decide
    have hdenotes := DenotesInteger.mk .plus hdigits
    rwa [hvalue] at hdenotes
  have hmoves : List.Forall₂ (Moves 10) agedBlocks laterBlocks :=
    .cons (.check rfl (by decide +kernel) hhost rfl) <|
      .cons (.check rfl (by decide +kernel) hservice rfl) <|
        .cons (.left rfl) .nil
  obtain ⟨snapshot, hnow, hlater⟩ := ofSource_depends_on_ages.2.2 agedBlocks laterBlocks
    (plainDumpOf agedBlocks) (plainDumpOf laterBlocks) 300 310 10 hwritable hmoves
    (isDumpOf_plainDumpOf _) (isDumpOf_plainDumpOf _) rfl
  have hwindows : (ofSource (plainDumpOf agedBlocks) 300).map
      (fun snapshot => (windowsOf snapshot .hosts .passive, windowsOf snapshot .services .active)) =
        .ok ({ last15 := 1, last60 := 1 },
          { last1 := 1, last5 := 1, last15 := 1, last60 := 1 }) := by
    decide +kernel
  rw [hnow] at hwindows
  obtain ⟨hhosts, hservices⟩ := Prod.mk.inj (Except.ok.inj hwindows)
  exact ⟨hwritable, hmoves, snapshot, hnow, hlater, hhosts, hservices⟩

end Snapshot

end StatusDigest
