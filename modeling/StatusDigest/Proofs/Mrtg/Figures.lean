import StatusDigest.Proofs.Dump.Failing
import StatusDigest.Proofs.Dump.LastBlock
import StatusDigest.Proofs.Dump.Numbers
import StatusDigest.Proofs.Mrtg.Names
import StatusDigest.Proofs.Stats.Clamping
import Mathlib

/-!
# From the daemon to the answers

The daemon writes figures about itself into its block, and each of them is answered under a name.
On its way from a key of the block to a name no figure is lost or taken for another:

* `numberNames`, `rateNames` and `totalNames` say which figures are answered under which names;
* `Figures.WrittenIn` says that some texts write figures, and `Block.Tells` that a block holds
  them. `Snapshot.showsFigures_of_tells` goes from the block to the answers;
* `Snapshot.ofSource_showsFigures` is the result for a dump with anything around the block, but
  for a further block of the daemon behind it.
-/

namespace StatusDigest

open Decimal Dump Mrtg Stats

/-! ## Keys and names -/

/-- What the daemon says about itself, by the keys of its block. -/
structure Figures where
  number : String → Int64
  rates : String → Rates

/-- The numbers that are answered as they are: their keys, and the names of the answers. -/
def numberNames : List (String × String) :=
  [("nagios_pid", "NAGIOSPID"),
   ("total_external_command_buffer_slots", "TOTCMDBUF"),
   ("used_external_command_buffer_slots", "USEDCMDBUF"),
   ("high_external_command_buffer_slots", "HIGHCMDBUF")]

/-- The keys of numbers, with that of the time when the daemon was started. -/
def numberKeys : List String :=
  "program_start" :: numberNames.map Prod.fst

/-- The rates that are answered as they are: their keys, and the letters in the names of the
answers. -/
def rateNames : List (String × String) :=
  [("active_scheduled_host_check_stats", "SACTHSTCHECKS"),
   ("active_ondemand_host_check_stats", "OACTHSTCHECKS"),
   ("parallel_host_check_stats", "PARHSTCHECKS"),
   ("serial_host_check_stats", "SERHSTCHECKS"),
   ("passive_host_check_stats", "PSVHSTCHECKS"),
   ("cached_host_check_stats", "CACHEDHSTCHECKS"),
   ("active_scheduled_service_check_stats", "SACTSVCCHECKS"),
   ("active_ondemand_service_check_stats", "OACTSVCCHECKS"),
   ("passive_service_check_stats", "PSVSVCCHECKS"),
   ("cached_service_check_stats", "CACHEDSVCCHECKS"),
   ("external_command_stats", "EXTCMDS")]

/-- The keys of rates. -/
def rateKeys : List String :=
  rateNames.map Prod.fst

/-- The rates that are answered as a sum: the two keys, and the letters in the names of the
answers. Cached checks are in neither of them. -/
def totalNames : List (String × String × String) :=
  [("active_scheduled_host_check_stats", "active_ondemand_host_check_stats", "ACTHSTCHECKS"),
   ("active_scheduled_service_check_stats", "active_ondemand_service_check_stats",
    "ACTSVCCHECKS")]

/-- The ends of the names of rates, and which of the three counts they stand for. -/
def spanNames : List (String × (Rates → Int64)) :=
  [("1M", Rates.last1), ("5M", Rates.last5), ("15M", Rates.last15)]

/-- The figures are written in some texts: behind the first of them, the last field of each key
has the decimal text of its figure. -/
structure Figures.WrittenIn (figures : Figures) (texts : List (List Char)) : Prop where
  number : ∀ key ∈ numberKeys,
    LastAssigned texts 0 texts.length key (int64Text (figures.number key))
  rates : ∀ key ∈ rateKeys, LastAssigned texts 0 texts.length key (figures.rates key).text

/-- The figures are answered under their names. Sums and times are clamped to signed words, and no
time is negative. -/
structure Snapshot.ShowsFigures (snapshot : Snapshot) (now : Int64) (figures : Figures) : Prop where
  number : ∀ key name, (key, name) ∈ numberNames →
    snapshot.mrtgValue name now = int64Text (figures.number key)
  running : snapshot.mrtgValue "PROGRUNTIMETT" now =
    integerText (min (max 0 (now.toInt - (figures.number "program_start").toInt))
      Int64.maxValue.toInt)
  rates : ∀ key letters, (key, letters) ∈ rateNames → ∀ span count, (span, count) ∈ spanNames →
    snapshot.mrtgValue ("NUM" ++ letters ++ span) now = int64Text (count (figures.rates key))
  total : ∀ scheduled ondemand letters, (scheduled, ondemand, letters) ∈ totalNames →
    ∀ span count, (span, count) ∈ spanNames →
      snapshot.mrtgValue ("NUM" ++ letters ++ span) now =
        integerText (max Int64.minValue.toInt (min Int64.maxValue.toInt
          ((count (figures.rates scheduled)).toInt + (count (figures.rates ondemand)).toInt)))

/-! ## Writing figures -/

namespace Figures

variable {figures : Figures}

/-- A field for each figure. -/
def fields (figures : Figures) : List (String × String) :=
  numberKeys.map (fun key => (key, int64Text (figures.number key))) ++
    rateKeys.map fun key => (key, (figures.rates key).text)

/-- A figure fits in a line, whatever its key is. -/
theorem writable_of_inNumbers {key value : String} (hkey : key ∈ numberKeys ++ rateKeys)
    (hfilled : value.toList ≠ []) (hvalue : ∀ c ∈ value.toList, InNumbers c) :
    Writable key value := by
  have hkeys : ∀ key ∈ numberKeys ++ rateKeys, Writable key "0" := by decide +kernel
  exact (hkeys key hkey).numbers hfilled hvalue

theorem writable_fields (figures : Figures) :
    ∀ field ∈ figures.fields, Writable field.1 field.2 := by
  intro field hfield
  rcases List.mem_append.1 hfield with hmem | hmem
  · obtain ⟨key, hkey, rfl⟩ := List.mem_map.1 hmem
    exact writable_of_inNumbers (List.mem_append_left _ hkey) (isInteger_int64Text _).ne_nil
      fun c => inNumbers_of_mem_int64Text
  · obtain ⟨key, hkey, rfl⟩ := List.mem_map.1 hmem
    exact writable_of_inNumbers (List.mem_append_right _ hkey) (Rates.text_ne_nil _)
      fun c => Rates.inNumbers_of_mem_text

/-- The figures are written in a written block that has their fields among its own. -/
theorem writtenIn_written {marker : String} {fields : List (String × String)}
    (hkeys : fields.Pairwise fun a b => a.1 ≠ b.1)
    (hwritable : ∀ field ∈ fields, Writable field.1 field.2) (hfields : figures.fields ⊆ fields) :
    figures.WrittenIn (marker.toList :: fields.map fieldText) := by
  constructor
  · intro key hkey
    apply lastAssigned_written hkeys hwritable
    exact hfields (List.mem_append_left _ (List.mem_map.2 ⟨key, hkey, rfl⟩))
  · intro key hkey
    apply lastAssigned_written hkeys hwritable
    exact hfields (List.mem_append_right _ (List.mem_map.2 ⟨key, hkey, rfl⟩))

end Figures

/-! ## What the block of the daemon says -/

/-- The block holds the texts of the figures. -/
structure Dump.Block.Tells (block : Block) (figures : Figures) : Prop where
  number : ∀ key ∈ numberKeys, block.get? key = some (int64Text (figures.number key))
  rates : ∀ key ∈ rateKeys, block.get? key = some (figures.rates key).text

namespace Dump.Block.Tells

variable {block : Block} {figures : Figures} {key letters name : String}

/-- A number of the block stands for whatever was known before. -/
theorem getD_integer? (h : block.Tells figures) (hkey : key ∈ numberKeys) (known : Int64) :
    (block.integer? key).getD known = figures.number key := by
  rw [Block.integer?, h.number key hkey, Option.map_some, Option.getD_some,
    Field.integer_int64Text]

/-- Rates of the block stand for whatever was known before. -/
theorem getD_rates? (h : block.Tells figures) (hkey : key ∈ rateKeys) (known : Rates) :
    (block.rates? key).getD known = figures.rates key := by
  rw [Block.rates?, h.rates key hkey, Option.map_some, Option.getD_some, Field.triple_text]

/-- A number of the block is found in the fact that has its name. -/
theorem exists_fact (h : block.Tells figures) (hname : (key, name) ∈ numberNames)
    {snapshot : Snapshot} {program : Program}
    (hprogram : snapshot.program = program.update block.programRecord) (now : Int64) :
    ∃ fact : Fact, fact.name = name ∧
      fact.value snapshot now = int64Text (figures.number key) := by
  have hvalue : ∀ known, int64Text ((block.integer? key).getD known) =
      int64Text (figures.number key) := by
    intro known
    rw [h.getD_integer? (List.mem_cons_of_mem _ (List.mem_map_of_mem hname))]
  obtain ⟨info, current, services, hosts⟩ := snapshot
  obtain rfl : current = program.update block.programRecord := hprogram
  simp only [numberNames, List.mem_cons, List.not_mem_nil, or_false, Prod.mk.injEq] at hname
  rcases hname with ⟨rfl, rfl⟩ | ⟨rfl, rfl⟩ | ⟨rfl, rfl⟩ | ⟨rfl, rfl⟩
  · exact ⟨.pid, rfl, hvalue _⟩
  · exact ⟨.commandBufferTotal, rfl, hvalue _⟩
  · exact ⟨.commandBufferUsed, rfl, hvalue _⟩
  · exact ⟨.commandBufferHigh, rfl, hvalue _⟩

/-- The rates of a key are found in the class that has its letters. -/
theorem exists_rateClass (h : block.Tells figures) (hletters : (key, letters) ∈ rateNames)
    (program : Program) :
    ∃ rateClass : RateClass, rateClass.code = letters ∧
      rateClass.rates (program.update block.programRecord) = figures.rates key := by
  have hread := h.getD_rates? (List.mem_map_of_mem hletters)
  simp only [rateNames, List.mem_cons, List.not_mem_nil, or_false, Prod.mk.injEq] at hletters
  rcases hletters with ⟨rfl, rfl⟩ | ⟨rfl, rfl⟩ | ⟨rfl, rfl⟩ | ⟨rfl, rfl⟩ | ⟨rfl, rfl⟩ |
    ⟨rfl, rfl⟩ | ⟨rfl, rfl⟩ | ⟨rfl, rfl⟩ | ⟨rfl, rfl⟩ | ⟨rfl, rfl⟩ | ⟨rfl, rfl⟩
  · exact ⟨.hostChecks .activeScheduled, rfl, hread _⟩
  · exact ⟨.hostChecks .activeOndemand, rfl, hread _⟩
  · exact ⟨.hostChecks .parallel, rfl, hread _⟩
  · exact ⟨.hostChecks .serial, rfl, hread _⟩
  · exact ⟨.hostChecks .passive, rfl, hread _⟩
  · exact ⟨.hostChecks .cached, rfl, hread _⟩
  · exact ⟨.serviceChecks .activeScheduled, rfl, hread _⟩
  · exact ⟨.serviceChecks .activeOndemand, rfl, hread _⟩
  · exact ⟨.serviceChecks .passive, rfl, hread _⟩
  · exact ⟨.serviceChecks .cached, rfl, hread _⟩
  · exact ⟨.externalCommands, rfl, hread _⟩

/-- The checks that ran are those that were scheduled and those on demand. -/
theorem exists_total (h : block.Tells figures) {scheduled ondemand : String}
    (hletters : (scheduled, ondemand, letters) ∈ totalNames) (program : Program) :
    ∃ rateClass : RateClass, rateClass.code = letters ∧
      rateClass.rates (program.update block.programRecord) =
        figures.rates scheduled + figures.rates ondemand := by
  simp only [totalNames, List.mem_cons, List.not_mem_nil, or_false, Prod.mk.injEq] at hletters
  rcases hletters with ⟨rfl, rfl, rfl⟩ | ⟨rfl, rfl, rfl⟩
  · exact ⟨.hostChecks .active, rfl,
      congrArg₂ (· + ·) (h.getD_rates? (by decide) _) (h.getD_rates? (by decide) _)⟩
  · exact ⟨.serviceChecks .active, rfl,
      congrArg₂ (· + ·) (h.getD_rates? (by decide) _) (h.getD_rates? (by decide) _)⟩

end Dump.Block.Tells

/-! ## From the block to the answers -/

theorem exists_span {span : String} {count : Rates → Int64} (h : (span, count) ∈ spanNames) :
    ∃ found : RateSpan, RateCount.spanCode found = span ∧
      ∀ rates : Rates, rates.within found = count rates := by
  simp only [spanNames, List.mem_cons, List.not_mem_nil, or_false, Prod.mk.injEq] at h
  rcases h with ⟨rfl, rfl⟩ | ⟨rfl, rfl⟩ | ⟨rfl, rfl⟩
  · exact ⟨.one, rfl, fun _ => rfl⟩
  · exact ⟨.five, rfl, fun _ => rfl⟩
  · exact ⟨.fifteen, rfl, fun _ => rfl⟩

/-- The letters of a class and the end for a span are the name of a rate. -/
theorem Snapshot.mrtgValue_rateCount (snapshot : Snapshot) (now : Int64) (rateClass : RateClass)
    (span : RateSpan) :
    snapshot.mrtgValue ("NUM" ++ rateClass.code ++ RateCount.spanCode span) now =
      int64Text ((rateClass.rates snapshot.program).within span) :=
  snapshot.mrtgValue_name now (.rateCount { rateClass, span })

/-- A sum is clamped count by count. -/
theorem Stats.Rates.toInt_within_add (x y : Rates) (span : RateSpan) :
    ((x + y).within span).toInt =
      max Int64.minValue.toInt
        (min Int64.maxValue.toInt ((x.within span).toInt + (y.within span).toInt)) := by
  cases span with
  | one => exact Rates.toInt_clampedSum _ _
  | five => exact Rates.toInt_clampedSum _ _
  | fifteen => exact Rates.toInt_clampedSum _ _

theorem Decimal.uint64Text_eq_integerText (n : UInt64) : uint64Text n = integerText n.toNat := by
  simp [uint64Text, integerText]

/-- Whatever was known before, a snapshot shows the figures of the block that was read last. -/
theorem Snapshot.showsFigures_of_tells {snapshot : Snapshot} {block : Block} {figures : Figures}
    {program : Program} (h : block.Tells figures)
    (hprogram : snapshot.program = program.update block.programRecord) (now : Int64) :
    snapshot.ShowsFigures now figures := by
  constructor
  case number =>
    intro key name hname
    obtain ⟨fact, rfl, hvalue⟩ := h.exists_fact hname hprogram now
    rw [← hvalue]
    exact snapshot.mrtgValue_name now (.fact fact)
  case running =>
    have hstart : snapshot.program.start = figures.number "program_start" := by
      rw [hprogram]
      exact h.getD_integer? List.mem_cons_self _
    have hvalue : snapshot.mrtgValue "PROGRUNTIMETT" now =
        uint64Text (secondsSince snapshot.program.start now) :=
      snapshot.mrtgValue_name now (.fact .runningSeconds)
    rw [hvalue, hstart, uint64Text_eq_integerText, toNat_secondsSince]
  case rates =>
    intro key letters hletters span count hspan
    obtain ⟨rateClass, rfl, hrates⟩ := h.exists_rateClass hletters program
    obtain ⟨found, rfl, hcount⟩ := exists_span hspan
    rw [snapshot.mrtgValue_rateCount, hprogram, hrates, hcount]
  case total =>
    intro scheduled ondemand letters hletters span count hspan
    obtain ⟨rateClass, rfl, hrates⟩ := h.exists_total hletters program
    obtain ⟨found, rfl, hcount⟩ := exists_span hspan
    rw [snapshot.mrtgValue_rateCount, hprogram, hrates, int64Text, Rates.toInt_within_add, hcount,
      hcount]

/-! ## From the dump to the answers -/

variable {source : Source} {before written after : List UInt8} {opened : List (List Char)}
  {figures : Figures}

theorem Figures.WrittenIn.tells (h : figures.WrittenIn opened) {block : Block}
    (hfields : ∀ key value, block.get? key = some value ↔
      LastAssigned opened 0 opened.length key value) : block.Tells figures := by
  constructor
  · intro key hkey
    exact (hfields key _).2 (h.number key hkey)
  · intro key hkey
    exact (hfields key _).2 (h.rates key hkey)

/-- Every dump with the figures of the daemon in it, in whatever chunks it arrives, gives a
snapshot that shows these figures at every time. The block of the daemon has any fields and other
lines beside them, in any order, and begins where a line begins. Any octets may stand before the
block, and behind it any octets that have no other marker of such a block. -/
theorem Snapshot.ofSource_showsFigures
    (hbytes : source.bytes = before ++ written ++ after) (hends : source.failure = none)
    (hbefore : EndsAtFeed before) (hwritten : EndsAtFeed written ∨ after = [])
    (hblock : IsBlock (textsOf written) opened .program) (hfigures : figures.WrittenIn opened)
    (hafter : ∀ text ∈ textsOf after, ¬ Opens text .program) (reference : Int64) :
    ∃ snapshot : Snapshot, Snapshot.ofSource source reference = .ok snapshot ∧
      ∀ now, snapshot.ShowsFigures now figures := by
  have htexts : textsOf source.bytes = textsOf before ++ textsOf written ++ textsOf after := by
    rw [hbytes, List.append_assoc, textsOf_append hbefore, List.append_assoc]
    rcases hwritten with hcut | rfl
    · rw [textsOf_append hcut]
    · have hnone : textsOf [] = [] := rfl
      rw [hnone, List.append_nil, List.append_nil]
  obtain ⟨earlier, later, block, hevents, hkind, hfields, hlater⟩ :=
    hblock.events_between (textsOf before) hafter
  rw [← htexts, ← Reader.events_ofSource hends] at hevents
  refine ⟨_, (Source.answers_of_ends hends).digest reference, ?_⟩
  -- of the events that follow, none changes what the block has said about the daemon
  have hprogram : (Snapshot.applyAll {} reference (Reader.ofSource source).events).program =
      (Snapshot.applyAll {} reference earlier).program.update block.programRecord := by
    have hstep := Snapshot.program_apply (Snapshot.applyAll {} reference earlier) reference
      (.closed block)
    have hkeep := Snapshot.part_applyAll_of_not_concerns hlater
      ((Snapshot.applyAll {} reference earlier).apply reference (.closed block)) reference
    rw [hevents, Snapshot.applyAll_append]
    exact hkeep.trans (hstep.trans (if_pos hkind))
  intro now
  exact Snapshot.showsFigures_of_tells (hfigures.tells hfields) hprogram now

/-- Figures at the ends of their range, whose sums are outside of it. -/
def extremeFigures : Figures where
  number key := if key = "program_start" then -5 else .maxValue
  rates _ := { last1 := .maxValue, last5 := .minValue, last15 := -1 }

/-- Their fields backwards, and one that is not asked for. -/
def extremeFields : List (String × String) :=
  ("daemon_mode", "1") :: extremeFigures.fields.reverse

/-- The lines of the block, with padding at both ends. -/
def extremeLines : List (List Char) :=
  (blockTexts "programstatus \x7b" extremeFields).map fun text => ['\t'] ++ text ++ ['\r']

def extremeText : String :=
  .ofList (extremeLines.flatMap (· ++ ['\n']))

/-- A closed block of the daemon and an abandoned one. -/
def busyBefore : List UInt8 :=
  Text.Utf8.encode "program \x7b\nnagios_pid=1\n\x7d\nprogram \x7b\nnagios_pid=2\n"

/-- A stray field and a service. -/
def busyAfter : List UInt8 :=
  Text.Utf8.encode "nagios_pid=3\n\x7d\nservice \x7b\n\x7d"

/-- The block with the figures between the others. -/
def busyDump : Source where
  chunks := [busyBefore, Text.Utf8.encode extremeText, busyAfter]

theorem Snapshot.ofSource_showsFigures_extreme :
    IsBlock (textsOf (Text.Utf8.encode extremeText))
        ("programstatus \x7b".toList :: extremeFields.map fieldText) .program ∧
      extremeFigures.WrittenIn ("programstatus \x7b".toList :: extremeFields.map fieldText) ∧
      ∃ snapshot : Snapshot, Snapshot.ofSource busyDump 7 = .ok snapshot ∧
        ∀ now, snapshot.ShowsFigures now extremeFigures := by
  have hmarker : "programstatus \x7b" ∈ Kind.program.markers := by decide
  have hwritable : ∀ field ∈ extremeFields, Writable field.1 field.2 := by
    intro field hfield
    rcases List.mem_cons.1 hfield with rfl | hmem
    · decide
    · exact extremeFigures.writable_fields field (List.mem_reverse.1 hmem)
  have hkeys : extremeFields.Pairwise fun a b => a.1 ≠ b.1 := by decide +kernel
  have hshows : List.Forall₂ Dump.Shows extremeLines
      (blockTexts "programstatus \x7b" extremeFields) := by
    rw [extremeLines, List.forall₂_map_left_iff, List.forall₂_same]
    intro text _
    exact ⟨['\t'], ['\r'], by simp [IsGap], by simp [IsGap], rfl⟩
  have hended : extremeText.toList = extremeLines.flatMap (· ++ ['\n']) := by
    rw [extremeText, String.toList_ofList]
  have hblock : IsBlock (textsOf (Text.Utf8.encode extremeText))
      ("programstatus \x7b".toList :: extremeFields.map fieldText) .program := by
    rw [textsOf_written hmarker hwritable hshows (.inl hended)]
    exact isBlock_written hmarker hwritable
  have hfigures : extremeFigures.WrittenIn
      ("programstatus \x7b".toList :: extremeFields.map fieldText) := by
    apply Figures.writtenIn_written hkeys hwritable
    intro field hfield
    exact List.mem_cons_of_mem _ (List.mem_reverse.2 hfield)
  have hbytes : busyDump.bytes = busyBefore ++ Text.Utf8.encode extremeText ++ busyAfter := by
    simp [busyDump, Source.bytes]
  have hbefore : EndsAtFeed busyBefore := .inr (by decide +kernel)
  have hafter : ∀ text ∈ textsOf busyAfter, ¬ Opens text .program := by decide +kernel
  exact ⟨hblock, hfigures, Snapshot.ofSource_showsFigures hbytes rfl hbefore
    (.inl (endsAtFeed_encode hended)) hblock hfigures hafter 7⟩

end StatusDigest
