import StatusDigest.Proofs.Decimal.Thousandths
import StatusDigest.Proofs.Dump.Numbers
import StatusDigest.Proofs.Mrtg.Names
import StatusDigest.Proofs.Snapshot.Samples
import StatusDigest.Proofs.Stats.Clamping
import Mathlib

/-!
# From three decimals to milliseconds

The daemon writes timings in seconds, with three decimals, and they are answered in whole
milliseconds. On its way a timing is read as a double, taken into a series and multiplied by a
thousand:

* `WritesThousandths` says that a text writes a number of thousandths;
* `truncate_pick`: the least, the greatest and the average of a single timing are the timing, and
  without its fraction it is the number that was written, or one less if that number slips;
* `Snapshot.mrtgValue_timing` is the result for a dump that closes a single block of the kind.
-/

namespace StatusDigest

open Decimal Dump Mrtg Stats

/-! ## Timings in fields -/

/-- The text has three decimals, and writes so many thousandths. -/
def Decimal.WritesThousandths (text : List Char) (k : ℕ) : Prop :=
  ∃ whole fraction, IsMantissa text whole fraction ∧ fraction.length = 3 ∧
    placeValue (whole ++ fraction) = k

theorem Dump.Field.real_of_writesThousandths {raw : String} {k : ℕ}
    (h : WritesThousandths raw.toList k) : real raw = Float.ofScientific k true 3 := by
  obtain ⟨whole, fraction, hmantissa, hlength, hvalue⟩ := h
  have hdenotes := DenotesNumeral.mk .none hmantissa .none
  rw [List.nil_append, List.append_nil, hlength, hvalue] at hdenotes
  exact real_of_denotes hdenotes

/-! ## A single timing -/

namespace Mrtg

/-- All that can be picked of a single sample is the sample. -/
theorem hasValue_pick {k : ℕ} (hpos : 0 < k) (hlt : k < 2 ^ 40) {x : Float} {w : ℚ}
    (hx : HasValue x w) (hw : IsRounding (k / 1000) w) (pick : Pick) :
    HasValue (pick.value (({} : Series).push x)) w := by
  cases pick with
  | least => exact hx
  | greatest => exact hx
  | mean =>
    -- the average is zero plus the difference to zero divided by one, and none of this rounds
    have hdifference : HasValue (x - 0.0) w := hasValue_sub_zero hx
    have hquotient := hasValue_div_one hpos hlt hdifference hw
    exact hasValue_zero_add hquotient

/-- In milliseconds and without its fraction, what is picked is the number that was written, or one
less if the number slips. -/
theorem truncate_pick {k : ℕ} (hlt : k < 2 ^ 40) (pick : Pick) :
    truncate (pick.value (({} : Series).push (Float.ofScientific k true 3)) * 1000.0) =
      .ofIntClamp ((if Slips k then k - 1 else k : ℕ) : ℤ) := by
  rcases Nat.eq_zero_or_pos k with rfl | hpos
  · -- zero has no full precision, and is looked at by itself
    cases pick <;> decide +kernel
  obtain ⟨w, hx, hw⟩ := hasValue_ofScientific hpos hlt
  show Int64.ofIntClamp ((pick.value _ * 1000.0).toModel.unpack.toInt _ _) = _
  rw [toInt_thousand_mul hpos hlt (hasValue_pick hpos hlt hx hw pick) hw]

end Mrtg

theorem Decimal.int64Text_ofIntClamp {n : ℕ} (hlt : n < 2 ^ 63) :
    int64Text (.ofIntClamp n) = naturalText n := by
  have hmax : Int64.maxValue.toInt = 2 ^ 63 - 1 := by decide
  have hmin : Int64.minValue.toInt = -2 ^ 63 := by decide
  have hclamp : (Int64.ofIntClamp n).toInt = n := by
    rw [toInt_ofIntClamp]
    omega
  rw [int64Text, hclamp, integerText, if_neg (by omega), Int.natAbs_natCast]

/-! ## Dumps with a single timing -/

/-- A single block of the kind is closed, its check was run by the daemon, and the field writes so
many thousandths. -/
def Dump.Source.HasTiming (source : Source) (kind : Kind) (key : String) (k : ℕ) : Prop :=
  ∃ block raw, source.closedBlocks kind = [block] ∧ block.isActive = true ∧
    block.get? key = some raw ∧ WritesThousandths raw.toList k

/-- The blocks and their fields can be looked at one by one. -/
theorem Dump.Source.hasTiming_of_map {source : Source} {kind : Kind} {key raw : String} {k : ℕ}
    (hclosed : (source.closedBlocks kind).map (fun block => (block.isActive, block.get? key)) =
      [(true, some raw)]) (hwrites : WritesThousandths raw.toList k) :
    source.HasTiming kind key k := by
  obtain ⟨block, hblock, hfields⟩ := List.map_eq_singleton_iff.1 hclosed
  obtain ⟨hactive, hraw⟩ := Prod.mk.inj hfields
  exact ⟨block, raw, hblock, hactive, hraw, hwrites⟩

namespace Mrtg

/-- What has timings, and the letters in the names of the answers. -/
def timedNames : List (Kind × String) :=
  [(.host, "HST"), (.service, "SVC")]

/-- The timings of a check that the daemon ran: their keys, and the letters in the names of the
answers. -/
def timingNames : List (String × String) :=
  [("check_latency", "LAT"), ("check_execution_time", "EXT")]

/-- The letters for what is picked of a series. -/
def pickNames : List String :=
  ["MIN", "MAX", "AVG"]

theorem exists_pick {letters : String} (h : letters ∈ pickNames) :
    ∃ pick : Pick, pick.code = letters := by
  simp only [pickNames, List.mem_cons, List.not_mem_nil, or_false] at h
  rcases h with rfl | rfl | rfl
  · exact ⟨.least, rfl⟩
  · exact ⟨.greatest, rfl⟩
  · exact ⟨.mean, rfl⟩

/-- The blocks that a subject is about. -/
def Subject.kind : Subject → Kind
  | .hosts => .host
  | .services => .service

theorem exists_subject {kind : Kind} {letters : String} (h : (kind, letters) ∈ timedNames) :
    ∃ subject : Subject, subject.kind = kind ∧ subject.code = letters := by
  simp only [timedNames, List.mem_cons, List.not_mem_nil, or_false, Prod.mk.injEq] at h
  rcases h with ⟨rfl, rfl⟩ | ⟨rfl, rfl⟩
  · exact ⟨.hosts, rfl, rfl⟩
  · exact ⟨.services, rfl, rfl⟩

/-- The gauge shows the timings in the fields of the key, of checks that the daemon ran. -/
structure Gauge.Times (gauge : Gauge) (key : String) : Prop where
  origin : gauge.origin? = some .active
  isTime : gauge.isPercentage = false
  sample : ∀ block : Block, gauge.sample block.check = (block.get? key).elim 0.0 Field.real

theorem exists_gauge {key quantity : String} (h : (key, quantity) ∈ timingNames) :
    ∃ gauge : Gauge, gauge.Times key ∧ gauge.quantityCode = quantity := by
  simp only [timingNames, List.mem_cons, List.not_mem_nil, or_false, Prod.mk.injEq] at h
  rcases h with ⟨rfl, rfl⟩ | ⟨rfl, rfl⟩
  · exact ⟨.activeLatency, ⟨rfl, rfl, fun _ => rfl⟩, rfl⟩
  · exact ⟨.activeExecutionTime, ⟨rfl, rfl, fun _ => rfl⟩, rfl⟩

end Mrtg

/-- A series of timings has taken the timing, and nothing else. -/
theorem Dump.Source.HasTiming.calls_eq {source : Source} {kind : Kind} {key : String} {k : ℕ}
    (h : source.HasTiming kind key k) {gauge : Gauge} (hgauge : gauge.Times key) :
    source.calls kind gauge = [.push (Float.ofScientific k true 3)] := by
  obtain ⟨block, raw, hclosed, hactive, hraw, hwrites⟩ := h
  rw [closedBlocks, ← map_fst_populated kind 0, List.map_eq_singleton_iff] at hclosed
  obtain ⟨pair, hpopulated, rfl⟩ := hclosed
  have horigin : pair.1.check.origin = .active := by
    rw [Block.isActive_eq] at hactive
    exact of_decide_eq_true hactive
  have hsample : gauge.sample pair.1.check = Float.ofScientific k true 3 := by
    rw [hgauge.sample, hraw, Option.elim_some, Field.real_of_writesThousandths hwrites]
  have hcall : gauge.call? pair = some (.push (Float.ofScientific k true 3)) := by
    simp only [Gauge.call?, hgauge.origin, horigin, hsample, if_true]
  rw [calls, hpopulated, List.filterMap_cons_some hcall, List.filterMap_nil]

/-! ## The result -/

namespace Snapshot

/-- The series that a gauge shows of a subject. -/
def seriesOf (snapshot : Snapshot) (gauge : Gauge) : Subject → Series
  | .hosts => gauge.series snapshot.hosts
  | .services => gauge.series snapshot.services

/-- If a series has taken a single timing, everything that is picked of it is answered with the
number that was written, or with one less if that number slips. -/
theorem mrtgValue_of_seriesOf {snapshot : Snapshot} {k : ℕ} (hlt : k < 2 ^ 40)
    {gauge : Gauge} {key : String} (hgauge : gauge.Times key) {subject : Subject}
    (hseries : snapshot.seriesOf gauge subject =
      ({} : Series).push (Float.ofScientific k true 3)) (pick : Pick) (now : Int64) :
    snapshot.mrtgValue (Statistic.name { pick, gauge, subject }) now =
      naturalText (if Slips k then k - 1 else k) := by
  have hfits : (if Slips k then k - 1 else k) < 2 ^ 63 := by
    split <;> omega
  have hvalue : Statistic.value snapshot { pick, gauge, subject } =
      int64Text (truncate (pick.value (snapshot.seriesOf gauge subject) * 1000.0)) := by
    cases subject <;> simp [Statistic.value, seriesOf, hgauge.isTime]
  have hname := snapshot.mrtgValue_name now (.statistic { pick, gauge, subject })
  rw [Variable.name] at hname
  rw [hname, Variable.value, hvalue, hseries, truncate_pick hlt, int64Text_ofIntClamp hfits]

/-- A timing of the only block that is closed is answered in whole milliseconds. If the daemon has
written it with three decimals, the answer is the number that was written, and one less if that
number slips. -/
theorem mrtgValue_timing {source : Source} {kind : Kind} {subject key quantity : String} {k : ℕ}
    (hends : source.failure = none) (hsubject : (kind, subject) ∈ timedNames)
    (hquantity : (key, quantity) ∈ timingNames) (htiming : source.HasTiming kind key k)
    (hlt : k < 2 ^ 40) (now : Int64) :
    ∃ snapshot, ofSource source now = .ok snapshot ∧ ∀ pick ∈ pickNames, ∀ asked,
      snapshot.mrtgValue (pick ++ "ACT" ++ subject ++ quantity) asked =
        naturalText (if Slips k then k - 1 else k) := by
  obtain ⟨snapshot, hsnapshot, hseries⟩ := ofSource_series hends now
  refine ⟨snapshot, hsnapshot, ?_⟩
  intro letters hletters asked
  obtain ⟨pick, rfl⟩ := exists_pick hletters
  obtain ⟨subject, rfl, rfl⟩ := exists_subject hsubject
  obtain ⟨gauge, hgauge, rfl⟩ := exists_gauge hquantity
  have hcalls : snapshot.seriesOf gauge subject =
      Series.afterCalls (source.calls subject.kind gauge) := by
    cases subject with
    | hosts => exact (hseries gauge).1
    | services => exact (hseries gauge).2
  rw [htiming.calls_eq hgauge] at hcalls
  -- the letters make up the name of the statistic
  have hname : pick.code ++ "ACT" ++ subject.code ++ gauge.quantityCode =
      Statistic.name { pick, gauge, subject } := by
    rw [Statistic.name, Gauge.originCode, hgauge.origin]
    rfl
  rw [hname]
  exact mrtgValue_of_seriesOf hlt hgauge hcalls pick asked

/-- A dump with a host whose check took twelve seconds and five milliseconds. -/
def timedDump : Source where
  chunks := ["hoststatus \x7b\ncheck_execution_time=12.005\n\x7d\n"].map Text.Utf8.encode

theorem mrtgValue_timing_host :
    timedDump.failure = none ∧ timedDump.HasTiming .host "check_execution_time" 12005 ∧
      ∃ snapshot, ofSource timedDump 0 = .ok snapshot ∧
        snapshot.mrtgValue "AVGACTHSTEXT" 0 = "12005" := by
  have hwhole : IsDigits ['1', '2'] := ⟨by decide, by simp⟩
  have hfraction : IsDigits ['0', '0', '5'] := ⟨by decide, by simp⟩
  have hwrites : WritesThousandths "12.005".toList 12005 :=
    ⟨_, _, .pointed hwhole (.inr hfraction), rfl, rfl⟩
  have htiming : timedDump.HasTiming .host "check_execution_time" 12005 :=
    Source.hasTiming_of_map (by decide +kernel) hwrites
  have hkeeps : ¬ Slips 12005 := by decide +kernel
  obtain ⟨snapshot, hsnapshot, hvalues⟩ :=
    mrtgValue_timing rfl (.head _) (.tail _ (.head _)) htiming (by norm_num) 0
  refine ⟨rfl, htiming, snapshot, hsnapshot, ?_⟩
  have hvalue := hvalues "AVG" (by decide) 0
  rw [if_neg hkeeps] at hvalue
  exact hvalue

/-- A dump with a service whose check was late by a second and a millisecond. -/
def slippingDump : Source where
  chunks := ["servicestatus \x7b\ncheck_latency=1.001\n\x7d\n"].map Text.Utf8.encode

/-- Not all timings are answered as they were written. -/
theorem mrtgValue_timing_off : ¬ ∀ (source : Source) (k : ℕ), source.failure = none →
    source.HasTiming .service "check_latency" k → k < 2 ^ 40 →
      ∃ snapshot, ofSource source 0 = .ok snapshot ∧
        ∀ pick ∈ pickNames, snapshot.mrtgValue (pick ++ "ACTSVCLAT") 0 = naturalText k := by
  intro hall
  have hwhole : IsDigits ['1'] := ⟨by decide, by simp⟩
  have hfraction : IsDigits ['0', '0', '1'] := ⟨by decide, by simp⟩
  have hwrites : WritesThousandths "1.001".toList 1001 :=
    ⟨_, _, .pointed hwhole (.inr hfraction), rfl, rfl⟩
  have htiming : slippingDump.HasTiming .service "check_latency" 1001 :=
    Source.hasTiming_of_map (by decide +kernel) hwrites
  obtain ⟨snapshot, hsnapshot, hvalues⟩ := hall slippingDump 1001 rfl htiming (by norm_num)
  have hcomputed : (ofSource slippingDump 0).toOption.map (·.mrtgValue "MINACTSVCLAT" 0) =
      some "1000" := by
    decide +kernel
  rw [hsnapshot] at hcomputed
  have hmin : snapshot.mrtgValue "MINACTSVCLAT" 0 = naturalText 1001 := hvalues "MIN" (.head _)
  have hoff : naturalText 1001 ≠ "1000" := by decide
  exact hoff (hmin ▸ Option.some.inj hcomputed)

end Snapshot

end StatusDigest
