import StatusDigest.Snapshot.Json
import StatusDigest.Proofs.Json.RoundTrip
import Mathlib

/-!
# Snapshots come back from their texts

The text of a snapshot is read as the snapshot, up to its floating-point numbers.

* `Restores` says of a value of a shape what comes back of it, and which doubles have to be finite
  for that; there is one lemma for every kind of value, and every part of a snapshot is put
  together from them.
* `Series.reread` is what comes back of a series: its least and greatest sample are absent if they
  are not finite. Its average has to be finite.
* `Snapshot.ofJson_toJson`: a snapshot comes back just when its averages are finite.
-/

namespace StatusDigest

open Stats

namespace Json

/-- A value that the shape is for, and what comes back of it if the given doubles are finite.
Nothing comes back otherwise. -/
structure Restores (shape : Shape) (value : Value) (required : List Float) (back : Value) :
    Prop where
  admits : shape.Admits value
  returned : shape.returned value = if required.all Float.isFinite then some back else none

/-- The same for the fields of a record. -/
structure RestoresAll (fields : List (String × Shape)) (values : List (String × Value))
    (required : List Float) (back : List (String × Value)) : Prop where
  admits : Shape.AdmitsAll fields values
  returned : Shape.returnedAll fields values =
    if required.all Float.isFinite then some back else none

/-! ## From values -/

namespace Value

@[simp]
theorem uint64?_ofUInt64 (n : UInt64) : (ofUInt64 n).uint64? = some n := by
  simp [ofUInt64, uint64?]

@[simp]
theorem int64?_ofInt64 (i : Int64) : (ofInt64 i).int64? = some i := by
  simp [ofInt64, int64?]

@[simp]
theorem real?_real (x : Float) : (Value.real x).real? = some x :=
  rfl

@[simp]
theorem option?_real (x : Option Float) : (ofOption .real x).option? real? = some x := by
  cases x <;> rfl

@[simp]
theorem option?_text (s : Option String) : (ofOption .text s).option? text? = some s := by
  cases s <;> rfl

end Value

/-! ## Kinds of values -/

namespace Restores

theorem uint64 (n : UInt64) : Restores .unsigned (.ofUInt64 n) [] (.ofUInt64 n) := by
  refine ⟨?_, rfl⟩
  have := n.toNat_lt
  exact ⟨by omega, by omega⟩

theorem int64 (i : Int64) : Restores .signed (.ofInt64 i) [] (.ofInt64 i) :=
  ⟨⟨i.minValue_le_toInt, i.toInt_lt⟩, rfl⟩

/-- A double that is not optional has to be finite. -/
theorem real (x : Float) :
    Restores .real (.real x) [x] (.real ((reread x).getD x)) := by
  refine ⟨trivial, ?_⟩
  have hfinite := isSome_reread x
  rw [Shape.returned, List.all_cons, List.all_nil, Bool.and_true, ← hfinite]
  cases reread x <;> rfl

/-- An optional double is absent if it is not finite. -/
theorem optionReal (x : Option Float) :
    Restores (.optional .real) (.ofOption .real x) [] (.ofOption .real (x.bind reread)) := by
  cases x with
  | none => exact ⟨.inl rfl, rfl⟩
  | some x =>
    refine ⟨.inr trivial, ?_⟩
    have hfinite := isSome_reread x
    rw [Shape.returned, Value.ofOption, Value.isNull, ← hfinite, Shape.returned, Option.bind_some]
    cases reread x <;> rfl

theorem optionText (s : Option String) :
    Restores (.optional .text) (.ofOption .text s) [] (.ofOption .text s) := by
  cases s <;> exact ⟨by simp [Shape.Admits, Value.ofOption], rfl⟩

theorem record {fields : List (String × Shape)} {values back : List (String × Value)}
    {required : List Float} (hnodup : (fields.map Prod.fst).Nodup)
    (h : RestoresAll fields values required back) :
    Restores (.record fields) (.record values) required (.record back) := by
  refine ⟨⟨hnodup, h.admits⟩, ?_⟩
  rw [Shape.returned, h.returned]
  split <;> rfl

end Restores

namespace RestoresAll

theorem nil : RestoresAll [] [] [] [] :=
  ⟨trivial, rfl⟩

theorem cons {name : String} {shape : Shape} {value back : Value} {required required' : List Float}
    {fields : List (String × Shape)} {values backs : List (String × Value)}
    (h : Restores shape value required back) (hrest : RestoresAll fields values required' backs) :
    RestoresAll ((name, shape) :: fields) ((name, value) :: values) (required ++ required')
      ((name, back) :: backs) := by
  refine ⟨⟨rfl, h.admits, hrest.admits⟩, ?_⟩
  rw [Shape.returnedAll, h.returned, hrest.returned, List.all_append]
  cases required.all Float.isFinite <;> cases required'.all Float.isFinite <;> rfl

end RestoresAll

end Json

open Json

namespace Stats

@[simp]
theorem Windows.ofValue?_toValue (windows : Windows) :
    Windows.ofValue? windows.toValue = some windows := by
  simp [toValue, ofValue?]

theorem Windows.restores (windows : Windows) :
    Restores Windows.shape windows.toValue [] windows.toValue :=
  .record (by decide) (.cons (.uint64 _) (.cons (.uint64 _) (.cons (.uint64 _)
    (.cons (.uint64 _) .nil))))

@[simp]
theorem Rates.ofValue?_toValue (rates : Rates) :
    Rates.ofValue? rates.toValue = some rates := by
  simp [toValue, ofValue?]

theorem Rates.restores (rates : Rates) :
    Restores Rates.shape rates.toValue [] rates.toValue :=
  .record (by decide) (.cons (.int64 _) (.cons (.int64 _) (.cons (.int64 _) .nil)))

@[simp]
theorem ServiceTally.ofValue?_toValue (tally : ServiceTally) :
    ServiceTally.ofValue? tally.toValue = some tally := by
  simp [toValue, ofValue?]

theorem ServiceTally.restores (tally : ServiceTally) :
    Restores ServiceTally.shape tally.toValue [] tally.toValue :=
  .record (by decide) (.cons (.uint64 _) (.cons (.uint64 _) (.cons (.uint64 _)
    (.cons (.uint64 _) .nil))))

@[simp]
theorem HostTally.ofValue?_toValue (tally : HostTally) :
    HostTally.ofValue? tally.toValue = some tally := by
  simp [toValue, ofValue?]

theorem HostTally.restores (tally : HostTally) :
    Restores HostTally.shape tally.toValue [] tally.toValue :=
  .record (by decide) (.cons (.uint64 _) (.cons (.uint64 _) (.cons (.uint64 _) .nil)))

/-! ## Statistics -/

/-- What comes back of a series. -/
def Series.reread (series : Series) : Series :=
  { series with
    minimum := series.minimum.bind Json.reread
    maximum := series.maximum.bind Json.reread
    average := (Json.reread series.average).getD series.average }

@[simp]
theorem Series.ofValue?_toValue (series : Series) :
    Series.ofValue? series.toValue = some series := by
  simp [toValue, ofValue?]

/-- Whether all floating-point numbers of a series are reread as they were. -/
structure Series.RereadsExactly (series : Series) : Prop where
  minimum : ∀ x ∈ series.minimum, Json.reread x = some x
  maximum : ∀ x ∈ series.maximum, Json.reread x = some x
  average : Json.reread series.average = some series.average

theorem Series.RereadsExactly.reread_eq {series : Series} (h : series.RereadsExactly) :
    series.reread = series := by
  obtain ⟨count, minimum, maximum, average⟩ := series
  have hsame : ∀ x : Option Float, (∀ y ∈ x, Json.reread y = some y) → x.bind Json.reread = x := by
    intro x hx
    cases x with
    | none => rfl
    | some y => exact hx y rfl
  have haverage := h.average
  dsimp only at haverage
  rw [Series.reread, hsame _ h.minimum, hsame _ h.maximum, haverage]
  rfl

theorem Series.RereadsExactly.isFinite_average {series : Series} (h : series.RereadsExactly) :
    series.average.isFinite = true := by
  rw [← isSome_reread, h.average]
  rfl

theorem Series.restores (series : Series) :
    Restores Series.shape series.toValue [series.average] series.reread.toValue :=
  .record (by decide) (.cons (.uint64 _) (.cons (.optionReal _) (.cons (.optionReal _)
    (.cons (.real _) .nil))))

namespace ActiveChecks

/-- The series of the statistics of active checks. -/
def series (checks : ActiveChecks) : List Series :=
  [checks.latency, checks.executionTime, checks.stateChange]

/-- The statistics of active checks with a change to their series. -/
def mapSeries (f : Series → Series) (checks : ActiveChecks) : ActiveChecks :=
  { checks with
    latency := f checks.latency
    executionTime := f checks.executionTime
    stateChange := f checks.stateChange }

@[simp]
theorem ofValue?_toValue (checks : ActiveChecks) : ofValue? checks.toValue = some checks := by
  simp [toValue, ofValue?]

theorem restores (checks : ActiveChecks) :
    Restores ActiveChecks.shape checks.toValue (checks.series.map Series.average)
      (checks.mapSeries Series.reread).toValue :=
  .record (by decide) (.cons (Series.restores _) (.cons (Series.restores _)
    (.cons (Series.restores _) (.cons (Windows.restores _) .nil))))

end ActiveChecks

namespace PassiveChecks

/-- The series of the statistics of passive checks. -/
def series (checks : PassiveChecks) : List Series :=
  [checks.latency, checks.stateChange]

/-- The statistics of passive checks with a change to their series. -/
def mapSeries (f : Series → Series) (checks : PassiveChecks) : PassiveChecks :=
  { checks with
    latency := f checks.latency
    stateChange := f checks.stateChange }

@[simp]
theorem ofValue?_toValue (checks : PassiveChecks) : ofValue? checks.toValue = some checks := by
  simp [toValue, ofValue?]

theorem restores (checks : PassiveChecks) :
    Restores PassiveChecks.shape checks.toValue (checks.series.map Series.average)
      (checks.mapSeries Series.reread).toValue :=
  .record (by decide) (.cons (Series.restores _) (.cons (Series.restores _)
    (.cons (Windows.restores _) .nil)))

end PassiveChecks

namespace Target

variable {τ : Type} [Tally τ]

/-- The series of the statistics of hosts or services. -/
def series (target : Target τ) : List Series :=
  target.stateChange :: target.active.series ++ target.passive.series

/-- The statistics of hosts or services with a change to their series. -/
def mapSeries (f : Series → Series) (target : Target τ) : Target τ :=
  { target with
    stateChange := f target.stateChange
    active := target.active.mapSeries f
    passive := target.passive.mapSeries f }

theorem ofValue?_toValue {states : τ → Value} {states? : Value → Option τ}
    (hstates : ∀ tally, states? (states tally) = some tally) (target : Target τ) :
    ofValue? states? (target.toValue states) = some target := by
  simp [toValue, ofValue?, hstates]

theorem mapSeries_eq_self {f : Series → Series} {target : Target τ}
    (h : ∀ series ∈ target.series, f series = series) : target.mapSeries f = target := by
  simp only [series, ActiveChecks.series, PassiveChecks.series, List.forall_mem_append,
    List.forall_mem_cons] at h
  simp [mapSeries, ActiveChecks.mapSeries, PassiveChecks.mapSeries, h]

theorem restores {states : Shape} {toValue : τ → Value}
    (hstates : ∀ tally, Restores states (toValue tally) [] (toValue tally)) (target : Target τ) :
    Restores (Target.shape states) (target.toValue toValue) (target.series.map Series.average)
      ((target.mapSeries Series.reread).toValue toValue) :=
  .record (by simp only [List.map_cons, List.map_nil]; decide)
    (.cons (.uint64 _) (.cons (.uint64 _) (.cons (.uint64 _)
    (.cons (Series.restores _) (.cons (ActiveChecks.restores _) (.cons (PassiveChecks.restores _)
      (.cons (hstates _) (.cons (.uint64 _) (.cons (.uint64 _) (.cons (.uint64 _)
        (.cons (.uint64 _) .nil)))))))))))

end Target

end Stats

/-! ## Snapshots -/

@[simp]
theorem DumpInfo.ofValue?_toValue (info : DumpInfo) :
    DumpInfo.ofValue? info.toValue = some info := by
  simp [toValue, ofValue?]

theorem DumpInfo.restores (info : DumpInfo) :
    Restores DumpInfo.shape info.toValue [] info.toValue :=
  .record (by decide) (.cons (.int64 _) (.cons (.optionText _) .nil))

@[simp]
theorem Buffer.ofValue?_toValue (buffer : Buffer) :
    Buffer.ofValue? buffer.toValue = some buffer := by
  simp [toValue, ofValue?]

theorem Buffer.restores (buffer : Buffer) :
    Restores Buffer.shape buffer.toValue [] buffer.toValue :=
  .record (by decide) (.cons (.int64 _) (.cons (.int64 _) (.cons (.int64 _) .nil)))

@[simp]
theorem HostRates.ofValue?_toValue (rates : HostRates) :
    HostRates.ofValue? rates.toValue = some rates := by
  simp [toValue, ofValue?]

theorem HostRates.restores (rates : HostRates) :
    Restores HostRates.shape rates.toValue [] rates.toValue :=
  .record (by decide) (.cons (Rates.restores _) (.cons (Rates.restores _)
    (.cons (Rates.restores _) (.cons (Rates.restores _) (.cons (Rates.restores _)
      (.cons (Rates.restores _) .nil))))))

@[simp]
theorem ServiceRates.ofValue?_toValue (rates : ServiceRates) :
    ServiceRates.ofValue? rates.toValue = some rates := by
  simp [toValue, ofValue?]

theorem ServiceRates.restores (rates : ServiceRates) :
    Restores ServiceRates.shape rates.toValue [] rates.toValue :=
  .record (by decide) (.cons (Rates.restores _) (.cons (Rates.restores _)
    (.cons (Rates.restores _) (.cons (Rates.restores _) .nil))))

@[simp]
theorem Program.ofValue?_toValue (program : Program) :
    Program.ofValue? program.toValue = some program := by
  simp [toValue, ofValue?]

theorem Program.restores (program : Program) :
    Restores Program.shape program.toValue [] program.toValue :=
  .record (by decide) (.cons (.int64 _) (.cons (.int64 _) (.cons (Buffer.restores _)
    (.cons (Buffer.restores _) (.cons (HostRates.restores _) (.cons (ServiceRates.restores _)
      (.cons (Rates.restores _) .nil)))))))

namespace Snapshot

/-- The twelve series of a snapshot. -/
def series (snapshot : Snapshot) : List Series :=
  snapshot.services.series ++ snapshot.hosts.series

/-- A snapshot with a change to its series. -/
def mapSeries (f : Series → Series) (snapshot : Snapshot) : Snapshot :=
  { snapshot with
    services := snapshot.services.mapSeries f
    hosts := snapshot.hosts.mapSeries f }

theorem ofValue?_toValue (snapshot : Snapshot) : ofValue? snapshot.toValue = some snapshot := by
  simp [toValue, ofValue?, Target.ofValue?_toValue]

theorem restores (snapshot : Snapshot) :
    Restores Snapshot.shape snapshot.toValue (snapshot.series.map Series.average)
      (snapshot.mapSeries Series.reread).toValue :=
  .record (by decide) (.cons (DumpInfo.restores _) (.cons (Program.restores _)
    (.cons (Target.restores ServiceTally.restores _)
      (.cons (Target.restores HostTally.restores _) .nil))))

/-- The text of a snapshot is read as what comes back of the snapshot, if its averages are finite.
Otherwise it is not the text of a snapshot. -/
theorem ofJson_eq (snapshot : Snapshot) :
    ofJson snapshot.toJson =
      if (snapshot.series.map Series.average).all Float.isFinite then
        .ok (snapshot.mapSeries Series.reread)
      else .error .mismatched := by
  rw [ofJson, toJson, Shape.ofText_render snapshot.restores.admits, snapshot.restores.returned]
  split
  · simp only [Option.elim_some, bind, Except.bind, ofValue?_toValue]
  · rfl

theorem mapSeries_eq_self {f : Series → Series} {snapshot : Snapshot}
    (h : ∀ series ∈ snapshot.series, f series = series) : snapshot.mapSeries f = snapshot := by
  have hservices := Target.mapSeries_eq_self fun series hmem =>
    h series (List.mem_append_left _ hmem)
  have hhosts := Target.mapSeries_eq_self fun series hmem =>
    h series (List.mem_append_right _ hmem)
  rw [mapSeries, hservices, hhosts]

/-- A snapshot is written as a text that is read back just when its twelve averages are finite.
What comes back has all integers and the version as they were, and its floating-point numbers are
those that are read for the written ones: a least or greatest sample is absent just when it was or
was not finite. If all floating-point numbers are reread as they were, so is the snapshot. -/
theorem ofJson_toJson (snapshot : Snapshot) :
    (∀ x, (Json.reread x).isSome = x.isFinite) ∧
    ((∃ back, ofJson snapshot.toJson = .ok back) ↔
      ∀ series ∈ snapshot.series, series.average.isFinite = true) ∧
    (∀ back, ofJson snapshot.toJson = .ok back → back = snapshot.mapSeries Series.reread) ∧
    ((∀ series ∈ snapshot.series, series.RereadsExactly) →
      ofJson snapshot.toJson = .ok snapshot) := by
  have hfinite : (snapshot.series.map Series.average).all Float.isFinite = true ↔
      ∀ series ∈ snapshot.series, series.average.isFinite = true := by
    simp [List.all_eq_true]
  have heq := snapshot.ofJson_eq
  refine ⟨isSome_reread, ?_, ?_, ?_⟩
  · rw [heq, ← hfinite]
    split
    · rename_i hall
      exact ⟨fun _ => hall, fun _ => ⟨_, rfl⟩⟩
    · rename_i hnot
      refine ⟨fun hread => ?_, fun hall => absurd hall hnot⟩
      obtain ⟨_, hread⟩ := hread
      cases hread
  · intro back hback
    rw [heq] at hback
    split at hback
    · exact (Except.ok.inj hback).symm
    · cases hback
  · intro hexact
    have hall := hfinite.2 fun series hmem => (hexact series hmem).isFinite_average
    rw [heq, if_pos hall, mapSeries_eq_self fun series hmem => (hexact series hmem).reread_eq]

/-- Texts with all kinds of escapes, the least and greatest integers, and doubles of all sizes are
restored. -/
theorem ofJson_toJson_awkward :
    let latency : Series :=
      { count := 18446744073709551615, minimum := some (-0.0), maximum := some 1e300
        average := 0.1 }
    let snapshot : Snapshot :=
      { info := { created := -9223372036854775808, version := some "\"4\\5\"\n\x00\x1fé😀" }
        program := { pid := 9223372036854775807 }
        services := { entries := 9223372036854775808, active := { latency } } }
    (∀ series ∈ snapshot.series, series.RereadsExactly) ∧ ofJson snapshot.toJson = .ok snapshot := by
  intro latency snapshot
  have hempty : ({} : Series).RereadsExactly := ⟨by simp, by simp, by decide +kernel⟩
  have hlatency : latency.RereadsExactly := by
    refine ⟨?_, ?_, by decide +kernel⟩
    · intro x hx
      obtain rfl := Option.mem_some.1 hx
      decide +kernel
    · intro x hx
      obtain rfl := Option.mem_some.1 hx
      decide +kernel
  have hexact : ∀ series ∈ snapshot.series, series.RereadsExactly := by
    intro series hmem
    have hkinds : series = latency ∨ series = {} := by
      revert series
      decide +kernel
    rcases hkinds with rfl | rfl
    · exact hlatency
    · exact hempty
  exact ⟨hexact, snapshot.ofJson_toJson.2.2.2 hexact⟩

end Snapshot

end StatusDigest
