import StatusDigest.Mrtg.Value
import StatusDigest.Proofs.Decimal.Text
import Mathlib

/-!
# Which names are answered

The names of the variables are described as their documentation does: by the alternatives of each
group of letters. Reading a name group by group finds exactly these:

* `Statistic.ofName?_eq_some_iff` and its companions: a name is read as a variable if and only if
  it is the name of that variable, so that near misses are read as nothing;
* `documented` lists all names by their groups, and `lookups` are the four ways to answer one;
* `Snapshot.mrtgValue_answers`: a documented name is answered by exactly one of the four, and with
  an integer unless its answer is worded; every other text is answered by itself.
-/

namespace StatusDigest.Mrtg

open Stats

/-! ## The documented names -/

/-- The texts that take one alternative of each group, one group after the other. -/
def spellings : List (List String) → List String
  | [] => [""]
  | group :: groups => group.flatMap fun letters => (spellings groups).map (letters ++ ·)

/-- The names of single numbers and texts. -/
def documentedFacts : List String :=
  ["PROGRUNTIME", "PROGRUNTIMETT", "STATUSFILEAGE", "STATUSFILEAGETT", "NAGIOSVERSION",
   "NAGIOSPID", "NAGIOSVERPID", "TOTCMDBUF", "USEDCMDBUF", "HIGHCMDBUF", "NUMSERVICES", "NUMHOSTS",
   "NUMSVCOK", "NUMSVCWARN", "NUMSVCUNKN", "NUMSVCCRIT", "NUMSVCPROB", "NUMSVCCHECKED",
   "NUMSVCSCHEDULED", "NUMSVCFLAPPING", "NUMSVCDOWNTIME", "NUMHSTUP", "NUMHSTDOWN", "NUMHSTUNR",
   "NUMHSTPROB", "NUMHSTCHECKED", "NUMHSTSCHEDULED", "NUMHSTFLAPPING", "NUMHSTDOWNTIME"]

/-- The names of statistics. Only active checks have an execution time. -/
def documentedStatistics : List String :=
  spellings [["MIN", "MAX", "AVG"], ["ACT", "PSV"], ["HST", "SVC"], ["LAT", "PSC"]] ++
    spellings [["MIN", "MAX", "AVG"], ["ACT"], ["HST", "SVC"], ["EXT"]] ++
    spellings [["MIN", "MAX", "AVG"], ["HST", "SVC"], ["PSC"]]

/-- The names of counts within a window. -/
def documentedWindows : List String :=
  spellings [["NUM"], ["HST", "SVC"], ["ACT", "PSV"], ["CHK"], ["1", "5", "15", "60"], ["M"]]

/-- The names of rates that the daemon reports. -/
def documentedRates : List String :=
  spellings [["NUM"], ["ACT", "OACT", "SACT", "PAR", "SER", "PSV", "CACHED"], ["HSTCHECKS"],
      ["1", "5", "15"], ["M"]] ++
    spellings [["NUM"], ["ACT", "OACT", "SACT", "PSV", "CACHED"], ["SVCCHECKS"],
      ["1", "5", "15"], ["M"]] ++
    spellings [["NUM"], ["EXTCMDS"], ["1", "5", "15"], ["M"]]

/-- All names that are answered. -/
def documented : List String :=
  documentedFacts ++ documentedStatistics ++ documentedWindows ++ documentedRates

/-- The names whose answers are words and not just a number. -/
def worded : List String :=
  ["NAGIOSVERSION", "NAGIOSVERPID", "PROGRUNTIME", "STATUSFILEAGE"]

/-- The four ways to look a name up. -/
def lookups : List (String → Option Variable) :=
  [fun name => (Fact.ofName? name).map .fact, fun name => (Statistic.ofName? name).map .statistic,
   fun name => (WindowCount.ofName? name).map .windowCount,
   fun name => (RateCount.ofName? name).map .rateCount]

/-! ## Reading groups of letters -/

section Groups

variable {α : Type} {code : α → String} {alternatives : List α} {x : α} {text rest : List Char}

/-- The letters of what is taken stood before the rest. -/
theorem eq_append_of_takeCode (h : takeCode code alternatives text = some (x, rest)) :
    text = (code x).toList ++ rest := by
  obtain ⟨y, -, hy⟩ := List.exists_of_findSome?_eq_some h
  obtain ⟨after, hprefix, heq⟩ := Option.map_eq_some_iff.1 hy
  obtain ⟨rfl, rfl⟩ := Prod.mk.inj heq
  exact (List.append_eq_of_isPrefixOf?_eq_some hprefix).symm

theorem eq_toList_of_ofCode? (h : ofCode? code alternatives text = some x) :
    text = (code x).toList := by
  have hfound := List.find?_some h
  exact (of_decide_eq_true hfound).symm

/-- Whether an origin is taken or not, its letters stood before the rest. -/
theorem eq_append_takeOrigin (text : List Char) :
    text = ((takeOrigin text).1.elim "" originCode).toList ++ (takeOrigin text).2 := by
  unfold takeOrigin
  cases htake : takeCode originCode origins text with
  | none => simp
  | some taken =>
    obtain ⟨origin, rest⟩ := taken
    have hsplit := eq_append_of_takeCode htake
    simpa using hsplit

end Groups

/-- The parts of a text that is cut at a word are those around the word. -/
theorem eq_append_of_cutAtWord {word text before after : List Char}
    (h : Text.cutAtWord word text = some (before, after)) : text = before ++ word ++ after := by
  induction text generalizing before with
  | nil =>
    obtain ⟨rest, hprefix, heq⟩ := Option.map_eq_some_iff.1 h
    obtain ⟨rfl, rfl⟩ := Prod.mk.inj heq
    exact (List.append_eq_of_isPrefixOf?_eq_some hprefix).symm
  | cons c text ih =>
    unfold Text.cutAtWord at h
    split at h
    · rename_i rest hprefix
      obtain ⟨rfl, rfl⟩ := Prod.mk.inj (Option.some.inj h)
      exact (List.append_eq_of_isPrefixOf?_eq_some hprefix).symm
    · obtain ⟨⟨start, rest⟩, hcut, heq⟩ := Option.map_eq_some_iff.1 h
      obtain ⟨rfl, rfl⟩ := Prod.mk.inj heq
      rw [ih hcut]
      rfl

/-! ## Names are read as what they are the names of -/

theorem Fact.ofName?_eq_some_iff {name : String} {fact : Fact} :
    Fact.ofName? name = some fact ↔ fact.name = name := by
  constructor
  · intro h
    have hfound := List.find?_some h
    exact of_decide_eq_true hfound
  · rintro rfl
    cases fact <;> rfl

theorem Gauge.eq_of_ofCodes? {origin : Option Origin} {quantity : List Char} {gauge : Gauge}
    (h : Gauge.ofCodes? origin quantity = some gauge) :
    gauge.origin? = origin ∧ gauge.quantityCode.toList = quantity := by
  have hfound := List.find?_some h
  exact of_decide_eq_true hfound

theorem Statistic.ofName?_eq_some_iff {name : String} {statistic : Statistic} :
    Statistic.ofName? name = some statistic ↔ statistic.name = name := by
  constructor
  · intro h
    -- each group takes its letters from the front, and the quantity takes all that is left
    simp only [Statistic.ofName?, bind, Option.bind_eq_some_iff, Prod.exists] at h
    obtain ⟨pick, afterPick, hpick, subject, quantity, hsubject, gauge, hgauge, heq⟩ := h
    obtain rfl := Option.some.inj heq
    obtain ⟨horigin, hquantity⟩ := Gauge.eq_of_ofCodes? hgauge
    apply String.toList_inj.1
    rw [eq_append_of_takeCode hpick, eq_append_takeOrigin afterPick,
      eq_append_of_takeCode hsubject, ← hquantity, ← horigin]
    simp [Statistic.name, Gauge.originCode, String.toList_append]
  · rintro rfl
    obtain ⟨pick, gauge, subject⟩ := statistic
    cases pick <;> cases gauge <;> cases subject <;> rfl

theorem WindowCount.ofName?_eq_some_iff {name : String} {count : WindowCount} :
    WindowCount.ofName? name = some count ↔ count.name = name := by
  constructor
  · intro h
    simp only [WindowCount.ofName?, bind, Option.bind_eq_some_iff, Prod.exists] at h
    obtain ⟨afterNum, hnum, subject, afterSubject, hsubject, origin, afterOrigin, horigin, letters,
      hchk, span, hspan, heq⟩ := h
    obtain rfl := Option.some.inj heq
    apply String.toList_inj.1
    rw [← List.append_eq_of_isPrefixOf?_eq_some hnum, eq_append_of_takeCode hsubject,
      eq_append_of_takeCode horigin, ← List.append_eq_of_isPrefixOf?_eq_some hchk,
      eq_toList_of_ofCode? hspan]
    simp [WindowCount.name, String.toList_append]
  · rintro rfl
    obtain ⟨subject, origin, span⟩ := count
    cases subject <;> cases origin <;> cases span <;> rfl

/-- The letters of a class stood before the rest, whichever way the class was found. -/
theorem RateClass.eq_append_of_take? {text rest : List Char} {rateClass : RateClass}
    (h : RateClass.take? text = some (rateClass, rest)) :
    text = rateClass.code.toList ++ rest := by
  unfold RateClass.take? at h
  split at h
  · rename_i after hcommands
    obtain ⟨rfl, rfl⟩ := Prod.mk.inj (Option.some.inj h)
    exact (List.append_eq_of_isPrefixOf?_eq_some hcommands).symm
  split at h
  · rename_i letters after hcut
    obtain ⟨kind, hkind, heq⟩ := Option.map_eq_some_iff.1 h
    obtain ⟨rfl, rfl⟩ := Prod.mk.inj heq
    rw [eq_append_of_cutAtWord hcut, eq_toList_of_ofCode? hkind, RateClass.code,
      String.toList_append]
  split at h
  · rename_i letters after hcut
    obtain ⟨kind, hkind, heq⟩ := Option.map_eq_some_iff.1 h
    obtain ⟨rfl, rfl⟩ := Prod.mk.inj heq
    rw [eq_append_of_cutAtWord hcut, eq_toList_of_ofCode? hkind, RateClass.code,
      String.toList_append]
  · cases h

theorem RateCount.ofName?_eq_some_iff {name : String} {count : RateCount} :
    RateCount.ofName? name = some count ↔ count.name = name := by
  constructor
  · intro h
    simp only [RateCount.ofName?, bind, Option.bind_eq_some_iff, Prod.exists] at h
    obtain ⟨afterNum, hnum, rateClass, letters, hclass, span, hspan, heq⟩ := h
    obtain rfl := Option.some.inj heq
    apply String.toList_inj.1
    rw [← List.append_eq_of_isPrefixOf?_eq_some hnum, RateClass.eq_append_of_take? hclass,
      eq_toList_of_ofCode? hspan]
    simp [RateCount.name, String.toList_append]
  · rintro rfl
    obtain ⟨rateClass, span⟩ := count
    cases rateClass with
    | hostChecks kind => cases kind <;> cases span <;> rfl
    | serviceChecks kind => cases kind <;> cases span <;> rfl
    | externalCommands => cases span <;> rfl

/-! ## Every name is documented, and every documented name is one -/

theorem Fact.mem_all (fact : Fact) : fact ∈ Fact.all := by
  cases fact <;> decide

theorem Pick.mem_all (pick : Pick) : pick ∈ Pick.all := by
  cases pick <;> decide

theorem Gauge.mem_all (gauge : Gauge) : gauge ∈ Gauge.all := by
  cases gauge <;> decide

theorem Subject.mem_all (subject : Subject) : subject ∈ Subject.all := by
  cases subject <;> decide

theorem mem_origins (origin : Origin) : origin ∈ origins := by
  cases origin <;> decide

theorem mem_windowSpans (span : WindowSpan) : span ∈ WindowSpan.all := by
  cases span <;> decide

theorem mem_rateSpans (span : RateSpan) : span ∈ RateSpan.all := by
  cases span <;> decide

theorem HostClass.mem_all (kind : HostClass) : kind ∈ HostClass.all := by
  cases kind <;> decide

theorem ServiceClass.mem_all (kind : ServiceClass) : kind ∈ ServiceClass.all := by
  cases kind <;> decide

/-- The names of all variables are documented, family by family. -/
theorem names_documented :
    (∀ fact ∈ Fact.all, fact.name ∈ documentedFacts) ∧
    (∀ pick ∈ Pick.all, ∀ gauge ∈ Gauge.all, ∀ subject ∈ Subject.all,
      Statistic.name { pick, gauge, subject } ∈ documentedStatistics) ∧
    (∀ subject ∈ Subject.all, ∀ origin ∈ origins, ∀ span ∈ WindowSpan.all,
      WindowCount.name { subject, origin, span } ∈ documentedWindows) ∧
    ∀ span ∈ RateSpan.all,
      (∀ kind ∈ HostClass.all,
        RateCount.name { rateClass := .hostChecks kind, span } ∈ documentedRates) ∧
      (∀ kind ∈ ServiceClass.all,
        RateCount.name { rateClass := .serviceChecks kind, span } ∈ documentedRates) ∧
      RateCount.name { rateClass := .externalCommands, span } ∈ documentedRates := by
  decide +kernel

/-- Every documented name is read by the lookup of its family and by no later one: facts are no
other variables, the names of statistics start with a pick, and those of window counts have no word
for the checks of a class. -/
theorem documented_read :
    (∀ name ∈ documentedFacts, (Fact.ofName? name).isSome = true ∧
      (Statistic.ofName? name).isSome = false ∧ (WindowCount.ofName? name).isSome = false ∧
      (RateCount.ofName? name).isSome = false) ∧
    (∀ name ∈ documentedStatistics, (Statistic.ofName? name).isSome = true ∧
      (WindowCount.ofName? name).isSome = false ∧ (RateCount.ofName? name).isSome = false) ∧
    (∀ name ∈ documentedWindows, (WindowCount.ofName? name).isSome = true ∧
      (RateCount.ofName? name).isSome = false) ∧
    ∀ name ∈ documentedRates, (RateCount.ofName? name).isSome = true := by
  decide +kernel

theorem isSome_fact_iff {name : String} :
    (Fact.ofName? name).isSome = true ↔ name ∈ documentedFacts := by
  constructor
  · intro h
    obtain ⟨fact, hfact⟩ := Option.isSome_iff_exists.1 h
    rw [← Fact.ofName?_eq_some_iff.1 hfact]
    exact names_documented.1 fact fact.mem_all
  · intro hname
    exact (documented_read.1 name hname).1

theorem isSome_statistic_iff {name : String} :
    (Statistic.ofName? name).isSome = true ↔ name ∈ documentedStatistics := by
  constructor
  · intro h
    obtain ⟨⟨pick, gauge, subject⟩, hstatistic⟩ := Option.isSome_iff_exists.1 h
    rw [← Statistic.ofName?_eq_some_iff.1 hstatistic]
    exact names_documented.2.1 pick pick.mem_all gauge gauge.mem_all subject subject.mem_all
  · intro hname
    exact (documented_read.2.1 name hname).1

theorem isSome_windowCount_iff {name : String} :
    (WindowCount.ofName? name).isSome = true ↔ name ∈ documentedWindows := by
  constructor
  · intro h
    obtain ⟨⟨subject, origin, span⟩, hcount⟩ := Option.isSome_iff_exists.1 h
    rw [← WindowCount.ofName?_eq_some_iff.1 hcount]
    exact names_documented.2.2.1 subject subject.mem_all origin (mem_origins origin) span
      (mem_windowSpans span)
  · intro hname
    exact (documented_read.2.2.1 name hname).1

theorem isSome_rateCount_iff {name : String} :
    (RateCount.ofName? name).isSome = true ↔ name ∈ documentedRates := by
  constructor
  · intro h
    obtain ⟨⟨rateClass, span⟩, hcount⟩ := Option.isSome_iff_exists.1 h
    rw [← RateCount.ofName?_eq_some_iff.1 hcount]
    obtain ⟨hhosts, hservices, hcommands⟩ := names_documented.2.2.2 span (mem_rateSpans span)
    cases rateClass with
    | hostChecks kind => exact hhosts kind kind.mem_all
    | serviceChecks kind => exact hservices kind kind.mem_all
    | externalCommands => exact hcommands
  · intro hname
    exact documented_read.2.2.2 name hname

/-! ## No name is answered twice -/

/-- One of the four lookups answers a documented name, and none answers any other text. -/
theorem countP_lookups (name : String) :
    (lookups.countP fun lookup => (lookup name).isSome) = if name ∈ documented then 1 else 0 := by
  have hfact := documented_read.1 name
  have hstatistic := documented_read.2.1 name
  have hwindow := documented_read.2.2.1 name
  simp only [documented, List.mem_append, ← isSome_fact_iff, ← isSome_statistic_iff,
    ← isSome_windowCount_iff, ← isSome_rateCount_iff] at *
  simp only [lookups, List.countP_cons, List.countP_nil, Option.isSome_map]
  -- the families exclude each other, so that at most one of the four terms counts
  cases hf : (Fact.ofName? name).isSome <;> cases hs : (Statistic.ofName? name).isSome <;>
    cases hw : (WindowCount.ofName? name).isSome <;>
    cases hr : (RateCount.ofName? name).isSome <;> simp_all

/-- A variable is found by the lookup of its family. -/
theorem exists_lookup (x : Variable) : ∃ lookup ∈ lookups, lookup x.name = some x := by
  cases x with
  | fact x => exact ⟨_, .head _, Option.map_eq_some_iff.2 ⟨x, Fact.ofName?_eq_some_iff.2 rfl, rfl⟩⟩
  | statistic x =>
    exact ⟨_, .tail _ (.head _),
      Option.map_eq_some_iff.2 ⟨x, Statistic.ofName?_eq_some_iff.2 rfl, rfl⟩⟩
  | windowCount x =>
    exact ⟨_, .tail _ (.tail _ (.head _)),
      Option.map_eq_some_iff.2 ⟨x, WindowCount.ofName?_eq_some_iff.2 rfl, rfl⟩⟩
  | rateCount x =>
    exact ⟨_, .tail _ (.tail _ (.tail _ (.head _))),
      Option.map_eq_some_iff.2 ⟨x, RateCount.ofName?_eq_some_iff.2 rfl, rfl⟩⟩

/-- What a lookup finds has the name that was looked up. -/
theorem name_of_mem_lookups {lookup : String → Option Variable} (hlookup : lookup ∈ lookups)
    {name : String} {x : Variable} (hx : lookup name = some x) : x.name = name := by
  simp only [lookups, List.mem_cons, List.not_mem_nil, or_false] at hlookup
  rcases hlookup with rfl | rfl | rfl | rfl
  · obtain ⟨fact, hfact, rfl⟩ := Option.map_eq_some_iff.1 hx
    exact Fact.ofName?_eq_some_iff.1 hfact
  · obtain ⟨statistic, hstatistic, rfl⟩ := Option.map_eq_some_iff.1 hx
    exact Statistic.ofName?_eq_some_iff.1 hstatistic
  · obtain ⟨count, hcount, rfl⟩ := Option.map_eq_some_iff.1 hx
    exact WindowCount.ofName?_eq_some_iff.1 hcount
  · obtain ⟨count, hcount, rfl⟩ := Option.map_eq_some_iff.1 hx
    exact RateCount.ofName?_eq_some_iff.1 hcount

/-! ## The order of the lookups -/

/-- Everything that the four lookups find for a name. -/
def found (name : String) : List Variable :=
  lookups.filterMap fun lookup => lookup name

theorem length_found (name : String) :
    (found name).length = if name ∈ documented then 1 else 0 := by
  rw [found, List.length_filterMap_eq_countP, countP_lookups]

theorem length_found_le (name : String) : (found name).length ≤ 1 := by
  rw [length_found]
  split <;> omega

theorem Variable.ofName?_eq_head? (name : String) :
    Variable.ofName? name = (found name).head? := by
  rw [found, List.head?_filterMap]
  simp only [Variable.ofName?, lookups, List.findSome?]
  cases hf : Fact.ofName? name <;> cases hs : Statistic.ofName? name <;>
    cases hw : WindowCount.ofName? name <;> cases hr : RateCount.ofName? name <;> simp

/-- A text is read as a variable if and only if it is the name of that variable. -/
theorem Variable.ofName?_eq_some_iff {name : String} {x : Variable} :
    Variable.ofName? name = some x ↔ x.name = name := by
  rw [Variable.ofName?_eq_head?]
  constructor
  · intro h
    obtain ⟨lookup, hlookup, hx⟩ := List.mem_filterMap.1 (List.mem_of_head? h)
    exact name_of_mem_lookups hlookup hx
  · rintro rfl
    -- the variable is among what is found, and nothing else is
    obtain ⟨lookup, hlookup, hx⟩ := exists_lookup x
    have hmem : x ∈ found x.name := List.mem_filterMap.2 ⟨lookup, hlookup, hx⟩
    obtain ⟨y, hy⟩ := List.length_eq_one_iff.1
      (le_antisymm (length_found_le x.name) (List.length_pos_of_mem hmem))
    rw [hy] at hmem ⊢
    rw [List.mem_singleton.1 hmem, List.head?_cons]

/-- No two variables have the same name. -/
theorem Variable.name_injective : Function.Injective Variable.name := by
  intro x y hname
  have hx := Variable.ofName?_eq_some_iff.2 hname
  rw [Variable.ofName?_eq_some_iff.2 rfl] at hx
  exact (Option.some.inj hx).symm

/-- In whatever order the lookups are asked, the first answer is the same. -/
theorem findSome?_of_perm {order : List (String → Option Variable)} (hperm : order.Perm lookups)
    (name : String) : order.findSome? (fun lookup => lookup name) = Variable.ofName? name := by
  have hfound : (order.filterMap fun lookup => lookup name).Perm (found name) :=
    hperm.filterMap _
  have hle := length_found_le name
  rw [Variable.ofName?_eq_head?, ← List.head?_filterMap]
  -- two orders of at most one variable are the same
  cases hname : found name with
  | nil =>
    rw [hname] at hfound
    rw [hfound.eq_nil]
  | cons x rest =>
    obtain rfl : rest = [] := by
      rw [hname, List.length_cons] at hle
      exact List.length_eq_zero_iff.1 (by omega)
    rw [hname] at hfound
    rw [List.perm_singleton.1 hfound]

/-! ## Answers -/

/-- All answers but the worded ones are integers. -/
theorem Variable.isInteger_value (snapshot : Snapshot) (now : Int64) {x : Variable}
    (hworded : x.name ∉ worded) : Decimal.IsInteger (x.value snapshot now) := by
  cases x with
  | fact x =>
    cases x
    case runningTime | dumpAge | version | versionAndPid => exact absurd hworded (by decide)
    case pid | commandBufferTotal | commandBufferUsed | commandBufferHigh =>
      exact Decimal.isInteger_int64Text _
    all_goals exact Decimal.isInteger_uint64Text _
  | statistic x => exact Decimal.isInteger_int64Text _
  | windowCount x => exact Decimal.isInteger_uint64Text _
  | rateCount x => exact Decimal.isInteger_int64Text _

end StatusDigest.Mrtg

namespace StatusDigest.Snapshot

open Mrtg

/-- The name of a variable is answered with the value of that variable. -/
theorem mrtgValue_name (snapshot : Snapshot) (now : Int64) (x : Variable) :
    snapshot.mrtgValue x.name now = x.value snapshot now := by
  rw [mrtgValue, Variable.ofName?_eq_some_iff.2 rfl]
  rfl

/-- The names that are answered are the documented ones, and each is answered by one of the four
lookups only, whatever their order, with the variable that has the name. Every other text is
answered by itself. The answers that are not worded are integers, whatever the snapshot holds. -/
theorem mrtgValue_answers (snapshot : Snapshot) (now : Int64) (name : String) :
    (lookups.countP fun lookup => (lookup name).isSome) = (if name ∈ documented then 1 else 0) ∧
      (∀ order : List (String → Option Variable), order.Perm lookups →
        order.findSome? (fun lookup => lookup name) = Variable.ofName? name) ∧
      (∀ x, Variable.ofName? name = some x ↔ x.name = name) ∧
      (name ∉ documented → snapshot.mrtgValue name now = name) ∧
      (name ∈ documented → name ∉ worded → Decimal.IsInteger (snapshot.mrtgValue name now)) := by
  have hlength := length_found name
  refine ⟨countP_lookups name, fun order hperm => findSome?_of_perm hperm name,
    fun x => Variable.ofName?_eq_some_iff, ?_, ?_⟩
  · intro hname
    rw [if_neg hname] at hlength
    have hnone : Variable.ofName? name = none := by
      rw [Variable.ofName?_eq_head?, List.length_eq_zero_iff.1 hlength]
      rfl
    rw [mrtgValue, hnone]
    rfl
  · intro hname hworded
    rw [if_pos hname] at hlength
    obtain ⟨x, hx⟩ := List.length_eq_one_iff.1 hlength
    have hsome : Variable.ofName? name = some x := by
      rw [Variable.ofName?_eq_head?, hx]
      rfl
    rw [mrtgValue, hsome]
    rw [← Variable.ofName?_eq_some_iff.1 hsome] at hworded
    exact Variable.isInteger_value snapshot now hworded

end StatusDigest.Snapshot
