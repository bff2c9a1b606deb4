import StatusDigest.Proofs.Dump.Failing
import StatusDigest.Proofs.Dump.Rewriting
import StatusDigest.Proofs.Mrtg.Names
import StatusDigest.Proofs.Report.Lines
import Mathlib

/-!
# Answers to a list of names

The answers to a list of names are found again by their positions. With a line feed behind each of
them they stand in lines of their own, because no answer holds a line feed: numbers and durations
never do, a name that is echoed does not if the list has none, and the version comes out of a line
of the dump.

* `Reader.isWritable_of_closed` is the guarantee of the reader, `DumpInfo.IsOneLine.follow` the step
  and `Snapshot.isOneLine_info_applyAll` the run that carry it to the version of a snapshot;
* `Snapshot.answers` are the answers to the names in a list, one by one, and `toList_mrtg` says how
  they are put together;
* `Snapshot.mrtg_positions` is the result for every source, every time and every list of one line.
-/

namespace StatusDigest

open Dump Mrtg

/-! ## The version of a snapshot -/

/-- If there is a version, it is one line. -/
def DumpInfo.IsOneLine (info : DumpInfo) : Prop :=
  ∀ version, info.version = some version → OneLine version

/-- A block whose fields fit into lines has a version of one line. -/
theorem DumpInfo.IsOneLine.update {info : DumpInfo} (h : info.IsOneLine) {block : Block}
    (hblock : block.IsWritable) : (info.update block.infoRecord).IsOneLine := by
  intro version hversion
  rcases (Option.orElse_eq_some _ _ _).1 hversion with hsaid | ⟨-, hknown⟩
  · exact (hblock "version" version hsaid).value_line
  · exact h version hknown

theorem DumpInfo.IsOneLine.follow {info : DumpInfo} (h : info.IsOneLine) {event : Event}
    (hevent : ∀ block, event = .closed block → block.IsWritable) :
    (info.follow event).IsOneLine := by
  cases event with
  | opened kind => exact h
  | closed block =>
    rw [DumpInfo.follow]
    split
    · exact h.update (hevent block rfl)
    · exact h

namespace Snapshot

theorem isOneLine_info_applyAll (now : Int64) {events : List Event}
    (hevents : ∀ block, .closed block ∈ events → block.IsWritable) {snapshot : Snapshot}
    (h : snapshot.info.IsOneLine) : (snapshot.applyAll now events).info.IsOneLine := by
  induction events generalizing snapshot with
  | nil => exact h
  | cons event rest ih =>
    refine ih (fun block hblock => hevents block (List.mem_cons_of_mem _ hblock)) ?_
    rw [info_apply]
    refine h.follow ?_
    rintro block rfl
    exact hevents block List.mem_cons_self

/-- The version of a dump is one line. -/
theorem isOneLine_info_ofSource {source : Source} {reference : Int64} {snapshot : Snapshot}
    (h : ofSource source reference = .ok snapshot) : snapshot.info.IsOneLine := by
  cases hfailure : source.failure with
  | some reason =>
    rw [Dump.Snapshot.ofSource_of_failure hfailure] at h
    cases h
  | none =>
    rw [(Source.answers_of_ends hfailure).digest] at h
    obtain rfl := Except.ok.inj h
    refine isOneLine_info_applyAll reference (fun block => Reader.isWritable_of_closed) ?_
    rintro version ⟨⟩

end Snapshot

/-! ## Answers of one line -/

/-- The answers that are words are made of numbers, durations and the version. -/
theorem Mrtg.Variable.oneLine_value {snapshot : Snapshot} (h : snapshot.info.IsOneLine)
    (now : Int64) (x : Variable) : OneLine (x.value snapshot now) := by
  have hversion : OneLine (snapshot.info.version.getD "") := by
    cases hsome : snapshot.info.version with
    | none => decide
    | some version => exact h version hsome
  by_cases hworded : x.name ∈ worded
  · simp only [worded, List.mem_cons, List.not_mem_nil, or_false] at hworded
    rcases hworded with hname | hname | hname | hname
    · obtain rfl : x = .fact .version := Variable.name_injective hname
      exact hversion
    · obtain rfl : x = .fact .versionAndPid := Variable.name_injective hname
      have hpid := OneLine.ofInteger (Decimal.isInteger_int64Text snapshot.program.pid)
      have hnagios : OneLine "Nagios " := by decide
      have hopen : OneLine " (pid=" := by decide
      have hclose : OneLine ")" := by decide
      exact (((hnagios.append hversion).append hopen).append hpid).append hclose
    · obtain rfl : x = .fact .runningTime := Variable.name_injective hname
      exact .durationText _
    · obtain rfl : x = .fact .dumpAge := Variable.name_injective hname
      exact .durationText _
  · exact .ofInteger (Variable.isInteger_value snapshot now hworded)

namespace Snapshot

/-- A name of one line has an answer of one line. -/
theorem oneLine_mrtgValue {snapshot : Snapshot} (h : snapshot.info.IsOneLine) (now : Int64)
    {name : String} (hname : OneLine name) : OneLine (snapshot.mrtgValue name now) := by
  rw [mrtgValue]
  cases Variable.ofName? name with
  | none => exact hname
  | some x => exact x.oneLine_value h now

/-! ## Answers put together -/

/-- The answers to the names in a list. The names are what stands between the commas, as far as it
is not empty. -/
def answers (snapshot : Snapshot) (list : String) (now : Int64) : List (List Char) :=
  ((list.toList.splitOn ',').filter (· ≠ [])).map fun name =>
    (snapshot.mrtgValue (String.ofList name) now).toList

theorem lineFeed_not_mem_answers {snapshot : Snapshot} (h : snapshot.info.IsOneLine)
    {list : String} (hlist : '\n' ∉ list.toList) (now : Int64) :
    ∀ answer ∈ snapshot.answers list now, '\n' ∉ answer := by
  intro answer hanswer
  obtain ⟨name, hname, rfl⟩ := List.mem_map.1 hanswer
  have hpiece := Text.subset_of_mem_splitOn (List.mem_of_mem_filter hname)
  apply oneLine_mrtgValue h now
  rw [OneLine, String.toList_ofList]
  exact fun hmem => hlist (hpiece hmem)

/-- Every answer has the delimiter behind it, and all of them have a line feed behind them unless
the delimiter is one. -/
theorem toList_mrtg (snapshot : Snapshot) (list delimiter : String) (now : Int64) :
    (snapshot.mrtg list delimiter now).toList =
      (snapshot.answers list now).flatMap (· ++ delimiter.toList) ++
        if delimiter = "\n" then [] else ['\n'] := by
  have hnames : names list =
      ((list.toList.splitOn ',').filter (· ≠ [])).map String.ofList := by
    rw [names, Text.pieces_eq_splitOn]
    congr 1
    apply List.filter_congr
    intro piece _
    cases piece <;> simp
  have hend : (if delimiter = "\n" then "" else "\n" : String).toList =
      if delimiter = "\n" then [] else ['\n'] := by
    split <;> rfl
  rw [mrtg, String.toList_append, hend, String.toList_join, hnames, answers, List.map_map,
    List.flatMap_map, List.flatMap_map]
  simp only [Function.comp_apply, String.toList_append]

/-- The answers are found again by their positions. If neither the dump nor the list of names can
bring in a line feed, the lines are the answers when each of them is followed by a line feed. With
any other delimiter that is in none of the answers, there is one line feed, at the end, and what
stands before it is cut into the answers at the delimiter. Behind the last delimiter there is
nothing. -/
theorem mrtg_positions {source : Source} {reference : Int64} {snapshot : Snapshot}
    (hsnapshot : ofSource source reference = .ok snapshot) {list : String}
    (hlist : '\n' ∉ list.toList) (now : Int64) :
    (snapshot.mrtg list "\n" now).toList = (snapshot.answers list now).flatMap (· ++ ['\n']) ∧
    (snapshot.mrtg list "\n" now).toList.splitOn '\n' = snapshot.answers list now ++ [[]] ∧
    ∀ delimiter : Char, delimiter ≠ '\n' →
      (∀ answer ∈ snapshot.answers list now, delimiter ∉ answer) →
        ∃ body, (snapshot.mrtg list (String.singleton delimiter) now).toList = body ++ ['\n'] ∧
          '\n' ∉ body ∧ body = (snapshot.answers list now).flatMap (· ++ [delimiter]) ∧
          body.splitOn delimiter = snapshot.answers list now ++ [[]] := by
  have hfeeds := lineFeed_not_mem_answers (isOneLine_info_ofSource hsnapshot) hlist now
  have hlines : (snapshot.mrtg list "\n" now).toList =
      (snapshot.answers list now).flatMap (· ++ ['\n']) := by
    rw [toList_mrtg, if_pos rfl, List.append_nil]
    rfl
  refine ⟨hlines, ?_, ?_⟩
  · rw [hlines, Text.splitOn_ended hfeeds]
  · intro delimiter hdelimiter hfree
    have hother : String.singleton delimiter ≠ "\n" := by
      intro heq
      have hlists := congrArg String.toList heq
      rw [String.toList_singleton] at hlists
      exact hdelimiter (List.cons.inj hlists).1
    refine ⟨(snapshot.answers list now).flatMap (· ++ [delimiter]), ?_, ?_, rfl,
      Text.splitOn_ended hfree⟩
    · rw [toList_mrtg, if_neg hother, String.toList_singleton]
    · intro hmem
      obtain ⟨answer, hanswer, hin⟩ := List.mem_flatMap.1 hmem
      rcases List.mem_append.1 hin with hin | hin
      · exact hfeeds answer hanswer hin
      · exact hdelimiter (List.mem_singleton.1 hin).symm

/-- A dump whose version has the text of a marker in it. -/
def versionedDump : Source where
  chunks := ["info \x7b\nversion=4.5 info \x7b\t=;\n", "\x7d\nprogram \x7b\nnagios_pid=7\n\x7d"].map
    Text.Utf8.encode

/-- Known and unknown names, a space around one of them, and nothing between some commas. -/
def mixedList : String :=
  ",NAGIOSPID,,no such name, NAGIOSPID,NAGIOSVERSION,"

theorem mrtg_positions_mixed : ∃ snapshot,
    ofSource versionedDump 0 = .ok snapshot ∧ '\n' ∉ mixedList.toList ∧ '|' ≠ '\n' ∧
      (∀ answer ∈ snapshot.answers mixedList 0, '|' ∉ answer) ∧
      (snapshot.answers mixedList 0).map String.ofList =
        ["7", "no such name", " NAGIOSPID", "4.5 info \x7b\t=;"] ∧
      (snapshot.mrtg mixedList "\n" 0).toList.splitOn '\n' = snapshot.answers mixedList 0 ++ [[]] ∧
      ∃ body, (snapshot.mrtg mixedList (String.singleton '|') 0).toList = body ++ ['\n'] ∧
        body.splitOn '|' = snapshot.answers mixedList 0 ++ [[]] := by
  have hcomputed : (ofSource versionedDump 0).toOption.map
      (fun snapshot => (snapshot.answers mixedList 0).map String.ofList) =
        some ["7", "no such name", " NAGIOSPID", "4.5 info \x7b\t=;"] := by
    decide +kernel
  obtain ⟨snapshot, hsnapshot, hanswers⟩ := Option.map_eq_some_iff.1 hcomputed
  have hok : ofSource versionedDump 0 = .ok snapshot := by
    cases h : ofSource versionedDump 0 with
    | error failure => rw [h] at hsnapshot; cases hsnapshot
    | ok found => rw [h] at hsnapshot; exact congrArg _ (Option.some.inj hsnapshot)
  have hlist : '\n' ∉ mixedList.toList := by decide
  have hfree : ∀ answer ∈ snapshot.answers mixedList 0, '|' ∉ answer := by
    intro answer hmem
    have hshown := List.mem_map_of_mem (f := String.ofList) hmem
    rw [hanswers] at hshown
    have hall : ∀ text ∈ ["7", "no such name", " NAGIOSPID", "4.5 info \x7b\t=;"],
        '|' ∉ text.toList := by decide
    have hnone := hall _ hshown
    rwa [String.toList_ofList] at hnone
  obtain ⟨-, hlines, hother⟩ := mrtg_positions hok hlist 0
  obtain ⟨body, hbody, -, -, hcut⟩ := hother '|' (by decide) hfree
  exact ⟨snapshot, hok, hlist, by decide, hfree, hanswers, hlines, body, hbody, hcut⟩

end Snapshot

end StatusDigest
