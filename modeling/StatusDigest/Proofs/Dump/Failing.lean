import StatusDigest.Locate
import StatusDigest.Proofs.Dump.Joining
import Mathlib

/-!
# Sources that fail

A failure can strike at any octet, inside a line or inside a character. The lines that have been
ended before it are read as if the input had ended there, the line that it strikes is lost, and
nothing is digested. Without a failure nothing is lost, and nothing goes wrong:

* `upToLastFeed` is the part of some octets that a failure leaves, and `Source.lines_of_failure`
  shows that a source that fails delivers the lines of this part, however its chunks are cut;
* `textsOf_ended`: at the end of input, the last line counts as if it had been ended;
* `Source.Answers` is all that is read from a source, and `Source.answers_cut_off` the result for
  the failing sources and the others over the same octets.
-/

namespace StatusDigest.Dump

/-! ## What a failure leaves -/

/-- The octets up to the last line feed, with it. There are none if there is no line feed. -/
def upToLastFeed (octets : List UInt8) : List UInt8 :=
  octets.rdropWhile (· ≠ lineFeed)

theorem endsAtFeed_upToLastFeed (octets : List UInt8) : EndsAtFeed (upToLastFeed octets) := by
  by_cases hempty : upToLastFeed octets = []
  · exact .inl hempty
  · right
    have hlast := List.rdropWhile_last_not (· ≠ lineFeed) octets hempty
    have hfeed : (upToLastFeed octets).getLast hempty = lineFeed := by
      by_contra hne
      exact hlast (decide_eq_true hne)
    rw [List.getLast?_eq_some_getLast hempty, hfeed]

/-- Behind the last line feed stands a line that has not been ended. -/
theorem exists_unfinished (octets : List UInt8) :
    ∃ unfinished, lineFeed ∉ unfinished ∧ octets = upToLastFeed octets ++ unfinished := by
  refine ⟨octets.rtakeWhile (· ≠ lineFeed), ?_, List.rdropWhile_append_rtakeWhile.symm⟩
  intro hmem
  have hne := List.mem_rtakeWhile_imp hmem
  simp at hne

/-- However its chunks are cut, a source that fails delivers the lines before the last line
feed. -/
theorem Source.lines_of_failure {source : Source} {reason : String}
    (hfails : source.failure = some reason) :
    source.lines = linesOf (upToLastFeed source.bytes) := by
  have hgather := gatherLines_eq_splitOn [] source.chunks (by simp)
  obtain ⟨unfinished, hfeed, hbytes⟩ := exists_unfinished source.bytes
  -- the complete lines and the unfinished one are the pieces of the octets, cut at once
  have hpieces : source.bytes.splitOn lineFeed =
      linesOf (upToLastFeed source.bytes) ++ [unfinished] := by
    conv_lhs => rw [hbytes]
    rw [splitOn_append_of_endsAtFeed (endsAtFeed_upToLastFeed _),
      List.splitOn_eq_singleton hfeed]
  rw [List.nil_append] at hgather
  have hcomplete := List.append_inj_left' (hgather.trans hpieces) rfl
  simp [Source.lines, hfails, hcomplete]

theorem Reader.events_of_failure {source : Source} {reason : String}
    (hfails : source.failure = some reason) :
    (Reader.ofSource source).events =
      eventsFrom none ((textsOf (upToLastFeed source.bytes)).map Line.ofText) := by
  rw [Reader.events, Reader.ofSource, Source.lines_of_failure hfails, textsOf, List.map_map]
  rfl

/-- A reader of a source that fails gives its events, and then the failure. -/
theorem Reader.items_of_failure {source : Source} {reason : String}
    (hfails : source.failure = some reason) :
    (Reader.ofSource source).items =
      (Reader.ofSource source).events.map .ok ++ [.error (.readFailed reason)] := by
  have hfailure : (Reader.ofSource source).failure = some (.readFailed reason) := by
    simp [Reader.ofSource, hfails]
  simp [Reader.items, hfailure]

/-! ## The last line at the end of input -/

/-- A line feed at the end makes no further line, but perhaps an empty one. -/
theorem textsOf_ended (octets : List UInt8) :
    textsOf (octets ++ [lineFeed]) = textsOf octets ∨
      textsOf (octets ++ [lineFeed]) = textsOf octets ++ [[]] := by
  rw [textsOf, linesOf_ended, textsOf, linesOf]
  by_cases hlast : (octets.splitOn lineFeed).getLast? = some []
  · -- the octets were ended before, so that an empty line follows them
    right
    obtain ⟨pieces, hpieces⟩ := List.getLast?_eq_some_iff.1 hlast
    have hempty : lineText [] = [] := rfl
    simp [hpieces, hempty]
  · left
    simp [hlast]

theorem eventsFrom_textsOf_ended (octets : List UInt8) :
    eventsFrom none ((textsOf (octets ++ [lineFeed])).map Line.ofText) =
      eventsFrom none ((textsOf octets).map Line.ofText) := by
  rcases textsOf_ended octets with h | h
  · rw [h]
  · have hidle : ∀ current, eventsFrom current [Line.ofText []] = [] := fun _ => rfl
    rw [h, List.map_append, eventsFrom_append, List.map_singleton, hidle, List.append_nil]

theorem lastStatusFile?_textsOf_ended (octets : List UInt8) :
    lastStatusFile? (textsOf (octets ++ [lineFeed])) = lastStatusFile? (textsOf octets) := by
  rcases textsOf_ended octets with h | h
  · rw [h]
  · rw [h, lastStatusFile?, List.foldl_append]
    rfl

/-! ## Everything that is read from a source -/

/-- All that is read from a source: what the pulls of a reader give, the digest at every time, and
the status file that it names if it is a configuration. -/
structure Source.Answers (source : Source) (items : List Item)
    (digest : Int64 → Except StatusFailure Snapshot) (found : Except String (Option String)) :
    Prop where
  items : (Reader.ofSource source).Gives items
  digest : ∀ now, Snapshot.ofSource source now = digest now
  found : scanConfig source = found

/-- Whatever has been digested before a failure, the failure is all that is left. -/
theorem Snapshot.ofSource_of_failure {source : Source} {reason : String}
    (hfails : source.failure = some reason) (now : Int64) :
    Snapshot.ofSource source now = .error (.readFailed reason) := by
  rw [Snapshot.ofSource, Reader.items_of_failure hfails, List.foldlM_append,
    Snapshot.foldlM_applyItem]
  rfl

theorem Source.answers_of_failure {source : Source} {reason : String}
    (hfails : source.failure = some reason) :
    source.Answers ((Reader.ofSource source).events.map .ok ++ [.error (.readFailed reason)])
      (fun _ => .error (.readFailed reason)) (.error reason) := by
  constructor
  case items =>
    rw [← Reader.items_of_failure hfails]
    exact Reader.gives_items _
  case digest => exact Snapshot.ofSource_of_failure hfails
  case found => simp [scanConfig, hfails]

theorem Source.answers_of_ends {source : Source} (hends : source.failure = none) :
    source.Answers ((Reader.ofSource source).events.map .ok)
      (fun now => .ok (Snapshot.applyAll {} now (Reader.ofSource source).events))
      (.ok (lastStatusFile? (textsOf source.bytes))) := by
  constructor
  case items => exact Reader.gives_events hends
  case digest =>
    intro now
    rw [Snapshot.ofSource_eq_afterRun hends, Snapshot.afterRun, Snapshot.runOf, List.foldl_map]
    rfl
  case found =>
    simp [scanConfig, hends, Source.lines_eq_linesOf hends, textsOf]

/-- What is read from sources over the same octets, in whatever chunks they arrive.

A source that fails behind the octets gives the events of the part up to the last line feed, as it
is read when the input ends there, then the failure with its reason, and then nothing any more.
Neither a digest nor a status file is got from it. From a source that ends behind the octets
everything is got, and it makes no difference whether the last line is ended by a line feed. -/
theorem Source.answers_cut_off (octets : List UInt8) :
    ∃ (whole all : List Event) (digest : Int64 → Snapshot) (found : Option String),
      (∀ source : Source, source.bytes = upToLastFeed octets → source.failure = none →
        (Reader.ofSource source).Gives (whole.map .ok)) ∧
      (∀ (source : Source) (reason : String), source.bytes = octets →
        source.failure = some reason →
          source.Answers (whole.map .ok ++ [.error (.readFailed reason)])
            (fun _ => .error (.readFailed reason)) (.error reason)) ∧
      (∀ source : Source, source.bytes = octets ∨ source.bytes = octets ++ [lineFeed] →
        source.failure = none →
          source.Answers (all.map .ok) (fun now => .ok (digest now)) (.ok found)) ∧
      whole <+: all := by
  refine ⟨eventsFrom none ((textsOf (upToLastFeed octets)).map Line.ofText),
    eventsFrom none ((textsOf octets).map Line.ofText),
    fun now => Snapshot.applyAll {} now (eventsFrom none ((textsOf octets).map Line.ofText)),
    lastStatusFile? (textsOf octets), ?_, ?_, ?_, ?_⟩
  · intro source hbytes hends
    have hgives := Reader.gives_events hends
    rwa [Reader.events_ofSource hends, hbytes] at hgives
  · intro source reason hbytes hfails
    have hanswers := Source.answers_of_failure hfails
    rwa [Reader.events_of_failure hfails, hbytes] at hanswers
  · intro source hbytes hends
    have hanswers := Source.answers_of_ends hends
    rw [Reader.events_ofSource hends] at hanswers
    rcases hbytes with h | h
    · rwa [h] at hanswers
    · rwa [h, eventsFrom_textsOf_ended, lastStatusFile?_textsOf_ended] at hanswers
  · -- the unfinished line comes behind all that the failure leaves
    obtain ⟨unfinished, -, hoctets⟩ := exists_unfinished octets
    conv_rhs => rw [hoctets]
    rw [textsOf_append (endsAtFeed_upToLastFeed octets), List.map_append, eventsFrom_append]
    exact List.prefix_append _ _

/-- Octets with a service open behind a directive, and with a brace and a character that have both
been begun in the last line. -/
def tornOctets : List UInt8 :=
  Text.Utf8.encode "status_file=/var/status.dat\nhost \x7b\n\x7d\nservice \x7b\n \x7d" ++
    [0xE2, 0x82]

/-- They arrive with the first line in two chunks, and then the connection is lost. -/
def tornDump : Source where
  chunks := [tornOctets.take 5, [], tornOctets.drop 5]
  failure := some "connection lost"

theorem Source.answers_cut_off_torn :
    tornDump.bytes = tornOctets ∧ tornDump.failure = some "connection lost" ∧
      ∃ (whole all : List Event) (digest : Int64 → Snapshot) (found : Option String),
        (Reader.ofSource (.ofBytes (upToLastFeed tornOctets))).Gives (whole.map .ok) ∧
        tornDump.Answers (whole.map .ok ++ [.error (.readFailed "connection lost")])
          (fun _ => .error (.readFailed "connection lost")) (.error "connection lost") ∧
        (Source.ofBytes tornOctets).Answers (all.map .ok) (fun now => .ok (digest now))
          (.ok found) ∧
        (Source.ofBytes (tornOctets ++ [lineFeed])).Answers (all.map .ok)
          (fun now => .ok (digest now)) (.ok found) := by
  have hbytes : tornDump.bytes = tornOctets := by decide +kernel
  have hat : ∀ octets, (Source.ofBytes octets).bytes = octets := by
    intro octets
    simp [Source.ofBytes, Source.bytes]
  obtain ⟨whole, all, digest, found, hwhole, hfails, hends, -⟩ :=
    Source.answers_cut_off tornOctets
  exact ⟨hbytes, rfl, whole, all, digest, found, hwhole _ (hat _) rfl,
    hfails tornDump "connection lost" hbytes rfl, hends _ (.inl (hat _)) rfl,
    hends _ (.inr (hat _)) rfl⟩

end StatusDigest.Dump
