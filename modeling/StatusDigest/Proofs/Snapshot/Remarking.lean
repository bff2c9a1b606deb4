import StatusDigest.Snapshot.Remarks
import StatusDigest.Proofs.Dump.Failing
import Mathlib

/-!
# What is remarked on a dump

The remarks on a dump say what the snapshot does not show, and what it shows at the end:

* a block that is opened is closed or remarked on as dropped, and no other remark says so.
  `isOpen_apply_eq` is the balance of one line, `countP_drops_remarksFrom` that of a run of lines,
  and `countP_drops_remarks` is the result for all sources that end well;
* there is one remark for information, with the entries of the whole snapshot, or none if there is
  no snapshot: `filter_info_remarks`.
-/

namespace StatusDigest

open Dump

/-- The remark is on a block of the kind that is dropped. -/
def Remark.drops (kind : Kind) (remark : Remark) : Bool :=
  remark.values = [("kind", kind.name)]

theorem Dump.Kind.name_injective : Function.Injective Kind.name := by
  intro kind other h
  cases kind <;> cases other <;> first | rfl | simp [Kind.name] at h

namespace Dump

variable {kind : Kind} {current : Option Block} {text : List Char}

/-! ## Remarks on one line -/

theorem drops_droppedRemark (message : String) (block : Block) :
    (droppedRemark message block).drops kind = (block.kind = kind) := by
  simp [Remark.drops, droppedRemark, Kind.name_injective.eq_iff]

/-- A block that is dropped is as many blocks as were open. -/
theorem countP_drops_droppedRemark (message : String) :
    (current.map (droppedRemark message)).toList.countP (Remark.drops kind) =
      isOpen kind current := by
  cases current with
  | none => rfl
  | some block => simp [isOpen_some, List.countP_singleton, drops_droppedRemark]

/-- A marker drops the block that is open before it. -/
theorem lineRemark?_of_opening {found : Kind} (h : Line.ofText text = .opening found) :
    lineRemark? current text =
      current.map (droppedRemark "block reopened before close; dropping it") := by
  have hopens := Line.ofText_eq_opening_iff.1 h
  simp [lineRemark?, hopens.shape.1, Kind.ofMarker?_eq_some_iff.2 hopens]

/-- No other line drops a block. -/
theorem countP_drops_lineRemark? (h : ∀ found, Line.ofText text ≠ .opening found) :
    (lineRemark? current text).toList.countP (Remark.drops kind) = 0 := by
  have hmarker : Kind.ofMarker? text = none := by
    by_contra hsome
    obtain ⟨found, hfound⟩ := Option.ne_none_iff_exists'.1 hsome
    exact h found (Line.ofText_eq_opening_iff.2 (Kind.ofMarker?_eq_some_iff.1 hfound))
  unfold lineRemark?
  split_ifs <;> simp_all [Remark.drops, ignoredRemark]

/-- A line that opens a block adds one to those that are open. All others stay open, are closed, or
are remarked on. -/
theorem isOpen_apply_eq (kind : Kind) (current : Option Block) (text : List Char) :
    (if Line.ofText text = .opening kind then 1 else 0) + isOpen kind current =
      ((Line.ofText text).apply current).1.toList.countP (Event.closes kind) +
        (lineRemark? current text).toList.countP (Remark.drops kind) +
        isOpen kind ((Line.ofText text).apply current).2 := by
  cases hline : Line.ofText text with
  | opening found =>
    rw [lineRemark?_of_opening hline, countP_drops_droppedRemark]
    have hclosed :
        ((Line.opening found).apply current).1.toList.countP (Event.closes kind) = 0 := by
      cases hentry : found.isEntry <;> simp [Line.apply, hentry, Event.closes, Event.closed?]
    rw [hclosed]
    simp only [Line.apply, isOpen_some, Line.opening.injEq]
    omega
  | closing =>
    rw [countP_drops_lineRemark? (by simp [hline])]
    cases current with
    | none => simp [Line.apply]
    | some block =>
      by_cases hkind : block.kind = kind
      · simp [Line.apply, Event.closes, Event.closed?, isOpen, hkind]
      · simp [Line.apply, Event.closes, Event.closed?, isOpen, hkind]
  | field key value =>
    rw [countP_drops_lineRemark? (by simp [hline])]
    -- a field changes the block that is open, but not its kind
    have hsame : (current.map fun block => block.put key value).map Block.kind =
        current.map Block.kind := by cases current <;> rfl
    simp [Line.apply, isOpen, hsame]
  | idle =>
    rw [countP_drops_lineRemark? (by simp [hline])]
    simp [Line.apply]

end Dump

/-! ## Remarks on a run of lines -/

namespace Snapshot

variable {kind : Kind} {now : Int64} {source : Source}

/-- No remark on a snapshot says that a block is dropped. -/
theorem countP_drops_eventRemark? (snapshot : Snapshot) (event : Option Event) :
    (event.bind snapshot.eventRemark?).toList.countP (Remark.drops kind) = 0 := by
  rcases event with _ | (found | block)
  · rfl
  · rfl
  · by_cases hkind : block.kind = .program
    · simp [eventRemark?, hkind, Remark.drops]
    · simp [eventRemark?, hkind]

theorem countP_drops_endRemarks (snapshot : Snapshot) (current : Option Block) :
    (snapshot.endRemarks current).countP (Remark.drops kind) = isOpen kind current := by
  rw [endRemarks, List.countP_append, countP_drops_droppedRemark]
  simp [entriesRemark, Remark.drops]

/-- At the end no block is open any more. -/
theorem countP_drops_remarksFrom (kind : Kind) (now : Int64) (snapshot : Snapshot)
    (current : Option Block) (texts : List (List Char)) :
    texts.countP (Line.ofText · = .opening kind) + isOpen kind current =
      (eventsFrom current (texts.map Line.ofText)).countP (Event.closes kind) +
        (remarksFrom now false snapshot current texts).countP (Remark.drops kind) := by
  induction texts generalizing snapshot current with
  | nil => simp [eventsFrom, remarksFrom, countP_drops_endRemarks]
  | cons text rest ih =>
    have hstep := isOpen_apply_eq kind current text
    have hrest := ih (((Line.ofText text).apply current).1.elim snapshot (snapshot.apply now))
      ((Line.ofText text).apply current).2
    simp only [List.map_cons, eventsFrom_cons, remarksFrom, List.countP_append, List.countP_cons,
      countP_drops_eventRemark?, decide_eq_true_eq]
    omega

theorem remarks_of_ends (hends : source.failure = none) (now : Int64) :
    remarks source now = remarksFrom now false {} none (textsOf source.bytes) := by
  rw [remarks, hends, textsOf, Source.lines_eq_linesOf hends]
  rfl

/-- Of every kind, the blocks that are opened are those that are closed and those that are remarked
on as dropped. -/
theorem countP_drops_remarks (hends : source.failure = none) (kind : Kind) (now : Int64) :
    (textsOf source.bytes).countP (Opens · kind) =
      (Reader.ofSource source).events.countP (Event.closes kind) +
        (remarks source now).countP (Remark.drops kind) := by
  have hbalance := countP_drops_remarksFrom kind now {} none (textsOf source.bytes)
  rw [Reader.events_ofSource hends, remarks_of_ends hends, ← hbalance]
  simp [isOpen, Line.ofText_eq_opening_iff]

/-- A host is dropped at the next marker, a service at the end, and the block between them is
closed. -/
example : (remarks (.ofBytes (Text.Utf8.encode
    "stray\nhost \x7b\nprogram \x7b\nnagios_pid=7\n\x7d\nservice \x7b\nx"))
      0).map (fun remark => (remark.message, remark.values)) =
    [("ignoring line outside a block", [("line", "stray")]),
     ("block reopened before close; dropping it", [("kind", "Host")]),
     ("program status updated", [("pid", "7")]),
     ("ignoring malformed field line", [("line", "x")]),
     ("unterminated block at end of input; dropping it", [("kind", "Service")]),
     ("status stream aggregated", [("hosts", "1"), ("services", "1")]),
     ("status file read", [("hosts", "1"), ("services", "1")])] := by
  decide +kernel

/-! ## The remark for information -/

theorem filter_info_droppedRemark (message : String) (current : Option Block) :
    (current.map (droppedRemark message)).toList.filter (·.level = .info) = [] := by
  cases current <;> rfl

theorem filter_info_lineRemark? (current : Option Block) (text : List Char) :
    (lineRemark? current text).toList.filter (·.level = .info) = [] := by
  unfold lineRemark?
  split_ifs
  · rfl
  · exact filter_info_droppedRemark _ _
  all_goals rfl

theorem filter_info_eventRemark? (snapshot : Snapshot) (event : Option Event) :
    (event.bind snapshot.eventRemark?).toList.filter (·.level = .info) = [] := by
  rcases event with _ | (found | block)
  · rfl
  · rfl
  · by_cases hkind : block.kind = .program
    · simp [eventRemark?, hkind]
    · simp [eventRemark?, hkind]

/-- The last remark is for information, and no other one is. -/
theorem filter_info_remarksFrom (fails : Bool) (snapshot : Snapshot) (current : Option Block)
    (texts : List (List Char)) :
    (remarksFrom now fails snapshot current texts).filter (·.level = .info) =
      if fails then []
      else [(snapshot.applyAll now (eventsFrom current (texts.map Line.ofText))).entriesRemark .info
        "status file read"] := by
  induction texts generalizing snapshot current with
  | nil =>
    cases fails with
    | true => rfl
    | false =>
      show (snapshot.endRemarks current).filter _ = _
      rw [endRemarks, List.filter_append, filter_info_droppedRemark]
      rfl
  | cons text rest ih =>
    simp only [remarksFrom, List.filter_append, filter_info_lineRemark?, filter_info_eventRemark?,
      List.nil_append, ih, List.map_cons, eventsFrom_cons, applyAll_append]
    cases ((Line.ofText text).apply current).1 <;> rfl

/-- The entries of a snapshot are remarked on for information, and nothing else is. -/
theorem filter_info_remarks (source : Source) (now : Int64) :
    (remarks source now).filter (·.level = .info) =
      ((ofSource source now).toOption.map fun snapshot =>
        snapshot.entriesRemark .info "status file read").toList := by
  cases hends : source.failure with
  | some reason =>
    rw [Snapshot.ofSource_of_failure hends, remarks, hends, filter_info_remarksFrom]
    rfl
  | none =>
    rw [(Source.answers_of_ends hends).digest, remarks_of_ends hends, filter_info_remarksFrom,
      Reader.events_ofSource hends]
    rfl

end Snapshot

end StatusDigest
