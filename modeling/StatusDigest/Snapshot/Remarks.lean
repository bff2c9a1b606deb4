import StatusDigest.Decimal.Text
import StatusDigest.Log
import StatusDigest.Snapshot.Digest

/-!
# Remarks on a dump

While a dump is digested, remarks are made line by line:

* on a line outside of any block, and on one that holds no field of its block;
* on a block that is dropped, because another one is opened or because the dump ends;
* on the daemon, whenever a block has said something about it.

When the end of the dump is reached, two more remarks say how many hosts and services it has. A
source that fails is not remarked on.
-/

namespace StatusDigest

open Dump

/-- The name of a kind in remarks. -/
def Dump.Kind.name : Kind → String
  | .info => "Info"
  | .program => "Program"
  | .host => "Host"
  | .service => "Service"

namespace Dump

/-- A remark on a block that is dropped. -/
def droppedRemark (message : String) (block : Block) : Remark where
  level := .debug
  origin := "nagstats::status_file"
  message
  values := [("kind", block.kind.name)]

/-- A remark on a line without effect. -/
def ignoredRemark (message : String) (text : List Char) : Remark where
  level := .trace
  origin := "nagstats::status_file"
  message
  values := [("line", String.ofList text)]

/-- The remark on a stripped line, given the block that is open before it. -/
def lineRemark? (current : Option Block) (text : List Char) : Option Remark :=
  if isIdle text then none
  else if (Kind.ofMarker? text).isSome then
    current.map (droppedRemark "block reopened before close; dropping it")
  else if text = ['}'] then none
  else if current.isNone then some (ignoredRemark "ignoring line outside a block" text)
  else if (assignment? text).isNone then
    some (ignoredRemark "ignoring malformed field line" text)
  else none

end Dump

namespace Snapshot

/-- The remark on an event that has been folded in. -/
def eventRemark? (snapshot : Snapshot) : Event → Option Remark
  | .opened _ => none
  | .closed block =>
    if block.kind = .program then
      some { level := .debug, origin := "nagstats::aggregator", message := "program status updated",
             values := [("pid", Decimal.int64Text snapshot.program.pid)] }
    else none

/-- A remark on how many hosts and services there are. -/
def entriesRemark (snapshot : Snapshot) (level : Level) (message : String) : Remark where
  level
  origin := "nagstats::aggregator"
  message
  values := [("hosts", Decimal.uint64Text snapshot.hosts.entries),
    ("services", Decimal.uint64Text snapshot.services.entries)]

/-- The remarks at the end of a dump. -/
def endRemarks (snapshot : Snapshot) (current : Option Block) : List Remark :=
  (current.map (droppedRemark "unterminated block at end of input; dropping it")).toList ++
    [snapshot.entriesRemark .debug "status stream aggregated",
     snapshot.entriesRemark .info "status file read"]

/-- The remarks on stripped lines, and on their end unless the source fails behind them, given the
snapshot of what comes before them and the block that is open. -/
def remarksFrom (now : Int64) (fails : Bool) (snapshot : Snapshot) (current : Option Block) :
    List (List Char) → List Remark
  | [] => if fails then [] else snapshot.endRemarks current
  | text :: rest =>
    let (event, after) := (Line.ofText text).apply current
    let digested := event.elim snapshot (snapshot.apply now)
    (lineRemark? current text).toList ++ (event.bind digested.eventRemark?).toList ++
      remarksFrom now fails digested after rest

/-- The remarks on a dump that is digested. -/
def remarks (source : Source) (now : Int64) : List Remark :=
  remarksFrom now source.failure.isSome {} none (source.lines.map lineText)

end Snapshot

end StatusDigest
