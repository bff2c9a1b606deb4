import StatusDigest.Stats.Target
import StatusDigest.Text.Pieces

/-!
# MRTG variables

MRTG asks for values by name. The names form four families:

* `Fact`: a single number or text, such as `NUMHOSTS`;
* `Statistic`: the least, greatest or average of a series, such as `MAXACTSVCLAT`;
* `WindowCount`: entries checked within a window, such as `NUMHSTACTCHK5M`;
* `RateCount`: a rate that the daemon reports, such as `NUMEXTCMDS15M`.

A name consists of a few groups of letters, each of them one of some alternatives, and is read from
left to right: a group takes the first alternative that the rest of the name starts with, and the
last group has to be the whole rest. A text that is the name of no variable is none.
-/

namespace StatusDigest.Mrtg

open Stats

/-! ## Groups of letters -/

section Groups

variable {α : Type} (code : α → String) (alternatives : List α)

/-- The first alternative whose letters a text starts with, and the text behind them. -/
def takeCode (text : List Char) : Option (α × List Char) :=
  alternatives.findSome? fun x => ((code x).toList.isPrefixOf? text).map fun rest => (x, rest)

/-- The first alternative whose letters are the whole text. -/
def ofCode? (text : List Char) : Option α :=
  alternatives.find? fun x => (code x).toList = text

end Groups

/-- What a variable is about. -/
inductive Subject where
  | hosts
  | services
deriving DecidableEq, Repr

namespace Subject

/-- The subjects. -/
def all : List Subject :=
  [.hosts, .services]

/-- The letters for a subject. -/
def code : Subject → String
  | .hosts => "HST"
  | .services => "SVC"

end Subject

/-- The two origins of a check. -/
def origins : List Origin :=
  [.active, .passive]

/-- The letters for an origin. -/
def originCode : Origin → String
  | .active => "ACT"
  | .passive => "PSV"

/-- The origin whose letters a text starts with, if it starts with any, and the text behind them. -/
def takeOrigin (text : List Char) : Option Origin × List Char :=
  match takeCode originCode origins text with
  | some (origin, rest) => (some origin, rest)
  | none => (none, text)

/-! ## Facts -/

/-- The variables that stand for one number or text. -/
inductive Fact where
  | runningTime
  | runningSeconds
  | dumpAge
  | dumpAgeSeconds
  | version
  | pid
  | versionAndPid
  | commandBufferTotal
  | commandBufferUsed
  | commandBufferHigh
  | services
  | hosts
  | servicesOk
  | servicesWarning
  | servicesUnknown
  | servicesCritical
  | serviceProblems
  | servicesChecked
  | servicesScheduled
  | servicesFlapping
  | servicesInDowntime
  | hostsUp
  | hostsDown
  | hostsUnreachable
  | hostProblems
  | hostsChecked
  | hostsScheduled
  | hostsFlapping
  | hostsInDowntime
deriving DecidableEq, Repr

namespace Fact

/-- All facts. -/
def all : List Fact :=
  [.runningTime, .runningSeconds, .dumpAge, .dumpAgeSeconds, .version, .pid, .versionAndPid,
   .commandBufferTotal, .commandBufferUsed, .commandBufferHigh, .services, .hosts, .servicesOk,
   .servicesWarning, .servicesUnknown, .servicesCritical, .serviceProblems, .servicesChecked,
   .servicesScheduled, .servicesFlapping, .servicesInDowntime, .hostsUp, .hostsDown,
   .hostsUnreachable, .hostProblems, .hostsChecked, .hostsScheduled, .hostsFlapping,
   .hostsInDowntime]

/-- The name of a fact. -/
def name : Fact → String
  | .runningTime => "PROGRUNTIME"
  | .runningSeconds => "PROGRUNTIMETT"
  | .dumpAge => "STATUSFILEAGE"
  | .dumpAgeSeconds => "STATUSFILEAGETT"
  | .version => "NAGIOSVERSION"
  | .pid => "NAGIOSPID"
  | .versionAndPid => "NAGIOSVERPID"
  | .commandBufferTotal => "TOTCMDBUF"
  | .commandBufferUsed => "USEDCMDBUF"
  | .commandBufferHigh => "HIGHCMDBUF"
  | .services => "NUMSERVICES"
  | .hosts => "NUMHOSTS"
  | .servicesOk => "NUMSVCOK"
  | .servicesWarning => "NUMSVCWARN"
  | .servicesUnknown => "NUMSVCUNKN"
  | .servicesCritical => "NUMSVCCRIT"
  | .serviceProblems => "NUMSVCPROB"
  | .servicesChecked => "NUMSVCCHECKED"
  | .servicesScheduled => "NUMSVCSCHEDULED"
  | .servicesFlapping => "NUMSVCFLAPPING"
  | .servicesInDowntime => "NUMSVCDOWNTIME"
  | .hostsUp => "NUMHSTUP"
  | .hostsDown => "NUMHSTDOWN"
  | .hostsUnreachable => "NUMHSTUNR"
  | .hostProblems => "NUMHSTPROB"
  | .hostsChecked => "NUMHSTCHECKED"
  | .hostsScheduled => "NUMHSTSCHEDULED"
  | .hostsFlapping => "NUMHSTFLAPPING"
  | .hostsInDowntime => "NUMHSTDOWNTIME"

/-- The fact of a name. -/
def ofName? (name : String) : Option Fact :=
  all.find? fun fact => fact.name = name

end Fact

/-! ## Statistics of series -/

/-- What is asked of a series. -/
inductive Pick where
  | least
  | greatest
  | mean
deriving DecidableEq, Repr

namespace Pick

/-- The picks. -/
def all : List Pick :=
  [.least, .greatest, .mean]

/-- The letters for a pick. -/
def code : Pick → String
  | .least => "MIN"
  | .greatest => "MAX"
  | .mean => "AVG"

end Pick

/-- The series of a subject. Only active checks have an execution time, and only the state change
has a series over both origins. -/
inductive Gauge where
  | stateChange
  | activeLatency
  | activeExecutionTime
  | activeStateChange
  | passiveLatency
  | passiveStateChange
deriving DecidableEq, Repr

namespace Gauge

/-- The gauges. -/
def all : List Gauge :=
  [.stateChange, .activeLatency, .activeExecutionTime, .activeStateChange, .passiveLatency,
   .passiveStateChange]

/-- The origin of the checks that a gauge is about, unless it is about all checks. -/
def origin? : Gauge → Option Origin
  | .stateChange => none
  | .activeLatency | .activeExecutionTime | .activeStateChange => some .active
  | .passiveLatency | .passiveStateChange => some .passive

/-- The letters for the origin of a gauge, before those for the subject. -/
def originCode (gauge : Gauge) : String :=
  gauge.origin?.elim "" Mrtg.originCode

/-- The letters for the quantity of a gauge, after those for the subject. -/
def quantityCode : Gauge → String
  | .activeLatency | .passiveLatency => "LAT"
  | .activeExecutionTime => "EXT"
  | .stateChange | .activeStateChange | .passiveStateChange => "PSC"

/-- The gauge of an origin, or of none, with the letters of a quantity. -/
def ofCodes? (origin : Option Origin) (quantity : List Char) : Option Gauge :=
  all.find? fun gauge => gauge.origin? = origin ∧ gauge.quantityCode.toList = quantity

/-- State changes are percentages; the other gauges are times. -/
def isPercentage : Gauge → Bool
  | .stateChange | .activeStateChange | .passiveStateChange => true
  | .activeLatency | .activeExecutionTime | .passiveLatency => false

end Gauge

/-- The variables that pick a number of a series. -/
structure Statistic where
  pick : Pick
  gauge : Gauge
  subject : Subject
deriving DecidableEq, Repr

namespace Statistic

/-- The name of a statistic. -/
def name (statistic : Statistic) : String :=
  statistic.pick.code ++ statistic.gauge.originCode ++ statistic.subject.code ++
    statistic.gauge.quantityCode

/-- The statistic of a name: the letters of a pick, of an origin if there is one, of a subject and
of a quantity. -/
def ofName? (name : String) : Option Statistic := do
  let (pick, rest) ← takeCode Pick.code Pick.all name.toList
  let (origin, rest) := takeOrigin rest
  let (subject, rest) ← takeCode Subject.code Subject.all rest
  let gauge ← Gauge.ofCodes? origin rest
  return { pick, gauge, subject }

end Statistic

/-! ## Entries checked within a window -/

/-- The variables that count entries checked within a window. -/
structure WindowCount where
  subject : Subject
  origin : Origin
  span : WindowSpan
deriving DecidableEq, Repr

namespace WindowCount

/-- The letters for a window. -/
def spanCode : WindowSpan → String
  | .one => "1M"
  | .five => "5M"
  | .fifteen => "15M"
  | .sixty => "60M"

/-- The name of a window count. -/
def name (count : WindowCount) : String :=
  "NUM" ++ count.subject.code ++ originCode count.origin ++ "CHK" ++ spanCode count.span

/-- The window count of a name: the letters of a subject, of an origin and of a window, with fixed
letters before and among them. -/
def ofName? (name : String) : Option WindowCount := do
  let rest ← "NUM".toList.isPrefixOf? name.toList
  let (subject, rest) ← takeCode Subject.code Subject.all rest
  let (origin, rest) ← takeCode originCode origins rest
  let rest ← "CHK".toList.isPrefixOf? rest
  let span ← ofCode? spanCode WindowSpan.all rest
  return { subject, origin, span }

end WindowCount

/-! ## Rates that the daemon reports -/

/-- The classes of host checks that the daemon reports. -/
inductive HostClass where
  | active
  | activeOndemand
  | activeScheduled
  | parallel
  | serial
  | passive
  | cached
deriving DecidableEq, Repr

namespace HostClass

/-- The classes of host checks. -/
def all : List HostClass :=
  [.active, .activeOndemand, .activeScheduled, .parallel, .serial, .passive, .cached]

/-- The letters for a class of host checks. -/
def code : HostClass → String
  | .active => "ACT"
  | .activeOndemand => "OACT"
  | .activeScheduled => "SACT"
  | .parallel => "PAR"
  | .serial => "SER"
  | .passive => "PSV"
  | .cached => "CACHED"

end HostClass

/-- The classes of service checks that the daemon reports. -/
inductive ServiceClass where
  | active
  | activeOndemand
  | activeScheduled
  | passive
  | cached
deriving DecidableEq, Repr

namespace ServiceClass

/-- The classes of service checks. -/
def all : List ServiceClass :=
  [.active, .activeOndemand, .activeScheduled, .passive, .cached]

/-- The letters for a class of service checks. -/
def code : ServiceClass → String
  | .active => "ACT"
  | .activeOndemand => "OACT"
  | .activeScheduled => "SACT"
  | .passive => "PSV"
  | .cached => "CACHED"

end ServiceClass

/-- What the daemon reports rates of. -/
inductive RateClass where
  | hostChecks (kind : HostClass)
  | serviceChecks (kind : ServiceClass)
  | externalCommands
deriving DecidableEq, Repr

namespace RateClass

/-- The letters for a class. -/
def code : RateClass → String
  | .hostChecks kind => kind.code ++ "HSTCHECKS"
  | .serviceChecks kind => kind.code ++ "SVCCHECKS"
  | .externalCommands => "EXTCMDS"

/-- The class whose letters a text starts with, and the text behind them. The letters of a class of
checks are all that stands before the word for the checks. -/
def take? (text : List Char) : Option (RateClass × List Char) :=
  match "EXTCMDS".toList.isPrefixOf? text with
  | some rest => some (.externalCommands, rest)
  | none =>
    match Text.cutAtWord "HSTCHECKS".toList text with
    | some (letters, rest) =>
      (ofCode? HostClass.code HostClass.all letters).map fun kind => (.hostChecks kind, rest)
    | none =>
      match Text.cutAtWord "SVCCHECKS".toList text with
      | some (letters, rest) =>
        (ofCode? ServiceClass.code ServiceClass.all letters).map fun kind =>
          (.serviceChecks kind, rest)
      | none => none

end RateClass

/-- The variables that stand for a rate. -/
structure RateCount where
  rateClass : RateClass
  span : RateSpan
deriving DecidableEq, Repr

namespace RateCount

/-- The letters for a span. -/
def spanCode : RateSpan → String
  | .one => "1M"
  | .five => "5M"
  | .fifteen => "15M"

/-- The name of a rate. -/
def name (count : RateCount) : String :=
  "NUM" ++ count.rateClass.code ++ spanCode count.span

/-- The rate of a name: the letters of a class and of a span, with fixed letters before them. -/
def ofName? (name : String) : Option RateCount := do
  let rest ← "NUM".toList.isPrefixOf? name.toList
  let (rateClass, rest) ← RateClass.take? rest
  let span ← ofCode? spanCode RateSpan.all rest
  return { rateClass, span }

end RateCount

/-! ## All variables -/

/-- The variables. -/
inductive Variable where
  | fact (fact : Fact)
  | statistic (statistic : Statistic)
  | windowCount (count : WindowCount)
  | rateCount (count : RateCount)
deriving DecidableEq, Repr

namespace Variable

/-- The name of a variable. -/
def name : Variable → String
  | .fact x => x.name
  | .statistic x => x.name
  | .windowCount x => x.name
  | .rateCount x => x.name

/-- The variable of a name. -/
def ofName? (name : String) : Option Variable :=
  (Fact.ofName? name).map .fact <|> (Statistic.ofName? name).map .statistic <|>
    (WindowCount.ofName? name).map .windowCount <|> (RateCount.ofName? name).map .rateCount

end Variable

end StatusDigest.Mrtg
