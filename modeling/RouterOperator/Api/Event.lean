import RouterOperator.Interconnect.Basic
import RouterOperator.Reconcile.Program
import RouterOperator.Schema.Api

/-!
# Events

A notice about a cluster is published as an event. The same notice about the same cluster is one
event: a repetition keeps what was said first and counts up, and a repetition that could not be
published is not counted.
-/

namespace RouterOperator

/-- A moment: the second it lies in, and a text that tells it from all other moments. -/
structure Moment where
  second : Timestamp
  stamp : String
deriving DecidableEq, Inhabited

namespace Moment

/-- The time of a moment, to the microsecond. -/
def toText (moment : Moment) : String := (moment.second.toText.dropEnd 1).toString ++ ".000000Z"

end Moment

/-- What a notice is about, as far as it is known. -/
structure Regarding where
  name : Option String
  ns : Option String
  uid : Option String
deriving DecidableEq

namespace Regarding

/-- The cluster that a notice is about. -/
def of (cluster : Interconnect) : Regarding where
  name := cluster.metadata.name
  ns := cluster.metadata.ns
  uid := cluster.metadata.uid

/-- Writes what a notice is about. -/
def toJson (regarding : Regarding) : Json :=
  .ofFields <| Interconnect.apiType.fields ++ [
    ("name", regarding.name.map .string),
    ("namespace", regarding.ns.map .string),
    ("uid", regarding.uid.map .string)]

end Regarding

/-- How often and when an event was last observed, if more than once. -/
structure EventSeries where
  count : Nat
  lastObserved : Moment
deriving DecidableEq

/-- An event. -/
structure Event where
  notice : Notice
  regarding : Regarding
  time : Moment
  series : Option EventSeries := none
deriving DecidableEq

/-- The name under which the operator reports. -/
def reportingController : String := "interconnect-operator"

/-- The instance of the operator that reports. -/
def reportingInstance : String := "pod-0"

namespace Event

/-- The API type of events. -/
def apiType : ApiType := ⟨"events.k8s.io/v1", "Event", "events"⟩

/-- The name of an event: that of the cluster, or of the operator if the cluster has none, and the
moment of the event. -/
def name (event : Event) : String :=
  s!"{event.regarding.name.getD reportingController}.{event.time.stamp}"

/-- The namespace that an event is published in. -/
def space (event : Event) : String := event.regarding.ns.getD "default"

/-- Whether another notice is a repetition of this event. -/
def isRepeatedBy (event : Event) (notice : Notice) (regarding : Regarding) : Bool :=
  event.notice.severity = notice.severity && event.notice.reason = notice.reason &&
    event.regarding = regarding

/-- The event after a repetition. -/
def again (event : Event) (now : Moment) : Event :=
  { event with
    series := some {
      count := (event.series.map (·.count)).getD 1 + 1
      lastObserved := now } }

/-- Writes a series. -/
def seriesJson (series : EventSeries) : Json :=
  .ofFields [
    ("count", some (.integer series.count)),
    ("lastObservedTime", some (.string series.lastObserved.toText))]

/-- Writes an event. -/
def toJson (event : Event) : Json :=
  .ofFields <| [("action", some (.string event.notice.reason))] ++ apiType.fields ++ [
    ("eventTime", some (.string event.time.toText)),
    ("metadata", some <| .ofFields [
      ("name", some (.string event.name)), ("namespace", event.regarding.ns.map .string)]),
    ("note", some (.string event.notice.note)),
    ("reason", some (.string event.notice.reason)),
    ("regarding", some event.regarding.toJson),
    ("reportingController", some (.string reportingController)),
    ("reportingInstance", some (.string reportingInstance)),
    ("series", event.series.map seriesJson),
    ("type", some (.string event.notice.severity.name))]

/-- Whether a body is an event. -/
def accepts? (json : Json) : Option Unit := (apiType.clean? Schema.event json).map fun _ => ()

end Event

/-- The events published so far. -/
abbrev EventLog := List Event

namespace EventLog

/-- The event that a notice makes: a new one, or a repetition. -/
def eventFor (log : EventLog) (notice : Notice) (regarding : Regarding) (now : Moment) : Event :=
  match log.find? (·.isRepeatedBy notice regarding) with
  | some event => event.again now
  | none => { notice, regarding, time := now }

/-- The log after an event was published. -/
def record (log : EventLog) (event : Event) : EventLog :=
  event :: log.filter fun other => !other.isRepeatedBy event.notice event.regarding

end EventLog

end RouterOperator
