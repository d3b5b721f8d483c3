import RouterOperator.Kubernetes.Metadata

/-!
# Cluster status

What the operator reports about a cluster: its phase, the revision it was first seen at, its pods
and a history of the last few milestones.
-/

namespace RouterOperator

/-- A milestone in the life of a cluster. -/
inductive ConditionType where
  | provisioning
  | deployed
  | scalingUp
  | scalingDown
  | upgrading
deriving DecidableEq, Inhabited

namespace ConditionType

/-- The name of a milestone. -/
def name : ConditionType → String
  | provisioning => "Provisioning"
  | deployed => "Deployed"
  | scalingUp => "ScalingUp"
  | scalingDown => "ScalingDown"
  | upgrading => "Upgrading"

/-- The milestone of this name. -/
def ofName? : String → Option ConditionType
  | "Provisioning" => some provisioning
  | "Deployed" => some deployed
  | "ScalingUp" => some scalingUp
  | "ScalingDown" => some scalingDown
  | "Upgrading" => some upgrading
  | _ => none

end ConditionType

/-- A milestone with the time and the reason it was reached. -/
structure Condition where
  type : ConditionType
  transitionTime : Option Timestamp := none
  reason : String := ""
deriving DecidableEq, Inhabited

namespace Condition

/-- Reads a condition. -/
def ofJson? (json : Json) : Option Condition := do
  let members ← json.record? ["type", "transitionTime", "reason"] 2
  return {
    type := ← members.required "type" fun json => json.case?.bind ConditionType.ofName?
    transitionTime := ← members.optional "transitionTime" Json.timestamp?
    reason := ← members.defaulted "reason" Json.string? "" }

/-- Writes a condition. -/
def toJson (condition : Condition) : Json :=
  .ofFields [
    ("type", some (.string condition.type.name)),
    ("transitionTime", condition.transitionTime.map .timestamp),
    ("reason", Json.ifGiven condition.reason)]

end Condition

/-- The phase of a cluster. It is advisory: what is to be done follows from the objects that
exist. -/
inductive Phase where
  | unset
  | creating
  | running
  | failed
deriving DecidableEq, Inhabited

/-- What a pass observed, as far as the phase is concerned. -/
inductive PassEvent where
  /-- The cluster is seen for the first time. -/
  | firstTouch
  /-- Every object is present and correct. -/
  | converged
  /-- Certificates are needed but can never be issued. -/
  | blocked
  /-- A cluster that was blocked can be satisfied. -/
  | unblocked
deriving DecidableEq

namespace PassEvent

/-- The event of this name. -/
def ofName? : String → Option PassEvent
  | "FirstTouch" => some firstTouch
  | "Converged" => some converged
  | "Blocked" => some blocked
  | "Unblocked" => some unblocked
  | _ => none

end PassEvent

namespace Phase

/-- The name of a phase; an unset phase has the empty name. -/
def name : Phase → String
  | unset => ""
  | creating => "Creating"
  | running => "Running"
  | failed => "Failed"

/-- The phase of this name. -/
def ofName? : String → Option Phase
  | "" => some unset
  | "Creating" => some creating
  | "Running" => some running
  | "Failed" => some failed
  | _ => none

/-- The phase after an event. -/
def next : Phase → PassEvent → Phase
  | _, .blocked => failed
  | unset, .firstTouch => creating
  | failed, .unblocked => creating
  | _, .converged => running
  | phase, _ => phase

end Phase

/-- The number of conditions a status keeps. -/
def maxConditions : Nat := 6

/-- The status of a cluster. -/
structure InterconnectStatus where
  phase : Phase := .unset
  revNumber : String := ""
  pods : List String := []
  conditions : List Condition := []
deriving DecidableEq, Inhabited

namespace InterconnectStatus

/-- Adds a condition at the end and drops the oldest ones beyond `maxConditions`. -/
def push (status : InterconnectStatus) (condition : Condition) : InterconnectStatus :=
  let conditions := status.conditions ++ [condition]
  { status with conditions := conditions.drop (conditions.length - maxConditions) }

/-- Adds a condition reached now. -/
def reach (status : InterconnectStatus) (now : Timestamp) (type : ConditionType)
    (reason : String) : InterconnectStatus :=
  status.push { type, transitionTime := some now, reason }

/-- The status after an event, which moves the phase alone. -/
def on (status : InterconnectStatus) (event : PassEvent) : InterconnectStatus :=
  { status with phase := status.phase.next event }

/-- The newest condition. -/
def lastCondition (status : InterconnectStatus) : Option Condition := status.conditions.getLast?

/-- Reads a status. -/
def ofJson? (json : Json) : Option InterconnectStatus := do
  let members ← json.record? ["phase", "revNumber", "pods", "conditions"] 0
  return {
    phase := ← members.defaulted "phase" (fun json => json.case?.bind Phase.ofName?) .unset
    revNumber := ← members.defaulted "revNumber" Json.string? ""
    pods := ← members.defaulted "pods" Json.strings? []
    conditions := ← members.defaulted "conditions" (Json.listOf? Condition.ofJson?) [] }

/-- Writes a status. -/
def toJson (status : InterconnectStatus) : Json :=
  .ofFields [
    ("phase", some (.string status.phase.name)),
    ("revNumber", Json.ifGiven status.revNumber),
    ("pods", some (.strings status.pods)),
    ("conditions", some (.list Condition.toJson status.conditions))]

end InterconnectStatus

end RouterOperator
