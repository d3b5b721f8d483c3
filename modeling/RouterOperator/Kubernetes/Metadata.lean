import RouterOperator.Json.Record
import RouterOperator.Timestamp

/-!
# Object metadata

The metadata that every object of the cluster carries. In these types an absent member and `null`
mean the same, an empty list or dictionary differs from none, and a field that the API requires
reads as its zero value when it is absent. A field may be given repeatedly, and the last value
counts.
-/

namespace RouterOperator

/-- A timestamp as JSON. -/
def Json.timestamp (time : Timestamp) : Json := .string time.toText

/-- A timestamp from JSON. -/
def Json.timestamp? (json : Json) : Option Timestamp := json.string?.bind Timestamp.parse?

/-- A string dictionary as JSON. -/
def Json.texts (dict : Dict String) : Json := Json.dict Json.string dict

/-- A string dictionary from JSON. -/
def Json.texts? (json : Json) : Option (Dict String) := json.dictOf? Json.string?

/-- A list of strings from JSON. -/
def Json.strings? (json : Json) : Option (List String) := json.listOf? Json.string?

/-- A list of strings as JSON. -/
def Json.strings (items : List String) : Json := Json.list Json.string items

/-- A reference from an object to one that owns it. -/
structure OwnerReference where
  apiVersion : String
  blockOwnerDeletion : Option Bool := none
  controller : Option Bool := none
  kind : String
  name : String
  uid : String
deriving DecidableEq

namespace OwnerReference

/-- Reads an owner reference. -/
def ofJson? (json : Json) : Option OwnerReference := do
  let members ← json.members?
  return {
    apiVersion := (← members.lastGiven "apiVersion" Json.string?).getD ""
    blockOwnerDeletion := ← members.lastGiven "blockOwnerDeletion" Json.bool?
    controller := ← members.lastGiven "controller" Json.bool?
    kind := (← members.lastGiven "kind" Json.string?).getD ""
    name := (← members.lastGiven "name" Json.string?).getD ""
    uid := (← members.lastGiven "uid" Json.string?).getD "" }

/-- Writes an owner reference. -/
def toJson (owner : OwnerReference) : Json :=
  .ofFields [
    ("apiVersion", some (.string owner.apiVersion)),
    ("blockOwnerDeletion", owner.blockOwnerDeletion.map .bool),
    ("controller", owner.controller.map .bool),
    ("kind", some (.string owner.kind)),
    ("name", some (.string owner.name)),
    ("uid", some (.string owner.uid))]

end OwnerReference

/-- Which fields of an object a field manager has set. -/
structure ManagedFieldsEntry where
  apiVersion : Option String := none
  fieldsType : Option String := none
  fieldsV1 : Option Json := none
  manager : Option String := none
  operation : Option String := none
  subresource : Option String := none
  time : Option Timestamp := none

namespace ManagedFieldsEntry

/-- Reads an entry; the set of fields is kept as it is. -/
def ofJson? (json : Json) : Option ManagedFieldsEntry := do
  let members ← json.members?
  return {
    apiVersion := ← members.lastGiven "apiVersion" Json.string?
    fieldsType := ← members.lastGiven "fieldsType" Json.string?
    fieldsV1 := ← members.lastGiven "fieldsV1" Json.plain?
    manager := ← members.lastGiven "manager" Json.string?
    operation := ← members.lastGiven "operation" Json.string?
    subresource := ← members.lastGiven "subresource" Json.string?
    time := ← members.lastGiven "time" Json.timestamp? }

/-- Writes an entry. -/
def toJson (entry : ManagedFieldsEntry) : Json :=
  .ofFields [
    ("apiVersion", entry.apiVersion.map .string),
    ("fieldsType", entry.fieldsType.map .string),
    ("fieldsV1", entry.fieldsV1),
    ("manager", entry.manager.map .string),
    ("operation", entry.operation.map .string),
    ("subresource", entry.subresource.map .string),
    ("time", entry.time.map .timestamp)]

end ManagedFieldsEntry

/-- The metadata of an object; `ns` is its namespace. -/
structure ObjectMeta where
  annotations : Option (Dict String) := none
  creationTimestamp : Option Timestamp := none
  deletionGracePeriodSeconds : Option Int64 := none
  deletionTimestamp : Option Timestamp := none
  finalizers : Option (List String) := none
  generateName : Option String := none
  generation : Option Int64 := none
  labels : Option (Dict String) := none
  managedFields : Option (List ManagedFieldsEntry) := none
  name : Option String := none
  ns : Option String := none
  ownerReferences : Option (List OwnerReference) := none
  resourceVersion : Option String := none
  selfLink : Option String := none
  uid : Option String := none

namespace ObjectMeta

instance : Inhabited ObjectMeta := ⟨{}⟩

/-- Reads metadata. -/
def ofJson? (json : Json) : Option ObjectMeta := do
  let members ← json.members?
  return {
    annotations := ← members.lastGiven "annotations" Json.texts?
    creationTimestamp := ← members.lastGiven "creationTimestamp" Json.timestamp?
    deletionGracePeriodSeconds := ← members.lastGiven "deletionGracePeriodSeconds" Json.int64?
    deletionTimestamp := ← members.lastGiven "deletionTimestamp" Json.timestamp?
    finalizers := ← members.lastGiven "finalizers" Json.strings?
    generateName := ← members.lastGiven "generateName" Json.string?
    generation := ← members.lastGiven "generation" Json.int64?
    labels := ← members.lastGiven "labels" Json.texts?
    managedFields := ← members.lastGiven "managedFields" (Json.listOf? ManagedFieldsEntry.ofJson?)
    name := ← members.lastGiven "name" Json.string?
    ns := ← members.lastGiven "namespace" Json.string?
    ownerReferences := ← members.lastGiven "ownerReferences" (Json.listOf? OwnerReference.ofJson?)
    resourceVersion := ← members.lastGiven "resourceVersion" Json.string?
    selfLink := ← members.lastGiven "selfLink" Json.string?
    uid := ← members.lastGiven "uid" Json.string? }

/-- Writes metadata. -/
def toJson (m : ObjectMeta) : Json :=
  .ofFields [
    ("annotations", m.annotations.map .texts),
    ("creationTimestamp", m.creationTimestamp.map .timestamp),
    ("deletionGracePeriodSeconds", m.deletionGracePeriodSeconds.map .int64),
    ("deletionTimestamp", m.deletionTimestamp.map .timestamp),
    ("finalizers", m.finalizers.map .strings),
    ("generateName", m.generateName.map .string),
    ("generation", m.generation.map .int64),
    ("labels", m.labels.map .texts),
    ("managedFields", m.managedFields.map (.list ManagedFieldsEntry.toJson)),
    ("name", m.name.map .string),
    ("namespace", m.ns.map .string),
    ("ownerReferences", m.ownerReferences.map (.list OwnerReference.toJson)),
    ("resourceVersion", m.resourceVersion.map .string),
    ("selfLink", m.selfLink.map .string),
    ("uid", m.uid.map .string)]

/-- The name, else the base of a name to be generated, else nothing. -/
def anyName (m : ObjectMeta) : String := m.name.getD (m.generateName.getD "")

/-- The namespace, or nothing. -/
def anySpace (m : ObjectMeta) : String := m.ns.getD ""

/-- The label set, empty if there is none. -/
def allLabels (m : ObjectMeta) : Dict String := m.labels.getD .empty

/-- The annotations, empty if there are none. -/
def allAnnotations (m : ObjectMeta) : Dict String := m.annotations.getD .empty

end ObjectMeta

end RouterOperator
