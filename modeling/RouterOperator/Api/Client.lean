import RouterOperator.Api.Event
import RouterOperator.Api.Request
import RouterOperator.Api.Response
import RouterOperator.Reconcile.Pass

/-!
# A store behind the cluster API

Each call to the store is one request, and its answer is read from the response: an absent object is
none, losing a race to create an object is no failure, and publishing a notice never fails. A write
of a cluster needs its namespace.
-/

namespace RouterOperator

/-- Something that exchanges a request for a response, which may be lost. -/
structure Transport (σ : Type) where
  send : ApiRequest → σ → Option Response × σ

/-- A client of the API: the state of its transport, and the events it has published. -/
structure Client (σ : Type) where
  transport : σ
  events : EventLog := []

namespace Interconnect

/-- The patch that replaces the status of a cluster. The version in it makes the write
conditional. -/
def statusPatch (cluster : Interconnect) : Json :=
  .object [
    ("metadata", .object [
      ("resourceVersion", (cluster.metadata.resourceVersion.map Json.string).getD .null)]),
    ("status", (cluster.status.map InterconnectStatus.toJson).getD .null)]

end Interconnect

namespace Client

variable {α σ : Type}

/-- Sends a request and reads what the response carries. -/
def exchange (transport : Transport σ) (request : Except RequestFailure ApiRequest)
    (read : Json → Option α) (client : Client σ) : Except RequestFailure α × Client σ :=
  match request with
  | .error failure => (.error failure, client)
  | .ok request =>
    let (response, state) := transport.send request client.transport
    (Response.resultOf read response, { client with transport := state })

/-- An absent object is none. -/
def orAbsent : Except RequestFailure α → Except Error (Option α)
  | .ok object => .ok (some object)
  | .error (.api code reason message) =>
    if reason = "NotFound" then .ok none else .error (.ofRequest (.api code reason message))
  | .error .other => .error (.ofRequest .other)

/-- An object that exists already is as good as one that was created. -/
def orExists : Except RequestFailure α → Except Error Unit
  | .ok _ => .ok ()
  | .error (.api code reason message) =>
    if code = 409 ∧ reason = "AlreadyExists" then .ok ()
    else .error (.ofRequest (.api code reason message))
  | .error .other => .error (.ofRequest .other)

/-- A failed request is the error it stands for. -/
def orError : Except RequestFailure α → Except Error α
  | .ok value => .ok value
  | .error failure => .error (.ofRequest failure)

/-- Reads the items of a list of objects. A list without items may say so with `null`. What is given
besides the items and the metadata must be readable. -/
def itemsOf? (read : Json → Option α) (json : Json) : Option (List α) := do
  let members ← json.membersOnce? ["items", "metadata"]
  let _ ← (members.without ["items", "metadata"]).entries.mapM (·.2.plain?)
  let _ ← members.defaulted "metadata" Schema.listMeta.clean (.object [])
  match ← members.get? "items" with
  | .null => return []
  | items => items.listOf? read

/-- Replaces an object. -/
def replace (transport : Transport σ) (kind : Kind) (ns : String) (object : kind.Object)
    (client : Client σ) : Except Error Unit × Client σ :=
  let request := ApiRequest.replace? kind.apiType ns (kind.nameOf object) (kind.toJson object)
  let (result, client) := client.exchange transport request kind.ofJson?
  ((orError result).map fun _ => (), client)

/-- Publishes a notice about a cluster. -/
def publish (transport : Transport σ) (now : Moment) (cluster : Interconnect) (notice : Notice)
    (client : Client σ) : Client σ :=
  let event := client.events.eventFor notice (.of cluster) now
  let request :=
    if event.series.isSome then
      ApiRequest.patch? Event.apiType event.space event.name event.toJson
    else ApiRequest.create? Event.apiType event.space event.toJson
  match client.exchange transport request Event.accepts? with
  | (.ok (), client) => { client with events := client.events.record event }
  | (.error _, client) => client

/-- Carries out a call. -/
def call (transport : Transport σ) (now : Moment) :
    (request : StoreCall) → Client σ → Except Error request.Reply × Client σ
  | .get kind ns name, client =>
    let request := ApiRequest.get? kind.apiType ns name
    let (result, client) := client.exchange transport request kind.ofJson?
    (orAbsent result, client)
  | .listPods ns selector, client =>
    let request := ApiRequest.list? Pod.apiType ns selector
    let (result, client) := client.exchange transport request (itemsOf? Pod.ofJson?)
    (orError result, client)
  | .create kind ns object, client =>
    let request := ApiRequest.create? kind.apiType ns (kind.toJson object)
    let (result, client) := client.exchange transport request kind.ofJson?
    (orExists result, client)
  | .replace kind ns object, client => client.replace transport kind ns object
  | .replaceCluster cluster, client =>
    match cluster.metadata.ns with
    | none => (.error (.missingObjectKey "namespace"), client)
    | some ns => client.replace transport .interconnect ns cluster
  | .replaceStatus cluster, client =>
    match cluster.metadata.ns with
    | none => (.error (.missingObjectKey "namespace"), client)
    | some ns =>
      let request :=
        ApiRequest.patchStatus? Interconnect.apiType ns cluster.name cluster.statusPatch
      let (result, client) := client.exchange transport request Interconnect.ofJson?
      ((orError result).map fun _ => (), client)
  | .publish cluster notice, client => (.ok (), client.publish transport now cluster notice)

/-- Runs programs over the API, without a deadline. -/
def runner (transport : Transport σ) (now : Moment) : Runner (Client σ) where
  expired _ := false
  call request client := client.call transport now request

end Client

end RouterOperator
