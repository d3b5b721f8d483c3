import RouterOperator.Api.Client
import RouterOperator.Proofs.Converged
import RouterOperator.Proofs.Decision

/-!
# Failed requests

A pass over the cluster API makes one request for each call. Two failures are as good as success: an
object that is looked for is absent, and one that is to be created exists already. Notices never
fail. Any other failure ends the pass at once, with the error that it stands for. Notices come last,
so what becomes of them is of no consequence.
-/

namespace RouterOperator

/-- A failure of its request is no failure of a call. A replacement or a patch has no such excuse,
whatever the code is. -/
def StoreCall.Excuses : StoreCall → RequestFailure → Prop
  | get _ _ _, .api _ reason _ => reason = "NotFound"
  | create _ _ _, .api code reason _ => code = 409 ∧ reason = "AlreadyExists"
  | publish _ _, _ => True
  | _, _ => False

/-- A write of a cluster says which namespace the cluster is in. -/
def StoreCall.IsAddressed : StoreCall → Prop
  | replaceCluster cluster | replaceStatus cluster => ∃ ns, cluster.metadata.ns = some ns
  | _ => True

/-- What a response has to carry for a call. -/
def StoreCall.accepts : StoreCall → Json → Option Unit
  | get kind _ _, json | create kind _ _, json | replace kind _ _, json =>
    (kind.ofJson? json).map fun _ => ()
  | listPods _ _, json => (Client.itemsOf? Pod.ofJson? json).map fun _ => ()
  | replaceCluster _, json | replaceStatus _, json =>
    (Interconnect.ofJson? json).map fun _ => ()
  | publish _ _, json => Event.accepts? json

/-- A failure stands for an error. -/
inductive RequestFailure.Means : RequestFailure → Error → Prop where
  | notFound {reason message} : Means (.api 404 reason message) (.notFound message)
  | conflict {reason message} : Means (.api 409 reason message) (.conflict message)
  | refused {code reason message} (absent : code ≠ 404) (stale : code ≠ 409) :
    Means (.api code reason message) .transient
  | lost : Means .other .transient

theorem RequestFailure.means_ofRequest (failure : RequestFailure) :
    failure.Means (.ofRequest failure) := by
  cases failure with
  | other => exact .lost
  | api code reason message =>
      unfold Error.ofRequest
      dsimp only
      split
      next hcode =>
        subst hcode
        exact .notFound
      next habsent =>
        split
        next hcode =>
          subst hcode
          exact .conflict
        next hstale => exact .refused habsent hstale

/-- A conflict is retried right away, and no other failure is. -/
theorem RequestFailure.Means.isFastRetry_iff {failure : RequestFailure} {error : Error}
    (h : failure.Means error) :
    error.isFastRetry = true ↔ ∃ reason message, failure = .api 409 reason message := by
  cases h with
  | conflict => simp [Error.isFastRetry]
  | refused absent stale => simp [Error.isFastRetry, stale]
  | notFound | lost => simp [Error.isFastRetry]

/-- What is made of a response does not change whether it is a failure. -/
theorem Response.resultOf_map {α β : Type} (read : Json → Option α) (f : α → β)
    (response : Option Response) :
    Response.resultOf (fun json => (read json).map f) response =
      (Response.resultOf read response).map f := by
  cases response with
  | none => rfl
  | some response =>
      unfold Response.resultOf Response.result
      dsimp only
      by_cases hrefusal : response.isRefusal = true
      · rw [if_pos hrefusal, if_pos hrefusal]
        rfl
      · rw [if_neg hrefusal, if_neg hrefusal]
        cases Json.parse? response.body with
        | none => rfl
        | some json =>
            dsimp only [Option.bind_some]
            cases read json <;> rfl

namespace Client

variable {α σ : Type} {transport : Transport σ} {now : Moment} {client : Client σ}
  {request : StoreCall} {failure : RequestFailure}

/-- The request that a call makes, if it can be made. -/
def requestFor (now : Moment) (client : Client σ) : StoreCall → Except RequestFailure ApiRequest
  | .get kind ns name => ApiRequest.get? kind.apiType ns name
  | .listPods ns selector => ApiRequest.list? Pod.apiType ns selector
  | .create kind ns object => ApiRequest.create? kind.apiType ns (kind.toJson object)
  | .replace kind ns object =>
    ApiRequest.replace? kind.apiType ns (kind.nameOf object) (kind.toJson object)
  | .replaceCluster cluster =>
    ApiRequest.replace? Interconnect.apiType cluster.space cluster.name cluster.toJson
  | .replaceStatus cluster =>
    ApiRequest.patchStatus? Interconnect.apiType cluster.space cluster.name cluster.statusPatch
  | .publish cluster notice =>
    let event := client.events.eventFor notice (.of cluster) now
    if event.series.isSome then ApiRequest.patch? Event.apiType event.space event.name event.toJson
    else ApiRequest.create? Event.apiType event.space event.toJson

/-- Why the request of a call failed, if it did. -/
def failure? (transport : Transport σ) (now : Moment) (request : StoreCall) (client : Client σ) :
    Option RequestFailure :=
  match (client.exchange transport (client.requestFor now request) request.accepts).1 with
  | .ok _ => none
  | .error failure => some failure

/-- Whether the request of a call fails does not depend on what is made of the answer. -/
theorem failure?_eq {read : Json → Option α}
    (haccepts : request.accepts = fun json => (read json).map fun _ => ()) :
    client.failure? transport now request =
      match (client.exchange transport (client.requestFor now request) read).1 with
      | .ok _ => none
      | .error failure => some failure := by
  unfold failure? exchange
  cases client.requestFor now request with
  | error failure => rfl
  | ok sent =>
      dsimp only
      rw [haccepts, Response.resultOf_map]
      cases Response.resultOf read (transport.send sent client.transport).1 <;> rfl

section exchanges

variable {read : Json → Option α}
  (haccepts : request.accepts = fun json => (read json).map fun _ => ())

include haccepts

theorem exchange_of_failure (h : client.failure? transport now request = some failure) :
    (client.exchange transport (client.requestFor now request) read).1 = .error failure := by
  rw [failure?_eq haccepts] at h
  split at h
  next => cases h
  next refused hresult =>
    cases h
    exact hresult

theorem exchange_of_success (h : client.failure? transport now request = none) :
    ∃ value, (client.exchange transport (client.requestFor now request) read).1 = .ok value := by
  rw [failure?_eq haccepts] at h
  split at h
  next value hresult => exact ⟨value, hresult⟩
  next => cases h

end exchanges

theorem orAbsent_error {kind : Kind} {ns name : String} (failure : RequestFailure) :
    ((StoreCall.get kind ns name).Excuses failure →
        orAbsent (.error failure : Except RequestFailure α) = .ok none) ∧
      (¬ (StoreCall.get kind ns name).Excuses failure →
        orAbsent (.error failure : Except RequestFailure α) = .error (.ofRequest failure)) := by
  cases failure with
  | other => exact ⟨fun h => h.elim, fun _ => rfl⟩
  | api code reason message => exact ⟨fun h => if_pos h, fun h => if_neg h⟩

theorem orExists_error {kind : Kind} {ns : String} {object : kind.Object}
    (failure : RequestFailure) :
    ((StoreCall.create kind ns object).Excuses failure →
        orExists (.error failure : Except RequestFailure α) = .ok ()) ∧
      (¬ (StoreCall.create kind ns object).Excuses failure →
        orExists (.error failure : Except RequestFailure α) = .error (.ofRequest failure)) := by
  cases failure with
  | other => exact ⟨fun h => h.elim, fun _ => rfl⟩
  | api code reason message => exact ⟨fun h => if_pos h, fun h => if_neg h⟩

theorem call_create {kind : Kind} {ns : String} {object : kind.Object} :
    client.call transport now (.create kind ns object) =
      (orExists (client.exchange transport
          (client.requestFor now (.create kind ns object)) kind.ofJson?).1,
        (client.exchange transport
          (client.requestFor now (.create kind ns object)) kind.ofJson?).2) := by
  rw [call, requestFor]

/-- A write of a cluster that says its namespace is a request in that namespace. -/
theorem call_of_addressed {cluster : Interconnect} {ns : String}
    (hns : cluster.metadata.ns = some ns) :
    client.call transport now (.replaceCluster cluster) =
        client.replace transport .interconnect cluster.space cluster ∧
      client.call transport now (.replaceStatus cluster) =
        ((orError (client.exchange transport
          (client.requestFor now (.replaceStatus cluster)) Interconnect.ofJson?).1).map fun _ => (),
          (client.exchange transport
            (client.requestFor now (.replaceStatus cluster)) Interconnect.ofJson?).2) := by
  obtain rfl : cluster.space = ns := by
    rw [Interconnect.space, ObjectMeta.anySpace, hns]
    rfl
  simp only [call, hns]
  exact ⟨trivial, rfl⟩

/-- A call whose request did not fail is answered. -/
theorem call_of_success (addressed : request.IsAddressed)
    (h : client.failure? transport now request = none) :
    ∃ reply, (client.call transport now request).1 = .ok reply := by
  have hvalue {α : Type} (read : Json → Option α)
      (haccepts : request.accepts = fun json => (read json).map fun _ => ()) :=
    exchange_of_success haccepts h
  cases request with
  | get kind ns name =>
      obtain ⟨value, hvalue⟩ := hvalue kind.ofJson? rfl
      exact ⟨some value, congrArg orAbsent hvalue⟩
  | listPods ns selector =>
      obtain ⟨value, hvalue⟩ := hvalue (itemsOf? Pod.ofJson?) rfl
      exact ⟨value, congrArg orError hvalue⟩
  | create kind ns object =>
      obtain ⟨value, hvalue⟩ := hvalue kind.ofJson? rfl
      rw [call_create]
      exact ⟨(), congrArg orExists hvalue⟩
  | replace kind ns object =>
      obtain ⟨value, hvalue⟩ := hvalue kind.ofJson? rfl
      exact ⟨(), congrArg (fun result => (orError result).map fun _ => ()) hvalue⟩
  | replaceCluster cluster =>
      obtain ⟨ns, hns⟩ := addressed
      obtain ⟨value, hvalue⟩ := hvalue Interconnect.ofJson? rfl
      rw [(call_of_addressed hns).1]
      exact ⟨(), congrArg (fun result => (orError result).map fun _ => ()) hvalue⟩
  | replaceStatus cluster =>
      obtain ⟨ns, hns⟩ := addressed
      obtain ⟨value, hvalue⟩ := hvalue Interconnect.ofJson? rfl
      rw [(call_of_addressed hns).2]
      exact ⟨(), congrArg (fun result => (orError result).map fun _ => ()) hvalue⟩
  | publish cluster notice => exact ⟨(), rfl⟩

/-- A call whose request failed is answered if the failure is excused; else it fails, with the error
that the failure stands for. -/
theorem call_of_failure (addressed : request.IsAddressed)
    (h : client.failure? transport now request = some failure) :
    (request.Excuses failure → ∃ reply, (client.call transport now request).1 = .ok reply) ∧
      (¬ request.Excuses failure →
        (client.call transport now request).1 = .error (.ofRequest failure)) := by
  have hfailed {α : Type} (read : Json → Option α)
      (haccepts : request.accepts = fun json => (read json).map fun _ => ()) :=
    exchange_of_failure haccepts h
  cases request with
  | get kind ns name =>
      obtain ⟨hexcused, hunexcused⟩ := orAbsent_error failure
      have hanswer := congrArg orAbsent (hfailed kind.ofJson? rfl)
      exact ⟨fun h => ⟨none, hanswer.trans (hexcused h)⟩, fun h => hanswer.trans (hunexcused h)⟩
  | listPods ns selector =>
      have hanswer := congrArg orError (hfailed (itemsOf? Pod.ofJson?) rfl)
      exact ⟨fun h => h.elim, fun _ => hanswer⟩
  | create kind ns object =>
      obtain ⟨hexcused, hunexcused⟩ := orExists_error failure
      have hanswer := congrArg orExists (hfailed kind.ofJson? rfl)
      rw [call_create]
      exact ⟨fun h => ⟨(), hanswer.trans (hexcused h)⟩, fun h => hanswer.trans (hunexcused h)⟩
  | replace kind ns object =>
      have hanswer := congrArg (fun result => (orError result).map fun _ => ())
        (hfailed kind.ofJson? rfl)
      exact ⟨fun h => h.elim, fun _ => hanswer⟩
  | replaceCluster cluster =>
      obtain ⟨ns, hns⟩ := addressed
      have hanswer := congrArg (fun result => (orError result).map fun _ => ())
        (hfailed Interconnect.ofJson? rfl)
      rw [(call_of_addressed hns).1]
      exact ⟨fun h => h.elim, fun _ => hanswer⟩
  | replaceStatus cluster =>
      obtain ⟨ns, hns⟩ := addressed
      have hanswer := congrArg (fun result => (orError result).map fun _ => ())
        (hfailed Interconnect.ofJson? rfl)
      rw [(call_of_addressed hns).2]
      exact ⟨fun h => h.elim, fun _ => hanswer⟩
  | publish cluster notice => exact ⟨fun _ => ⟨(), rfl⟩, fun h => absurd trivial h⟩

theorem call_of_spared (addressed : request.IsAddressed)
    (h : ∀ failure ∈ client.failure? transport now request, request.Excuses failure) :
    ∃ reply, (client.call transport now request).1 = .ok reply := by
  cases hfailure : client.failure? transport now request with
  | none => exact call_of_success addressed hfailure
  | some failure => exact (call_of_failure addressed hfailure).1 (h failure hfailure)

end Client

/-- Gives the answers of a sequence, one after the other, and keeps the requests. -/
def Transport.replay (answers : Nat → Option Response) : Transport (List ApiRequest) where
  send request sent := (answers sent.length, sent ++ [request])

namespace Client

variable {α : Type} {answers answers' : Nat → Option Response} {now : Moment}
  {client : Client (List ApiRequest)}

/-- A call sends its request, if that can be made, and nothing else. -/
theorem transport_call_replay (client : Client (List ApiRequest)) {request : StoreCall}
    (addressed : request.IsAddressed) :
    (client.call (.replay answers) now request).2.transport =
      client.transport ++ (client.requestFor now request).toOption.toList := by
  have hexchange {α : Type} (request : Except RequestFailure ApiRequest)
      (read : Json → Option α) :
      (client.exchange (.replay answers) request read).2.transport =
        client.transport ++ request.toOption.toList := by
    cases request with
    | error failure => exact (List.append_nil _).symm
    | ok request => rfl
  cases request with
  | replaceCluster cluster =>
      obtain ⟨ns, hns⟩ := addressed
      rw [(call_of_addressed hns).1]
      exact hexchange _ _
  | replaceStatus cluster =>
      obtain ⟨ns, hns⟩ := addressed
      rw [(call_of_addressed hns).2]
      exact hexchange _ _
  | publish cluster notice =>
      have hsent := hexchange (client.requestFor now (.publish cluster notice)) Event.accepts?
      rw [← hsent]
      change (client.publish (.replay answers) now cluster notice).transport = _
      unfold publish
      dsimp only
      split
      next heq => exact congrArg (·.2.transport) heq.symm
      next heq => exact congrArg (·.2.transport) heq.symm
  | create kind ns object =>
      rw [call_create]
      exact hexchange _ _
  | _ => exact hexchange _ _

/-- A call does not depend on answers to other requests. -/
theorem call_replay_congr (h : answers' client.transport.length = answers client.transport.length)
    (request : StoreCall) :
    client.call (.replay answers') now request = client.call (.replay answers) now request := by
  have hexchange {α : Type} (request : Except RequestFailure ApiRequest)
      (read : Json → Option α) :
      client.exchange (.replay answers') request read =
        client.exchange (.replay answers) request read := by
    cases request with
    | error failure => rfl
    | ok request => simp only [exchange, Transport.replay, h]
  cases request with
  | replaceCluster cluster => simp only [call, replace, hexchange]
  | replaceStatus cluster => simp only [call, hexchange]
  | publish cluster notice => simp only [call, publish, hexchange]
  | replace kind ns object => simp only [call, replace, hexchange]
  | _ => simp only [call, hexchange]

end Client

namespace Program

variable {α β σ : Type}

/-- A program publishes a notice only as the last thing it does. -/
def NoticesLast : Program α → Prop
  | done _ | fail _ => True
  | check _ next => next.NoticesLast
  | call request next => ∀ reply,
    (request.isNotice = true → ∃ result, next reply = done result) ∧ (next reply).NoticesLast

theorem noticesLast_script {result : α} {moves : List Move}
    (h : ∀ move ∈ moves.dropLast, move.request.isNotice = false) :
    (script result moves).NoticesLast := by
  induction moves with
  | nil => trivial
  | cons move rest ih =>
      obtain ⟨before, request⟩ := move
      have hcall : (call request fun _ => script result rest).NoticesLast := by
        intro reply
        cases rest with
        | nil => exact ⟨fun _ => ⟨result, rfl⟩, trivial⟩
        | cons second rest =>
            rw [List.dropLast_cons_cons, List.forall_mem_cons] at h
            exact ⟨fun hnotice => (nomatch h.1.symm.trans hnotice), ih h.2⟩
      cases before with
      | none => exact hcall
      | some before => exact hcall

theorem Decides.noticesLast {plans : List Exchange → List Move → α → Prop}
    {known : List Exchange} {program : Program α} (h : Decides plans known program)
    (hplans : ∀ {known moves result}, plans known moves result →
      ∀ move ∈ moves.dropLast, move.request.isNotice = false) : program.NoticesLast := by
  induction h with
  | script planned => exact noticesLast_script (hplans planned)
  | check rest ih => exact ih
  | @read known request next reads rest ih =>
      intro reply
      refine ⟨fun hnotice => ?_, ih reply⟩
      cases request with
      | publish => cases reads
      | _ => cases hnotice

/-- Where notices come last, two runners that differ in what becomes of notices alone run alike, but
for what a notice leaves behind. -/
theorem NoticesLast.run_congr {program : Program α} (h : program.NoticesLast)
    {runner runner' : Runner σ} (hexpired : ∀ state, runner'.expired state = runner.expired state)
    (view : σ → β) {state : σ}
    (hcalls : ∀ entry ∈ program.trace runner state, entry.2.isNotice = false →
      runner'.call entry.2 entry.1 = runner.call entry.2 entry.1)
    (hnotices : ∀ entry ∈ program.trace runner state, entry.2.isNotice = true →
      (runner'.call entry.2 entry.1).1 = (runner.call entry.2 entry.1).1 ∧
        view (runner'.call entry.2 entry.1).2 = view (runner.call entry.2 entry.1).2) :
    program.trace runner' state = program.trace runner state ∧
      (program.run runner' state).1 = (program.run runner state).1 ∧
      view (program.run runner' state).2 = view (program.run runner state).2 := by
  induction program generalizing state with
  | done result => exact ⟨rfl, rfl, rfl⟩
  | fail error => exact ⟨rfl, rfl, rfl⟩
  | check before next ih =>
      cases hstate : runner.expired state with
      | true =>
          have hstate' : runner'.expired state = true := (hexpired state).trans hstate
          obtain ⟨hrun, htrace⟩ := run_check_of_expired hstate before next
          obtain ⟨hrun', htrace'⟩ := run_check_of_expired hstate' before next
          rw [hrun, hrun', htrace, htrace']
          exact ⟨rfl, rfl, rfl⟩
      | false =>
          have hstate' : runner'.expired state = false := (hexpired state).trans hstate
          obtain ⟨hrun, htrace⟩ := run_check_of_open hstate before next
          obtain ⟨hrun', htrace'⟩ := run_check_of_open hstate' before next
          rw [htrace] at hcalls hnotices
          rw [hrun, hrun', htrace, htrace']
          exact ih h hcalls hnotices
  | call request next ih =>
      have hhead : (state, request) ∈ (call request next).trace runner state := by
        rw [trace]
        exact List.mem_cons_self
      cases hnotice : request.isNotice with
      | false =>
          have hsame : runner'.call request state = runner.call request state :=
            hcalls _ hhead hnotice
          cases hanswer : runner.call request state with
          | mk answer after =>
              have hanswer' := hsame.trans hanswer
              cases answer with
              | error error =>
                  rw [run_call_of_error hanswer, run_call_of_error hanswer',
                    trace_call_of_error hanswer, trace_call_of_error hanswer']
                  exact ⟨rfl, rfl, rfl⟩
              | ok reply =>
                  rw [trace_call_of_ok hanswer] at hcalls hnotices
                  rw [run_call_of_ok hanswer, run_call_of_ok hanswer', trace_call_of_ok hanswer,
                    trace_call_of_ok hanswer']
                  obtain ⟨htrace, hresult, hview⟩ := ih reply (h reply).2
                    (List.forall_mem_cons.mp hcalls).2 (List.forall_mem_cons.mp hnotices).2
                  exact ⟨congrArg ((state, request) :: ·) htrace, hresult, hview⟩
      | true =>
          -- nothing is left to do behind the notice
          obtain ⟨hfst, hview⟩ := hnotices _ hhead hnotice
          cases hanswer : runner.call request state with
          | mk answer after =>
              cases hanswer' : runner'.call request state with
              | mk answer' after' =>
                  rw [hanswer, hanswer'] at hfst hview
                  obtain rfl : answer' = answer := hfst
                  cases answer' with
                  | error error =>
                      rw [run_call_of_error hanswer, run_call_of_error hanswer',
                        trace_call_of_error hanswer, trace_call_of_error hanswer']
                      exact ⟨rfl, rfl, hview⟩
                  | ok reply =>
                      obtain ⟨result, hdone⟩ := (h reply).1 hnotice
                      rw [run_call_of_ok hanswer, run_call_of_ok hanswer',
                        trace_call_of_ok hanswer, trace_call_of_ok hanswer', hdone]
                      exact ⟨rfl, rfl, hview⟩

end Program

/-- A pass publishes a notice only as the last thing it does. -/
theorem Pass.Plan.noticesLast {pass : Pass} {known : List Exchange} {moves : List Move}
    {outcome : Outcome} (h : pass.Plan known moves outcome) :
    ∀ move ∈ moves.dropLast, move.request.isNotice = false := by
  cases h <;> simp [StoreCall.isNotice, Pass.statusWrite]

section passes

variable {cluster : Interconnect} {ns : String}

/-- Every write of a cluster by a pass says the namespace of the cluster. -/
theorem isAddressed_of_pass (hns : cluster.metadata.ns = some ns) (settings : Settings)
    (now : Timestamp) {σ : Type} (runner : Runner σ) (state : σ) :
    ∀ entry ∈ (reconcile settings now cluster).trace runner state, entry.2.IsAddressed := by
  intro entry hentry
  have hcall := (meets_reconcile settings now hns).trace runner state entry hentry
  generalize entry.2 = request at hcall
  cases hcall with
  | persist spec => exact ⟨ns, hns⟩
  | status status => exact ⟨ns, hns⟩
  | _ => trivial

/-- A pass over the cluster API, whatever is answered: the first request that fails without an
excuse is the last one that is sent, and the pass ends with the error that the failure means; if
there is none the pass has an outcome; and answers to the publication of notices change neither the
result nor what is sent. -/
theorem first_failure_ends_pass (hns : cluster.metadata.ns = some ns) (settings : Settings)
    (now : Timestamp) (moment : Moment) (answers : Nat → Option Response)
    (client : Client (List ApiRequest)) :
    let program := reconcile settings now cluster
    let runner := Client.runner (.replay answers) moment
    (∀ front (found : Client (List ApiRequest)) (request : StoreCall) rest failure,
      program.trace runner client = front ++ (found, request) :: rest →
        found.failure? (.replay answers) moment request = some failure →
          ¬ request.Excuses failure →
            rest = [] ∧
            (program.run runner client).2.transport =
              found.transport ++ (found.requestFor moment request).toOption.toList ∧
            ∃ error, failure.Means error ∧ (program.run runner client).1 = .error error ∧
              (error.isFastRetry = true ↔ ∃ reason message, failure = .api 409 reason message)) ∧
    ((∀ entry ∈ program.trace runner client,
        ∀ failure ∈ entry.1.failure? (.replay answers) moment entry.2, entry.2.Excuses failure) →
      ∃ outcome, (program.run runner client).1 = .ok outcome) ∧
    ∀ answers' : Nat → Option Response,
      (∀ entry ∈ program.trace runner client, entry.2.isNotice = false →
        answers' entry.1.transport.length = answers entry.1.transport.length) →
          let runner' := Client.runner (.replay answers') moment
          program.trace runner' client = program.trace runner client ∧
          (program.run runner' client).1 = (program.run runner client).1 ∧
          (program.run runner' client).2.transport = (program.run runner client).2.transport := by
  intro program runner
  have addressed := isAddressed_of_pass hns settings now runner client
  have hdecides : Program.Decides
      (Pass.Plan ⟨cluster, ns, settings, now, cluster.statusOrNew⟩) [] program := by
    simp only [program, reconcile, hns]
    exact Pass.decides_program _
  refine ⟨?_, ?_, ?_⟩
  · intro front found request rest failure htrace hfailure unexcused
    have haddressed : request.IsAddressed := addressed (found, request) (by simp [program, htrace])
    have hcall : runner.call request found =
        (.error (.ofRequest failure), (found.call (.replay answers) moment request).2) :=
      Prod.ext ((Client.call_of_failure haddressed hfailure).2 unexcused) rfl
    obtain ⟨hrest, hrun⟩ := Program.ends_of_error htrace hcall
    rw [hrun]
    exact ⟨hrest, found.transport_call_replay haddressed, _, failure.means_ofRequest, rfl,
      failure.means_ofRequest.isFastRetry_iff⟩
  · intro hspared
    refine hdecides.exists_ok (fun _ => rfl) fun entry hentry => ?_
    exact Client.call_of_spared (addressed entry hentry) (hspared entry hentry)
  · intro answers' hsame runner'
    have hlast : program.NoticesLast := hdecides.noticesLast fun planned => planned.noticesLast
    let sent : Client (List ApiRequest) → List ApiRequest := Client.transport
    have hcalls : ∀ entry ∈ program.trace runner client, entry.2.isNotice = false →
        runner'.call entry.2 entry.1 = runner.call entry.2 entry.1 :=
      fun entry hentry hcall => Client.call_replay_congr (hsame entry hentry hcall) entry.2
    have hnotices : ∀ entry ∈ program.trace runner client, entry.2.isNotice = true →
        (runner'.call entry.2 entry.1).1 = (runner.call entry.2 entry.1).1 ∧
          sent (runner'.call entry.2 entry.1).2 = sent (runner.call entry.2 entry.1).2 := by
      rintro ⟨found, request⟩ hentry hnotice
      have haddressed : request.IsAddressed := addressed _ hentry
      refine ⟨?_, ?_⟩
      · cases request with
        | publish => rfl
        | _ => cases hnotice
      · exact (found.transport_call_replay haddressed).trans
          (found.transport_call_replay haddressed).symm
    have hexpired (state : Client (List ApiRequest)) :
        runner'.expired state = runner.expired state := rfl
    exact hlast.run_congr hexpired sent hcalls hnotices

/-- A page that a proxy answers with when it finds no server. -/
def missingPage : Nat → Option Response := fun _ => some ⟨404, "no such page"⟩

theorem missing_page_ends_pass :
    runningCluster.metadata.ns = some "msg" ∧
      ∃ message, ((reconcile {} default runningCluster).run (Client.runner (.replay missingPage)
        default) ⟨[], []⟩).1 = .error (.notFound message) := by
  let client : Client (List ApiRequest) := ⟨[], []⟩
  have hsent : ∃ request, ApiRequest.get? Role.apiType "msg" "amq" = .ok request :=
    ApiRequest.exists_named (by decide) (by decide +kernel)
  have hpage : Json.parse? "no such page" = none := by
    rw [← Option.isNone_iff_eq_none]
    decide +kernel
  have hfailure : client.failure? (.replay missingPage) default (.get .role "msg" "amq") =
      some (.api 404 "Failed to parse error data" (Text.quoted "no such page")) := by
    obtain ⟨request, hrequest⟩ := hsent
    have hrequest : client.requestFor default (.get .role "msg" "amq") = .ok request := hrequest
    rw [Client.failure?, hrequest]
    simp [Client.exchange, Transport.replay, missingPage, Response.resultOf, Response.result,
      Response.isRefusal, Response.refusal, hpage]
  have hns : runningCluster.metadata.ns = some "msg" := rfl
  have hprogram : ∃ next, reconcile {} default runningCluster =
      .check "get Role amq" (.call (.get .role "msg" "amq") next) := ⟨_, rfl⟩
  obtain ⟨next, hprogram⟩ := hprogram
  have hfirst : ((reconcile {} default runningCluster).trace
      (Client.runner (.replay missingPage) default) client).head? =
        some (client, .get .role "msg" "amq") := by
    rw [hprogram, Program.trace, if_neg (by simp [Client.runner]), Program.trace]
    rfl
  obtain ⟨rest, htrace⟩ := List.head?_eq_some_iff.mp hfirst
  have unexcused : ¬ (StoreCall.get .role "msg" "amq").Excuses
      (.api 404 "Failed to parse error data" (Text.quoted "no such page")) := by
    simp [StoreCall.Excuses]
  obtain ⟨-, -, error, hmeans, hresult, -⟩ := (first_failure_ends_pass hns {} default default
    missingPage client).1 [] client _ rest _ htrace hfailure unexcused
  cases hmeans with
  | notFound => exact ⟨rfl, _, hresult⟩
  | refused absent stale => exact absurd rfl absent

end passes

end RouterOperator
