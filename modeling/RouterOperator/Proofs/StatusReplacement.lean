import RouterOperator.Api.Client
import RouterOperator.Proofs.Converged
import RouterOperator.Proofs.Decision
import RouterOperator.Proofs.LostUpdate
import RouterOperator.Proofs.Settling
import RouterOperator.Proofs.Shape
import RouterOperator.Proofs.Wire.StatusPatch

/-!
# Replacing a status by a patch

A status is sent as a merge patch, which cannot take away what it does not name. No pass gives up a
revision, and a revision is all that a patch may leave out, so the patch of a pass replaces the
stored status as a whole.
-/

namespace RouterOperator

namespace InterconnectStatus

variable {status earlier : InterconnectStatus} {now : Timestamp}

/-- A status gives up no revision, and what it adds to the conditions was reached at this time. -/
structure Follows (status earlier : InterconnectStatus) (now : Timestamp) : Prop where
  revNumber : status.revNumber = "" → earlier.revNumber = ""
  conditions : ∀ condition ∈ status.conditions,
    condition ∈ earlier.conditions ∨ condition.transitionTime = some now

/-- A status with the same conditions follows if it gives up no revision. -/
theorem Follows.of_conditions (kept : status.revNumber = "" → earlier.revNumber = "")
    (same : status.conditions = earlier.conditions) : status.Follows earlier now :=
  ⟨kept, fun _ hcondition => .inl (same ▸ hcondition)⟩

theorem Follows.refl (status : InterconnectStatus) (now : Timestamp) : status.Follows status now :=
  .of_conditions id rfl

theorem Follows.push (h : status.Follows earlier now) {condition : Condition}
    (reached : condition.transitionTime = some now) :
    (status.push condition).Follows earlier now := by
  refine ⟨h.revNumber, fun other hother => ?_⟩
  rcases List.mem_append.mp (List.mem_of_mem_drop hother) with hbefore | hnew
  · exact h.conditions other hbefore
  · exact .inr (List.mem_singleton.mp hnew ▸ reached)

theorem Follows.foldl_push (h : status.Follows earlier now) {added : List Condition}
    (reached : ∀ condition ∈ added, condition.transitionTime = some now) :
    (added.foldl InterconnectStatus.push status).Follows earlier now := by
  induction added generalizing status with
  | nil => exact h
  | cons condition rest ih =>
      obtain ⟨hfirst, hrest⟩ := List.forall_mem_cons.mp reached
      exact ih (h.push hfirst) hrest

/-- What follows a status with times that can be written has such times. -/
theorem Follows.timely (h : status.Follows earlier now) (timely : earlier.Timely)
    (hnow : now.FourDigit) : status.Timely := by
  intro condition hcondition time htime
  rcases h.conditions condition hcondition with hbefore | hreached
  · exact timely condition hbefore time htime
  · obtain rfl : time = now := Option.some.inj (htime.symm.trans hreached)
    exact hnow

end InterconnectStatus

open InterconnectStatus

namespace Pass

variable {pass : Pass} {known : List Exchange} {moves : List Move} {outcome : Outcome}

/-- A call writes no status, or one of the cluster that follows from the one at the start. -/
def FollowsUp (pass : Pass) : StoreCall → Prop
  | .replaceStatus written => ∃ status, written = { pass.cluster with status := some status } ∧
      status.Follows pass.status pass.now
  | _ => True

theorem followsUp_statusWrite {status : InterconnectStatus}
    (h : status.Follows pass.status pass.now) : pass.FollowsUp (pass.statusWrite status) :=
  ⟨status, rfl, h⟩

theorem reached_upgradeConditions (previous : Option String) :
    ∀ condition ∈ pass.upgradeConditions previous, condition.transitionTime = some pass.now := by
  unfold upgradeConditions
  split <;> simp

theorem reached_scalingCondition (current : Int32) :
    (pass.scalingCondition current).transitionTime = some pass.now := by
  unfold scalingCondition
  split <;> rfl

theorem follows_on (event : PassEvent) : (pass.status.on event).Follows pass.status pass.now :=
  .of_conditions id rfl

theorem follows_resizedStatus (live : Deployment) :
    (pass.resizedStatus live).Follows pass.status pass.now := by
  have hadded := (Follows.refl pass.status pass.now).foldl_push (List.forall_mem_cons.mpr
    ⟨pass.reached_scalingCondition live.replicaCount, pass.reached_upgradeConditions live.image⟩)
  exact ⟨hadded.revNumber, hadded.conditions⟩

theorem follows_touchedStatus (new : pass.status.revNumber = "") :
    pass.touchedStatus.Follows pass.status pass.now := by
  let seen : InterconnectStatus := { pass.status.on .firstTouch with
    revNumber := pass.cluster.metadata.resourceVersion.getD "" }
  have hseen : seen.Follows pass.status pass.now := .of_conditions (fun _ => new) rfl
  let touched : Condition :=
    { type := .provisioning, transitionTime := some pass.now,
      reason := "provision spec to desired state" }
  have hreached : touched.transitionTime = some pass.now := rfl
  exact hseen.push hreached

theorem follows_reportedStatus (pods : List Pod) :
    (pass.reportedStatus pods).Follows pass.status pass.now :=
  .of_conditions id rfl

theorem Action.followsUp {goal : Goal} (h : pass.Action known goal moves outcome) :
    ∀ move ∈ moves, pass.FollowsUp move.request := by
  have hsame := Follows.refl pass.status pass.now
  cases h with
  | create | update | issue | refresh => simp [FollowsUp, specWrite]
  | deploy =>
      have hdeployed : pass.deployedStatus.Follows pass.status pass.now := hsame.push rfl
      simpa [FollowsUp] using followsUp_statusWrite hdeployed
  | @upgrade _ kind _ _ live =>
      have hupgraded : (pass.upgraded pass.status (kind.runningImage live)).Follows pass.status
          pass.now := by
        rw [upgraded_eq]
        exact hsame.foldl_push (reached_upgradeConditions _)
      simpa [FollowsUp] using followsUp_statusWrite hupgraded
  | @resize _ _ _ live =>
      simpa [FollowsUp] using followsUp_statusWrite (follows_resizedStatus live)

theorem Decision.followsUp (h : pass.Decision known moves outcome) :
    ∀ move ∈ moves, pass.FollowsUp move.request := by
  cases h with
  | blocked | idle => simp
  | persist => simp [FollowsUp, specWrite]
  | act walks listed shown action => exact action.followsUp
  | touch new => simpa using followsUp_statusWrite (follows_touchedStatus new)
  | block | unblock => simpa [FollowsUp] using followsUp_statusWrite (follows_on _)
  | report => simpa using followsUp_statusWrite (follows_reportedStatus _)

/-- Whatever a store answers, a pass writes no status but such. -/
theorem followsUp_program (pass : Pass) {σ : Type} (runner : Runner σ) (state : σ) :
    ∀ entry ∈ pass.program.trace runner state, pass.FollowsUp entry.2 := by
  intro entry hentry
  rcases pass.decides_decision.mem_trace runner state entry hentry with hread |
    ⟨later, moves, outcome, decision, move, hmove, hrequest⟩
  · generalize entry.2 = request at hread
    cases request with
    | replaceStatus => cases hread
    | _ => trivial
  · rw [← hrequest]
    exact decision.followsUp move hmove

end Pass

/-- A server that holds one document and merges every patch that it is sent into it. -/
def Transport.MergesPatches (server : Transport Json) : Prop :=
  ∀ request patch document, request.method = .patch → request.body = some patch →
    (server.send request document).2 = patch.mergePatch document

theorem ApiRequest.patchStatus?_eq_ok {type : ApiType} {ns name : String} {patch : Json}
    {request : ApiRequest} (h : patchStatus? type ns name patch = .ok request) :
    request.method = .patch ∧ request.body = some patch := by
  unfold patchStatus? named? to? at h
  split at h
  · cases h
  · split at h
    · cases h
      exact ⟨rfl, rfl⟩
    · cases h

namespace Interconnect

variable {σ : Type} {members : List (String × Json)} {snapshot written : Interconnect}

/-- What a server makes of the request for a status, if there is one. -/
theorem transport_call_replaceStatus {server : Transport Json} (merges : server.MergesPatches)
    {ns : String} (hns : written.metadata.ns = some ns) {request : ApiRequest}
    (sent : ApiRequest.patchStatus? apiType ns written.name written.statusPatch = .ok request)
    (moment : Moment) (client : Client Json) :
    (client.call server moment (.replaceStatus written)).2.transport =
      written.statusPatch.mergePatch client.transport := by
  obtain ⟨hmethod, hbody⟩ := ApiRequest.patchStatus?_eq_ok sent
  rw [Client.call, hns]
  dsimp only
  rw [sent]
  exact merges request _ client.transport hmethod hbody

/-- The status of a cluster is replaced as a whole, wherever the cluster is stored. A server that
holds it as a document merges a patch into that, and reads the cluster with what the new status
reads as; if all times can be written, that is the new status. A store in memory holds the cluster
with the new status. -/
structure ReplacesStatus (snapshot written : Interconnect) (members : List (String × Json)) :
    Prop where
  merged : ∀ {server : Transport Json} {request : ApiRequest}, server.MergesPatches →
    ApiRequest.patchStatus? apiType snapshot.space snapshot.name written.statusPatch =
      .ok request →
    ∀ (moment : Moment) (client : Client Json), client.transport = .object members →
      (client.call server moment (.replaceStatus written)).2.transport =
        written.statusPatch.mergePatch (.object members)
  reads : ofJson? (written.statusPatch.mergePatch (.object members)) =
    (InterconnectStatus.ofJson? written.statusOrNew.toJson).map
      fun status => { snapshot with status := some status }
  held : ∀ store : MemoryStore, store.failure = none →
    store.cluster? snapshot.space snapshot.name = some snapshot →
      (store.call (.replaceStatus written)).2.cluster? snapshot.space snapshot.name =
        some (written.under (some (toString (store.version + 1))))

/-- Any status that gives up no revision does. -/
theorem replacesStatus (read : ofJson? (.object members) = some snapshot) {ns : String}
    (hns : snapshot.metadata.ns = some ns) {status : InterconnectStatus}
    (kept : status.revNumber = "" → snapshot.statusOrNew.revNumber = "") :
    snapshot.ReplacesStatus { snapshot with status := some status } members := by
  let next : Interconnect := { snapshot with status := some status }
  obtain rfl : snapshot.space = ns := by
    rw [space, ObjectMeta.anySpace, hns]
    rfl
  refine ⟨?_, ofJson?_statusPatch read kept, fun store hfailure found => ?_⟩
  · intro server request merges sent moment client hdocument
    have hmerged : (client.call server moment (.replaceStatus next)).2.transport =
        next.statusPatch.mergePatch client.transport := by
      refine transport_call_replaceStatus merges ?_ sent moment client
      exact hns
    rw [hmerged, hdocument]
  · have hcall : store.call (.replaceStatus next) = _ :=
      MemoryStore.call_replaceStatus hfailure found (.inr rfl)
    rw [hcall]
    exact (MemoryStore.cluster?_change ..).trans (if_pos ⟨rfl, rfl⟩)

/-- Whatever status a pass writes over a cluster that was read from a document, it replaces the
status as a whole: nothing is left of the status that the document had. -/
theorem status_patch_replaces (read : ofJson? (.object members) = some snapshot)
    (settings : Settings) (now : Timestamp) (runner : Runner σ) (state : σ)
    {entry : σ × StoreCall} (made : entry ∈ (reconcile settings now snapshot).trace runner state)
    (writes : entry.2 = .replaceStatus written) :
    (∃ status, written = { snapshot with status := some status }) ∧
      snapshot.ReplacesStatus written members ∧
      (snapshot.statusOrNew.Timely → now.FourDigit →
        ofJson? (written.statusPatch.mergePatch (.object members)) = some written) := by
  cases hns : snapshot.metadata.ns with
  | none =>
      rw [reconcile, hns] at made
      exact absurd made List.not_mem_nil
  | some ns =>
      let pass : Pass := ⟨snapshot, ns, settings, now, snapshot.statusOrNew⟩
      have hfollows : pass.FollowsUp entry.2 := by
        refine pass.followsUp_program runner state entry ?_
        rw [reconcile, hns] at made
        exact made
      rw [writes] at hfollows
      obtain ⟨status, hwritten, hstatus⟩ := hfollows
      obtain rfl : written = { snapshot with status := some status } := hwritten
      have hreplaces := replacesStatus read hns hstatus.revNumber
      refine ⟨⟨status, rfl⟩, hreplaces, fun timely hnow => ?_⟩
      rw [hreplaces.reads]
      exact congrArg (Option.map _)
        (InterconnectStatus.ofJson?_toJson (hstatus.timely timely hnow))

end Interconnect

/-- A server that does nothing but merge patches. -/
def patchServer : Transport Json where
  send request document :=
    match request.method, request.body with
    | .patch, some patch => (none, patch.mergePatch document)
    | _, _ => (none, document)

theorem patchServer_mergesPatches : patchServer.MergesPatches := by
  intro request patch document hmethod hbody
  simp [patchServer, hmethod, hbody]

/-- A cluster with a pod in its status that has gone since. -/
def thinnedCluster : Interconnect :=
  { runningCluster with
    status := some { phase := .running, revNumber := "3", pods := ["amq-0"] } }

/-- Behind the checklist a pass over the complete store writes the status that has no pods. -/
theorem report_of_thinnedCluster : (completeStore, .replaceStatus runningCluster) ∈
    (reconcile {} default thinnedCluster).trace MemoryStore.runner completeStore := by
  have defaults : thinnedCluster.spec.HasDefaults :=
    (InterconnectSpec.normalize_spec_eq_iff _ false).mp rfl
  have underway : thinnedCluster.Underway {} := ⟨by decide, defaults, .inr rfl, by decide⟩
  have hgoals : ∀ goal ∈ thinnedCluster.goals {},
      thinnedCluster.Meets {} completeStore "msg" goal := by
    refine Interconnect.meets_goals_iff.mpr ⟨⟨⟨_, rfl, rfl⟩, ⟨_, rfl, rfl⟩, rfl⟩,
      ⟨⟨_, rfl, ConfigMap.template_configMap runningCluster⟩, ?_, ⟨_, rfl, rfl, rfl, rfl⟩⟩, ?_⟩
    · exact Or.inr ⟨_, rfl, Deployment.runs_deployment thinnedCluster defaultRouterImage, rfl⟩
    · intro listener hlistener
      cases hlistener
  have hns : thinnedCluster.metadata.ns = some "msg" := rfl
  rw [Interconnect.reconcile_eq hns, MemoryStore.Fresh.trace_of_met underway
    ⟨defaults, by decide⟩ hgoals]
  have hreport : ((thinnedCluster.freshPass "msg" {} default).aggregatePods.trace
      MemoryStore.runner completeStore)[1]? =
        some (completeStore, .replaceStatus runningCluster) := rfl
  exact List.mem_append_right _ (List.mem_of_getElem? hreport)

theorem gone_pod_is_dropped :
    Interconnect.ofJson? (.object thinnedCluster.toJson.membersOrNone) = some thinnedCluster ∧
      (∃ entry ∈ (reconcile {} default thinnedCluster).trace MemoryStore.runner completeStore,
        entry.2 = .replaceStatus runningCluster) ∧
      (∃ request, ApiRequest.patchStatus? Interconnect.apiType "msg" "amq"
        runningCluster.statusPatch = .ok request) ∧
      (∀ (moment : Moment) (client : Client Json), client.transport = thinnedCluster.toJson →
        Interconnect.ofJson? (client.call patchServer moment
          (.replaceStatus runningCluster)).2.transport = some runningCluster) := by
  have ordered : thinnedCluster.Ordered := ⟨⟨nofun, nofun, nofun⟩, nofun⟩
  have timely : thinnedCluster.Timely := by
    refine ⟨⟨fun _ hnone => (nomatch hnone), fun _ hnone => (nomatch hnone), nofun⟩,
      fun status hstatus condition hcondition => ?_⟩
    rw [← Option.some.inj hstatus] at hcondition
    exact absurd hcondition List.not_mem_nil
  have read : Interconnect.ofJson? (.object thinnedCluster.toJson.membersOrNone) =
      some thinnedCluster := Interconnect.ofJson?_toJson ordered timely
  have sent : ∃ request, ApiRequest.patchStatus? Interconnect.apiType "msg" "amq"
      runningCluster.statusPatch = .ok request :=
    ApiRequest.exists_named (by decide) (by decide +kernel)
  have hnow : (default : Timestamp).FourDigit := ⟨by decide, by decide⟩
  obtain ⟨-, hreplaces, hreads⟩ := Interconnect.status_patch_replaces read {} default
    MemoryStore.runner completeStore report_of_thinnedCluster rfl
  refine ⟨read, ⟨_, report_of_thinnedCluster, rfl⟩, sent, fun moment client hdocument => ?_⟩
  obtain ⟨request, hrequest⟩ := sent
  rw [hreplaces.merged patchServer_mergesPatches hrequest moment client hdocument]
  exact hreads (timely.status _ rfl) hnow

end RouterOperator
