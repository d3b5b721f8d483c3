import RouterOperator.Proofs.Checklist
import RouterOperator.Proofs.Store.Fresh

/-!
# What a stage does that does not pass

Over a fresh store a stage whose goal is not met writes one object, records the change in the status
if it concerns the workload, and ends the pass. Afterwards its goal is met, and so are all goals
that were met before.
-/

namespace RouterOperator

/-- A cluster with another status, under another version. -/
def Interconnect.Restated (cluster next : Interconnect) : Prop :=
  ∃ status version, next = ({ cluster with status } : Interconnect).under version

/-- A restated cluster has the same goals, met in the same stores. -/
theorem Interconnect.Restated.goals {cluster next : Interconnect} (h : cluster.Restated next)
    (settings : Settings) :
    next.goals settings = cluster.goals settings ∧
      next.accessGoals ++ next.authorityGoals = cluster.accessGoals ++ cluster.authorityGoals ∧
      next.Meets settings = cluster.Meets settings := by
  obtain ⟨status, version, rfl⟩ := h
  refine ⟨rfl, rfl, ?_⟩
  funext store ns goal
  cases goal <;> rfl

/-- A restated cluster in the same phase: the pods and the conditions may differ. -/
structure Interconnect.Continues (cluster next : Interconnect) : Prop where
  restated : cluster.Restated next
  phase : next.statusOrNew.phase = cluster.statusOrNew.phase
  revNumber : next.statusOrNew.revNumber = cluster.statusOrNew.revNumber

theorem Interconnect.Continues.refl (cluster : Interconnect) : cluster.Continues cluster :=
  ⟨⟨cluster.status, cluster.metadata.resourceVersion, rfl⟩, rfl, rfl⟩

/-- What is written for a desired object: the object itself if there is none, else the live one
brought to the desired state. -/
def MemoryStore.Writes (store : MemoryStore) (ns : String) (kind : Kind)
    (desired object : kind.Object) : Prop :=
  (store.object? ⟨kind, ns, kind.nameOf desired⟩ = none ∧ object = desired) ∨
    ∃ live, store.object? ⟨kind, ns, kind.nameOf desired⟩ = some live ∧
      object = kind.updated live desired

namespace MemoryStore

variable {store : MemoryStore} {ns : String} {kind : Kind} {desired object : kind.Object}

theorem Writes.nameOf (h : store.Writes ns kind desired object) (placed : store.Placed) :
    kind.nameOf object = kind.nameOf desired := by
  rcases h with ⟨-, rfl⟩ | ⟨live, hlive, rfl⟩
  · rfl
  · rw [Kind.nameOf_updated]
    exact (placed _ _ hlive).name

theorem Writes.drifted (h : store.Writes ns kind desired object) {pass : Pass}
    (wanted : pass.Wants kind desired) : kind.drifted object desired = false := by
  rcases h with ⟨-, rfl⟩ | ⟨live, -, rfl⟩
  · exact wanted.drifted_self
  · exact wanted.drifted_updated live

theorem Holds.of_stored {name : String} {live : kind.Object}
    (hlive : store.object? ⟨kind, ns, name⟩ = some live) (hname : name = kind.nameOf desired)
    (hdrift : kind.drifted live desired = false) : store.Holds ns kind desired := by
  subst hname
  exact ⟨live, hlive, hdrift⟩

/-- After an object was written that has not drifted, the store holds what is desired. -/
theorem holds_change (verb : Verb) (hname : kind.nameOf object = kind.nameOf desired)
    (hdrift : kind.drifted object desired = false) :
    (store.change verb (.of kind ns object) object).Holds ns kind desired := by
  refine Holds.of_stored (object?_put_self store (.of kind ns object) object) hname ?_
  exact (Kind.drifted_withVersion kind object desired _).trans hdrift

/-- Such a write does not take away anything else that is wanted. -/
theorem Holds.change {pass : Pass} {other : Kind} {desired' : other.Object}
    (h : store.Holds ns other desired') (wanted' : pass.Wants other desired')
    (wanted : pass.Wants kind desired) (verb : Verb)
    (hname : kind.nameOf object = kind.nameOf desired)
    (hdrift : kind.drifted object desired = false) :
    (store.change verb (.of kind ns object) object).Holds ns other desired' := by
  by_cases hkey : (⟨other, ns, other.nameOf desired'⟩ : ObjectKey) = .of kind ns object
  · -- the same object is wanted twice, and both times alike
    obtain rfl : other = kind := congrArg ObjectKey.kind hkey
    have hsame : other.nameOf desired' = other.nameOf object := congrArg ObjectKey.name hkey
    refine holds_change verb hsame.symm ?_
    rw [wanted'.drifted_congr wanted (hsame.trans hname)]
    exact hdrift
  · obtain ⟨live, hlive, hundrifted⟩ := h
    exact ⟨live, (object?_change_of_ne hkey store verb object).trans hlive, hundrifted⟩

theorem Holds.congr {other : MemoryStore} (h : store.Holds ns kind desired)
    (hsame : other.SameServing store) (hkind : kind ≠ .interconnect) :
    other.Holds ns kind desired := by
  obtain ⟨live, hlive, hdrift⟩ := h
  refine ⟨live, ?_, hdrift⟩
  rw [hsame _ hkind, hlive]

end MemoryStore

namespace InterconnectStatus

variable (status : InterconnectStatus) (now : Timestamp) (type : ConditionType) (reason : String)

@[simp] theorem phase_reach : (status.reach now type reason).phase = status.phase := rfl

@[simp] theorem revNumber_reach : (status.reach now type reason).revNumber = status.revNumber := rfl

end InterconnectStatus

namespace Pass

open Program MemoryStore

/-- A stage ends the pass with a change. Apart from clusters, what it leaves is what another store
holds. -/
def Acts (pass : Pass) (stage : Stage) (store result : MemoryStore) : Prop :=
  ∃ outcome after next, stage.run runner store = (.ok (some outcome), after) ∧
    outcome.requeue = true ∧ pass.cluster.Continues next ∧ after.Fresh pass.ns next ∧
    after.SameServing result

variable {pass : Pass} {store result : MemoryStore} {kind : Kind} {desired : kind.Object}

@[simp] theorem phase_upgraded (status : InterconnectStatus) (previous : Option String) :
    (pass.upgraded status previous).phase = status.phase := by
  unfold upgraded
  split <;> rfl

@[simp] theorem revNumber_upgraded (status : InterconnectStatus) (previous : Option String) :
    (pass.upgraded status previous).revNumber = status.revNumber := by
  unfold upgraded
  split <;> rfl

/-- A stage acts as what is left of it acts. -/
theorem Acts.of_run {stage rest : Stage} {middle : MemoryStore}
    (hrun : stage.run runner store = rest.run runner middle) (h : pass.Acts rest middle result) :
    pass.Acts stage store result := by
  unfold Acts
  rw [hrun]
  exact h

theorem Acts.firstSome {stage : Stage} (h : pass.Acts stage store result) (rest : List Stage) :
    pass.Acts (firstSome (stage :: rest)) store result := by
  obtain ⟨outcome, after, next, hrun, hafter⟩ := h
  exact ⟨outcome, after, next, run_firstSome_of_some hrun, hafter⟩

theorem Acts.firstSome_append {front rest : List Stage}
    (hfront : ∀ stage ∈ front, stage.run runner store = (.ok none, store))
    (h : pass.Acts (Program.firstSome rest) store result) :
    pass.Acts (Program.firstSome (front ++ rest)) store result :=
  h.of_run (run_firstSome_append hfront)

/-- Without a workload of the other kind a stage does not pass. -/
theorem Acts.hasWorkload {stage : Stage} (h : pass.Acts stage store result) {kind : Kind}
    (habsent : ¬ (store.object? ⟨kind, pass.ns, pass.cluster.name⟩).isSome) :
    pass.Acts (do if ← pass.hasWorkload kind then return none else stage) store result := by
  refine h.of_run ?_
  rw [run_hasWorkload, if_neg habsent]

theorem acts_done (h : store.Fresh pass.ns pass.cluster) {outcome : Outcome}
    (hrequeue : outcome.requeue = true) : pass.Acts (done (some outcome)) store store :=
  ⟨outcome, store, pass.cluster, rfl, hrequeue, .refl _, h, .refl _⟩

/-- A change of the workload is recorded in a status of the same phase. -/
theorem run_record (h : store.Fresh pass.ns pass.cluster) {status : InterconnectStatus}
    (hphase : status.phase = pass.cluster.statusOrNew.phase)
    (hrev : status.revNumber = pass.cluster.statusOrNew.revNumber)
    (rest : Interconnect → Stage) :
    ∃ after next, (pass.record status >>= rest).run runner store =
        (rest { pass.cluster with status := some status }).run runner after ∧
      pass.cluster.Continues next ∧ after.Fresh pass.ns next ∧ after.SameServing store := by
  obtain ⟨after, version, hcall, hfresh, hsame⟩ := h.writeStatus status
  exact ⟨after, _, run_call_of_ok hcall _, ⟨⟨some status, version, rfl⟩, hphase, hrev⟩, hfresh,
    hsame⟩

theorem acts_record (h : store.Fresh pass.ns pass.cluster) {status : InterconnectStatus}
    (hphase : status.phase = pass.cluster.statusOrNew.phase)
    (hrev : status.revNumber = pass.cluster.statusOrNew.revNumber)
    {outcome : Outcome} (hrequeue : outcome.requeue = true) :
    pass.Acts (do let _ ← pass.record status; return some outcome) store store := by
  obtain ⟨after, next, hrun, hnext, hfresh, hsame⟩ :=
    run_record h hphase hrev fun _ => done (some outcome)
  exact ⟨outcome, after, next, hrun, hrequeue, hnext, hfresh, hsame⟩

theorem acts_announce (h : store.Fresh pass.ns pass.cluster) {status : InterconnectStatus}
    (hphase : status.phase = pass.cluster.statusOrNew.phase)
    (hrev : status.revNumber = pass.cluster.statusOrNew.revNumber) (notice : Notice)
    {outcome : Outcome} (hrequeue : outcome.requeue = true) :
    pass.Acts (do
      let cluster ← pass.record status
      request (.publish cluster notice)
      return some outcome) store store := by
  obtain ⟨after, next, hrun, hnext, hfresh, hsame⟩ :=
    run_record h hphase hrev fun cluster =>
      call (.publish cluster notice) fun _ => done (some outcome)
  obtain ⟨last, hcall, hlast, hsame'⟩ :=
    hfresh.publish { pass.cluster with status := some status } notice
  exact ⟨outcome, last, next, hrun.trans (run_call_of_ok hcall _), hrequeue, hnext, hlast,
    hsame'.trans hsame⟩

/-- Over a fresh store an object that is not held is created or updated. -/
theorem run_ensure (h : store.Fresh pass.ns pass.cluster)
    (hunmet : ¬ store.Holds pass.ns kind desired) :
    ∃ ensured verb object, (pass.ensure kind desired).run runner store =
        (.ok ensured, store.change verb (.of kind pass.ns object) object) ∧
      (∀ live, ensured ≠ .unchanged live) ∧ store.Writes pass.ns kind desired object := by
  rcases absent_or_drifted hunmet with habsent | ⟨live, hlive, hdrift⟩
  · refine ⟨.created, .create, desired, ?_, by simp, Or.inl ⟨habsent, rfl⟩⟩
    rw [pass.run_ensure_of_absent habsent]
    exact run_call_of_ok (call_create_of_absent h.unharmed habsent) _
  · refine ⟨.updated live, .replace, kind.updated live desired, ?_, by simp,
      Or.inr ⟨live, hlive, rfl⟩⟩
    rw [pass.run_ensure_of_drifted hlive hdrift]
    exact run_call_of_ok
      (h.call_replace hlive (kind.nameOf_updated _ _) (kind.version?_updated _ _)) _

/-- A stage that ensures an object acts by writing it, whatever it does to record that. -/
theorem acts_ensure (h : store.Fresh pass.ns pass.cluster) (wanted : pass.Wants kind desired)
    (hunmet : ¬ store.Holds pass.ns kind desired) {rest : Ensured kind → Stage}
    (hrest : ∀ ensured (after : MemoryStore), (∀ live, ensured ≠ .unchanged live) →
      after.Fresh pass.ns pass.cluster → pass.Acts (rest ensured) after after) :
    ∃ verb object, store.Writes pass.ns kind desired object ∧
      pass.Acts (pass.ensure kind desired >>= rest) store
        (store.change verb (.of kind pass.ns object) object) := by
  obtain ⟨ensured, verb, object, hrun, hchanged, hwrites⟩ := run_ensure h hunmet
  refine ⟨verb, object, hwrites,
    (hrest ensured _ hchanged (h.change verb wanted.kind_ne rfl)).of_run ?_⟩
  rw [run_bind, hrun]

theorem acts_ensureStage (h : store.Fresh pass.ns pass.cluster) (wanted : pass.Wants kind desired)
    (hunmet : ¬ store.Holds pass.ns kind desired) :
    ∃ verb object, store.Writes pass.ns kind desired object ∧
      pass.Acts (pass.ensureStage kind desired) store
        (store.change verb (.of kind pass.ns object) object) := by
  refine acts_ensure h wanted hunmet fun ensured after hchanged hfresh => ?_
  cases ensured with
  | unchanged live => exact absurd rfl (hchanged live)
  | created => exact acts_done hfresh rfl
  | updated previous => exact acts_done hfresh rfl

theorem acts_ensureWorkload (h : store.Fresh pass.ns pass.cluster)
    (hstatus : pass.status = pass.cluster.statusOrNew) (wanted : pass.Wants kind desired)
    (hunmet : ¬ store.Holds pass.ns kind desired) (imageOf : kind.Object → Option String) :
    ∃ verb object, store.Writes pass.ns kind desired object ∧
      pass.Acts (pass.ensureWorkload kind desired imageOf) store
        (store.change verb (.of kind pass.ns object) object) := by
  refine acts_ensure h wanted hunmet fun ensured after hchanged hfresh => ?_
  cases ensured with
  | unchanged live => exact absurd rfl (hchanged live)
  | created => exact acts_announce hfresh (by simp [hstatus]) (by simp [hstatus]) _ rfl
  | updated previous =>
      dsimp only [workloadUpdated]
      split
      · exact acts_record hfresh (by simp [hstatus]) (by simp [hstatus]) rfl
      · exact acts_done hfresh rfl

/-- Over a fresh store a deployment of another size is resized and updated in one write. -/
theorem acts_resizeStage (h : store.Fresh pass.ns pass.cluster)
    (hstatus : pass.status = pass.cluster.statusOrNew) {live : Deployment}
    (hlive : store.object? ⟨.deployment, pass.ns, pass.cluster.name⟩ = some live)
    (hsize : live.replicaCount ≠ pass.cluster.spec.deploymentPlan.size) :
    ∃ object : Deployment, object.metadata = live.metadata ∧
      object.Runs pass.cluster pass.settings.routerImage ∧
      object.replicaCount = pass.cluster.spec.deploymentPlan.size ∧
      pass.Acts pass.resizeStage store
        (store.change .replace (.of .deployment pass.ns object) object) := by
  let size := pass.cluster.spec.deploymentPlan.size
  let updated := live.updated (pass.cluster.deployment pass.settings.routerImage)
  have hruns : updated.Runs pass.cluster pass.settings.routerImage :=
    Deployment.runs_updated live _ _
  have hmeta : (updated.resized size).metadata = live.metadata := Deployment.metadata_updated _ _
  refine ⟨updated.resized size, hmeta, hruns.resized size, hruns.replicaCount_resized size, ?_⟩
  have hcall : store.call (.replace .deployment pass.ns (updated.resized size)) =
      (.ok (), store.change .replace (.of .deployment pass.ns (updated.resized size))
        (updated.resized size)) :=
    h.call_replace hlive (congrArg ObjectMeta.anyName hmeta)
      (congrArg ObjectMeta.resourceVersion hmeta)
  have hfresh : (store.change .replace (.of .deployment pass.ns (updated.resized size))
      (updated.resized size)).Fresh pass.ns pass.cluster :=
    h.change .replace (by intro hkind; cases hkind) rfl
  let recorded :=
    if live.replicaCount < size then pass.status.reach pass.now .scalingUp "scaling up"
    else pass.status.reach pass.now .scalingDown "scaling down"
  have hphase : recorded.phase = pass.cluster.statusOrNew.phase := by
    unfold recorded
    split <;> simp [hstatus]
  have hrev : recorded.revNumber = pass.cluster.statusOrNew.revNumber := by
    unfold recorded
    split <;> simp [hstatus]
  unfold Acts resizeStage
  rw [run_checkpoint, run_get, hlive]
  dsimp only
  rw [if_neg hsize, run_checkpoint, run_request_of_ok hcall]
  refine acts_announce hfresh ?_ ?_ _ ?_
  · exact (phase_upgraded _ _).trans hphase
  · exact (revNumber_upgraded _ _).trans hrev
  · rfl

end Pass

end RouterOperator
