import RouterOperator.Proofs.Store.Passes

/-!
# The checklist and its goals

Every stage of the checklist has a goal that can be read off a store: an object that has not drifted
from its desired state, or a workload that serves. Over any store a stage passes exactly where its
goal is met, so the checklist of a pass over a store that meets all goals leads nowhere else than to
its end.
-/

namespace RouterOperator

/-- What a stage of the checklist is to bring about. -/
inductive Goal where
  | object (kind : Kind) (desired : kind.Object)
  | workload

namespace Interconnect

variable (cluster : Interconnect) (settings : Settings)

/-- The access of routers to the cluster. -/
def accessGoals : List Goal := [
  .object .role cluster.role,
  .object .roleBinding cluster.roleBinding,
  .object .serviceAccount cluster.serviceAccount]

/-- The authority that certificates are issued by. -/
def authorityGoals : List Goal :=
  (if cluster.spec.deploymentPlan.externalIssuer.isNone then [
    .object .issuer cluster.selfSignedIssuer,
    .object .certificate cluster.selfSignedCa] else []) ++ [
  .object .issuer cluster.caIssuer]

/-- The exposure of a listener. -/
def exposureGoal (listener : Listener) : Goal :=
  if settings.capabilities.routes then .object .route (cluster.route listener)
  else .object .ingress (cluster.ingress listener)

/-- What routers run from and are reached by. -/
def servingGoals : List Goal := [
  .object .configMap cluster.configMap,
  .workload,
  .object .service (cluster.service false)] ++
  cluster.spec.exposedListeners.map (cluster.exposureGoal settings)

/-- All goals once every profile has what it needs. -/
def goals : List Goal := cluster.accessGoals ++ cluster.servingGoals settings

/-- A workload serves: one of the kind that placement does not select, which is left alone, or the
selected one with all that is compared as it should be. -/
def HasWorkload (store : MemoryStore) (ns image : String) : Prop :=
  if cluster.runsOnEveryNode then
    (store.object? ⟨.deployment, ns, cluster.name⟩).isSome ∨
      store.Holds ns .daemonSet (cluster.daemonSet image)
  else
    (store.object? ⟨.daemonSet, ns, cluster.name⟩).isSome ∨
      ∃ live : Deployment, store.object? ⟨.deployment, ns, cluster.name⟩ = some live ∧
        live.drifted (cluster.deployment image) = false ∧
        live.replicaCount = cluster.spec.deploymentPlan.size

/-- A goal is met in a store. -/
def Meets (store : MemoryStore) (ns : String) : Goal → Prop
  | .object kind desired => store.Holds ns kind desired
  | .workload => cluster.HasWorkload store ns settings.routerImage

end Interconnect

namespace MemoryStore

open Program

variable {α : Type} {store : MemoryStore} {ns : String}

theorem run_checkpoint (before : String) (next : Unit → Program α) (store : MemoryStore) :
    (checkpoint before >>= next).run runner store = (next ()).run runner store := rfl

theorem run_get (kind : Kind) (ns name : String) (next : Option kind.Object → Program α)
    (store : MemoryStore) :
    (request (.get kind ns name) >>= next).run runner store =
      (next (store.object? ⟨kind, ns, name⟩)).run runner store := rfl

/-- Where the store does not hold what is desired, it holds nothing or something drifted. -/
theorem absent_or_drifted {kind : Kind} {desired : kind.Object}
    (h : ¬ store.Holds ns kind desired) :
    store.object? ⟨kind, ns, kind.nameOf desired⟩ = none ∨
      ∃ live, store.object? ⟨kind, ns, kind.nameOf desired⟩ = some live ∧
        kind.drifted live desired = true := by
  cases hlive : store.object? ⟨kind, ns, kind.nameOf desired⟩ with
  | none => exact Or.inl rfl
  | some live =>
      refine Or.inr ⟨live, rfl, ?_⟩
      rw [← Bool.not_eq_false]
      exact fun hdrift => h ⟨live, hlive, hdrift⟩

theorem Passes.congr {stage : Stage} {goal goal' : Prop} (h : store.Passes stage goal)
    (hgoals : goal ↔ goal') : store.Passes stage goal' :=
  ⟨fun hgoal => h.of_goal (hgoals.mpr hgoal), fun hrun => hgoals.mp (h.goal hrun)⟩

end MemoryStore

namespace Pass

open Program MemoryStore

variable {store : MemoryStore} (pass : Pass) {kind : Kind} {desired : kind.Object}

/-- The stage for a goal. -/
def stageFor : Goal → Stage
  | .object kind desired => pass.ensureStage kind desired
  | .workload => pass.workloadStage

theorem stages_eq_goals :
    pass.stages false = (pass.cluster.goals pass.settings).map pass.stageFor := by
  have hexposures : pass.cluster.spec.exposedListeners.map pass.exposureStage =
      (pass.cluster.spec.exposedListeners.map
        (pass.cluster.exposureGoal pass.settings)).map pass.stageFor := by
    rw [List.map_map]
    refine List.map_congr_left fun listener _ => ?_
    rw [Function.comp_apply, exposureStage, Interconnect.exposureGoal]
    split <;> rfl
  rw [stages, hexposures]
  rfl

/-- While something is to be issued, the issuing stage follows the goals of the authority. -/
theorem stages_eq_authority :
    ∃ rest, pass.stages true =
      (pass.cluster.accessGoals ++ pass.cluster.authorityGoals).map pass.stageFor ++
        pass.issueStage :: rest := by
  refine ⟨[pass.ensureStage .configMap pass.cluster.configMap, pass.workloadStage,
    pass.ensureStage .service (pass.cluster.service true)] ++
      pass.cluster.spec.exposedListeners.map pass.exposureStage, ?_⟩
  unfold stages certificateStages Interconnect.authorityGoals
  rw [if_pos rfl]
  split <;> rfl

theorem run_ensure_of_absent
    (h : store.object? ⟨kind, pass.ns, kind.nameOf desired⟩ = none) :
    (pass.ensure kind desired).run runner store =
      (call (.create kind pass.ns desired) fun _ => done .created).run runner store := by
  unfold ensure
  rw [run_checkpoint, run_get, h]
  rfl

theorem run_ensure_of_drifted {live : kind.Object}
    (h : store.object? ⟨kind, pass.ns, kind.nameOf desired⟩ = some live)
    (hdrift : kind.drifted live desired = true) :
    (pass.ensure kind desired).run runner store =
      (call (.replace kind pass.ns (kind.updated live desired)) fun _ =>
        done (.updated live)).run runner store := by
  unfold ensure
  rw [run_checkpoint, run_get, h]
  dsimp only
  rw [if_pos hdrift]
  rfl

theorem run_ensure_of_holds {live : kind.Object}
    (h : store.object? ⟨kind, pass.ns, kind.nameOf desired⟩ = some live)
    (hdrift : kind.drifted live desired = false) :
    (pass.ensure kind desired).run runner store = (.ok (.unchanged live), store) := by
  unfold ensure
  rw [run_checkpoint, run_get, h]
  dsimp only
  rw [hdrift]
  rfl

/-- A stage that ensures an object and ends after a change passes where the object is held. -/
theorem passes_ensure {next : Ensured kind → Stage}
    (hunchanged : ∀ live, next (.unchanged live) = done none)
    (hcreated : (next .created).Meets (fun _ => True) fun result => result.isSome)
    (hupdated : ∀ live, (next (.updated live)).Meets (fun _ => True) fun result => result.isSome) :
    store.Passes (pass.ensure kind desired >>= next) (store.Holds pass.ns kind desired) := by
  refine Passes.of_not_goal ?_ fun hunmet => ?_
  · rintro ⟨live, hlive, hdrift⟩
    rw [run_bind, pass.run_ensure_of_holds hlive hdrift]
    dsimp only
    rw [hunchanged]
    rfl
  · rcases absent_or_drifted hunmet with habsent | ⟨live, hlive, hdrift⟩
    · refine ⟨call (.create kind pass.ns desired) fun _ => next .created, ?_,
        trivial, fun _ => hcreated⟩
      rw [run_bind, pass.run_ensure_of_absent habsent, ← run_bind]
      rfl
    · refine ⟨call (.replace kind pass.ns (kind.updated live desired)) fun _ =>
        next (.updated live), ?_, trivial, fun _ => hupdated live⟩
      rw [run_bind, pass.run_ensure_of_drifted hlive hdrift, ← run_bind]
      rfl

theorem passes_ensureStage (kind : Kind) (desired : kind.Object) :
    store.Passes (pass.ensureStage kind desired) (store.Holds pass.ns kind desired) :=
  pass.passes_ensure (fun _ => rfl) rfl fun _ => rfl

theorem passes_ensureWorkload (kind : Kind) (desired : kind.Object)
    (imageOf : kind.Object → Option String) :
    store.Passes (pass.ensureWorkload kind desired imageOf) (store.Holds pass.ns kind desired) := by
  refine pass.passes_ensure (fun _ => rfl) ?_ fun live => ?_
  · exact ⟨trivial, fun _ => ⟨trivial, fun _ => rfl⟩⟩
  · dsimp only [workloadUpdated]
    split
    · exact ⟨trivial, fun _ => rfl⟩
    · rfl

/-- The resizing stage passes where there is no deployment or it has the size that is asked for. -/
theorem passes_resizeStage :
    store.Passes pass.resizeStage (∀ live : Deployment,
      store.object? ⟨.deployment, pass.ns, pass.cluster.name⟩ = some live →
        live.replicaCount = pass.cluster.spec.deploymentPlan.size) := by
  refine Passes.of_not_goal (fun hgoal => ?_) fun hunmet => ?_
  · unfold resizeStage
    rw [run_checkpoint, run_get]
    split
    · rfl
    next live hlive =>
      dsimp only
      rw [if_pos (hgoal live hlive)]
      rfl
  · have hlive : ∃ live : Deployment,
        store.object? ⟨.deployment, pass.ns, pass.cluster.name⟩ = some live ∧
          live.replicaCount ≠ pass.cluster.spec.deploymentPlan.size := by
      simpa using hunmet
    obtain ⟨live, hlive, hsize⟩ := hlive
    unfold resizeStage
    rw [run_checkpoint, run_get, hlive]
    dsimp only
    rw [if_neg hsize]
    exact ⟨_, rfl, trivial, fun _ => ⟨trivial, fun _ => ⟨trivial, fun _ => rfl⟩⟩⟩

theorem run_hasWorkload (store : MemoryStore) (stage : Stage) (kind : Kind) :
    (do if ← pass.hasWorkload kind then return none else stage : Stage).run runner store =
      (if (store.object? ⟨kind, pass.ns, pass.cluster.name⟩).isSome then done none
        else stage).run runner store := rfl

/-- A workload of the other kind makes a stage pass. -/
theorem passes_hasWorkload {stage : Stage} {goal : Prop} (h : store.Passes stage goal)
    (kind : Kind) :
    store.Passes (do if ← pass.hasWorkload kind then return none else stage)
      ((store.object? ⟨kind, pass.ns, pass.cluster.name⟩).isSome ∨ goal) := by
  have hrun := pass.run_hasWorkload store stage kind
  cases hother : (store.object? ⟨kind, pass.ns, pass.cluster.name⟩).isSome with
  | true =>
      rw [hother, if_pos rfl] at hrun
      exact ⟨fun _ => hrun, fun _ => Or.inl rfl⟩
  | false =>
      rw [hother, if_neg Bool.false_ne_true] at hrun
      refine ⟨fun hgoal => ?_, fun hresult => ?_⟩
      · rw [hrun]
        exact h.of_goal (hgoal.resolve_left Bool.false_ne_true)
      · rw [hrun] at hresult
        exact Or.inr (h.goal hresult)

theorem passes_workloadStage :
    store.Passes pass.workloadStage
      (pass.cluster.HasWorkload store pass.ns pass.settings.routerImage) := by
  unfold workloadStage Interconnect.HasWorkload
  dsimp only
  split
  · exact pass.passes_hasWorkload (pass.passes_ensureWorkload _ _ _) .deployment
  · refine (pass.passes_hasWorkload (pass.passes_resizeStage.firstSome_cons
      ((pass.passes_ensureWorkload .deployment
        (pass.cluster.deployment pass.settings.routerImage) Deployment.image).firstSome_cons
          passes_firstSome_nil)) .daemonSet).congr (or_congr_right ?_)
    constructor
    · rintro ⟨hsize, ⟨live, hlive, hdrift⟩, -⟩
      exact ⟨live, hlive, hdrift, hsize live hlive⟩
    · rintro ⟨live, hlive, hdrift, hsize⟩
      refine ⟨fun other hother => ?_, ⟨live, hlive, hdrift⟩, trivial⟩
      rw [hlive] at hother
      exact Option.some.inj hother ▸ hsize

/-- Every stage of the checklist passes exactly where its goal is met. -/
theorem passes_stageFor (goal : Goal) :
    store.Passes (pass.stageFor goal) (pass.cluster.Meets pass.settings store pass.ns goal) := by
  cases goal with
  | object kind desired => exact pass.passes_ensureStage kind desired
  | workload => exact pass.passes_workloadStage

/-- With nothing left to issue, the checklist passes exactly where all goals are met. -/
theorem passes_stages (store : MemoryStore) :
    store.Passes (firstSome (pass.stages false))
      (∀ goal ∈ pass.cluster.goals pass.settings,
        pass.cluster.Meets pass.settings store pass.ns goal) := by
  rw [stages_eq_goals]
  exact passes_firstSome fun goal _ => pass.passes_stageFor goal

end Pass

end RouterOperator
