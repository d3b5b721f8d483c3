import RouterOperator.Proofs.Settling
import RouterOperator.Proofs.Store.Accounts

/-!
# Milestones and their records

A pass that creates the workload or brings the deployment to another size writes twice: the workload
first, then the status in which the milestone is recorded. The second write may be refused after the
first took effect. `Simulation.pass_records_iff` says exactly when the record is written; it is
never made up for, since every pass records what it has changed itself and nothing else.
-/

namespace RouterOperator

namespace Pass

open Program MemoryStore

variable {pass : Pass} {kind : Kind} {desired live : kind.Object} {store : MemoryStore}
  {known : List Exchange}

theorem Workload.isWorkload (h : pass.Workload kind desired) : kind.isWorkload = true := by
  cases h <;> rfl

theorem Workload.nameOf (h : pass.Workload kind desired) :
    kind.nameOf desired = pass.cluster.name := by
  cases h <;> rfl

/-- A workload that is brought to its desired state keeps its size, once that is as asked for. -/
theorem Workload.quiet (workload : pass.Workload kind desired) (sized : pass.Sized known kind)
    (hknown : ∀ exchange ∈ known, store.Answers exchange) {verb : Verb}
    (found : store.object? ⟨kind, pass.ns, pass.cluster.name⟩ = some live) :
    store.Quiet (store.change verb ⟨kind, pass.ns, pass.cluster.name⟩ (kind.updated live desired))
      pass.ns pass.cluster.name := by
  cases workload with
  | daemonSet => exact quiet_replace_daemonSet found
  | deployment =>
      obtain ⟨reply, hread, hsize⟩ := sized rfl
      have hanswer : store.object? ⟨.deployment, pass.ns, pass.cluster.name⟩ = reply :=
        Except.ok.inj (hknown _ hread)
      have hlive := hsize live (hanswer.symm.trans found)
      have hsame : (live.updated (pass.cluster.deployment pass.settings.routerImage)).replicaCount =
          live.replicaCount := (Deployment.replicaCount_updated hlive).trans hlive.symm
      intro type hreached
      rcases (reaches_replace_deployment found).mp hreached with ⟨-, hlt⟩ | ⟨-, hlt⟩
      all_goals
        rw [show (Kind.deployment.updated live _).replicaCount = _ from hsame] at hlt
        exact Int32.lt_irrefl hlt

/-- A deployment of another size is scaled to the one that is asked for. -/
theorem reaches_resized {live : Deployment} {verb : Verb} {type : ConditionType}
    (found : store.object? ⟨.deployment, pass.ns, pass.cluster.name⟩ = some live)
    (other : live.replicaCount ≠ pass.cluster.spec.deploymentPlan.size) :
    store.Reaches
        (store.change verb ⟨.deployment, pass.ns, pass.cluster.name⟩ (pass.resized live))
        pass.ns pass.cluster.name type ↔ type = pass.scaling live.replicaCount := by
  have hsize : (pass.resized live).replicaCount = pass.cluster.spec.deploymentPlan.size :=
    (Deployment.runs_updated live pass.cluster pass.settings.routerImage).replicaCount_resized _
  rw [reaches_replace_deployment found, hsize, scaling]
  split
  next hless => simp [hless, Int32.lt_asymm hless]
  next hmore =>
    have hless := Int32.lt_of_le_of_ne (Int32.not_lt.mp hmore) other.symm
    simp [hmore, hless]

end Pass

namespace Simulation

open Program MemoryStore

section passes

variable {simulation : Simulation} {seen : List Interconnect} {pass : Pass}

/-- Whatever a pass does, it accounts for the milestones that it reaches. -/
theorem Sound.accounts_of_plan (h : simulation.Sound seen) (read : pass.cluster ∈ seen)
    (hns : pass.ns = pass.cluster.space) (hstatus : pass.status = pass.cluster.statusOrNew)
    {known : List Exchange} {moves : List Move} {outcome : Outcome}
    (planned : pass.Plan known moves outcome)
    (hknown : ∀ exchange ∈ known, simulation.store.Answers exchange) :
    simulation.store.Accounts ((script outcome moves).run runner simulation).2.store
      pass.cluster.space pass.cluster.name (simulation.CanRecord pass.cluster) := by
  -- milestones are reached by two plans alone, and in both the status is written without a check
  have hspec (spec : InterconnectSpec) : pass.cluster.statusOrNew.Adds
      ({ pass.cluster with spec } : Interconnect).statusOrNew [] := rfl
  cases planned with
  | idle | blocked => exact h.accounts_of_same read fun _ => rfl
  | block adds =>
      exact (h.run_statusWrite read rfl (by simp)).accounts h read (Nat.zero_le _) (hstatus ▸ adds)
        (by simp)
  | restate adds few first =>
      refine (h.run_statusWrite read rfl (by simp)).accounts h read (Nat.le_succ_of_le few)
        (hstatus ▸ adds) fun condition hcondition => ?_
      rw [first condition hcondition]
      rfl
  | persist spec =>
      exact (h.run_specWrite read rfl).accounts h read (Nat.zero_le _) (hspec spec) (by simp)
  | create derived other =>
      exact h.accounts_of_create read derived (answers_concat hknown).2 fun next hnext =>
        hnext.accounts_of_last read (quiet_change other)
  | update derived other =>
      exact h.accounts_of_replace read derived (answers_concat hknown).2 (Kind.nameOf_updated ..)
        (Kind.version?_updated ..) fun next hnext =>
          hnext.accounts_of_last read (quiet_change other)
  | issue spec =>
      exact h.accounts_of_create read (by decide) (answers_concat hknown).2 fun next hnext =>
        hnext.accounts_of_quiet read (quiet_change rfl) (hnext.sound.run_specWrite read rfl)
          (Nat.zero_le _) (hspec spec) (by simp)
  | deploy workload adds milestone =>
      have habsent := (answers_concat hknown).2
      refine h.accounts_of_create read workload.kind_ne habsent fun next hnext => ?_
      refine hnext.accounts_of_reached read ?_ (by simp)
        (hnext.sound.run_statusWrite read rfl (by simp)) (by simp) (hstatus ▸ adds)
      intro type htype
      rw [← hns, ← workload.nameOf, milestone]
      exact reaches_create workload.isWorkload (Except.ok.inj habsent) htype
  | refresh workload sized =>
      have hlive := (answers_concat hknown).2
      rw [workload.nameOf] at hlive
      refine h.accounts_of_replace read workload.kind_ne hlive (Kind.nameOf_updated ..)
        (Kind.version?_updated ..) fun next hnext => hnext.accounts_of_last read ?_
      rw [← hns]
      exact workload.quiet sized (answers_concat hknown).1 (Except.ok.inj hlive)
  | upgrade workload sized adds milestone =>
      have hlive := (answers_concat hknown).2
      rw [workload.nameOf] at hlive
      refine h.accounts_of_replace read workload.kind_ne hlive (Kind.nameOf_updated ..)
        (Kind.version?_updated ..) fun next hnext => ?_
      refine hnext.accounts_of_quiet read ?_ (hnext.sound.run_statusWrite read rfl (by simp))
        (by simp) (hstatus ▸ adds) (by simp [milestone, ConditionType.concernsWorkload])
      rw [← hns]
      exact workload.quiet sized (answers_concat hknown).1 (Except.ok.inj hlive)
  | resize other adds few milestone upgrading =>
      have hlive := (answers_concat hknown).2
      refine h.accounts_of_replace read (by decide) hlive (pass.nameOf_resized _)
        (pass.version?_resized _) fun next hnext => ?_
      refine hnext.accounts_of_reached read ?_ upgrading
        (hnext.sound.run_statusWrite read rfl (by simp)) (by simpa using few) (hstatus ▸ adds)
      intro type htype
      rw [← hns, milestone]
      exact Pass.reaches_resized (Except.ok.inj hlive) other

variable {snapshot : Interconnect}

theorem Sound.accounts_of_pass (h : simulation.Sound seen) (read : snapshot ∈ seen)
    (settings : Settings) (now : Timestamp) (limits : PassLimits) :
    simulation.store.Accounts (simulation.pass settings now limits snapshot).2.store
      snapshot.space snapshot.name (simulation.CanRecord snapshot) := by
  change simulation.store.Accounts
    ((reconcile settings now snapshot).run runner (simulation.started limits)).2.store _ _ _
  cases hns : snapshot.metadata.ns with
  | none =>
      rw [reconcile, hns]
      exact h.accounts_of_same read fun _ => rfl
  | some ns =>
      let pass : Pass := ⟨snapshot, ns, settings, now, snapshot.statusOrNew⟩
      have hspace : pass.ns = snapshot.space := by
        simp [pass, Interconnect.space, ObjectMeta.anySpace, hns]
      have hprogram : reconcile settings now snapshot = pass.program := by rw [reconcile, hns]
      rw [hprogram]
      cases (simulation.started limits).passCourse pass with
      | stopped same reads => exact h.accounts_of_same read fun key => congrArg (object? · key) same
      | @decided known moves outcome after front decision answers store armed run reads trace =>
          have hstore : after.store = simulation.store := store
          have harmed : after.armed = simulation.armed := armed
          have hsound : after.Sound seen := by
            refine h.sameObjects ?_
            rw [hstore]
            exact .refl _
          have hcan : after.CanRecord snapshot ↔ simulation.CanRecord snapshot := by
            rw [CanRecord, CanRecord, Holding, Holding, hstore, harmed]
          have haccounts := hsound.accounts_of_plan read hspace rfl decision.plan
            (store.symm ▸ answers)
          rw [run]
          rw [hstore, hcan] at haccounts
          exact haccounts

end passes

variable {simulation : Simulation} {seen : List Interconnect} {snapshot : Interconnect}

/-- In every run, whatever a pass reaches of the milestones of its cluster, and nothing else, is
recorded by that pass, in order at the end of the stored history, exactly if the store still holds
the cluster that the pass has read and no failure is armed for its second write. -/
theorem pass_records_iff (run : Run simulation seen) (read : snapshot ∈ seen)
    (settings : Settings) (now : Timestamp) (limits : PassLimits) :
    ∃ added, simulation.store.Appends (simulation.pass settings now limits snapshot).2.store
        snapshot.space snapshot.name added ∧
      ∀ type : ConditionType, type.concernsWorkload = true →
        ((∃ condition ∈ added, condition.type = type) ↔
          simulation.store.Reaches (simulation.pass settings now limits snapshot).2.store
            snapshot.space snapshot.name type ∧ simulation.CanRecord snapshot) :=
  run.sound.accounts_of_pass read settings now limits

end Simulation

namespace MemoryStore

open Program

/-- The calls of a pass that deploys the workload and records that. -/
def deployMoves (pass : Pass) : List Move :=
  let desired := pass.cluster.deployment pass.settings.routerImage
  let status := pass.status.reach pass.now .deployed "router workload deployed"
  let outcome := Outcome.created .deployment pass.cluster.name
  [⟨some s!"create {Kind.deployment.name} {Kind.deployment.nameOf desired}",
      .create .deployment pass.ns desired⟩,
    ⟨none, pass.statusWrite status⟩,
    ⟨none, .publish { pass.cluster with status := some status }
      ⟨.normal, "Deployed", s!"Router workload {outcome.text}"⟩⟩]

theorem run_workloadStage_of_absent {pass : Pass} {store : MemoryStore}
    (hplacement : pass.cluster.runsOnEveryNode = false)
    (habsent : ∀ kind : Kind, kind.isWorkload = true →
      store.object? ⟨kind, pass.ns, pass.cluster.name⟩ = none) :
    pass.workloadStage.run runner store =
      (script (some (Outcome.created .deployment pass.cluster.name)) (deployMoves pass)).run runner
        store := by
  let desired := pass.cluster.deployment pass.settings.routerImage
  have hresize : pass.resizeStage.run runner store = (.ok none, store) := by
    refine pass.passes_resizeStage.of_goal fun live hlive => ?_
    exact nomatch (habsent .deployment rfl).symm.trans hlive
  have hensure : (pass.ensureWorkload .deployment desired Deployment.image).run runner store =
      (script (some (Outcome.created .deployment pass.cluster.name)) (deployMoves pass)).run runner
        store := by
    unfold Pass.ensureWorkload
    dsimp only
    rw [Pass.ensure_bind, (run_check_of_open rfl _ _).1]
    have hcall : runner.call (.get .deployment pass.ns (Kind.deployment.nameOf desired)) store =
        (.ok none, store) := by
      rw [← habsent .deployment rfl]
      rfl
    exact run_call_of_ok hcall _
  unfold Pass.workloadStage
  dsimp only
  rw [if_neg (by simp [hplacement]), pass.run_hasWorkload, habsent .daemonSet rfl,
    if_neg (by simp), run_firstSome_of_none hresize, firstSome_singleton]
  exact hensure

/-- With all that comes before the workload in place, a pass deploys it and records that. -/
theorem run_of_undeployed {settings : Settings} {ns : String} {store : MemoryStore}
    {cluster : Interconnect} (underway : cluster.Underway settings) (ready : cluster.spec.Ready)
    (hplacement : cluster.runsOnEveryNode = false)
    (hgoals : ∀ goal ∈ cluster.accessGoals ++ [.object .configMap cluster.configMap],
      cluster.Meets settings store ns goal)
    (habsent : ∀ kind : Kind, kind.isWorkload = true →
      store.object? ⟨kind, ns, cluster.name⟩ = none) (now : Timestamp) :
    (cluster.freshPass ns settings now).program.run runner store =
      (script (.created .deployment cluster.name)
        (deployMoves (cluster.freshPass ns settings now))).run runner store := by
  let pass := cluster.freshPass ns settings now
  -- the stages in front pass, so the walk comes to the workload with the store as it was
  obtain ⟨rest, hstages⟩ : ∃ rest, pass.stages false =
      (cluster.accessGoals ++ [Goal.object .configMap cluster.configMap]).map pass.stageFor ++
        pass.workloadStage :: rest := ⟨_, by rw [pass.stages_eq_goals]; rfl⟩
  have hfront : ∀ stage ∈ (cluster.accessGoals ++ [Goal.object .configMap cluster.configMap]).map
      pass.stageFor, stage.run runner store = (.ok none, store) := by
    simp only [List.forall_mem_map]
    exact fun goal hgoal => (pass.passes_stageFor goal).of_goal (hgoals goal hgoal)
  have hfirst : (firstSome (pass.stages false)).run runner store =
      (script (some (Outcome.created .deployment cluster.name)) (deployMoves pass)).run runner
        store := by
    rw [hstages, run_firstSome_append hfront, firstSome,
      run_bind_congr (run_workloadStage_of_absent hplacement habsent)]
    refine congrArg (run runner · store) (script_bind_done ?_ _)
    rfl
  rw [Fresh.program_eq underway, ready.any_isIncomplete, Bool.false_and, Pass.walk,
    run_bind_congr hfirst]
  refine congrArg (run runner · store) (script_bind_done ?_ _)
  rfl

end MemoryStore

namespace Simulation

open MemoryStore Program

/-- While no failure is armed, a pass whose calls take no time does to the store what it does
without a clock. -/
theorem run_started_eq {α : Type} {simulation : Simulation} (harmed : simulation.armed = none)
    (program : Program α) :
    (program.run runner (simulation.started {})).1 =
        (program.run MemoryStore.runner simulation.store).1 ∧
      (program.run runner (simulation.started {})).2.store =
        (program.run MemoryStore.runner simulation.store).2 := by
  have hopen : (simulation.started {}).clock < (simulation.started {}).deadline :=
    Nat.lt_add_of_pos_right (by decide)
  have hstarted : (simulation.started {}).armed = none := harmed
  exact run_eq_of_free program hstarted rfl hopen

/-- A run to where all is in place but the workload. -/
def undeployed : Simulation where
  store := (((((({} : MemoryStore).insert .role runningCluster.role).insert .roleBinding
    runningCluster.roleBinding).insert .serviceAccount runningCluster.serviceAccount).insert
    .configMap runningCluster.configMap).insert .service (runningCluster.service false)).insert
    .interconnect runningCluster

/-- The cluster as it is read then. -/
def undeployedCluster : Interconnect := runningCluster.under (some "6")

theorem run_undeployed : Run undeployed [undeployedCluster] := by
  have found : undeployed.store.cluster? "msg" "amq" = some undeployedCluster := rfl
  exact ((((((Run.start.insert .role _).insert .roleBinding _).insert .serviceAccount _).insert
    .configMap _).insert .service _).insert .interconnect _).read found

theorem underway_undeployedCluster :
    undeployedCluster.Underway {} ∧ undeployedCluster.spec.Ready := by
  have defaults : undeployedCluster.spec.HasDefaults :=
    (InterconnectSpec.normalize_spec_eq_iff _ false).mp rfl
  exact ⟨⟨by decide, defaults, .inr rfl, by decide⟩, defaults, by decide⟩

theorem pass_undeployedCluster {simulation : Simulation} (harmed : simulation.armed = none)
    (hserving : simulation.store.SameServing undeployed.store) :
    (simulation.pass {} default {} undeployedCluster).2.store =
      ((script (Outcome.created .deployment "amq")
        (deployMoves (undeployedCluster.freshPass "msg" {} default))).run MemoryStore.runner
          simulation.store).2 := by
  obtain ⟨underway, ready⟩ := underway_undeployedCluster
  have hrun := (run_started_eq harmed (reconcile {} default undeployedCluster)).2
  have hmap (map : ConfigMap) (h : map.template = some undeployedCluster.spec.render) :
      Kind.configMap.drifted map undeployedCluster.configMap = false := by
    simp [Kind.drifted, ConfigMap.drifted, ConfigMap.template_configMap, h]
  refine hrun.trans (congrArg Prod.snd (run_of_undeployed underway ready rfl ?_ ?_ default))
  · simp only [Interconnect.accessGoals, List.cons_append, List.nil_append, List.forall_mem_cons,
      List.not_mem_nil, false_imp_iff, implies_true, and_true]
    exact ⟨⟨_, (hserving _ (by decide)).trans rfl, rfl⟩,
      ⟨_, (hserving _ (by decide)).trans rfl, rfl⟩, ⟨_, (hserving _ (by decide)).trans rfl, rfl⟩,
      ⟨_, (hserving _ (by decide)).trans rfl, hmap _ (ConfigMap.template_configMap runningCluster)⟩⟩
  · intro kind hkind
    cases kind with
    | deployment | daemonSet => exact (hserving _ (by decide)).trans rfl
    | _ => cases hkind

theorem deployment_is_recorded :
    Run undeployed [undeployedCluster] ∧ undeployedCluster ∈ [undeployedCluster] ∧
      ∃ added, undeployed.store.Appends (undeployed.pass {} default {} undeployedCluster).2.store
        "msg" "amq" added ∧ ∃ condition ∈ added, condition.type = .deployed := by
  have hmem := List.mem_singleton_self undeployedCluster
  refine ⟨run_undeployed, hmem, ?_⟩
  obtain ⟨added, happends, hadded⟩ := pass_records_iff run_undeployed hmem {} default {}
  refine ⟨added, happends, (hadded .deployed rfl).mpr ⟨⟨.deployment, rfl, rfl, ?_⟩, rfl, ?_⟩⟩
  · rw [pass_undeployedCluster rfl (.refl _)]
    rfl
  · exact fun failure harmed => nomatch harmed

/-- The cluster once somebody else has labelled it. -/
def labelledCluster : Interconnect :=
  { undeployedCluster with
    metadata :=
      { undeployedCluster.metadata with labels := some (Dict.empty.insert "tier" "edge") } }

/-- The run in which this happens after the cluster was read. -/
def labelled : Simulation := (undeployed.call (.replaceCluster labelledCluster)).2

/-- The store in which a pass over the cluster as it was read leaves the run. -/
def deployedUnrecorded : MemoryStore :=
  labelled.store.change .create ⟨.deployment, "msg", "amq"⟩
    (undeployedCluster.deployment defaultRouterImage)

theorem pass_labelled :
    (labelled.pass {} default {} undeployedCluster).2.store = deployedUnrecorded := by
  have hserving : labelled.store.SameServing undeployed.store :=
    sameServing_change undeployed.store .replace rfl _
  rw [pass_undeployedCluster rfl hserving]
  rfl

theorem stale_pass_loses_milestone :
    Run labelled [undeployedCluster] ∧
      labelled.store.Reaches (labelled.pass {} default {} undeployedCluster).2.store "msg" "amq"
        .deployed ∧
      (labelled.pass {} default {} undeployedCluster).2.store.Rests {} "msg" "amq" .idle ∧
      ∃ cluster, (labelled.pass {} default {} undeployedCluster).2.store.cluster? "msg" "amq" =
          some cluster ∧
        ∀ condition ∈ cluster.statusOrNew.conditions, condition.type ≠ .deployed := by
  have run : Run labelled [undeployedCluster] := run_undeployed.editCluster _
  have hsound := (run.pass (List.mem_singleton_self _) {} default {}).sound
  have hplaced := hsound.wellFormed.fits
  rw [pass_labelled] at hplaced ⊢
  have found : deployedUnrecorded.cluster? "msg" "amq" = some (labelledCluster.under (some "7")) :=
    rfl
  -- a label changes neither what the cluster needs nor what it has reported
  obtain ⟨underway, ready⟩ := underway_undeployedCluster
  have underway : (labelledCluster.under (some "7")).Underway {} :=
    ⟨underway.touched, underway.defaults, underway.satisfiable, underway.phase⟩
  have fresh : deployedUnrecorded.Fresh "msg" (labelledCluster.under (some "7")) :=
    ⟨hplaced, rfl, found, rfl⟩
  refine ⟨run, ⟨.deployment, rfl, rfl, rfl⟩, fresh.rests underway ready ?_ rfl rfl, _, found, ?_⟩
  · refine Interconnect.meets_goals_iff.mpr ⟨⟨⟨_, rfl, rfl⟩, ⟨_, rfl, rfl⟩, rfl⟩,
      ⟨⟨_, rfl, ConfigMap.template_configMap runningCluster⟩, ?_, ⟨_, rfl, rfl, rfl, rfl⟩⟩, ?_⟩
    · exact Or.inr ⟨_, rfl, Deployment.runs_deployment undeployedCluster defaultRouterImage, rfl⟩
    · intro listener hlistener
      cases hlistener
  · intro condition hcondition
    cases hcondition

end Simulation

end RouterOperator
