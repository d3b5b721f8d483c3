import RouterOperator.Proofs.Milestones
import RouterOperator.Proofs.Shape
import RouterOperator.Proofs.Store.Listing
import RouterOperator.Proofs.Store.Strikes

/-!
# Reporting pods

At the end of the checklist a pass lists the pods of the cluster, and it writes their names to the
status unless they stand there already and the cluster is running. Nothing before that lists pods,
so a pass that has listed any has seen every stage pass, with the store as it was at the start: the
status tells the pods of this store.
-/

namespace RouterOperator

/-- Whether a call lists pods. -/
def StoreCall.listsPods : StoreCall → Bool
  | listPods _ _ => true
  | _ => false

namespace Program

variable {α β σ : Type}

/-- A run of a program comes to list pods. -/
def ListsPods (program : Program α) (runner : Runner σ) (state : σ) : Prop :=
  ∃ entry ∈ program.trace runner state, entry.2.listsPods = true

/-- Whatever the answers to its calls, a program lists no pods. -/
abbrev ListsNoPods (program : Program α) : Prop :=
  program.Meets (fun request => request.listsPods = false) fun _ => True

theorem ListsNoPods.not_listsPods {program : Program α} (h : program.ListsNoPods)
    (runner : Runner σ) (state : σ) : ¬ program.ListsPods runner state := by
  rintro ⟨entry, hentry, hlists⟩
  exact nomatch hlists.symm.trans (h.trace runner state entry hentry)

end Program

namespace Pass

open Program

section stages

variable {pass : Pass} {kind : Kind} {desired : kind.Object}

theorem listsNoPods_ensure : (pass.ensure kind desired).ListsNoPods := by
  refine Meets.andThen trivial fun _ => ?_
  refine Meets.andThen ⟨rfl, fun _ => trivial⟩ fun live => ?_
  cases live with
  | none => exact ⟨rfl, fun _ => trivial⟩
  | some live =>
      dsimp only
      split
      · exact ⟨rfl, fun _ => trivial⟩
      · trivial

theorem listsNoPods_ensureStage : (pass.ensureStage kind desired).ListsNoPods :=
  listsNoPods_ensure.andThen fun _ => trivial

theorem listsNoPods_certificateStages : ∀ stage ∈ pass.certificateStages, stage.ListsNoPods := by
  have hissue : pass.issueStage.ListsNoPods := by
    unfold issueStage
    split
    · trivial
    · exact listsNoPods_ensureStage.andThen fun _ => ⟨rfl, fun _ => trivial⟩
  unfold certificateStages
  simp only [List.forall_mem_append, List.forall_mem_cons, List.not_mem_nil, false_imp_iff,
    implies_true, and_true]
  refine ⟨?_, listsNoPods_ensureStage, hissue⟩
  split
  · simp only [List.forall_mem_cons, List.not_mem_nil, false_imp_iff, implies_true, and_true]
    exact ⟨listsNoPods_ensureStage, listsNoPods_ensureStage⟩
  · simp

theorem listsNoPods_ensureWorkload (imageOf : kind.Object → Option String) :
    (pass.ensureWorkload kind desired imageOf).ListsNoPods := by
  refine listsNoPods_ensure.andThen fun ensured => ?_
  cases ensured with
  | unchanged live => trivial
  | created => exact ⟨rfl, fun _ => ⟨rfl, fun _ => trivial⟩⟩
  | updated previous =>
      dsimp only [workloadUpdated]
      split
      · exact ⟨rfl, fun _ => trivial⟩
      · trivial

theorem listsNoPods_resizeStage : pass.resizeStage.ListsNoPods := by
  refine Meets.andThen trivial fun _ => ?_
  refine Meets.andThen ⟨rfl, fun _ => trivial⟩ fun live => ?_
  cases live with
  | none => trivial
  | some live =>
      dsimp only
      split
      · trivial
      · exact ⟨rfl, fun _ => ⟨rfl, fun _ => ⟨rfl, fun _ => trivial⟩⟩⟩

theorem listsNoPods_workloadStage : pass.workloadStage.ListsNoPods := by
  have hother (kind : Kind) : (pass.hasWorkload kind).ListsNoPods := ⟨rfl, fun _ => trivial⟩
  unfold workloadStage
  dsimp only
  split
  · refine (hother _).andThen fun existing => ?_
    split
    · trivial
    · exact listsNoPods_ensureWorkload _
  · refine (hother _).andThen fun existing => ?_
    split
    · trivial
    · refine Meets.firstSome trivial ?_
      simp only [List.forall_mem_cons, List.not_mem_nil, false_imp_iff, implies_true, and_true]
      exact ⟨listsNoPods_resizeStage, listsNoPods_ensureWorkload _⟩

/-- No stage of the checklist lists pods. -/
theorem listsNoPods_stages (requestCert : Bool) :
    (firstSome (pass.stages requestCert)).ListsNoPods := by
  have hexposure (listener : Listener) : (pass.exposureStage listener).ListsNoPods := by
    unfold exposureStage
    split <;> exact listsNoPods_ensureStage
  refine Meets.firstSome trivial ?_
  simp only [stages, accessStages, List.forall_mem_append, List.forall_mem_cons,
    List.not_mem_nil, false_imp_iff, implies_true, and_true, List.forall_mem_map]
  refine ⟨⟨⟨⟨listsNoPods_ensureStage, listsNoPods_ensureStage, listsNoPods_ensureStage⟩, ?_⟩,
    listsNoPods_ensureStage, listsNoPods_workloadStage, listsNoPods_ensureStage⟩,
    fun listener _ => hexposure listener⟩
  split
  · exact listsNoPods_certificateStages
  · simp

end stages

section runs

variable {σ : Type} {pass : Pass} {runner : Runner σ} {state : σ}

/-- A pass that lists pods walks the checklist. -/
theorem walks_of_listsPods (h : pass.program.ListsPods runner state) :
    pass.Walks ∧ pass.program = pass.walk (pass.cluster.spec.sslProfiles.any (·.isIncomplete) &&
      pass.settings.capabilities.certManager) := by
  have hwrite (status : InterconnectStatus) : (pass.writeStatus status).ListsNoPods :=
    ⟨rfl, fun _ => trivial⟩
  have hblock (reason : String) : (pass.block reason).ListsNoPods := by
    unfold block
    split
    · exact ⟨rfl, fun _ => ⟨rfl, fun _ => trivial⟩⟩
    · trivial
  by_cases new : pass.status.revNumber = ""
  · rw [program_of_new new] at h
    exact absurd h ((hwrite _).not_listsPods runner state)
  · by_cases defaults : pass.cluster.spec.HasDefaults
    · rw [program_of_defaults new defaults] at h ⊢
      by_cases satisfiable : pass.cluster.spec.Satisfiable pass.settings
      · by_cases phase : pass.status.phase = .failed
        · rw [afterDefaults_of_failed satisfiable phase] at h
          exact absurd h ((hwrite _).not_listsPods runner state)
        · exact ⟨⟨new, defaults, satisfiable, phase⟩, afterDefaults_of_open satisfiable phase _⟩
      · rw [afterDefaults_of_unsatisfiable satisfiable] at h
        exact absurd h ((hblock _).not_listsPods runner state)
    · rw [program_of_lacking new defaults] at h
      have hpersist (spec : InterconnectSpec) :
          (do persistSpec { pass.cluster with spec }; return Outcome.specUpdated).ListsNoPods :=
        ⟨rfl, fun _ => trivial⟩
      exact absurd h ((hpersist _).not_listsPods runner state)

/-- Stages that have passed have made reads alone, which keep the state. -/
theorem reads_of_passed {kept : σ → Prop} {program : Stage}
    (hreads : ∀ state request, StoreCall.isRead request = true → kept state →
      kept (runner.call request state).2)
    (hstate : kept state) (decides : Decides pass.WalkDecision [] program) {after : σ}
    (hrun : program.run runner state = (.ok none, after)) :
    kept after ∧ ∀ entry ∈ program.trace runner state, entry.2.isRead = true := by
  cases decides.course hreads hstate with
  | stopped keeps stops fails kept reads =>
      rw [hrun] at fails
      cases fails
  | @decided answers last moves result keeps kept planned run trace =>
      rw [hrun] at run
      obtain ⟨rfl, -⟩ := trace_script_of_ok (congrArg Prod.fst run.symm)
      obtain ⟨rfl, -⟩ := planned
      obtain rfl : after = last := congrArg Prod.snd run
      refine ⟨keeps, ?_⟩
      rw [trace]
      simp only [script, Program.trace, List.append_nil, List.forall_mem_map]
      exact fun read _ => read.reads

/-- A pass that lists pods does so behind reads alone, once all stages have passed. -/
theorem run_of_listsPods {kept : σ → Prop}
    (hreads : ∀ state request, StoreCall.isRead request = true → kept state →
      kept (runner.call request state).2)
    (hstate : kept state) (h : pass.program.ListsPods runner state) :
    ∃ front after, kept after ∧ (∀ entry ∈ front, entry.2.isRead = true) ∧
      pass.program.run runner state = pass.aggregatePods.run runner after ∧
      pass.program.trace runner state = front ++ pass.aggregatePods.trace runner after := by
  obtain ⟨walks, hprogram⟩ := walks_of_listsPods h
  have decides := decides_stages walks []
  rw [hprogram] at h ⊢
  generalize (pass.cluster.spec.sslProfiles.any (·.isIncomplete) &&
    pass.settings.capabilities.certManager) = requestCert at h decides ⊢
  have hstages : ¬ (firstSome (pass.stages requestCert)).ListsPods runner state :=
    (listsNoPods_stages requestCert).not_listsPods runner state
  unfold ListsPods at h hstages
  rw [walk, trace_bind] at h ⊢
  rw [run_bind]
  cases hrun : (firstSome (pass.stages requestCert)).run runner state with
  | mk result after =>
      rw [hrun] at h
      cases result with
      | error error =>
          rw [List.append_nil] at h
          exact absurd h hstages
      | ok result =>
          cases result with
          | some outcome =>
              -- the stage that ended the pass left nothing to follow
              change ∃ entry ∈ _ ++ [], _ at h
              rw [List.append_nil] at h
              exact absurd h hstages
          | none =>
              obtain ⟨hafter, hfront⟩ := reads_of_passed hreads hstate decides hrun
              exact ⟨_, after, hafter, hfront, rfl, rfl⟩

end runs

/-- The report of the pods of these names: nothing, if it is there already, or a status. -/
def reporting (pass : Pass) (names : List String) : Program Outcome :=
  if names = pass.status.pods ∧ .running = pass.status.phase then done .idle
  else script .statusUpdated [⟨some "update Interconnect status",
    pass.statusWrite { pass.status with phase := .running, pods := names }⟩]

theorem aggregatePods_eq (pass : Pass) :
    pass.aggregatePods = check "list pods"
      (call (.listPods pass.ns pass.cluster.labelSelector) fun pods =>
        pass.reporting ((pods.filter fun pod => pod.metadata.deletionTimestamp.isNone).map
          (·.metadata.anyName))) := by
  have hon : pass.status.on .converged = { pass.status with phase := .running } := by
    cases hphase : pass.status.phase <;> simp [InterconnectStatus.on, Phase.next]
  unfold reporting
  rw [aggregatePods, hon]
  rfl

end Pass

namespace Simulation

open Program

variable {simulation : Simulation} {pass : Pass} {names : List String} {outcome : Outcome}

/-- The report lists the pods that the store holds. -/
theorem run_aggregatePods_of_ok (hok : (pass.aggregatePods.run runner simulation).1 = .ok outcome) :
    ∃ listed : Simulation, listed.store = simulation.store ∧
      pass.aggregatePods.run runner simulation = (pass.reporting
        (simulation.store.livePods pass.ns pass.cluster.labelSelector)).run runner listed ∧
      pass.aggregatePods.trace runner simulation =
        (simulation, .listPods pass.ns pass.cluster.labelSelector) :: (pass.reporting
          (simulation.store.livePods pass.ns pass.cluster.labelSelector)).trace runner listed := by
  rw [Pass.aggregatePods_eq] at hok ⊢
  cases hexpired : runner.expired simulation with
  | true =>
      rw [(run_check_of_expired hexpired _ _).1] at hok
      cases hok
  | false =>
      rw [(run_check_of_open hexpired _ _).1, (run_check_of_open hexpired _ _).2]
      exact ⟨(simulation.call (.listPods pass.ns pass.cluster.labelSelector)).2, rfl, rfl, rfl⟩

/-- A checked write that ends well was made and has taken effect. -/
theorem run_write_of_ok {α : Type} {result value : α} {before : String} {request : StoreCall}
    (hwrite : request.isWrite = true) {reply : request.Reply} {written : MemoryStore}
    (hcall : simulation.store.failure = none →
      simulation.store.call request = (.ok reply, written))
    (hok : ((script result [⟨some before, request⟩]).run runner simulation).1 = .ok value) :
    ((script result [⟨some before, request⟩]).run runner simulation).2.store = written ∧
      (simulation, request) ∈ (script result [⟨some before, request⟩]).trace runner simulation := by
  rw [script] at hok ⊢
  cases hexpired : runner.expired simulation with
  | true =>
      rw [(run_check_of_expired hexpired _ _).1] at hok
      cases hok
  | false =>
      rw [(run_check_of_open hexpired _ _).1] at hok ⊢
      rw [(run_check_of_open hexpired _ _).2]
      rcases call_write_cases hwrite hcall with ⟨-, ⟨error, herror⟩, -⟩ | ⟨-, hanswer, hstore, -⟩
      · have hcalled : runner.call request simulation =
            (.error error, (simulation.call request).2) := Prod.ext herror rfl
        rw [run_call_of_error hcalled] at hok
        cases hok
      · have hcalled : runner.call request simulation =
            (.ok reply, (simulation.call request).2) := Prod.ext hanswer rfl
        rw [run_call_of_ok hcalled, trace_call_of_ok hcalled]
        exact ⟨hstore, List.mem_cons_self⟩

/-- Where it ends well the status says what was reported, and it was written unless it said so
before. -/
theorem run_reporting_of_ok (hstatus : pass.status = pass.cluster.statusOrNew)
    (holding : simulation.Holding pass.cluster)
    (hok : ((pass.reporting names).run runner simulation).1 = .ok outcome) :
    (∃ later : Interconnect, ((pass.reporting names).run runner simulation).2.store.cluster?
        pass.cluster.space pass.cluster.name = some later ∧ later.statusOrNew.pods = names) ∧
      ((∃ entry ∈ (pass.reporting names).trace runner simulation, entry.2.isWrite = true) ↔
        pass.cluster.statusOrNew.pods ≠ names ∨ pass.cluster.statusOrNew.phase ≠ .running) := by
  rw [← hstatus]
  unfold Pass.reporting at hok ⊢
  split at hok
  next hsame =>
    rw [if_pos hsame]
    refine ⟨⟨pass.cluster, holding, ?_⟩, ?_⟩
    · rw [← hstatus, hsame.1]
    · simp [Program.trace, hsame.1, ← hsame.2]
  next hother =>
    rw [if_neg hother]
    let next : Interconnect :=
      { pass.cluster with status := some { pass.status with phase := .running, pods := names } }
    have hwrite : (StoreCall.replaceStatus next).isWrite = true := rfl
    obtain ⟨hstore, hmade⟩ := run_write_of_ok hwrite
      (fun hnone => MemoryStore.call_replaceStatus hnone holding (.inr rfl)) hok
    refine ⟨⟨next.under (some (toString (simulation.store.version + 1))), ?_, rfl⟩,
      iff_of_true ⟨_, hmade, rfl⟩ ((not_and_or.mp hother).imp Ne.symm Ne.symm)⟩
    have hfound := congrArg (MemoryStore.cluster? · pass.cluster.space pass.cluster.name) hstore
    exact hfound.trans ((MemoryStore.cluster?_change ..).trans (if_pos ⟨rfl, rfl⟩))

/-- A pass that comes to the report lists the pods of the store that it has begun with. -/
theorem run_report_of_ok (hstatus : pass.status = pass.cluster.statusOrNew)
    (holding : simulation.Holding pass.cluster) (lists : pass.program.ListsPods runner simulation)
    (hok : (pass.program.run runner simulation).1 = .ok outcome) :
    let names := simulation.store.livePods pass.ns pass.cluster.labelSelector
    (∃ later : Interconnect, (pass.program.run runner simulation).2.store.cluster?
        pass.cluster.space pass.cluster.name = some later ∧ later.statusOrNew.pods = names) ∧
      ((∃ entry ∈ pass.program.trace runner simulation, entry.2.isWrite = true) ↔
        pass.cluster.statusOrNew.pods ≠ names ∨ pass.cluster.statusOrNew.phase ≠ .running) := by
  let kept (state : Simulation) : Prop := state.store = simulation.store
  have hreads (state : Simulation) (request : StoreCall) (hread : request.isRead = true)
      (hstate : kept state) : kept (runner.call request state).2 :=
    (state.call_read hread).2.1.trans hstate
  obtain ⟨front, after, hafter, hfront, hrun, htrace⟩ := Pass.run_of_listsPods hreads rfl lists
  rw [hrun] at hok
  obtain ⟨listed, hlisted, hreport, hcalls⟩ := run_aggregatePods_of_ok hok
  have hstore : listed.store = simulation.store := hlisted.trans hafter
  have holding : listed.Holding pass.cluster := by
    unfold Holding
    rw [hstore]
    exact holding
  rw [hreport] at hok
  obtain ⟨hlater, hwrites⟩ := run_reporting_of_ok hstatus holding hok
  rw [hafter] at hreport hcalls hlater hwrites
  rw [hrun, hreport, htrace, hcalls]
  refine ⟨hlater, Iff.trans ⟨?_, ?_⟩ hwrites⟩
  · rintro ⟨entry, hentry, hwrite⟩
    rcases List.mem_append.mp hentry with hread | hrest
    · have hnone := StoreCall.isWrite_eq_false_of_isRead (hfront entry hread)
      exact nomatch hnone.symm.trans hwrite
    · rcases List.mem_cons.mp hrest with rfl | hreported
      · cases hwrite
      · exact ⟨entry, hreported, hwrite⟩
  · rintro ⟨entry, hentry, hwrite⟩
    exact ⟨entry, List.mem_append_right _ (List.mem_cons_of_mem _ hentry), hwrite⟩

/-- Where a pass over the stored cluster comes to list its pods and ends well, the status names
exactly the pods of its namespace that carry both labels of the cluster and are not about to end,
each once, in the order of their bytes. The pass writes exactly if other names stood there before or
the cluster was not running yet. A pod with the labels of the template is always selected. -/
theorem status_reports_live_pods {cluster : Interconnect} (placed : simulation.store.Placed)
    (holding : simulation.Holding cluster) (comma : ',' ∉ cluster.name.toList)
    (settings : Settings) (now : Timestamp) (limits : PassLimits)
    (lists : (reconcile settings now cluster).ListsPods runner (simulation.started limits))
    (ends : (simulation.pass settings now limits cluster).1 = .ok outcome) :
    (∃ later : Interconnect,
      (simulation.pass settings now limits cluster).2.store.cluster? cluster.space cluster.name =
        some later ∧
      (∀ podName, podName ∈ later.statusOrNew.pods ↔
        simulation.store.HasLivePod cluster podName) ∧
      (later.statusOrNew.pods.Pairwise fun first second =>
        Text.bytes first < Text.bytes second) ∧
      ((∃ entry ∈ (reconcile settings now cluster).trace runner (simulation.started limits),
          entry.2.isWrite = true) ↔
        cluster.statusOrNew.pods ≠ later.statusOrNew.pods ∨
          cluster.statusOrNew.phase ≠ .running)) ∧
    ∀ (pod : Pod) (image : String),
      pod.metadata.labels = (cluster.podTemplate image).metadata.bind (·.labels) →
        MemoryStore.selects cluster.labelSelector pod.metadata.allLabels = true := by
  refine ⟨?_, fun pod image h => MemoryStore.selects_of_template comma h⟩
  cases hns : cluster.metadata.ns with
  | none =>
      have hprogram : reconcile settings now cluster = .fail (.missingObjectKey "namespace") := by
        rw [reconcile, hns]
      rw [hprogram] at lists
      exact absurd lists (by simp [ListsPods, Program.trace])
  | some ns =>
      obtain rfl : cluster.space = ns := by
        simp [Interconnect.space, ObjectMeta.anySpace, hns]
      have hprogram := Interconnect.reconcile_eq hns settings now
      unfold pass at ends ⊢
      rw [hprogram] at lists ends ⊢
      obtain ⟨⟨later, hfound, hpods⟩, hwrites⟩ := run_report_of_ok rfl holding lists ends
      refine ⟨later, hfound, ?_, ?_, ?_⟩
      · intro podName
        rw [hpods]
        exact placed.mem_livePods_iff comma
      · rw [hpods]
        exact placed.pairwise_livePods _ _
      · rw [hpods]
        exact hwrites

/-- With everything in place a pass that nothing interferes with comes to its report. -/
theorem listsPods_of_met {ns : String} {cluster : Interconnect} {settings : Settings}
    (harmed : simulation.armed = none) (h : simulation.store.Fresh ns cluster)
    (underway : cluster.Underway settings) (ready : cluster.spec.Ready)
    (hgoals : ∀ goal ∈ cluster.goals settings, cluster.Meets settings simulation.store ns goal)
    (now : Timestamp) :
    (reconcile settings now cluster).ListsPods runner (simulation.started {}) ∧
      ∃ outcome, (simulation.pass settings now {} cluster).1 = .ok outcome := by
  let pass := cluster.freshPass ns settings now
  have hends : ∃ outcome, (pass.program.run runner (simulation.started {})).1 = .ok outcome := by
    rw [(run_started_eq harmed _).1, MemoryStore.Fresh.run_of_met underway ready hgoals,
      Pass.run_aggregatePods]
    split
    · exact ⟨.idle, rfl⟩
    · obtain ⟨after, version, hrun, -⟩ := h.run_writeStatus settings now _
      exact ⟨.statusUpdated, congrArg Prod.fst hrun⟩
  have hprogram : pass.program = pass.walk false := by
    have hwalk := MemoryStore.Fresh.program_eq underway ns now
    rw [ready.any_isIncomplete] at hwalk
    exact hwalk
  have hstages : ((firstSome (pass.stages false)).run runner (simulation.started {})).1 =
      .ok none := by
    rw [(run_started_eq harmed _).1]
    exact congrArg Prod.fst ((pass.passes_stages simulation.store).of_goal hgoals)
  rw [Simulation.pass, Interconnect.reconcile_eq h.space]
  refine ⟨?_, hends⟩
  obtain ⟨outcome, hok⟩ := hends
  rw [hprogram, Pass.walk, run_bind] at hok
  rw [ListsPods, hprogram, Pass.walk, trace_bind]
  cases hrun : (firstSome (pass.stages false)).run runner (simulation.started {}) with
  | mk result after =>
      rw [hrun] at hok hstages
      cases hstages
      obtain ⟨listed, -, -, hcalls⟩ := run_aggregatePods_of_ok hok
      refine ⟨(after, .listPods ns cluster.labelSelector), List.mem_append_right _ ?_, rfl⟩
      dsimp only
      rw [hcalls]
      exact List.mem_cons_self

/-- A pod with these labels, which may be about to end. -/
def somePod (name : String) (labels : Dict String) (ending : Option Timestamp) : Pod where
  metadata :=
    { name := some name, ns := some "msg", labels := some labels, deletionTimestamp := ending }

/-- The run in which the workload is put in place with three of its pods, the last about to end, and
a pod with one of the two labels. -/
def populated : Simulation where
  store := ((((undeployed.store.insert .deployment
    (undeployedCluster.deployment defaultRouterImage)).insert .pod
    (somePod "amq-b" undeployedCluster.selectorLabels none)).insert .pod
    (somePod "amq-a" undeployedCluster.selectorLabels none)).insert .pod
    (somePod "amq-c" undeployedCluster.selectorLabels (some default))).insert .pod
    (somePod "web-a" (Dict.empty.insert applicationLabel "amq") none)

theorem populated_placed : populated.store.Placed :=
  (((((run_undeployed.insert .deployment _).insert .pod _).insert .pod _).insert .pod _).insert
    .pod _).sound.wellFormed.fits

theorem foreign_and_ending_pods_are_left_out :
    populated.store.Placed ∧ populated.Holding undeployedCluster ∧
      ',' ∉ undeployedCluster.name.toList ∧
      (reconcile {} default undeployedCluster).ListsPods runner (populated.started {}) ∧
      ∃ later : Interconnect,
        (populated.pass {} default {} undeployedCluster).2.store.cluster? "msg" "amq" =
          some later ∧
        "amq-a" ∈ later.statusOrNew.pods ∧ "amq-b" ∈ later.statusOrNew.pods ∧
          "amq-c" ∉ later.statusOrNew.pods ∧ "web-a" ∉ later.statusOrNew.pods := by
  have fresh : populated.store.Fresh "msg" undeployedCluster := ⟨populated_placed, rfl, rfl, rfl⟩
  obtain ⟨underway, ready⟩ := underway_undeployedCluster
  have hgoals : ∀ goal ∈ undeployedCluster.goals {},
      undeployedCluster.Meets {} populated.store "msg" goal := by
    refine Interconnect.meets_goals_iff.mpr ⟨⟨⟨_, rfl, rfl⟩, ⟨_, rfl, rfl⟩, rfl⟩,
      ⟨⟨_, rfl, ConfigMap.template_configMap runningCluster⟩, ?_, ⟨_, rfl, rfl, rfl, rfl⟩⟩, ?_⟩
    · exact Or.inr ⟨_, rfl, Deployment.runs_deployment undeployedCluster defaultRouterImage, rfl⟩
    · intro listener hlistener
      cases hlistener
  have holding : populated.Holding undeployedCluster := rfl
  have hcomma : ',' ∉ undeployedCluster.name.toList := by decide
  obtain ⟨lists, outcome, ends⟩ := listsPods_of_met rfl fresh underway ready hgoals default
  obtain ⟨⟨later, hfound, hpods, -⟩, -⟩ :=
    status_reports_live_pods populated_placed holding hcomma {} default {} lists ends
  refine ⟨populated_placed, holding, hcomma, lists, later, hfound, (hpods _).mpr ?_,
    (hpods _).mpr ?_, ?_, ?_⟩
  · exact ⟨_, rfl, rfl, rfl, rfl⟩
  · exact ⟨_, rfl, rfl, rfl, rfl⟩
  · rw [hpods]
    rintro ⟨pod, hpod, -, -, hlive⟩
    cases hpod
    cases hlive
  · rw [hpods]
    rintro ⟨pod, hpod, -, hlabel, -⟩
    cases hpod
    exact absurd hlabel (by decide)

end Simulation

end RouterOperator
