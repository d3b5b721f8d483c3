import RouterOperator.Proofs.Checklist
import RouterOperator.Proofs.TlsGate

/-!
# Idle means converged

`Interconnect.Converged` says in terms of the stored objects alone what a cluster should have. A
pass is idle exactly over such a store: no stage is forgotten, and none changes what is as it should
be.
-/

namespace RouterOperator

/-- The names of the pods that a selector selects and that are not about to end. -/
def MemoryStore.livePods (store : MemoryStore) (ns selector : String) : List String :=
  (((store.podsIn ns).filter fun pod => selects selector pod.metadata.allLabels).filter
    fun pod => pod.metadata.deletionTimestamp.isNone).map (·.metadata.anyName)

/-- A listener of the specification is to be exposed, be it an ordinary one, one for other routers or
one for edge routers. -/
def InterconnectSpec.Exposes (spec : InterconnectSpec) (listener : Listener) : Prop :=
  listener.expose = true ∧ (listener ∈ spec.listeners ∨ listener ∈ spec.interRouterListeners ∨
    listener ∈ spec.edgeListeners)

theorem InterconnectSpec.mem_exposedListeners_iff {spec : InterconnectSpec} {listener : Listener} :
    listener ∈ spec.exposedListeners ↔ spec.Exposes listener := by
  rw [exposedListeners, List.mem_filter, allListeners, List.mem_append, List.mem_append, or_assoc,
    and_comm, Exposes]

namespace Interconnect

variable (cluster : Interconnect) (store : MemoryStore) (settings : Settings) (ns : String)

/-- The workload of a cluster serves: one of the kind that placement does not select exists, or the
selected one exists, runs what the cluster needs and, if it is a deployment, has its size. -/
def WorkloadServes (image : String) : Prop :=
  if cluster.runsOnEveryNode then
    (store.object? ⟨.deployment, ns, cluster.name⟩).isSome ∨
      ∃ live : DaemonSet, store.object? ⟨.daemonSet, ns, cluster.name⟩ = some live ∧
        live.Runs cluster image
  else
    (store.object? ⟨.daemonSet, ns, cluster.name⟩).isSome ∨
      ∃ live : Deployment, store.object? ⟨.deployment, ns, cluster.name⟩ = some live ∧
        live.Runs cluster image ∧ live.replicaCount = cluster.spec.deploymentPlan.size

/-- A listener is exposed as it should be, by a route or by an ingress. -/
def IsExposed (listener : Listener) : Prop :=
  if settings.capabilities.routes then
    ∃ route : Route, store.object? ⟨.route, ns, cluster.exposureName listener⟩ = some route ∧
      route.spec.port = (cluster.route listener).spec.port ∧
      route.spec.tls = (cluster.route listener).spec.tls ∧
      route.spec.target = (cluster.route listener).spec.target
  else
    ∃ ingress : Ingress,
      store.object? ⟨.ingress, ns, cluster.exposureName listener⟩ = some ingress ∧
        ingress.rules = (cluster.ingress listener).rules

/-- A cluster has all it should have and its status says so. -/
structure Converged : Prop where
  touched : cluster.statusOrNew.revNumber ≠ ""
  running : cluster.statusOrNew.phase = .running
  normalized : (cluster.spec.normalize settings.capabilities.certManager).spec = cluster.spec
  material : ∀ profile ∈ cluster.spec.sslProfiles, profile.HasMaterial
  role : ∃ role : Role, store.object? ⟨.role, ns, cluster.name⟩ = some role ∧
    role.rules = some routerRules
  roleBinding : ∃ binding : RoleBinding,
    store.object? ⟨.roleBinding, ns, cluster.name⟩ = some binding ∧
      binding.subjects = cluster.roleBinding.subjects
  serviceAccount : (store.object? ⟨.serviceAccount, ns, cluster.name⟩).isSome
  configMap : ∃ map : ConfigMap, store.object? ⟨.configMap, ns, cluster.name⟩ = some map ∧
    map.template = some cluster.spec.render
  workload : cluster.WorkloadServes store ns settings.routerImage
  service : ∃ service : Service, store.object? ⟨.service, ns, cluster.name⟩ = some service ∧
    service.servingCert = none ∧ service.selector = some cluster.selectorLabels ∧
    service.portTargets = cluster.servicePorts.map fun port =>
      (port.name, port.port, port.targetPort)
  exposed : ∀ listener, cluster.spec.Exposes listener →
    cluster.IsExposed store settings ns listener
  pods : cluster.statusOrNew.pods = store.livePods ns cluster.labelSelector

variable {cluster store settings ns}

theorem hasWorkload_iff {image : String} :
    cluster.HasWorkload store ns image ↔ cluster.WorkloadServes store ns image := by
  unfold HasWorkload WorkloadServes MemoryStore.Holds
  split
  · exact or_congr_right (exists_congr fun live =>
      and_congr_right fun _ => live.drifted_eq_false_iff cluster image)
  · exact or_congr_right (exists_congr fun live =>
      and_congr_right fun _ => and_congr_left fun _ => live.drifted_eq_false_iff cluster image)

theorem meets_exposureGoal_iff (listener : Listener) :
    cluster.Meets settings store ns (cluster.exposureGoal settings listener) ↔
      cluster.IsExposed store settings ns listener := by
  unfold exposureGoal IsExposed
  split
  · exact exists_congr fun route => and_congr_right fun _ => route.drifted_eq_false_iff _
  · refine exists_congr fun ingress => and_congr_right fun _ => ?_
    simp [Kind.drifted, Ingress.drifted]

/-- All goals are met exactly if the store holds what a converged cluster has. -/
theorem meets_goals_iff :
    (∀ goal ∈ cluster.goals settings, cluster.Meets settings store ns goal) ↔
      ((∃ role : Role, store.object? ⟨.role, ns, cluster.name⟩ = some role ∧
          role.rules = some routerRules) ∧
        (∃ binding : RoleBinding,
          store.object? ⟨.roleBinding, ns, cluster.name⟩ = some binding ∧
            binding.subjects = cluster.roleBinding.subjects) ∧
        (store.object? ⟨.serviceAccount, ns, cluster.name⟩).isSome) ∧
      ((∃ map : ConfigMap, store.object? ⟨.configMap, ns, cluster.name⟩ = some map ∧
          map.template = some cluster.spec.render) ∧
        cluster.WorkloadServes store ns settings.routerImage ∧
        (∃ service : Service, store.object? ⟨.service, ns, cluster.name⟩ = some service ∧
          service.servingCert = none ∧ service.selector = some cluster.selectorLabels ∧
          service.portTargets = cluster.servicePorts.map fun port =>
            (port.name, port.port, port.targetPort))) ∧
      ∀ listener ∈ cluster.spec.exposedListeners,
        cluster.IsExposed store settings ns listener := by
  simp only [goals, accessGoals, servingGoals, List.forall_mem_append, List.forall_mem_cons,
    List.not_mem_nil, false_imp_iff, implies_true, and_true, List.forall_mem_map]
  refine and_congr (and_congr ?_ (and_congr ?_ ?_))
    (and_congr (and_congr ?_ (and_congr hasWorkload_iff ?_)) ?_)
  · exact exists_congr fun role => and_congr_right fun _ =>
      decide_eq_false_iff_not.trans Decidable.not_not
  · refine exists_congr fun binding => and_congr_right fun _ => ?_
    simp [Kind.drifted, RoleBinding.drifted]
  · rw [Option.isSome_iff_exists]
    exact exists_congr fun account => and_iff_left rfl
  · refine exists_congr fun map => and_congr_right fun _ => ?_
    simp [Kind.drifted, ConfigMap.drifted, ConfigMap.template_configMap]
  · exact exists_congr fun service => and_congr_right fun _ => service.drifted_eq_false_iff _
  · exact forall₂_congr fun listener _ => meets_exposureGoal_iff listener

end Interconnect

namespace Pass

open Program MemoryStore

variable {pass : Pass} {store : MemoryStore}

/-- A program that makes its calls and ends in another way is not idle. -/
theorem not_idle {program : Program Outcome}
    (h : program.Meets (fun _ => True) fun outcome => outcome ≠ .idle) :
    (program.run runner store).1 ≠ .ok .idle :=
  fun hrun => h.run_promised hrun rfl

theorem not_idle_writeStatus (status : InterconnectStatus) :
    ((pass.writeStatus status).run runner store).1 ≠ .ok .idle :=
  not_idle ⟨trivial, fun _ => Outcome.noConfusion⟩

theorem run_aggregatePods (pass : Pass) (store : MemoryStore) :
    pass.aggregatePods.run runner store =
      (if store.livePods pass.ns pass.cluster.labelSelector = pass.status.pods ∧
          .running = pass.status.phase then done .idle
        else pass.writeStatus { pass.status with
          phase := .running
          pods := store.livePods pass.ns pass.cluster.labelSelector }).run runner store := by
  have hon : pass.status.on .converged = { pass.status with phase := .running } := by
    cases hphase : pass.status.phase <;> simp [InterconnectStatus.on, Phase.next]
  have hrun : pass.aggregatePods.run runner store =
      (if store.livePods pass.ns pass.cluster.labelSelector = pass.status.pods ∧
          (pass.status.on .converged).phase = pass.status.phase then done .idle
        else pass.writeStatus { pass.status.on .converged with
          pods := store.livePods pass.ns pass.cluster.labelSelector }).run runner store := rfl
  rw [hrun, hon]

/-- At the end of the checklist a pass is idle exactly if the status says what is to be said. -/
theorem aggregatePods_idle_iff :
    (pass.aggregatePods.run runner store).1 = .ok .idle ↔
      pass.status.phase = .running ∧
        pass.status.pods = store.livePods pass.ns pass.cluster.labelSelector := by
  rw [run_aggregatePods]
  split
  next hsame => exact ⟨fun _ => ⟨hsame.2.symm, hsame.1.symm⟩, fun _ => rfl⟩
  next hother =>
    refine ⟨fun hidle => absurd hidle (not_idle_writeStatus _), fun hsame => ?_⟩
    exact absurd ⟨hsame.2.symm, hsame.1.symm⟩ hother

theorem not_idle_block (reason : String) :
    ((pass.block reason).run runner store).1 ≠ .ok .idle := by
  refine not_idle ?_
  unfold block
  split
  · exact ⟨trivial, fun _ => ⟨trivial, fun _ => Outcome.noConfusion⟩⟩
  · exact Outcome.noConfusion

/-- While a profile lacks something, a pass is blocked or ends with the certificates. -/
theorem not_idle_of_incomplete
    (hlacking : pass.cluster.spec.sslProfiles.any (·.isIncomplete) = true) :
    ((pass.afterDefaults pass.settings.capabilities.certManager).run runner store).1 ≠
      .ok .idle := by
  by_cases hopen : pass.cluster.spec.Satisfiable pass.settings
  · by_cases hphase : pass.status.phase = .failed
    · rw [afterDefaults_of_failed hopen hphase]
      exact not_idle_writeStatus _
    · rw [afterDefaults_of_open hopen hphase, hopen.certManager hlacking]
      -- the walk ends with a request for another pass, which idle is not
      refine not_idle ((meets_walk_of_lacking hlacking).imp (fun _ _ => trivial) ?_)
      rintro outcome hrequeue rfl
      exact Bool.false_ne_true hrequeue
  · rw [afterDefaults_of_unsatisfiable hopen]
    exact not_idle_block _

/-- With nothing left to issue a pass that did not fail before is idle exactly if all goals are met
and the pods are reported. -/
theorem walk_idle_iff (ready : pass.cluster.spec.Ready) :
    ((pass.walk false).run runner store).1 = .ok .idle ↔
      (∀ goal ∈ pass.cluster.goals pass.settings,
        pass.cluster.Meets pass.settings store pass.ns goal) ∧
        pass.status.phase = .running ∧
        pass.status.pods = store.livePods pass.ns pass.cluster.labelSelector := by
  have hpasses := pass.passes_stages store
  rw [walk, run_bind]
  constructor
  · intro hidle
    cases hstages : (firstSome (pass.stages false)).run runner store with
    | mk result after =>
        rw [hstages] at hidle
        cases result with
        | error error => cases hidle
        | ok result =>
            cases result with
            | some outcome =>
                -- no stage ends a pass with idle
                cases hidle
                have hchange := (meets_stages ready).run_promised (congrArg Prod.fst hstages)
                exact absurd (onlyChanges_some.mp hchange) Bool.false_ne_true
            | none =>
                have hgoals := hpasses.goal (congrArg Prod.fst hstages)
                rw [hpasses.of_goal hgoals] at hstages
                cases hstages
                exact ⟨hgoals, aggregatePods_idle_iff.mp hidle⟩
  · rintro ⟨hgoals, hstatus⟩
    rw [hpasses.of_goal hgoals]
    exact aggregatePods_idle_iff.mpr hstatus

/-- With its defaults in place a pass is idle exactly if nothing is to be issued, all goals are met
and the status says so. -/
theorem afterDefaults_idle_iff (defaults : pass.cluster.spec.HasDefaults) :
    ((pass.afterDefaults (pass.cluster.spec.sslProfiles.any (·.isIncomplete) &&
        pass.settings.capabilities.certManager)).run runner store).1 = .ok .idle ↔
      pass.cluster.spec.Ready ∧
        (∀ goal ∈ pass.cluster.goals pass.settings,
          pass.cluster.Meets pass.settings store pass.ns goal) ∧
        pass.status.phase = .running ∧
        pass.status.pods = store.livePods pass.ns pass.cluster.labelSelector := by
  cases hlacking : pass.cluster.spec.sslProfiles.any (·.isIncomplete) with
  | true =>
      refine ⟨fun hidle => absurd hidle (not_idle_of_incomplete hlacking), fun h => ?_⟩
      rw [h.1.any_isIncomplete] at hlacking
      cases hlacking
  | false =>
      have ready := defaults.ready hlacking
      have hopen : pass.cluster.spec.Satisfiable pass.settings := Or.inr hlacking
      by_cases hphase : pass.status.phase = .failed
      · rw [afterDefaults_of_failed hopen hphase]
        refine ⟨fun hidle => absurd hidle (not_idle_writeStatus _), fun h => ?_⟩
        rw [h.2.2.1] at hphase
        cases hphase
      · rw [afterDefaults_of_open hopen hphase, Bool.false_and, walk_idle_iff ready]
        exact ⟨fun h => ⟨ready, h⟩, fun h => h.2⟩

/-- A pass is idle exactly if the cluster was seen before, has its defaults, and is idle after
these. -/
theorem program_idle_iff :
    (pass.program.run runner store).1 = .ok .idle ↔
      pass.status.revNumber ≠ "" ∧ pass.cluster.spec.HasDefaults ∧
        ((pass.afterDefaults (pass.cluster.spec.sslProfiles.any (·.isIncomplete) &&
          pass.settings.capabilities.certManager)).run runner store).1 = .ok .idle := by
  by_cases hnew : pass.status.revNumber = ""
  · rw [program_of_new hnew]
    exact ⟨fun hidle => absurd hidle (not_idle_writeStatus _), fun h => absurd hnew h.1⟩
  · by_cases defaults : pass.cluster.spec.HasDefaults
    · rw [program_of_defaults hnew defaults]
      exact ⟨fun hidle => ⟨hnew, defaults, hidle⟩, fun h => h.2.2⟩
    · rw [program_of_lacking hnew defaults]
      refine ⟨fun hidle => absurd hidle (not_idle ⟨trivial, fun _ => Outcome.noConfusion⟩), ?_⟩
      exact fun h => absurd h.2.1 defaults

end Pass

/-- Over any store a pass is idle if and only if the cluster has converged. -/
theorem pass_idle_iff_converged (store : MemoryStore) (settings : Settings) (now : Timestamp)
    {cluster : Interconnect} {ns : String} (hns : cluster.metadata.ns = some ns) :
    (store.pass settings now cluster).1 = .ok .idle ↔ cluster.Converged store settings ns := by
  have hready : cluster.spec.Ready ↔
      cluster.spec.HasDefaults ∧ ∀ profile ∈ cluster.spec.sslProfiles, profile.HasMaterial := by
    simp only [SslProfile.hasMaterial_iff]
    exact ⟨fun h => ⟨h.defaults, h.complete⟩, fun h => ⟨h.1, h.2⟩⟩
  unfold MemoryStore.pass reconcile
  rw [hns]
  dsimp only
  rw [Pass.program_idle_iff]
  constructor
  · rintro ⟨htouched, defaults, hidle⟩
    obtain ⟨ready, hgoals, hrunning, hpods⟩ := (Pass.afterDefaults_idle_iff defaults).mp hidle
    obtain ⟨⟨hrole, hbinding, haccount⟩, ⟨hmap, hworkload, hservice⟩, hexposed⟩ :=
      Interconnect.meets_goals_iff.mp hgoals
    exact ⟨htouched, hrunning, (InterconnectSpec.normalize_spec_eq_iff _ _).mpr defaults,
      (hready.mp ready).2, hrole, hbinding, haccount, hmap, hworkload, hservice,
      fun listener h => hexposed listener (InterconnectSpec.mem_exposedListeners_iff.mpr h), hpods⟩
  · intro h
    have defaults := (InterconnectSpec.normalize_spec_eq_iff _ _).mp h.normalized
    refine ⟨h.touched, defaults, (Pass.afterDefaults_idle_iff defaults).mpr
      ⟨hready.mpr ⟨defaults, h.material⟩, Interconnect.meets_goals_iff.mpr ?_, h.running, h.pods⟩⟩
    exact ⟨⟨h.role, h.roleBinding, h.serviceAccount⟩, ⟨h.configMap, h.workload, h.service⟩,
      fun listener hmem => h.exposed listener (InterconnectSpec.mem_exposedListeners_iff.mp hmem)⟩

/-- The cluster once all is in place. -/
def runningCluster : Interconnect :=
  { securedCluster with status := some { phase := .running, revNumber := "3" } }

/-- A store with all that the running cluster should have. -/
def completeStore : MemoryStore :=
  (((((({} : MemoryStore).insert .role runningCluster.role).insert .roleBinding
    runningCluster.roleBinding).insert .serviceAccount runningCluster.serviceAccount).insert
    .configMap runningCluster.configMap).insert .deployment
    (runningCluster.deployment defaultRouterImage)).insert .service (runningCluster.service false)

theorem complete_store_idle :
    runningCluster.metadata.ns = some "msg" ∧
      (completeStore.pass {} default runningCluster).1 = .ok .idle := by
  refine ⟨rfl, (pass_idle_iff_converged completeStore {} default rfl).mpr ?_⟩
  refine ⟨by decide, rfl, rfl, ?_, ⟨_, rfl, rfl⟩, ⟨_, rfl, rfl⟩, rfl,
    ⟨_, rfl, ConfigMap.template_configMap runningCluster⟩, ?_, ⟨_, rfl, rfl, rfl, rfl⟩, ?_, rfl⟩
  · intro profile hprofile
    rw [List.mem_singleton.mp hprofile]
    exact ⟨⟨"leaf", by decide, rfl⟩, fun h => nomatch h⟩
  · exact Or.inr ⟨_, rfl, Deployment.runs_deployment runningCluster defaultRouterImage, rfl⟩
  · intro listener hlistener
    cases InterconnectSpec.mem_exposedListeners_iff.mpr hlistener

end RouterOperator
