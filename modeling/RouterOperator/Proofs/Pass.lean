import RouterOperator.Proofs.Certificates
import RouterOperator.Proofs.Normalize
import RouterOperator.Proofs.Program
import RouterOperator.Reconcile.Pass

/-!
# What a pass may call

The calls of a pass, listed once with the conditions under which they are made. Whatever the store
answers, a pass makes no other call, so a property of all its calls is a case analysis of this list.
-/

namespace RouterOperator

/-- The specification has its defaults and every TLS profile has what it needs. -/
structure InterconnectSpec.Ready (spec : InterconnectSpec) : Prop where
  defaults : spec.HasDefaults
  complete : ∀ profile ∈ spec.sslProfiles, profile.isIncomplete = false

theorem InterconnectSpec.Ready.any_isIncomplete {spec : InterconnectSpec} (h : spec.Ready) :
    spec.sslProfiles.any (·.isIncomplete) = false := by
  rw [List.any_eq_false]
  intro profile hprofile
  rw [h.complete profile hprofile]
  exact Bool.false_ne_true

theorem InterconnectSpec.HasDefaults.ready {spec : InterconnectSpec} (h : spec.HasDefaults)
    (hcomplete : spec.sslProfiles.any (·.isIncomplete) = false) : spec.Ready := by
  refine ⟨h, fun profile hprofile => ?_⟩
  simpa using List.any_eq_false.mp hcomplete profile hprofile

/-- Every profile has what it needs or can be given it. -/
def InterconnectSpec.Satisfiable (spec : InterconnectSpec) (settings : Settings) : Prop :=
  settings.capabilities.certManager = true ∨ spec.sslProfiles.any (·.isIncomplete) = false

theorem InterconnectSpec.not_satisfiable_iff {spec : InterconnectSpec} {settings : Settings} :
    ¬ spec.Satisfiable settings ↔ settings.capabilities.certManager = false ∧
      spec.sslProfiles.any (·.isIncomplete) = true := by
  unfold Satisfiable
  rw [not_or, Bool.not_eq_true, Bool.not_eq_false]

theorem InterconnectSpec.Satisfiable.certManager {spec : InterconnectSpec} {settings : Settings}
    (h : spec.Satisfiable settings) (hlacking : spec.sslProfiles.any (·.isIncomplete) = true) :
    settings.capabilities.certManager = true := by
  refine h.resolve_right ?_
  rw [hlacking]
  decide

/-- A stage ends a pass only with a change, after which another pass is to follow. -/
def OnlyChanges (result : Option Outcome) : Prop :=
  ∀ outcome, result = some outcome → outcome.requeue = true

@[simp] theorem onlyChanges_none : OnlyChanges none := fun _ h => nomatch h

@[simp] theorem onlyChanges_some {outcome : Outcome} :
    OnlyChanges (some outcome) ↔ outcome.requeue = true :=
  ⟨fun h => h outcome rfl, fun h _ hsome => Option.some.inj hsome ▸ h⟩

theorem Ensured.onlyChanges {kind : Kind} (ensured : Ensured kind) (name : String) :
    OnlyChanges (ensured.outcome? name) := by
  cases ensured with
  | unchanged live => exact onlyChanges_none
  | created => exact onlyChanges_some.mpr rfl
  | updated previous => exact onlyChanges_some.mpr rfl

namespace Pass

open Program

/-- The objects that a pass brings to a desired state, and when it looks at them. -/
inductive Wants (pass : Pass) : (kind : Kind) → kind.Object → Prop where
  | role : pass.Wants .role pass.cluster.role
  | roleBinding : pass.Wants .roleBinding pass.cluster.roleBinding
  | serviceAccount : pass.Wants .serviceAccount pass.cluster.serviceAccount
  | selfSignedIssuer : pass.Wants .issuer pass.cluster.selfSignedIssuer
  | selfSignedCa : pass.Wants .certificate pass.cluster.selfSignedCa
  | caIssuer : pass.Wants .issuer pass.cluster.caIssuer
  | stepCertificate {step : CertStep} (pending : pass.cluster.pendingStep = some step) :
    pass.Wants .certificate (pass.cluster.stepCertificate step)
  | configMap (ready : pass.cluster.spec.Ready) : pass.Wants .configMap pass.cluster.configMap
  | deployment (ready : pass.cluster.spec.Ready) (placed : pass.cluster.runsOnEveryNode = false) :
    pass.Wants .deployment (pass.cluster.deployment pass.settings.routerImage)
  | daemonSet (ready : pass.cluster.spec.Ready) (placed : pass.cluster.runsOnEveryNode = true) :
    pass.Wants .daemonSet (pass.cluster.daemonSet pass.settings.routerImage)
  | service (ready : pass.cluster.spec.Ready) : pass.Wants .service (pass.cluster.service false)
  | route (ready : pass.cluster.spec.Ready) {listener : Listener}
    (exposed : listener ∈ pass.cluster.spec.exposedListeners) :
    pass.Wants .route (pass.cluster.route listener)
  | ingress (ready : pass.cluster.spec.Ready) {listener : Listener}
    (exposed : listener ∈ pass.cluster.spec.exposedListeners) :
    pass.Wants .ingress (pass.cluster.ingress listener)

/-- The calls that a pass may make. -/
inductive MayCall (pass : Pass) : StoreCall → Prop where
  | get {kind : Kind} {desired : kind.Object} (wanted : pass.Wants kind desired) :
    pass.MayCall (.get kind pass.ns (kind.nameOf desired))
  | create {kind : Kind} {desired : kind.Object} (wanted : pass.Wants kind desired) :
    pass.MayCall (.create kind pass.ns desired)
  | replace {kind : Kind} {desired : kind.Object} (wanted : pass.Wants kind desired)
    (live : kind.Object) : pass.MayCall (.replace kind pass.ns (kind.updated live desired))
  | resize (ready : pass.cluster.spec.Ready) (placed : pass.cluster.runsOnEveryNode = false)
    (live : Deployment) :
    pass.MayCall (.replace .deployment pass.ns
      ((live.updated (pass.cluster.deployment pass.settings.routerImage)).resized
        pass.cluster.spec.deploymentPlan.size))
  | otherDeployment (ready : pass.cluster.spec.Ready) :
    pass.MayCall (.get .deployment pass.ns pass.cluster.name)
  | otherDaemonSet (ready : pass.cluster.spec.Ready) :
    pass.MayCall (.get .daemonSet pass.ns pass.cluster.name)
  | listPods (ready : pass.cluster.spec.Ready) :
    pass.MayCall (.listPods pass.ns pass.cluster.labelSelector)
  | persist (spec : InterconnectSpec) : pass.MayCall (.replaceCluster { pass.cluster with spec })
  | status (status : InterconnectStatus) :
    pass.MayCall (.replaceStatus { pass.cluster with status := some status })
  | publish (cluster : Interconnect) (notice : Notice) : pass.MayCall (.publish cluster notice)

variable {pass : Pass} {kind : Kind} {desired : kind.Object}

theorem Wants.kind_ne (h : pass.Wants kind desired) : kind ≠ .interconnect := by
  cases h <;> decide

theorem meets_ensure (wanted : pass.Wants kind desired) :
    (pass.ensure kind desired).Meets pass.MayCall fun _ => True := by
  refine Meets.andThen trivial fun _ => ?_
  refine Meets.andThen ⟨.get wanted, fun _ => trivial⟩ fun live => ?_
  cases live with
  | none => exact ⟨.create wanted, fun _ => trivial⟩
  | some live =>
      dsimp only
      split
      · exact ⟨.replace wanted live, fun _ => trivial⟩
      · trivial

theorem meets_ensureStage (wanted : pass.Wants kind desired) :
    (pass.ensureStage kind desired).Meets pass.MayCall OnlyChanges :=
  (meets_ensure wanted).andThen fun ensured => ensured.onlyChanges _

theorem meets_writeStatus (pass : Pass) (status : InterconnectStatus) :
    (pass.writeStatus status).Meets pass.MayCall fun _ => True :=
  ⟨.status status, fun _ => trivial⟩

theorem meets_persistSpec (pass : Pass) (spec : InterconnectSpec) :
    (persistSpec { pass.cluster with spec }).Meets pass.MayCall fun _ => True :=
  ⟨.persist spec, fun _ => trivial⟩

theorem meets_accessStages (pass : Pass) :
    ∀ stage ∈ pass.accessStages, stage.Meets pass.MayCall OnlyChanges := by
  simp only [accessStages, List.forall_mem_cons, List.not_mem_nil, false_imp_iff, implies_true,
    and_true]
  exact ⟨meets_ensureStage .role, meets_ensureStage .roleBinding, meets_ensureStage .serviceAccount⟩

/-- The issuing stage ends every pass for which something is to be issued. -/
theorem meets_issueStage {step : CertStep} (pending : pass.cluster.pendingStep = some step) :
    pass.issueStage.Meets pass.MayCall fun result => result.isSome ∧ OnlyChanges result := by
  obtain ⟨spec, hstamped⟩ := pass.cluster.stamped_eq step
  unfold issueStage
  rw [pending]
  refine (meets_ensureStage (.stepCertificate pending)).bind fun created hcreated => ?_
  rw [hstamped]
  refine (meets_persistSpec pass spec).andThen fun _ => ⟨rfl, ?_⟩
  cases created with
  | some outcome => exact hcreated
  | none => exact onlyChanges_some.mpr rfl

/-- The certificate stages set up the authority, and then issue what is lacking. -/
theorem exists_authorityStages (pass : Pass) : ∃ authority : List Stage,
    pass.certificateStages = authority ++ [pass.issueStage] ∧
      ∀ stage ∈ authority, stage.Meets pass.MayCall OnlyChanges := by
  refine ⟨(if pass.cluster.spec.deploymentPlan.externalIssuer.isNone then [
      pass.ensureStage .issuer pass.cluster.selfSignedIssuer,
      pass.ensureStage .certificate pass.cluster.selfSignedCa] else []) ++
    [pass.ensureStage .issuer pass.cluster.caIssuer], ?_, ?_⟩
  · simp [certificateStages]
  · simp only [List.forall_mem_append, List.forall_mem_singleton]
    refine ⟨?_, meets_ensureStage .caIssuer⟩
    split
    · simp only [List.forall_mem_cons, List.not_mem_nil, false_imp_iff, implies_true, and_true]
      exact ⟨meets_ensureStage .selfSignedIssuer, meets_ensureStage .selfSignedCa⟩
    · simp

/-- While something is to be issued, a pass ends with the certificates. -/
theorem meets_certificateStages {step : CertStep} (pending : pass.cluster.pendingStep = some step)
    {front : List Stage} (hfront : ∀ stage ∈ front, stage.Meets pass.MayCall OnlyChanges)
    (rest : List Stage) :
    (firstSome (front ++ (pass.certificateStages ++ rest))).Meets pass.MayCall
      fun result => result.isSome ∧ OnlyChanges result := by
  obtain ⟨authority, hstages, hauthority⟩ := pass.exists_authorityStages
  have hlist : front ++ (pass.certificateStages ++ rest) =
      (front ++ authority) ++ pass.issueStage :: rest := by
    simp [hstages]
  rw [hlist]
  refine Meets.firstSome_until ?_ (meets_issueStage pending)
  rw [List.forall_mem_append]
  exact ⟨hfront, hauthority⟩

theorem meets_hasWorkload_deployment (ready : pass.cluster.spec.Ready) :
    (pass.hasWorkload .deployment).Meets pass.MayCall fun _ => True :=
  ⟨.otherDeployment ready, fun _ => trivial⟩

theorem meets_hasWorkload_daemonSet (ready : pass.cluster.spec.Ready) :
    (pass.hasWorkload .daemonSet).Meets pass.MayCall fun _ => True :=
  ⟨.otherDaemonSet ready, fun _ => trivial⟩

theorem meets_ensureWorkload (wanted : pass.Wants kind desired)
    (imageOf : kind.Object → Option String) :
    (pass.ensureWorkload kind desired imageOf).Meets pass.MayCall OnlyChanges := by
  refine (meets_ensure wanted).andThen fun ensured => ?_
  cases ensured with
  | unchanged live => exact onlyChanges_none
  | created => exact ⟨.status _, fun _ => ⟨.publish _ _, fun _ => onlyChanges_some.mpr rfl⟩⟩
  | updated previous =>
      dsimp only [workloadUpdated]
      split
      · exact ⟨.status _, fun _ => onlyChanges_some.mpr rfl⟩
      · exact onlyChanges_some.mpr rfl

theorem meets_resizeStage (ready : pass.cluster.spec.Ready)
    (placed : pass.cluster.runsOnEveryNode = false) :
    pass.resizeStage.Meets pass.MayCall OnlyChanges := by
  refine Meets.andThen trivial fun _ => ?_
  refine Meets.andThen ⟨.otherDeployment ready, fun _ => trivial⟩ fun live => ?_
  cases live with
  | none => exact onlyChanges_none
  | some live =>
      dsimp only
      split
      · exact onlyChanges_none
      · exact ⟨.resize ready placed live, fun _ => ⟨.status _, fun _ => ⟨.publish _ _,
          fun _ => onlyChanges_some.mpr rfl⟩⟩⟩

theorem meets_workloadStage (ready : pass.cluster.spec.Ready) :
    pass.workloadStage.Meets pass.MayCall OnlyChanges := by
  unfold workloadStage
  dsimp only
  split
  next placed =>
    refine (meets_hasWorkload_deployment ready).andThen fun existing => ?_
    split
    · exact onlyChanges_none
    · exact meets_ensureWorkload (.daemonSet ready placed) _
  next placed =>
    have placed : pass.cluster.runsOnEveryNode = false := by simpa using placed
    refine (meets_hasWorkload_daemonSet ready).andThen fun existing => ?_
    split
    · exact onlyChanges_none
    · refine Meets.firstSome onlyChanges_none ?_
      simp only [List.forall_mem_cons, List.not_mem_nil, false_imp_iff, implies_true, and_true]
      exact ⟨meets_resizeStage ready placed, meets_ensureWorkload (.deployment ready placed) _⟩

theorem meets_exposureStage (ready : pass.cluster.spec.Ready) {listener : Listener}
    (exposed : listener ∈ pass.cluster.spec.exposedListeners) :
    (pass.exposureStage listener).Meets pass.MayCall OnlyChanges := by
  unfold exposureStage
  split
  · exact meets_ensureStage (.route ready exposed)
  · exact meets_ensureStage (.ingress ready exposed)

/-- With nothing left to issue, a pass walks the rest of the checklist. -/
theorem meets_stages (ready : pass.cluster.spec.Ready) :
    (firstSome (pass.stages false)).Meets pass.MayCall OnlyChanges := by
  refine Meets.firstSome onlyChanges_none ?_
  simp only [stages, Bool.false_eq_true, if_false, List.append_nil, List.forall_mem_append,
    List.forall_mem_cons, List.not_mem_nil, false_imp_iff, implies_true, and_true,
    List.forall_mem_map]
  exact ⟨⟨meets_accessStages pass, meets_ensureStage (.configMap ready),
    meets_workloadStage ready, meets_ensureStage (.service ready)⟩,
    fun listener exposed => meets_exposureStage ready exposed⟩

theorem meets_aggregatePods (ready : pass.cluster.spec.Ready) :
    pass.aggregatePods.Meets pass.MayCall fun _ => True := by
  refine Meets.andThen trivial fun _ => ?_
  refine Meets.andThen ⟨.listPods ready, fun _ => trivial⟩ fun pods => ?_
  dsimp only
  split
  · trivial
  · exact meets_writeStatus pass _

theorem meets_block (pass : Pass) (reason : String) :
    (pass.block reason).Meets pass.MayCall fun _ => True := by
  unfold block
  split
  · exact ⟨.status _, fun _ => ⟨.publish _ _, fun _ => trivial⟩⟩
  · trivial

/-- A cluster that is seen for the first time is only touched. -/
theorem program_of_new (hnew : pass.status.revNumber = "") :
    pass.program = pass.writeStatus (({ pass.status.on .firstTouch with
      revNumber := pass.cluster.metadata.resourceVersion.getD "" } : InterconnectStatus).reach
        pass.now .provisioning "provision spec to desired state") := by
  unfold program
  rw [if_pos hnew]
  rfl

/-- Defaults that are lacking are stored, and that ends the pass. -/
theorem program_of_lacking (htouched : pass.status.revNumber ≠ "")
    (hlacking : ¬ pass.cluster.spec.HasDefaults) :
    pass.program = (do
      let spec := (pass.cluster.spec.normalize pass.settings.capabilities.certManager).spec
      persistSpec { pass.cluster with spec }
      return .specUpdated) := by
  have hchanged :
      (pass.cluster.spec.normalize pass.settings.capabilities.certManager).changed = true := by
    rw [← Bool.not_eq_false, InterconnectSpec.changed_normalize_eq_false_iff]
    exact hlacking
  unfold program
  rw [if_neg htouched]
  dsimp only
  rw [if_pos hchanged]

/-- A pass over a cluster that was seen before and has its defaults. -/
theorem program_of_defaults (htouched : pass.status.revNumber ≠ "")
    (defaults : pass.cluster.spec.HasDefaults) :
    pass.program = pass.afterDefaults (pass.cluster.spec.sslProfiles.any (·.isIncomplete) &&
      pass.settings.capabilities.certManager) := by
  unfold program
  rw [if_neg htouched, defaults.normalize]
  rfl

/-- A pass over a cluster that cannot be satisfied reports that. -/
theorem afterDefaults_of_unsatisfiable (h : ¬ pass.cluster.spec.Satisfiable pass.settings)
    (requestCert : Bool) :
    pass.afterDefaults requestCert =
      pass.block (blockedReason pass.cluster.spec.unsatisfiable) := by
  obtain ⟨hissuing, hlacking⟩ := InterconnectSpec.not_satisfiable_iff.mp h
  unfold afterDefaults
  dsimp only
  rw [InterconnectSpec.unsatisfiable_isEmpty, if_pos (by simp [hissuing, hlacking])]

theorem program_of_blocked (touched : pass.status.revNumber ≠ "")
    (defaults : pass.cluster.spec.HasDefaults)
    (lacking : ¬ pass.cluster.spec.Satisfiable pass.settings) :
    pass.program = pass.block (blockedReason pass.cluster.spec.unsatisfiable) := by
  rw [program_of_defaults touched defaults, afterDefaults_of_unsatisfiable lacking]

/-- A pass over a cluster that failed and can be satisfied by now reports that. -/
theorem afterDefaults_of_failed (h : pass.cluster.spec.Satisfiable pass.settings)
    (hphase : pass.status.phase = .failed) (requestCert : Bool) :
    pass.afterDefaults requestCert = pass.writeStatus (pass.status.on .unblocked) := by
  unfold afterDefaults
  dsimp only
  rw [InterconnectSpec.unsatisfiable_isEmpty, if_neg (by rcases h with h | h <;> simp [h]),
    if_pos hphase]

/-- The walk along the checklist, at the end of which the pods are reported. -/
def walk (pass : Pass) (requestCert : Bool) : Program Outcome := do
  match ← firstSome (pass.stages requestCert) with
  | some outcome => return outcome
  | none => pass.aggregatePods

/-- A pass over a cluster that can be satisfied and did not fail walks the checklist. -/
theorem afterDefaults_of_open (h : pass.cluster.spec.Satisfiable pass.settings)
    (hphase : pass.status.phase ≠ .failed) (requestCert : Bool) :
    pass.afterDefaults requestCert = pass.walk requestCert := by
  unfold afterDefaults
  dsimp only
  rw [InterconnectSpec.unsatisfiable_isEmpty, if_neg (by rcases h with h | h <;> simp [h]),
    if_neg hphase]
  rfl

/-- While a piece is missing the checklist ends with the certificates. -/
theorem meets_stages_of_lacking
    (hlacking : pass.cluster.spec.sslProfiles.any (·.isIncomplete) = true) :
    (firstSome (pass.stages true)).Meets pass.MayCall
      fun result => result.isSome ∧ OnlyChanges result := by
  obtain ⟨step, pending⟩ := Interconnect.exists_pendingStep hlacking
  rw [stages, if_pos rfl]
  simp only [List.append_assoc]
  exact meets_certificateStages pending (meets_accessStages pass) _

theorem meets_walk_of_lacking
    (hlacking : pass.cluster.spec.sslProfiles.any (·.isIncomplete) = true) :
    (pass.walk true).Meets pass.MayCall fun outcome => outcome.requeue = true := by
  refine (meets_stages_of_lacking hlacking).bind fun result hresult => ?_
  cases result with
  | some outcome => exact onlyChanges_some.mp hresult.2
  | none => cases hresult.1

theorem meets_walk (ready : pass.cluster.spec.Ready) :
    (pass.walk false).Meets pass.MayCall fun _ => True := by
  refine (meets_stages ready).bind fun result _ => ?_
  cases result with
  | some outcome => trivial
  | none => exact meets_aggregatePods ready

theorem meets_afterDefaults (defaults : pass.cluster.spec.HasDefaults) :
    (pass.afterDefaults (pass.cluster.spec.sslProfiles.any (·.isIncomplete) &&
      pass.settings.capabilities.certManager)).Meets pass.MayCall fun _ => True := by
  by_cases hopen : pass.cluster.spec.Satisfiable pass.settings
  · by_cases hphase : pass.status.phase = .failed
    · rw [afterDefaults_of_failed hopen hphase]
      exact meets_writeStatus pass _
    · rw [afterDefaults_of_open hopen hphase]
      cases hlacking : pass.cluster.spec.sslProfiles.any (·.isIncomplete) with
      | true =>
          rw [hopen.certManager hlacking]
          exact (meets_walk_of_lacking hlacking).imp (fun _ h => h) fun _ _ => trivial
      | false => exact meets_walk (defaults.ready hlacking)
  · rw [afterDefaults_of_unsatisfiable hopen]
    exact meets_block pass _

theorem meets_program (pass : Pass) : pass.program.Meets pass.MayCall fun _ => True := by
  by_cases hnew : pass.status.revNumber = ""
  · rw [program_of_new hnew]
    exact meets_writeStatus pass _
  · by_cases defaults : pass.cluster.spec.HasDefaults
    · rw [program_of_defaults hnew defaults]
      exact meets_afterDefaults defaults
    · rw [program_of_lacking hnew defaults]
      exact (meets_persistSpec pass _).andThen fun _ => trivial

end Pass

/-- Whatever the store answers, a pass makes the calls of `Pass.MayCall` alone. -/
theorem meets_reconcile (settings : Settings) (now : Timestamp) {cluster : Interconnect}
    {ns : String} (hns : cluster.metadata.ns = some ns) :
    (reconcile settings now cluster).Meets
      (Pass.MayCall ⟨cluster, ns, settings, now, cluster.statusOrNew⟩) fun _ => True := by
  unfold reconcile
  rw [hns]
  exact Pass.meets_program _

end RouterOperator
