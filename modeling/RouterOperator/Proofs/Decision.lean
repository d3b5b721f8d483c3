import RouterOperator.Proofs.Checklist
import RouterOperator.Proofs.Plan

/-!
# What a pass has seen when it acts

A pass acts for the first goal of its checklist that it does not find met, so by then it has seen
that all goals before are. `Pass.Decision` lists what a pass may decide on together with what it has
seen; the plans of a pass are what is left of that when all but the calls is forgotten.
-/

namespace RouterOperator

/-- The image that a workload runs. -/
def Kind.runningImage : (kind : Kind) → kind.Object → Option String
  | .deployment, live => Deployment.image live
  | .daemonSet, live => DaemonSet.image live
  | _, _ => none

/-- The store gives a call this answer. -/
def MemoryStore.Answers (store : MemoryStore) (exchange : Exchange) : Prop :=
  (store.call exchange.request).1 = .ok exchange.reply

theorem MemoryStore.object?_of_answers {store : MemoryStore} {known : List Exchange}
    (h : ∀ exchange ∈ known, store.Answers exchange) {kind : Kind} {ns name : String}
    {reply : Option kind.Object} (hread : ⟨.get kind ns name, reply⟩ ∈ known) :
    store.object? ⟨kind, ns, name⟩ = reply := Except.ok.inj (h _ hread)

theorem MemoryStore.answers_concat {store : MemoryStore} {known : List Exchange}
    {exchange : Exchange} (h : ∀ other ∈ known ++ [exchange], store.Answers other) :
    (∀ other ∈ known, store.Answers other) ∧ store.Answers exchange :=
  ⟨fun other hother => h other (by simp [hother]), h exchange (by simp)⟩

/-- A goal about an object that is neither a cluster nor its workload, or about the workload. -/
def Goal.IsProper : Goal → Prop
  | .object kind _ => kind ≠ .interconnect ∧ kind.isWorkload = false
  | .workload => True

namespace Interconnect

variable (cluster : Interconnect) (settings : Settings)

/-- The goals of the certificates, while certificates are requested. -/
def certificateGoals : List Goal :=
  if settings.capabilities.certManager then
    match cluster.pendingStep with
    | none => []
    | some step => cluster.authorityGoals ++ [.object .certificate (cluster.stepCertificate step)]
  else []

/-- The goals of a pass in the order of the checklist. -/
def checklist : List Goal :=
  cluster.accessGoals ++ cluster.certificateGoals settings ++ cluster.servingGoals settings

variable {cluster settings}

theorem checklist_of_complete (h : (cluster.spec.sslProfiles.any (·.isIncomplete) &&
    settings.capabilities.certManager) = false) :
    cluster.checklist settings = cluster.goals settings := by
  have hnone : cluster.certificateGoals settings = [] := by
    unfold certificateGoals
    rw [Bool.and_eq_false_iff, ← isSome_pendingStep] at h
    rcases h with hnone | hissuing
    · rw [Option.isSome_eq_false_iff, Option.isNone_iff_eq_none] at hnone
      rw [hnone]
      split <;> rfl
    · rw [if_neg (by simp [hissuing])]
  rw [checklist, hnone, List.append_nil, goals]

theorem checklist_of_pending {step : CertStep} (pending : cluster.pendingStep = some step)
    (hissuing : settings.capabilities.certManager = true) :
    cluster.checklist settings = cluster.accessGoals ++ cluster.authorityGoals ++
      .object .certificate (cluster.stepCertificate step) :: cluster.servingGoals settings := by
  rw [checklist, certificateGoals, if_pos hissuing, pending]
  simp

theorem isProper_of_access : ∀ goal ∈ cluster.accessGoals, goal.IsProper := by
  simp [accessGoals, Goal.IsProper, Kind.isWorkload]

theorem isProper_of_authority : ∀ goal ∈ cluster.authorityGoals, goal.IsProper := by
  unfold authorityGoals
  split <;> simp [Goal.IsProper, Kind.isWorkload]

theorem isProper_of_serving : ∀ goal ∈ cluster.servingGoals settings, goal.IsProper := by
  have hexposure (listener : Listener) : (cluster.exposureGoal settings listener).IsProper := by
    unfold exposureGoal
    split <;> simp [Goal.IsProper, Kind.isWorkload]
  simp only [servingGoals, List.forall_mem_append, List.forall_mem_cons, List.not_mem_nil,
    false_imp_iff, implies_true, and_true, List.forall_mem_map]
  exact ⟨⟨by simp [Goal.IsProper, Kind.isWorkload], trivial,
    by simp [Goal.IsProper, Kind.isWorkload]⟩, fun listener _ => hexposure listener⟩

end Interconnect

namespace Pass

open Program

variable (pass : Pass)

/-- A pass that comes to the checklist: the cluster was seen before, has its defaults, can be
satisfied and did not fail. -/
structure Walks : Prop where
  touched : pass.status.revNumber ≠ ""
  defaults : pass.cluster.spec.HasDefaults
  satisfiable : pass.cluster.spec.Satisfiable pass.settings
  phase : pass.status.phase ≠ .failed

/-- What was read shows that a goal is met. -/
def Shows (known : List Exchange) (goal : Goal) : Prop :=
  ∀ store : MemoryStore, (∀ exchange ∈ known, store.Answers exchange) →
    pass.cluster.Meets pass.settings store pass.ns goal

/-- The status of a cluster that is seen for the first time. -/
def touchedStatus : InterconnectStatus :=
  ({ pass.status.on .firstTouch with
    revNumber := pass.cluster.metadata.resourceVersion.getD "" } : InterconnectStatus).reach
      pass.now .provisioning "provision spec to desired state"

/-- The status that records a workload that was created. -/
def deployedStatus : InterconnectStatus :=
  pass.status.reach pass.now .deployed "router workload deployed"

/-- The condition that records that a deployment is brought to the size that is asked for. -/
def scalingCondition (current : Int32) : Condition :=
  if current < pass.cluster.spec.deploymentPlan.size then
    { type := .scalingUp, transitionTime := some pass.now, reason := "scaling up" }
  else { type := .scalingDown, transitionTime := some pass.now, reason := "scaling down" }

/-- The condition that records an upgrade, if there was another image before. -/
def upgradeConditions (previous : Option String) : List Condition :=
  if previous = some pass.image then []
  else [{ type := .upgrading, transitionTime := some pass.now,
          reason := s!"upgrading to {pass.image}" }]

/-- The status that records a resize, with an upgrade that came with it. -/
def resizedStatus (live : Deployment) : InterconnectStatus :=
  { (pass.scalingCondition live.replicaCount :: pass.upgradeConditions live.image).foldl
      InterconnectStatus.push pass.status with pods := [] }

/-- The status that reports the pods that are not about to end, and that everything is in place. -/
def reportedStatus (pods : List Pod) : InterconnectStatus :=
  let live := pods.filter fun pod => pod.metadata.deletionTimestamp.isNone
  { pass.status.on .converged with pods := live.map fun pod => pod.metadata.anyName }

theorem upgraded_eq (status : InterconnectStatus) (previous : Option String) :
    pass.upgraded status previous =
      (pass.upgradeConditions previous).foldl InterconnectStatus.push status := by
  unfold upgraded upgradeConditions
  split <;> rfl

/-- The status that the resizing stage writes. -/
theorem resizedStatus_eq (live : Deployment) :
    { pass.upgraded
        (if live.replicaCount < pass.cluster.spec.deploymentPlan.size then
          pass.status.reach pass.now .scalingUp "scaling up"
        else pass.status.reach pass.now .scalingDown "scaling down") live.image with pods := [] } =
      pass.resizedStatus live := by
  rw [upgraded_eq, resizedStatus, List.foldl_cons, scalingCondition]
  split <;> rfl

/-- The workload that placement selects, where none of the other kind was found. -/
inductive Selects (known : List Exchange) : (kind : Kind) → kind.Object → Prop where
  | deployment (placed : pass.cluster.runsOnEveryNode = false)
    (alone : ⟨.get .daemonSet pass.ns pass.cluster.name, none⟩ ∈ known) :
    Selects known .deployment (pass.cluster.deployment pass.settings.routerImage)
  | daemonSet (placed : pass.cluster.runsOnEveryNode = true)
    (alone : ⟨.get .deployment pass.ns pass.cluster.name, none⟩ ∈ known) :
    Selects known .daemonSet (pass.cluster.daemonSet pass.settings.routerImage)

/-- The calls by which a stage ends a pass, for a goal that it has not found met. -/
inductive Action : List Exchange → Goal → List Move → Outcome → Prop where
  | create {known kind before} {desired : kind.Object} (derived : kind ≠ .interconnect)
    (other : kind.isWorkload = false) :
    Action (known ++ [⟨.get kind pass.ns (kind.nameOf desired), none⟩]) (.object kind desired)
      [⟨some before, .create kind pass.ns desired⟩] (.created kind (kind.nameOf desired))
  | update {known kind before} {desired live : kind.Object} (derived : kind ≠ .interconnect)
    (other : kind.isWorkload = false) (drift : kind.drifted live desired = true) :
    Action (known ++ [⟨.get kind pass.ns (kind.nameOf desired), some live⟩]) (.object kind desired)
      [⟨some before, .replace kind pass.ns (kind.updated live desired)⟩]
      (.updated kind (kind.nameOf desired))
  | issue {known before before'} {certificate : Certificate} {step : CertStep}
    (spec : InterconnectSpec) (issued : certificate = pass.cluster.stepCertificate step)
    (stamped : pass.cluster.stamped step = { pass.cluster with spec }) :
    Action (known ++ [⟨.get .certificate pass.ns (Kind.certificate.nameOf certificate), none⟩])
      (.object .certificate certificate)
      [⟨some before, .create .certificate pass.ns certificate⟩,
        ⟨some before', pass.specWrite spec⟩]
      (.created .certificate (Kind.certificate.nameOf certificate))
  | deploy {known kind before notice} {desired : kind.Object}
    (selected : pass.Selects known kind desired) :
    Action (known ++ [⟨.get kind pass.ns (kind.nameOf desired), none⟩]) .workload
      [⟨some before, .create kind pass.ns desired⟩, ⟨none, pass.statusWrite pass.deployedStatus⟩,
        ⟨none, .publish { pass.cluster with status := some pass.deployedStatus } notice⟩]
      (.created kind (kind.nameOf desired))
  | refresh {known kind before} {desired live : kind.Object}
    (selected : pass.Selects known kind desired) (sized : pass.Sized known kind)
    (drift : kind.drifted live desired = true) :
    Action (known ++ [⟨.get kind pass.ns (kind.nameOf desired), some live⟩]) .workload
      [⟨some before, .replace kind pass.ns (kind.updated live desired)⟩]
      (.updated kind (kind.nameOf desired))
  | upgrade {known kind before} {desired live : kind.Object}
    (selected : pass.Selects known kind desired) (sized : pass.Sized known kind)
    (drift : kind.drifted live desired = true)
    (other : kind.runningImage live ≠ some pass.image) :
    Action (known ++ [⟨.get kind pass.ns (kind.nameOf desired), some live⟩]) .workload
      [⟨some before, .replace kind pass.ns (kind.updated live desired)⟩,
        ⟨none, pass.statusWrite (pass.upgraded pass.status (kind.runningImage live))⟩]
      (.updated kind (kind.nameOf desired))
  | resize {known before notice} {live : Deployment}
    (selected : pass.Selects known .deployment
      (pass.cluster.deployment pass.settings.routerImage))
    (other : live.replicaCount ≠ pass.cluster.spec.deploymentPlan.size) :
    Action (known ++ [⟨.get .deployment pass.ns pass.cluster.name, some live⟩]) .workload
      [⟨some before, .replace .deployment pass.ns (pass.resized live)⟩,
        ⟨none, pass.statusWrite (pass.resizedStatus live)⟩,
        ⟨none, .publish { pass.cluster with status := some (pass.resizedStatus live) } notice⟩]
      (.updated .deployment pass.cluster.name)

/-- The specification that a pass stores on its own, with what it has seen: the defaults are filled
in, or the secret of a certificate that is there already is recorded. -/
inductive Persists (known : List Exchange) : InterconnectSpec → Prop where
  | defaults :
    Persists known (pass.cluster.spec.normalize pass.settings.capabilities.certManager).spec
  | record {step : CertStep} {live : Certificate} {spec : InterconnectSpec}
    (read : ⟨.get .certificate pass.ns
      (Kind.certificate.nameOf (pass.cluster.stepCertificate step)), some live⟩ ∈ known)
    (stamped : pass.cluster.stamped step = { pass.cluster with spec }) : Persists known spec

/-- What a pass decides on, with what it has seen: the calls and the outcome. -/
inductive Decision : List Exchange → List Move → Outcome → Prop where
  | touch {known before} (new : pass.status.revNumber = "") :
    Decision known [⟨some before, pass.statusWrite pass.touchedStatus⟩] .statusUpdated
  | persist {known before} (spec : InterconnectSpec) (persists : pass.Persists known spec) :
    Decision known [⟨some before, pass.specWrite spec⟩] .specUpdated
  | blocked {known reason} : Decision known [] (.blocked reason)
  | block {known before notice reason} (touched : pass.status.revNumber ≠ "")
    (lacking : ¬ pass.cluster.spec.Satisfiable pass.settings)
    (phase : pass.status.phase ≠ .failed) :
    Decision known [⟨some before, pass.statusWrite (pass.status.on .blocked)⟩,
      ⟨none, .publish { pass.cluster with status := some (pass.status.on .blocked) } notice⟩]
      (.blocked reason)
  | unblock {known before} (touched : pass.status.revNumber ≠ "")
    (satisfiable : pass.cluster.spec.Satisfiable pass.settings)
    (phase : pass.status.phase = .failed) :
    Decision known [⟨some before, pass.statusWrite (pass.status.on .unblocked)⟩] .statusUpdated
  | act {known moves outcome front goal rest} (walks : pass.Walks)
    (listed : pass.cluster.checklist pass.settings = front ++ goal :: rest)
    (shown : ∀ earlier ∈ front, pass.Shows known earlier)
    (action : pass.Action known goal moves outcome) : Decision known moves outcome
  | report {known before} {pods : List Pod} (walks : pass.Walks)
    (shown : ∀ goal ∈ pass.cluster.checklist pass.settings, pass.Shows known goal)
    (read : ⟨.listPods pass.ns pass.cluster.labelSelector, pods⟩ ∈ known) :
    Decision known [⟨some before, pass.statusWrite (pass.reportedStatus pods)⟩] .statusUpdated
  | idle {known} : Decision known [] .idle

/-- What a stage decides: it calls nothing and has seen its goal met, or it ends the pass. -/
def StageDecision (goal : Goal) (known : List Exchange) (moves : List Move) :
    Option Outcome → Prop
  | none => moves = [] ∧ pass.Shows known goal
  | some outcome => pass.Action known goal moves outcome

variable {pass} {kind : Kind} {desired : kind.Object} {known : List Exchange}

theorem Shows.mono {goal : Goal} {later : List Exchange} (h : pass.Shows known goal)
    (hlater : known ⊆ later) : pass.Shows later goal :=
  fun store hanswers => h store fun exchange hknown => hanswers exchange (hlater hknown)

theorem shows_object {live : kind.Object}
    (hread : ⟨.get kind pass.ns (kind.nameOf desired), some live⟩ ∈ known)
    (hdrift : kind.drifted live desired = false) : pass.Shows known (.object kind desired) :=
  fun _ hanswers => ⟨live, MemoryStore.object?_of_answers hanswers hread, hdrift⟩

/-- A workload of the kind that placement does not select serves. -/
theorem shows_workload_of_other {live : kind.Object}
    (hother : kind = if pass.cluster.runsOnEveryNode then .deployment else .daemonSet)
    (hread : ⟨.get kind pass.ns pass.cluster.name, some live⟩ ∈ known) :
    pass.Shows known .workload := by
  intro store hanswers
  have hsome : (store.object? ⟨kind, pass.ns, pass.cluster.name⟩).isSome := by
    rw [MemoryStore.object?_of_answers hanswers hread]
    rfl
  unfold Interconnect.Meets Interconnect.HasWorkload
  dsimp only
  split at hother
  next hplaced =>
    subst hother
    rw [if_pos hplaced]
    exact .inl hsome
  next hplaced =>
    subst hother
    rw [if_neg hplaced]
    exact .inl hsome

/-- So does one of the kind that it selects, with its size as asked for. -/
theorem shows_workload_of_selected (selected : pass.Selects known kind desired)
    (sized : pass.Sized known kind) {live : kind.Object}
    (hdrift : kind.drifted live desired = false) :
    pass.Shows (known ++ [⟨.get kind pass.ns (kind.nameOf desired), some live⟩]) .workload := by
  intro store hanswers
  have hlive := MemoryStore.object?_of_answers hanswers
    (List.mem_append_right _ (List.mem_singleton_self _))
  unfold Interconnect.Meets Interconnect.HasWorkload
  dsimp only
  cases selected with
  | daemonSet placed alone =>
      rw [if_pos placed]
      exact .inr ⟨live, hlive, hdrift⟩
  | deployment placed alone =>
      rw [if_neg (by simp [placed])]
      obtain ⟨reply, hread, hsize⟩ := sized rfl
      have hsame : reply = some live :=
        (MemoryStore.object?_of_answers hanswers (List.mem_append_left _ hread)).symm.trans hlive
      exact .inr ⟨live, hlive, hdrift, hsize live hsame⟩

theorem decides_ensureStage (derived : kind ≠ .interconnect) (other : kind.isWorkload = false)
    (desired : kind.Object) (known : List Exchange) :
    Decides (pass.StageDecision (.object kind desired)) known (pass.ensureStage kind desired) := by
  refine decides_ensure (fun live hdrift => ?_) (fun before => ?_) fun before live hdrift => ?_
  · exact .done ⟨rfl, shows_object (by simp) hdrift⟩
  · exact ⟨[], _, rfl, .create derived other⟩
  · exact ⟨[], _, rfl, .update derived other hdrift⟩

theorem Selects.mono {later : List Exchange} (h : pass.Selects known kind desired)
    (hlater : known ⊆ later) : pass.Selects later kind desired := by
  cases h with
  | deployment placed alone => exact .deployment placed (hlater alone)
  | daemonSet placed alone => exact .daemonSet placed (hlater alone)

theorem decides_ensureWorkload (selected : pass.Selects known kind desired)
    (sized : pass.Sized known kind) :
    Decides (pass.StageDecision .workload) known
      (pass.ensureWorkload kind desired kind.runningImage) := by
  refine decides_ensure (fun live hdrift => ?_) (fun before => ?_) fun before live hdrift => ?_
  · exact .done ⟨rfl, shows_workload_of_selected selected sized hdrift⟩
  · let outcome := Outcome.created kind (kind.nameOf desired)
    exact ⟨[⟨none, pass.statusWrite pass.deployedStatus⟩,
      ⟨none, .publish { pass.cluster with status := some pass.deployedStatus }
        ⟨.normal, "Deployed", s!"Router workload {outcome.text}"⟩⟩], some outcome, rfl,
      Action.deploy selected⟩
  · dsimp only [workloadUpdated]
    split
    next hother => exact ⟨[⟨none, pass.statusWrite _⟩],
        some (.updated kind (kind.nameOf desired)), rfl,
        Action.upgrade selected sized hdrift hother⟩
    next => exact ⟨[], some (.updated kind (kind.nameOf desired)), rfl,
      Action.refresh selected sized hdrift⟩

/-- Where the resizing stage passes, the size was found to be as asked for. -/
theorem decides_resizeStage (selected : pass.Selects known .deployment
    (pass.cluster.deployment pass.settings.routerImage)) :
    Decides (fun later moves result =>
      match result with
      | none => moves = [] ∧ pass.Sized later .deployment ∧
          pass.Selects later .deployment (pass.cluster.deployment pass.settings.routerImage)
      | some outcome => pass.Action later .workload moves outcome) known pass.resizeStage := by
  have hsized {reply : Option Deployment}
      (h : ∀ live ∈ reply, live.replicaCount = pass.cluster.spec.deploymentPlan.size) :
      pass.Sized (known ++ [⟨.get .deployment pass.ns pass.cluster.name, reply⟩]) .deployment :=
    fun _ => ⟨reply, by simp, h⟩
  have hselected {reply : Option Deployment} :=
    selected.mono (List.subset_append_left known
      [⟨.get .deployment pass.ns pass.cluster.name, reply⟩])
  refine .check (.read rfl fun reply => ?_)
  cases reply with
  | none => exact .done ⟨rfl, hsized (by simp), hselected⟩
  | some live =>
      change Decides _ _ (if live.replicaCount = pass.cluster.spec.deploymentPlan.size then _
        else _)
      split
      next hsize => exact .done ⟨rfl, hsized (by simpa using hsize), hselected⟩
      next hsize =>
        change Decides _ _ (script (some (Outcome.updated .deployment pass.cluster.name))
          [⟨some _, .replace .deployment pass.ns (pass.resized live)⟩,
            ⟨none, pass.statusWrite _⟩, ⟨none, .publish { pass.cluster with status := some _ } _⟩])
        rw [resizedStatus_eq]
        exact .script (Action.resize selected hsize)

/-- A stage for the selected workload, behind a look at the other one. -/
theorem decides_hasWorkload {stage : Stage}
    (hother : kind = if pass.cluster.runsOnEveryNode then .deployment else .daemonSet)
    (h : Decides (pass.StageDecision .workload)
      (known ++ [⟨.get kind pass.ns pass.cluster.name, none⟩]) stage) :
    Decides (pass.StageDecision .workload) known
      (do if ← pass.hasWorkload kind then return none else stage) := by
  refine .check (.read rfl fun reply => ?_)
  cases reply with
  | none => exact h
  | some live =>
      exact .done ⟨rfl, shows_workload_of_other hother
        (List.mem_append_right _ (List.mem_singleton_self _))⟩

theorem decides_workloadStage (known : List Exchange) :
    Decides (pass.StageDecision .workload) known pass.workloadStage := by
  unfold workloadStage
  dsimp only
  split
  next placed =>
    refine decides_hasWorkload (by rw [if_pos placed]) ?_
    exact decides_ensureWorkload (.daemonSet placed (by simp)) fun h => nomatch h
  next placed =>
    refine decides_hasWorkload (by rw [if_neg placed]) ?_
    let seen := known ++ [⟨.get .daemonSet pass.ns pass.cluster.name, none⟩]
    have selected : pass.Selects seen .deployment
        (pass.cluster.deployment pass.settings.routerImage) :=
      .deployment (by simpa using placed) (by simp [seen])
    refine (decides_resizeStage selected).bind fun later moves result planned => ?_
    cases result with
    | some outcome =>
        rw [← List.append_nil moves] at planned
        exact .inr ⟨[], some outcome, rfl, planned⟩
    | none =>
        refine .inl ⟨planned.1, ?_⟩
        dsimp only
        rw [firstSome_singleton]
        exact decides_ensureWorkload planned.2.2 planned.2.1

theorem decides_stageFor {goal : Goal} (proper : goal.IsProper) (known : List Exchange) :
    Decides (pass.StageDecision goal) known (pass.stageFor goal) := by
  cases goal with
  | object kind desired => exact decides_ensureStage proper.1 proper.2 desired known
  | workload => exact decides_workloadStage known

/-- The stages of some goals are walked until one of them ends the pass; if none does, what follows
is decided with all goals seen to be met. -/
theorem decides_goals {plans : List Exchange → List Move → Option Outcome → Prop}
    (front : List Goal) {goals : List Goal} {tail : List Stage}
    (proper : ∀ goal ∈ goals, goal.IsProper)
    (hact : ∀ known moves outcome earlier goal later, front ++ goals = earlier ++ goal :: later →
      (∀ met ∈ earlier, pass.Shows known met) → pass.Action known goal moves outcome →
        plans known moves (some outcome))
    (htail : ∀ known, (∀ goal ∈ front ++ goals, pass.Shows known goal) →
      Decides plans known (firstSome tail))
    (hfront : ∀ goal ∈ front, pass.Shows known goal) :
    Decides plans known (firstSome (goals.map pass.stageFor ++ tail)) := by
  -- a stage that passes moves its goal over to `front`, the goals that were seen to be met
  induction goals generalizing front known with
  | nil => exact htail known (by simpa using hfront)
  | cons goal rest ih =>
      have hlist : front ++ goal :: rest = front ++ [goal] ++ rest := by simp
      obtain ⟨hgoal, hrest⟩ := List.forall_mem_cons.mp proper
      have hseen {later : List Exchange} (hlater : known ⊆ later) :
          ∀ met ∈ front, pass.Shows later met := fun met hmet => (hfront met hmet).mono hlater
      have hstage := (decides_stageFor hgoal known).imp fun later moves result hlater decided =>
        (⟨hlater, decided⟩ : known ⊆ later ∧ pass.StageDecision goal later moves result)
      refine hstage.bind fun later moves result planned => ?_
      obtain ⟨hlater, decided⟩ := planned
      cases result with
      | some outcome =>
          refine .inr ⟨[], some outcome, rfl, ?_⟩
          rw [List.append_nil]
          exact hact later moves outcome front goal rest rfl (hseen hlater) decided
      | none =>
          rw [hlist] at hact htail
          refine .inl ⟨decided.1, ih (front ++ [goal]) hrest hact htail ?_⟩
          rw [List.forall_mem_append]
          exact ⟨hseen hlater, by simpa using decided.2⟩

/-- What the walk along the checklist decides: it ends the pass, or it calls nothing and has seen
all goals met. -/
def WalkDecision (pass : Pass) (known : List Exchange) (moves : List Move) :
    Option Outcome → Prop
  | none => moves = [] ∧ ∀ goal ∈ pass.cluster.checklist pass.settings, pass.Shows known goal
  | some outcome => pass.Decision known moves outcome

/-- The issuing stage issues the next certificate, or records it if it exists, and so ends every
pass that comes to it. -/
theorem decides_issueStage (walks : pass.Walks) {step : CertStep}
    (pending : pass.cluster.pendingStep = some step) {front rest : List Goal}
    (listed : pass.cluster.checklist pass.settings =
      front ++ .object .certificate (pass.cluster.stepCertificate step) :: rest)
    (shown : ∀ goal ∈ front, pass.Shows known goal) (tail : List Stage) :
    Decides pass.WalkDecision known (firstSome (pass.issueStage :: tail)) := by
  obtain ⟨spec, hstamped⟩ := pass.cluster.stamped_eq step
  have hlater (exchange : Exchange) : known ⊆ known ++ [exchange] := List.subset_append_left _ _
  unfold firstSome issueStage
  rw [pending]
  dsimp only
  rw [hstamped]
  unfold ensureStage
  rw [bind_assoc, bind_assoc]
  refine decides_ensure (fun live _ => ?_) (fun before => ?_) fun before live hdrift => ?_
  · change Decides _ _ (script (some Outcome.specUpdated) [⟨some "update Interconnect",
      pass.specWrite spec⟩])
    exact .script (Decision.persist spec
      (.record (List.mem_append_right _ (List.mem_singleton_self _)) hstamped))
  · refine ⟨[⟨some "update Interconnect", pass.specWrite spec⟩], some _, rfl, ?_⟩
    exact Decision.act walks listed (fun goal hgoal => (shown goal hgoal).mono (hlater _))
      (Action.issue spec rfl hstamped)
  · -- a certificate that exists never drifts
    cases hdrift

/-- The stages of the checklist are walked until one of them ends the pass. -/
theorem decides_stages (walks : pass.Walks) (known : List Exchange) :
    Decides pass.WalkDecision known (firstSome (pass.stages
      (pass.cluster.spec.sslProfiles.any (·.isIncomplete) &&
        pass.settings.capabilities.certManager))) := by
  cases hrequested : pass.cluster.spec.sslProfiles.any (·.isIncomplete) &&
      pass.settings.capabilities.certManager with
  | true =>
      rw [Bool.and_eq_true] at hrequested
      obtain ⟨step, pending⟩ := Interconnect.exists_pendingStep hrequested.1
      have listed := Interconnect.checklist_of_pending pending hrequested.2
      obtain ⟨rest, hstages⟩ := pass.stages_eq_authority
      rw [hstages]
      refine decides_goals [] ?_ ?_ (fun known shown => ?_) (by simp)
      · exact List.forall_mem_append.mpr
          ⟨Interconnect.isProper_of_access, Interconnect.isProper_of_authority⟩
      · intro known moves outcome earlier goal later heq shown action
        rw [List.nil_append] at heq
        rw [heq, List.append_assoc, List.cons_append] at listed
        exact Decision.act walks listed shown action
      · exact decides_issueStage walks pending listed shown rest
  | false =>
      have listed := Interconnect.checklist_of_complete hrequested
      rw [stages_eq_goals, ← List.append_nil (List.map _ _)]
      refine decides_goals [] ?_ ?_ (fun known shown => ?_) (by simp)
      · exact List.forall_mem_append.mpr
          ⟨Interconnect.isProper_of_access, Interconnect.isProper_of_serving⟩
      · intro known moves outcome earlier goal later heq shown action
        exact Decision.act walks (listed.trans heq) shown action
      · refine .done ⟨rfl, ?_⟩
        rw [listed]
        exact shown

theorem decides_walk (walks : pass.Walks) (known : List Exchange) :
    Decides pass.Decision known (pass.walk (pass.cluster.spec.sslProfiles.any (·.isIncomplete) &&
      pass.settings.capabilities.certManager)) := by
  refine (decides_stages walks known).bind fun later moves result planned => ?_
  cases result with
  | some outcome =>
      refine .inr ⟨[], outcome, rfl, ?_⟩
      rw [List.append_nil]
      exact planned
  | none =>
      refine .inl ⟨planned.1, .check (.read rfl fun pods => ?_)⟩
      change Decides _ _ (if _ then done Outcome.idle else pass.writeStatus _)
      split
      · exact .done .idle
      · have shown : ∀ goal ∈ pass.cluster.checklist pass.settings, pass.Shows
            (later ++ [⟨.listPods pass.ns pass.cluster.labelSelector, pods⟩]) goal :=
          fun goal hgoal => (planned.2 goal hgoal).mono (List.subset_append_left _ _)
        exact .script (Decision.report walks shown
          (List.mem_append_right _ (List.mem_singleton_self _)))

/-- Whatever the store answers, a pass reads until it has decided, in the light of what it has
read. -/
theorem decides_decision (pass : Pass) : Decides pass.Decision [] pass.program := by
  by_cases new : pass.status.revNumber = ""
  · rw [program_of_new new]
    exact .script (Decision.touch new)
  · by_cases defaults : pass.cluster.spec.HasDefaults
    · rw [program_of_defaults new defaults]
      by_cases satisfiable : pass.cluster.spec.Satisfiable pass.settings
      · by_cases phase : pass.status.phase = .failed
        · rw [afterDefaults_of_failed satisfiable phase]
          exact .script (Decision.unblock new satisfiable phase)
        · rw [afterDefaults_of_open satisfiable phase]
          exact decides_walk ⟨new, defaults, satisfiable, phase⟩ []
      · rw [afterDefaults_of_unsatisfiable satisfiable]
        unfold block
        split
        next phase =>
          change Decides _ _ (script (Outcome.blocked _)
            [⟨some _, pass.statusWrite (pass.status.on .blocked)⟩, ⟨none, .publish _ _⟩])
          exact .script (Decision.block new satisfiable phase)
        next => exact .done .blocked
    · rw [program_of_lacking new defaults]
      exact .script (Decision.persist _ .defaults)

/-- Where there is no workload of the other kind, the one that placement selects has to serve. -/
theorem Selects.holds (h : pass.Selects known kind desired) {store : MemoryStore}
    (hanswers : ∀ exchange ∈ known, store.Answers exchange)
    (hserves : pass.cluster.HasWorkload store pass.ns pass.settings.routerImage) :
    store.Holds pass.ns kind desired := by
  unfold Interconnect.HasWorkload at hserves
  cases h with
  | daemonSet placed alone =>
      rw [if_pos placed, MemoryStore.object?_of_answers hanswers alone] at hserves
      exact hserves.resolve_left (by simp)
  | deployment placed alone =>
      rw [if_neg (by simp [placed]), MemoryStore.object?_of_answers hanswers alone] at hserves
      obtain ⟨live, hlive, hdrift, -⟩ := hserves.resolve_left (by simp)
      exact ⟨live, hlive, hdrift⟩

theorem Selects.replicaCount {desired : Deployment} (h : pass.Selects known .deployment desired)
    {store : MemoryStore} (hanswers : ∀ exchange ∈ known, store.Answers exchange)
    (hserves : pass.cluster.HasWorkload store pass.ns pass.settings.routerImage)
    {live : Deployment}
    (hlive : store.object? ⟨.deployment, pass.ns, pass.cluster.name⟩ = some live) :
    live.replicaCount = pass.cluster.spec.deploymentPlan.size := by
  unfold Interconnect.HasWorkload at hserves
  cases h with
  | deployment placed alone =>
      rw [if_neg (by simp [placed]), MemoryStore.object?_of_answers hanswers alone] at hserves
      obtain ⟨other, hother, -, hsize⟩ := hserves.resolve_left (by simp)
      rw [hlive] at hother
      exact Option.some.inj hother ▸ hsize

/-- A stage ends a pass only where its goal is not met. -/
theorem Action.unmet {goal : Goal} {moves : List Move} {outcome : Outcome}
    (h : pass.Action known goal moves outcome) {store : MemoryStore}
    (hanswers : ∀ exchange ∈ known, store.Answers exchange) :
    ¬ pass.cluster.Meets pass.settings store pass.ns goal := by
  have hlast {front : List Exchange} {kind : Kind} {name : String} {reply : Option kind.Object}
      (h : ∀ exchange ∈ front ++ [⟨.get kind pass.ns name, reply⟩], store.Answers exchange) :
      store.object? ⟨kind, pass.ns, name⟩ = reply := by
    have hanswer := (MemoryStore.answers_concat h).2
    exact Except.ok.inj hanswer
  have habsent {kind : Kind} {desired : kind.Object}
      (h : store.object? ⟨kind, pass.ns, kind.nameOf desired⟩ = none) :
      ¬ store.Holds pass.ns kind desired := by
    rintro ⟨live, hlive, -⟩
    exact nomatch h.symm.trans hlive
  have hdrifted {kind : Kind} {desired live : kind.Object}
      (h : store.object? ⟨kind, pass.ns, kind.nameOf desired⟩ = some live)
      (drift : kind.drifted live desired = true) : ¬ store.Holds pass.ns kind desired := by
    rintro ⟨other, hother, hdrift⟩
    obtain rfl : live = other := Option.some.inj (h.symm.trans hother)
    exact nomatch drift.symm.trans hdrift
  cases h with
  | create | issue => exact habsent (hlast hanswers)
  | update derived other drift => exact hdrifted (hlast hanswers) drift
  | deploy selected =>
      have hbefore := (MemoryStore.answers_concat hanswers).1
      exact fun hserves => habsent (hlast hanswers) (selected.holds hbefore hserves)
  | refresh selected sized drift | upgrade selected sized drift =>
      have hbefore := (MemoryStore.answers_concat hanswers).1
      exact fun hserves => hdrifted (hlast hanswers) drift (selected.holds hbefore hserves)
  | resize selected other =>
      have hbefore := (MemoryStore.answers_concat hanswers).1
      exact fun hserves => other (selected.replicaCount hbefore hserves (hlast hanswers))

theorem Selects.workload (h : pass.Selects known kind desired) : pass.Workload kind desired := by
  cases h with
  | deployment => exact .deployment
  | daemonSet => exact .daemonSet

theorem Action.plan {goal : Goal} {moves : List Move} {outcome : Outcome}
    (h : pass.Action known goal moves outcome) : pass.Plan known moves outcome := by
  cases h with
  | create derived other => exact .create derived other
  | update derived other drift => exact .update derived other
  | issue spec => exact .issue spec
  | deploy selected => exact .deploy selected.workload rfl rfl
  | refresh selected sized drift => exact .refresh selected.workload sized
  | upgrade selected sized drift other =>
      rw [upgraded, if_neg other]
      exact .upgrade selected.workload sized rfl rfl
  | resize selected other =>
      refine .resize other rfl ?_ ?_ ?_
      · unfold upgradeConditions
        split <;> simp
      · unfold scalingCondition scaling
        split <;> rfl
      · unfold upgradeConditions
        split <;> simp

theorem Decision.plan {moves : List Move} {outcome : Outcome}
    (h : pass.Decision known moves outcome) : pass.Plan known moves outcome := by
  have hphase (event : PassEvent) : pass.status.Adds (pass.status.on event) [] := rfl
  cases h with
  | touch new =>
      let touched : Condition :=
        { type := .provisioning, transitionTime := some pass.now,
          reason := "provision spec to desired state" }
      have adds : pass.status.Adds pass.touchedStatus [touched] := rfl
      exact .restate adds (Nat.le_refl _) (by simp [touched])
  | persist spec => exact .persist spec
  | blocked => exact .blocked
  | block touched lacking phase => exact .block (hphase .blocked)
  | unblock touched satisfiable phase =>
      exact .restate (hphase .unblocked) (Nat.zero_le _) (by simp)
  | act walks listed shown action => exact action.plan
  | @report _ pods _ _ _ =>
      have adds : pass.status.Adds (pass.reportedStatus pods) [] := rfl
      exact .restate adds (Nat.zero_le _) (by simp)
  | idle => exact .idle

/-- Whatever the store answers, a pass reads until it has decided on one of its plans. -/
theorem decides_program (pass : Pass) : Decides pass.Plan [] pass.program :=
  pass.decides_decision.imp fun _ _ _ _ decided => decided.plan

end Pass

end RouterOperator
