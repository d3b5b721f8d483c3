import RouterOperator.Proofs.Action

/-!
# Progress through the checklist

Over a fresh store the first stage whose goal is not met ends the pass, and afterwards one more goal
of the checklist is met for good. The goals do not get in each other's way because no two of them
ask for different things under one name.
-/

namespace RouterOperator

open MemoryStore

theorem Interconnect.HasWorkload.congr {cluster : Interconnect} {store other : MemoryStore}
    {ns image : String} (h : cluster.HasWorkload store ns image)
    (hdeployment : other.object? ⟨.deployment, ns, cluster.name⟩ =
      store.object? ⟨.deployment, ns, cluster.name⟩)
    (hdaemonSet : other.object? ⟨.daemonSet, ns, cluster.name⟩ =
      store.object? ⟨.daemonSet, ns, cluster.name⟩) : cluster.HasWorkload other ns image := by
  have hholds : store.Holds ns .daemonSet (cluster.daemonSet image) →
      other.Holds ns .daemonSet (cluster.daemonSet image) :=
    fun ⟨live, hlive, hdrift⟩ => ⟨live, hdaemonSet.trans hlive, hdrift⟩
  unfold Interconnect.HasWorkload at h ⊢
  rw [hdeployment, hdaemonSet]
  split
  next hevery =>
    rw [if_pos hevery] at h
    exact h.imp_right hholds
  next hevery =>
    rw [if_neg hevery] at h
    exact h

namespace Pass

open Program

/-- The goals that a pass pursues: wanted objects other than workloads, and the workload. -/
def Pursues (pass : Pass) : Goal → Prop
  | .object kind desired => pass.Wants kind desired ∧ kind ≠ .deployment ∧ kind ≠ .daemonSet
  | .workload => pass.cluster.spec.Ready

variable {pass : Pass} {store : MemoryStore}

theorem pursues_accessGoals (pass : Pass) :
    ∀ goal ∈ pass.cluster.accessGoals, pass.Pursues goal := by
  simp only [Interconnect.accessGoals, List.forall_mem_cons, List.not_mem_nil, false_imp_iff,
    implies_true, and_true]
  exact ⟨⟨.role, by decide, by decide⟩, ⟨.roleBinding, by decide, by decide⟩,
    ⟨.serviceAccount, by decide, by decide⟩⟩

theorem pursues_authorityGoals (pass : Pass) :
    ∀ goal ∈ pass.cluster.authorityGoals, pass.Pursues goal := by
  have hissuer : pass.Pursues (.object .issuer pass.cluster.caIssuer) :=
    ⟨.caIssuer, by decide, by decide⟩
  unfold Interconnect.authorityGoals
  split
  · simp only [List.forall_mem_append, List.forall_mem_cons, List.not_mem_nil, false_imp_iff,
      implies_true, and_true]
    exact ⟨⟨⟨.selfSignedIssuer, by decide, by decide⟩, ⟨.selfSignedCa, by decide, by decide⟩⟩,
      hissuer⟩
  · simpa using hissuer

theorem pursues_goals (pass : Pass) (ready : pass.cluster.spec.Ready) :
    ∀ goal ∈ pass.cluster.goals pass.settings, pass.Pursues goal := by
  have hexposed : ∀ listener ∈ pass.cluster.spec.exposedListeners,
      pass.Pursues (pass.cluster.exposureGoal pass.settings listener) := by
    intro listener exposed
    unfold Interconnect.exposureGoal
    split
    · exact ⟨.route ready exposed, by decide, by decide⟩
    · exact ⟨.ingress ready exposed, by decide, by decide⟩
  simp only [Interconnect.goals, Interconnect.servingGoals, List.forall_mem_append,
    List.forall_mem_cons, List.not_mem_nil, false_imp_iff, implies_true, and_true,
    List.forall_mem_map]
  exact ⟨pursues_accessGoals pass, ⟨⟨.configMap ready, by decide, by decide⟩, ready,
    ⟨.service ready, by decide, by decide⟩⟩, hexposed⟩

/-- Clusters do not matter for the goals of a pass. -/
theorem Pursues.congr {goal : Goal} (pursued : pass.Pursues goal) {other : MemoryStore}
    (h : pass.cluster.Meets pass.settings store pass.ns goal) (hsame : other.SameServing store) :
    pass.cluster.Meets pass.settings other pass.ns goal := by
  cases goal with
  | object kind desired => exact Holds.congr h hsame pursued.1.kind_ne
  | workload =>
      exact Interconnect.HasWorkload.congr h (hsame _ (by simp)) (hsame _ (by simp))

/-- A write for an object that is no workload takes no goal away. -/
theorem Pursues.change {goal : Goal} (pursued : pass.Pursues goal)
    (h : pass.cluster.Meets pass.settings store pass.ns goal) {kind : Kind}
    {desired object : kind.Object} (wanted : pass.Wants kind desired)
    (hdeployment : kind ≠ .deployment) (hdaemonSet : kind ≠ .daemonSet) (verb : Verb)
    (hname : kind.nameOf object = kind.nameOf desired)
    (hdrift : kind.drifted object desired = false) :
    pass.cluster.Meets pass.settings (store.change verb (.of kind pass.ns object) object) pass.ns
      goal := by
  cases goal with
  | object other desired' => exact Holds.change h pursued.1 wanted verb hname hdrift
  | workload =>
      refine Interconnect.HasWorkload.congr h ?_ ?_
      · exact object?_change_of_ne (fun hkey => hdeployment (congrArg ObjectKey.kind hkey).symm) ..
      · exact object?_change_of_ne (fun hkey => hdaemonSet (congrArg ObjectKey.kind hkey).symm) ..

/-- Over a fresh store without a workload that serves, the workload stage writes one. -/
theorem acts_workloadStage (h : store.Fresh pass.ns pass.cluster)
    (hstatus : pass.status = pass.cluster.statusOrNew) (ready : pass.cluster.spec.Ready)
    (hunmet : ¬ pass.cluster.HasWorkload store pass.ns pass.settings.routerImage) :
    ∃ (kind : Kind) (desired object : kind.Object) (verb : Verb), pass.Wants kind desired ∧
      kind.nameOf object = kind.nameOf desired ∧ kind.drifted object desired = false ∧
      pass.cluster.HasWorkload (store.change verb (.of kind pass.ns object) object) pass.ns
        pass.settings.routerImage ∧
      pass.Acts pass.workloadStage store (store.change verb (.of kind pass.ns object) object) := by
  let image := pass.settings.routerImage
  cases hevery : pass.cluster.runsOnEveryNode with
  | true =>
      have wanted : pass.Wants .daemonSet (pass.cluster.daemonSet image) := .daemonSet ready hevery
      unfold Interconnect.HasWorkload at hunmet
      rw [if_pos hevery, not_or] at hunmet
      obtain ⟨verb, object, hwrites, hacts⟩ :=
        acts_ensureWorkload h hstatus wanted hunmet.2 DaemonSet.image
      have hname := hwrites.nameOf h.placed
      have hdrift := hwrites.drifted wanted
      refine ⟨.daemonSet, _, object, verb, wanted, hname, hdrift, ?_, ?_⟩
      · unfold Interconnect.HasWorkload
        rw [if_pos hevery]
        exact Or.inr (holds_change verb hname hdrift)
      · unfold workloadStage
        dsimp only
        rw [if_pos hevery]
        exact hacts.hasWorkload hunmet.1
  | false =>
      have hsome : ¬ pass.cluster.runsOnEveryNode = true := by
        rw [hevery]
        exact Bool.false_ne_true
      have wanted : pass.Wants .deployment (pass.cluster.deployment image) :=
        .deployment ready hevery
      unfold Interconnect.HasWorkload at hunmet
      rw [if_neg hsome, not_or] at hunmet
      -- whatever was written serves if it runs what is needed and has its size
      have hserves : ∀ (verb : Verb) (object : Deployment),
          object.metadata.anyName = pass.cluster.name →
          object.drifted (pass.cluster.deployment image) = false →
          object.replicaCount = pass.cluster.spec.deploymentPlan.size →
            pass.cluster.HasWorkload (store.change verb (.of .deployment pass.ns object) object)
              pass.ns image := by
        intro verb object hname hdrift hsize
        unfold Interconnect.HasWorkload
        rw [if_neg hsome, ← hname]
        exact Or.inr ⟨_, object?_put_self store (.of .deployment pass.ns object) object,
          hdrift, hsize⟩
      -- the resizing stage passes if the size is right, and else its write repairs the template too
      by_cases hsize : ∀ live : Deployment,
          store.object? ⟨.deployment, pass.ns, pass.cluster.name⟩ = some live →
            live.replicaCount = pass.cluster.spec.deploymentPlan.size
      · have hdrifted : ¬ store.Holds pass.ns .deployment (pass.cluster.deployment image) :=
          fun ⟨live, hlive, hdrift⟩ => hunmet.2 ⟨live, hlive, hdrift, hsize live hlive⟩
        obtain ⟨verb, object, hwrites, hacts⟩ :=
          acts_ensureWorkload h hstatus wanted hdrifted Deployment.image
        have hname := hwrites.nameOf h.placed
        have hdrift := hwrites.drifted wanted
        refine ⟨.deployment, _, object, verb, wanted, hname, hdrift,
          hserves verb object hname hdrift ?_, ?_⟩
        · rcases hwrites with ⟨-, rfl⟩ | ⟨live, hlive, rfl⟩
          · rfl
          · exact Deployment.replicaCount_updated (hsize live hlive)
        · unfold workloadStage
          dsimp only
          rw [if_neg hsome]
          refine Acts.hasWorkload ?_ hunmet.1
          exact (hacts.firstSome []).of_run
            (run_firstSome_of_none (pass.passes_resizeStage.of_goal hsize))
      · obtain ⟨live, hlive, hsize⟩ : ∃ live : Deployment,
            store.object? ⟨.deployment, pass.ns, pass.cluster.name⟩ = some live ∧
              live.replicaCount ≠ pass.cluster.spec.deploymentPlan.size := by
          simpa using hsize
        obtain ⟨object, hmeta, hruns, hcount, hacts⟩ := acts_resizeStage h hstatus hlive hsize
        have hname : object.metadata.anyName = pass.cluster.name := by
          rw [hmeta]
          exact (h.placed _ _ hlive).name
        have hdrift := (Deployment.drifted_eq_false_iff _ _ _).mpr hruns
        refine ⟨.deployment, pass.cluster.deployment image, object, .replace, wanted, hname, hdrift,
          hserves .replace object hname hdrift hcount, ?_⟩
        unfold workloadStage
        dsimp only
        rw [if_neg hsome]
        exact (hacts.firstSome _).hasWorkload hunmet.1

/-- Over a fresh store a stage whose goal is not met acts. Then its goal is met, and what was met of
the goals that the pass pursues stays so. -/
theorem acts_stageFor (h : store.Fresh pass.ns pass.cluster)
    (hstatus : pass.status = pass.cluster.statusOrNew) {goal : Goal} (pursued : pass.Pursues goal)
    (hunmet : ¬ pass.cluster.Meets pass.settings store pass.ns goal) :
    ∃ result, pass.Acts (pass.stageFor goal) store result ∧
      pass.cluster.Meets pass.settings result pass.ns goal ∧
      ∀ other, pass.Pursues other → pass.cluster.Meets pass.settings store pass.ns other →
        pass.cluster.Meets pass.settings result pass.ns other := by
  cases goal with
  | object kind desired =>
      obtain ⟨wanted, hdeployment, hdaemonSet⟩ := pursued
      obtain ⟨verb, object, hwrites, hacts⟩ := acts_ensureStage h wanted hunmet
      have hname := hwrites.nameOf h.placed
      have hdrift := hwrites.drifted wanted
      exact ⟨_, hacts, holds_change verb hname hdrift, fun other pursued' hmet =>
        pursued'.change hmet wanted hdeployment hdaemonSet verb hname hdrift⟩
  | workload =>
      obtain ⟨kind, desired, object, verb, wanted, hname, hdrift, hserves, hacts⟩ :=
        acts_workloadStage h hstatus pursued hunmet
      refine ⟨_, hacts, hserves, fun other pursued' hmet => ?_⟩
      cases other with
      | object kind' desired' => exact Holds.change hmet pursued'.1 wanted verb hname hdrift
      | workload => exact hserves

/-- Of goals that are not all met there is a first one. -/
theorem exists_first_unmet {goals : List Goal} {met : Goal → Prop}
    (h : ¬ ∀ goal ∈ goals, met goal) :
    ∃ front goal rest, goals = front ++ goal :: rest ∧ (∀ other ∈ front, met other) ∧
      ¬ met goal := by
  induction goals with
  | nil => exact absurd (fun _ hmem => nomatch hmem) h
  | cons first goals ih =>
      by_cases hfirst : met first
      · have hrest : ¬ ∀ goal ∈ goals, met goal :=
          fun hall => h (List.forall_mem_cons.mpr ⟨hfirst, hall⟩)
        obtain ⟨front, goal, rest, rfl, hfront, hgoal⟩ := ih hrest
        exact ⟨first :: front, goal, rest, rfl, List.forall_mem_cons.mpr ⟨hfirst, hfront⟩, hgoal⟩
      · exact ⟨[], first, goals, rfl, fun _ hmem => (nomatch hmem), hfirst⟩

/-- Over a fresh store where some goal is not met yet, a pass ends with a change after which fewer
goals are left to do. -/
theorem advance (h : store.Fresh pass.ns pass.cluster)
    (hstatus : pass.status = pass.cluster.statusOrNew) {done todo : List Goal}
    (pursued : ∀ goal ∈ done ++ todo, pass.Pursues goal)
    (hdone : ∀ goal ∈ done, pass.cluster.Meets pass.settings store pass.ns goal)
    (htodo : ¬ ∀ goal ∈ todo, pass.cluster.Meets pass.settings store pass.ns goal)
    (rest : List Stage) :
    ∃ outcome after next done' todo',
      (firstSome ((done ++ todo).map pass.stageFor ++ rest)).run runner store =
        (.ok (some outcome), after) ∧
      outcome.requeue = true ∧ pass.cluster.Continues next ∧ after.Fresh pass.ns next ∧
      done' ++ todo' = done ++ todo ∧ todo'.length < todo.length ∧
      ∀ goal ∈ done', next.Meets pass.settings after pass.ns goal := by
  obtain ⟨front, goal, back, rfl, hfront, hgoal⟩ := exists_first_unmet htodo
  simp only [List.forall_mem_append, List.forall_mem_cons] at pursued
  obtain ⟨hpursued, hpursued', pursued, -⟩ := pursued
  obtain ⟨result, hacts, hmet, hkept⟩ := acts_stageFor h hstatus pursued hgoal
  -- the stages in front of the goal pass and leave the store as it is
  have hpasses : ∀ stage ∈ (done ++ front).map pass.stageFor,
      stage.run runner store = (.ok none, store) := by
    simp only [List.forall_mem_map, List.forall_mem_append]
    exact ⟨fun other hother => (pass.passes_stageFor other).of_goal (hdone other hother),
      fun other hother => (pass.passes_stageFor other).of_goal (hfront other hother)⟩
  have hstages : (done ++ (front ++ goal :: back)).map pass.stageFor ++ rest =
      (done ++ front).map pass.stageFor ++
        pass.stageFor goal :: (back.map pass.stageFor ++ rest) := by
    simp
  obtain ⟨outcome, after, next, hrun, hrequeue, hnext, hfresh, hsame⟩ :=
    Acts.firstSome_append hpasses (hacts.firstSome (back.map pass.stageFor ++ rest))
  refine ⟨outcome, after, next, done ++ front ++ [goal], back, ?_, hrequeue, hnext, hfresh,
    by simp, by simp; omega, ?_⟩
  · rw [hstages, hrun]
  · rw [(hnext.restated.goals pass.settings).2.2]
    simp only [List.forall_mem_append, List.forall_mem_cons, List.not_mem_nil, false_imp_iff,
      implies_true, and_true]
    exact ⟨⟨fun other hother => (hpursued other hother).congr
        (hkept other (hpursued other hother) (hdone other hother)) hsame,
      fun other hother => (hpursued' other hother).congr
        (hkept other (hpursued' other hother) (hfront other hother)) hsame⟩,
      pursued.congr hmet hsame⟩

/-- Over a fresh store the issuing stage issues what is pending, unless that was done before, and
stores its secret. What was met of the goals that the pass pursues stays so. -/
theorem run_issueStage (pass : Pass) (h : store.Fresh pass.ns pass.cluster) {step : CertStep}
    (pending : pass.cluster.pendingStep = some step) :
    ∃ outcome after version, pass.issueStage.run runner store = (.ok (some outcome), after) ∧
      outcome.requeue = true ∧
      after.Fresh pass.ns ((pass.cluster.stamped step).under version) ∧
      ∀ goal, pass.Pursues goal → pass.cluster.Meets pass.settings store pass.ns goal →
        pass.cluster.Meets pass.settings after pass.ns goal := by
  obtain ⟨spec, hstamped⟩ := pass.cluster.stamped_eq step
  have wanted : pass.Wants .certificate (pass.cluster.stepCertificate step) :=
    .stepCertificate pending
  -- a certificate that was created by an earlier pass is found, and only its secret is stored
  have hissue : ∃ created middle,
      (pass.ensureStage .certificate (pass.cluster.stepCertificate step)).run runner store =
        (.ok created, middle) ∧ OnlyChanges created ∧ middle.Fresh pass.ns pass.cluster ∧
      ∀ goal, pass.Pursues goal → pass.cluster.Meets pass.settings store pass.ns goal →
        pass.cluster.Meets pass.settings middle pass.ns goal := by
    by_cases hheld : store.Holds pass.ns .certificate (pass.cluster.stepCertificate step)
    · exact ⟨none, store, (pass.passes_ensureStage _ _).of_goal hheld, onlyChanges_none, h,
        fun _ _ hmet => hmet⟩
    · obtain ⟨ensured, verb, object, hrun, -, hwrites⟩ := run_ensure h hheld
      let name := Kind.certificate.nameOf (pass.cluster.stepCertificate step)
      refine ⟨ensured.outcome? name, store.change verb (.of .certificate pass.ns object) object, ?_,
        ensured.onlyChanges name, h.change verb wanted.kind_ne rfl, fun goal pursued hmet => ?_⟩
      · rw [ensureStage, run_bind, hrun]
        rfl
      · exact pursued.change hmet wanted (by decide) (by decide) verb (hwrites.nameOf h.placed)
          (hwrites.drifted wanted)
  obtain ⟨created, middle, hrun, hchange, hmiddle, hkept⟩ := hissue
  obtain ⟨after, version, hcall, hfresh, hsame⟩ := hmiddle.writeSpec spec
  refine ⟨created.getD .specUpdated, after, version, ?_, ?_, ?_, fun goal pursued hmet =>
    pursued.congr (hkept goal pursued hmet) hsame⟩
  · unfold issueStage
    rw [pending]
    dsimp only
    rw [hstamped, run_bind, hrun]
    exact run_call_of_ok hcall _
  · cases created with
    | none => rfl
    | some outcome => exact onlyChanges_some.mp hchange
  · rw [hstamped]
    exact hfresh

end Pass

end RouterOperator
