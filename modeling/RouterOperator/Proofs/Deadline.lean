import RouterOperator.Proofs.Settling
import RouterOperator.Proofs.Steps

/-!
# The deadline of a pass

Every read and every write of a pass stands behind a check of the deadline of its own, which says
what would come next. The one exception is the status write that records a change of the workload:
the change has been made by then, so it is recorded whatever the deadline. The first check that
finds the deadline exceeded ends the pass with nothing more called.
-/

namespace RouterOperator

namespace Pass

open Program

/-- What the checks of a pass say, and of which calls, in the light of the last exchange: an object
is changed under the name that it was just looked for. -/
inductive Announces (pass : Pass) : Option Exchange → String → StoreCall → Prop where
  | get {seen kind name} :
    Announces pass seen s!"get {kind.name} {name}" (.get kind pass.ns name)
  | create {kind} {desired : kind.Object} :
    Announces pass (some ⟨.get kind pass.ns (kind.nameOf desired), none⟩)
      s!"create {kind.name} {kind.nameOf desired}" (.create kind pass.ns desired)
  | update {kind} {desired live : kind.Object} :
    Announces pass (some ⟨.get kind pass.ns (kind.nameOf desired), some live⟩)
      s!"update {kind.name} {kind.nameOf desired}"
      (.replace kind pass.ns (kind.updated live desired))
  | scale {live : Deployment} :
    Announces pass (some ⟨.get .deployment pass.ns pass.cluster.name, some live⟩)
      s!"scale {Kind.deployment.name} {live.metadata.anyName}"
      (.replace .deployment pass.ns (pass.resized live))
  | spec {seen spec} : Announces pass seen "update Interconnect" (pass.specWrite spec)
  | status {seen status} :
    Announces pass seen "update Interconnect status" (pass.statusWrite status)
  | listPods {seen} :
    Announces pass seen "list pods" (.listPods pass.ns pass.cluster.labelSelector)

/-- How a pass records a write of the workload, in the light of what it has read of it: a status is
written if the workload is new, has another size or runs another image. -/
inductive Records (pass : Pass) : Option Exchange → StoreCall → List Move → Prop where
  | created {kind} {desired : kind.Object} {notice} (workload : kind.isWorkload = true) :
    Records pass (some ⟨.get kind pass.ns (kind.nameOf desired), none⟩)
      (.create kind pass.ns desired)
      [⟨none, pass.statusWrite pass.deployedStatus⟩,
        ⟨none, .publish { pass.cluster with status := some pass.deployedStatus } notice⟩]
  | upgraded {kind} {desired live : kind.Object} (workload : kind.isWorkload = true)
    (other : kind.runningImage live ≠ some pass.image) :
    Records pass (some ⟨.get kind pass.ns (kind.nameOf desired), some live⟩)
      (.replace kind pass.ns (kind.updated live desired))
      [⟨none, pass.statusWrite (pass.upgraded pass.status (kind.runningImage live))⟩]
  | refreshed {kind} {desired live : kind.Object} (workload : kind.isWorkload = true)
    (same : kind.runningImage live = some pass.image) :
    Records pass (some ⟨.get kind pass.ns (kind.nameOf desired), some live⟩)
      (.replace kind pass.ns (kind.updated live desired)) []
  | resized {live : Deployment} {notice} :
    Records pass (some ⟨.get .deployment pass.ns pass.cluster.name, some live⟩)
      (.replace .deployment pass.ns (pass.resized live))
      [⟨none, pass.statusWrite (pass.resizedStatus live)⟩,
        ⟨none, .publish { pass.cluster with status := some (pass.resizedStatus live) } notice⟩]

/-- A part of a pass has its checks where they belong. -/
abbrev KeepsTime {α : Type} (pass : Pass) (final : α → Prop) (seen : Option Exchange)
    (program : Program α) : Prop :=
  Program.Disciplined pass.Announces pass.Records final seen program

section stages

variable {α : Type} {pass : Pass} {final : α → Prop} {seen : Option Exchange} {kind : Kind}
  {desired : kind.Object}

/-- An object other than a workload is brought to its desired state. -/
theorem keepsTime_ensure (other : kind.isWorkload = false) (final : Ensured kind → Prop) :
    pass.KeepsTime final seen (pass.ensure kind desired) := by
  refine .check .get rfl fun reply => ?_
  cases reply with
  | none => exact .check .create other fun _ => .done
  | some live =>
      change pass.KeepsTime _ _ (if kind.drifted live desired = true then _ else _)
      split
      · exact .check .update other fun _ => .done
      · exact .done

theorem keepsTime_ensureStage (other : kind.isWorkload = false) (final : Option Outcome → Prop) :
    pass.KeepsTime final seen (pass.ensureStage kind desired) :=
  (keepsTime_ensure other fun _ => False).bind (fun _ h => h.elim) fun _ _ => .done

theorem keepsTime_writeStatus (status : InterconnectStatus) (final : Outcome → Prop) :
    pass.KeepsTime final seen (pass.writeStatus status) :=
  .check .status rfl fun _ => .done

theorem keepsTime_persistSpec (spec : InterconnectSpec) (final : Unit → Prop) :
    pass.KeepsTime final seen (persistSpec { pass.cluster with spec }) :=
  .check .spec rfl fun _ => .done

theorem keepsTime_accessStages (final : Option Outcome → Prop) :
    ∀ stage ∈ pass.accessStages, ∀ seen, pass.KeepsTime final seen stage := by
  simp only [accessStages, List.forall_mem_cons, List.not_mem_nil, false_imp_iff, implies_true,
    and_true]
  exact ⟨fun _ => keepsTime_ensureStage rfl final, fun _ => keepsTime_ensureStage rfl final,
    fun _ => keepsTime_ensureStage rfl final⟩

theorem keepsTime_issueStage (final : Option Outcome → Prop) :
    pass.KeepsTime final seen pass.issueStage := by
  unfold issueStage
  split
  · exact .done
  next step _ =>
    obtain ⟨spec, hstamped⟩ := pass.cluster.stamped_eq step
    rw [hstamped]
    refine (keepsTime_ensureStage rfl fun _ => False).bind (fun _ h => h.elim) fun _ _ => ?_
    exact (keepsTime_persistSpec spec fun _ => False).bind (fun _ h => h.elim) fun _ _ => .done

theorem keepsTime_certificateStages (final : Option Outcome → Prop) :
    ∀ stage ∈ pass.certificateStages, ∀ seen, pass.KeepsTime final seen stage := by
  unfold certificateStages
  simp only [List.forall_mem_append, List.forall_mem_cons, List.not_mem_nil, false_imp_iff,
    implies_true, and_true]
  refine ⟨?_, fun _ => keepsTime_ensureStage rfl final, fun _ => keepsTime_issueStage final⟩
  split
  · simp only [List.forall_mem_cons, List.not_mem_nil, false_imp_iff, implies_true, and_true]
    exact ⟨fun _ => keepsTime_ensureStage rfl final, fun _ => keepsTime_ensureStage rfl final⟩
  · simp

/-- The workload is brought to its desired state, and what was changed is recorded. -/
theorem keepsTime_ensureWorkload (workload : kind.isWorkload = true) :
    pass.KeepsTime (fun result => result.isSome = true) seen
      (pass.ensureWorkload kind desired kind.runningImage) := by
  unfold ensureWorkload
  dsimp only
  rw [ensure_bind]
  refine .check .get rfl fun reply => ?_
  cases reply with
  | none =>
      let outcome := Outcome.created kind (kind.nameOf desired)
      have rest (_ : Unit) : pass.workloadCreated outcome = script (some outcome)
          [⟨none, pass.statusWrite pass.deployedStatus⟩,
            ⟨none, .publish { pass.cluster with status := some pass.deployedStatus }
              ⟨.normal, "Deployed", s!"Router workload {outcome.text}"⟩⟩] := rfl
      exact .record .create (.created workload) rfl rest
  | some live =>
      let outcome := Outcome.updated kind (kind.nameOf desired)
      dsimp only
      split
      next =>
        by_cases same : kind.runningImage live = some pass.image
        · have rest (_ : Unit) : pass.workloadUpdated outcome (kind.runningImage live) =
              script (some outcome) [] := by
            rw [workloadUpdated, if_neg (fun other => other same)]
            rfl
          exact .record .update (.refreshed workload same) rfl rest
        · have rest (_ : Unit) : pass.workloadUpdated outcome (kind.runningImage live) =
              script (some outcome) [⟨none,
                pass.statusWrite (pass.upgraded pass.status (kind.runningImage live))⟩] := by
            rw [workloadUpdated, if_pos same]
            rfl
          exact .record .update (.upgraded workload same) rfl rest
      next => exact .done

theorem keepsTime_resizeStage :
    pass.KeepsTime (fun result => result.isSome = true) seen pass.resizeStage := by
  refine .check .get rfl fun reply => ?_
  cases reply with
  | none => exact .done
  | some live =>
      change pass.KeepsTime _ _ (if live.replicaCount = pass.cluster.spec.deploymentPlan.size
        then _ else _)
      split
      next => exact .done
      next =>
        change pass.KeepsTime _ _ (.check _ (.call (.replace .deployment pass.ns
          (pass.resized live)) fun _ => script (some (Outcome.updated .deployment _))
            [⟨none, pass.statusWrite _⟩,
              ⟨none, .publish { pass.cluster with status := some _ } _⟩]))
        rw [resizedStatus_eq]
        exact .record .scale .resized rfl fun _ => rfl

theorem keepsTime_hasWorkload (kind : Kind) (final : Bool → Prop) :
    pass.KeepsTime final seen (pass.hasWorkload kind) :=
  .check .get rfl fun _ => .done

theorem keepsTime_workloadStage :
    pass.KeepsTime (fun result => result.isSome = true) seen pass.workloadStage := by
  unfold workloadStage
  dsimp only
  split
  · refine (keepsTime_hasWorkload .deployment fun _ => False).bind (fun _ h => h.elim) ?_
    intro seen existing
    split
    · exact .done
    · exact keepsTime_ensureWorkload rfl
  · refine (keepsTime_hasWorkload .daemonSet fun _ => False).bind (fun _ h => h.elim) ?_
    intro seen existing
    split
    · exact .done
    · refine .firstSome ?_
      simp only [List.forall_mem_cons, List.not_mem_nil, false_imp_iff, implies_true, and_true]
      exact ⟨fun _ => keepsTime_resizeStage, fun _ => keepsTime_ensureWorkload rfl⟩

theorem keepsTime_exposureStage (listener : Listener) (final : Option Outcome → Prop) :
    pass.KeepsTime final seen (pass.exposureStage listener) := by
  unfold exposureStage
  split
  · exact keepsTime_ensureStage rfl final
  · exact keepsTime_ensureStage rfl final

theorem keepsTime_stages (requestCert : Bool) :
    pass.KeepsTime (fun result => result.isSome = true) seen
      (firstSome (pass.stages requestCert)) := by
  refine .firstSome ?_
  simp only [stages, List.forall_mem_append, List.forall_mem_cons, List.not_mem_nil,
    false_imp_iff, implies_true, and_true, List.forall_mem_map]
  refine ⟨⟨⟨keepsTime_accessStages _, ?_⟩, fun _ => keepsTime_ensureStage rfl _,
    fun _ => keepsTime_workloadStage, fun _ => keepsTime_ensureStage rfl _⟩,
    fun listener _ _ => keepsTime_exposureStage listener _⟩
  split
  · exact keepsTime_certificateStages _
  · simp

theorem keepsTime_aggregatePods (final : Outcome → Prop) :
    pass.KeepsTime final seen pass.aggregatePods := by
  refine .check .listPods rfl fun pods => ?_
  change pass.KeepsTime _ _ (if _ then done Outcome.idle else pass.writeStatus _)
  split
  · exact .done
  · exact keepsTime_writeStatus _ final

theorem keepsTime_walk (requestCert : Bool) :
    pass.KeepsTime (fun _ => True) seen (pass.walk requestCert) := by
  refine (keepsTime_stages requestCert).bind ?_ ?_
  · intro result hresult
    obtain ⟨outcome, rfl⟩ := Option.isSome_iff_exists.mp hresult
    exact ⟨outcome, rfl, trivial⟩
  · intro seen result
    cases result with
    | some outcome => exact .done
    | none => exact keepsTime_aggregatePods _

theorem keepsTime_block (reason : String) :
    pass.KeepsTime (fun _ => True) seen (pass.block reason) := by
  unfold block
  split
  · exact .check .status rfl fun _ => .notice .done
  · exact .done

theorem keepsTime_afterDefaults (requestCert : Bool) :
    pass.KeepsTime (fun _ => True) seen (pass.afterDefaults requestCert) := by
  unfold afterDefaults
  dsimp only
  split
  · exact keepsTime_block _
  · split
    · exact keepsTime_writeStatus _ _
    · exact keepsTime_walk requestCert

/-- A pass has its checks where they belong. -/
theorem keepsTime_program : pass.KeepsTime (fun _ => True) seen pass.program := by
  by_cases new : pass.status.revNumber = ""
  · rw [program_of_new new]
    exact keepsTime_writeStatus _ _
  · by_cases defaults : pass.cluster.spec.HasDefaults
    · rw [program_of_defaults new defaults]
      exact keepsTime_afterDefaults _
    · rw [program_of_lacking new defaults]
      exact (keepsTime_persistSpec _ fun _ => False).bind (fun _ h => h.elim) fun _ _ => .done

end stages

section runs

variable {σ : Type} {pass : Pass} {runner : Runner σ} {state : σ} {front rest : List (σ × Step)}
  {step : σ × Step} {seen : Option Exchange} {write : StoreCall} {moves : List Move}

/-- The record of a write is a status write, with at most a notice behind it. -/
theorem Records.called (h : pass.Records seen write moves) {outcome : Outcome}
    (hsteps : (script outcome moves).steps runner state = front ++ step :: rest) :
    ∃ request answer, step.2 = .called request answer ∧
      (request.isNotice = true ∨ front = [] ∧ ∃ status, request = pass.statusWrite status) := by
  have unchecked : ∀ move ∈ moves, move.before = none := by
    cases h <;> simp
  obtain ⟨move, answer, hmove, hstep⟩ := called_of_script unchecked hsteps
  refine ⟨move.request, answer, hstep, ?_⟩
  -- the first call of a record writes the status, and a second one is the notice
  cases front with
  | nil =>
      cases h with
      | refreshed => simp at hmove
      | _ =>
          cases hmove
          exact .inr ⟨rfl, _, rfl⟩
  | cons first front =>
      cases front with
      | nil =>
          cases h with
          | refreshed | upgraded => simp at hmove
          | created | resized =>
              cases hmove
              exact .inl rfl
      | cons second front => cases h <;> simp at hmove

theorem Records.writesWorkload (h : pass.Records seen write moves) :
    write.writesWorkload = true := by
  cases h with
  | created workload | upgraded workload | refreshed workload => exact workload
  | resized => rfl

/-- A pass over a cluster that has failed, and still fails for the same reason. -/
structure StaysBlocked (pass : Pass) : Prop where
  touched : pass.status.revNumber ≠ ""
  failed : pass.status.phase = .failed
  normalized :
    (pass.cluster.spec.normalize pass.settings.capabilities.certManager).spec = pass.cluster.spec
  uncertified : pass.settings.capabilities.certManager = false
  lacking : pass.cluster.spec.unsatisfiable ≠ []

/-- What the runs of a pass have to do with the deadline. -/
structure ObservesDeadline (pass : Pass) (program : Program Outcome) (runner : Runner σ)
    (state : σ) : Prop where
  /-- A call comes directly behind a check that announces it and was passed in the same state, but
  for notices and for a status write directly behind a write of the workload. -/
  checked : ∀ front found request answer rest,
    program.steps runner state = front ++ (found, .called request answer) :: rest →
      request.isNotice = true ∨
      (∃ earlier before, front = earlier ++ [(found, .passed before)] ∧
        pass.Announces (lastExchange none earlier) before request) ∨
      ∃ earlier written write reply status,
        front = earlier ++ [(written, .called write (.ok reply))] ∧
          write.writesWorkload = true ∧ request = pass.statusWrite status
  /-- The first check that fails is the end. It announces the call that would come next. -/
  stopped : ∀ front late before rest,
    program.steps runner state = front ++ (late, .stopped before) :: rest →
      rest = [] ∧ program.run runner state = (.error (.deadlineExceeded before), late) ∧
      ∃ request answer later, pass.Announces (lastExchange none front) before request ∧
        program.steps runner.unhurried state =
          front ++ (late, .passed before) :: (late, .called request answer) :: later
  /-- Behind a write of the workload there are no more checks: it is recorded, and that is all. -/
  recorded : ∀ front written write reply rest,
    program.steps runner state = front ++ (written, .called write (.ok reply)) :: rest →
      write.writesWorkload = true →
        ∃ moves outcome, pass.Records (lastExchange none front) write moves ∧
          rest = (script outcome moves).steps runner (runner.call write written).2 ∧
          program.run runner state = (script outcome moves).run runner (runner.call write written).2
  /-- Where the deadline is exceeded from the start nothing is called and nothing changes. -/
  expired : runner.expired state = true →
    program.trace runner state = [] ∧ (program.run runner state).2 = state ∧
      (pass.cluster.metadata.ns = none →
        (program.run runner state).1 = .error (.missingObjectKey "namespace")) ∧
      (pass.cluster.metadata.ns ≠ none → pass.StaysBlocked →
        (program.run runner state).1 =
          .ok (.blocked (blockedReason pass.cluster.spec.unsatisfiable))) ∧
      (pass.cluster.metadata.ns ≠ none → ¬ pass.StaysBlocked →
        ∃ before request, pass.Announces none before request ∧
          (program.run runner state).1 = .error (.deadlineExceeded before))

/-- A pass begins with a check, unless there is nothing to do for it. -/
theorem program_begins (pass : Pass) :
    (pass.StaysBlocked ∧
      pass.program = .done (.blocked (blockedReason pass.cluster.spec.unsatisfiable))) ∨
    (¬ pass.StaysBlocked ∧ ∃ before request next, pass.Announces none before request ∧
      pass.program = .check before (.call request next)) := by
  by_cases new : pass.status.revNumber = ""
  · rw [program_of_new new]
    exact .inr ⟨fun h => h.touched new, _, _, _, .status, rfl⟩
  · by_cases defaults : pass.cluster.spec.HasDefaults
    · rw [program_of_defaults new defaults]
      by_cases satisfiable : pass.cluster.spec.Satisfiable pass.settings
      · have hstays : ¬ pass.StaysBlocked := by
          intro h
          refine InterconnectSpec.not_satisfiable_iff.mpr ⟨h.uncertified, ?_⟩ satisfiable
          have hlacking := h.lacking
          rw [ne_eq, ← List.isEmpty_iff, InterconnectSpec.unsatisfiable_isEmpty] at hlacking
          simpa using hlacking
        by_cases phase : pass.status.phase = .failed
        · rw [afterDefaults_of_failed satisfiable phase]
          exact .inr ⟨hstays, _, _, _, .status, rfl⟩
        · rw [afterDefaults_of_open satisfiable phase]
          exact .inr ⟨hstays, _, _, _, .get, rfl⟩
      · rw [afterDefaults_of_unsatisfiable satisfiable]
        obtain ⟨huncertified, hlacking⟩ := InterconnectSpec.not_satisfiable_iff.mp satisfiable
        unfold block
        split
        next phase => exact .inr ⟨fun h => phase h.failed, _, _, _, .status, rfl⟩
        next phase =>
          refine .inl ⟨⟨new, Classical.not_not.mp phase, ?_, huncertified, ?_⟩, rfl⟩
          · exact (InterconnectSpec.normalize_spec_eq_iff _ _).mpr defaults
          · rw [ne_eq, ← List.isEmpty_iff, InterconnectSpec.unsatisfiable_isEmpty]
            simp [hlacking]
    · rw [program_of_lacking new defaults]
      refine .inr ⟨fun h => defaults ?_, _, _, _, .spec, rfl⟩
      exact (InterconnectSpec.normalize_spec_eq_iff _ _).mp h.normalized

theorem lastExchange_passed (earlier : List (σ × Step)) (found : σ) (before : String) :
    lastExchange none (earlier ++ [(found, .passed before)]) = lastExchange none earlier := by
  rw [lastExchange, List.foldl_append]
  rfl

theorem observesDeadline_program (pass : Pass) (runner : Runner σ) (state : σ)
    (hns : pass.cluster.metadata.ns ≠ none) :
    pass.ObservesDeadline pass.program runner state := by
  have horderly {front rest : List (σ × Step)} {step : σ × Step}
      (hsteps : pass.program.steps runner state = front ++ step :: rest) :
      Orderly pass.Announces pass.Records runner none (pass.program.run runner state)
        (pass.program.steps runner.unhurried state) front step rest :=
    keepsTime_program.orderly hsteps
  refine ⟨?_, ?_, ?_, ?_⟩
  · intro front found request answer rest hsteps
    cases horderly hsteps with
    | checked announced => exact .inr (.inl ⟨_, _, rfl, announced⟩)
    | notice => exact .inl rfl
    | record recorded steps =>
        obtain ⟨request, answer, hstep, hcalled⟩ := recorded.called steps
        cases hstep
        rcases hcalled with hnotice | ⟨rfl, status, hstatus⟩
        · exact .inl hnotice
        · exact .inr (.inr ⟨_, _, _, _, status, rfl, recorded.writesWorkload, hstatus⟩)
  · intro front late before rest hsteps
    cases horderly hsteps with
    | stopped announced ends suppressed =>
        obtain ⟨answer, later, hunhurried⟩ := suppressed
        exact ⟨rfl, ends, _, answer, later, announced, hunhurried⟩
    | record recorded steps =>
        obtain ⟨request, answer, hstep, -⟩ := recorded.called steps
        cases hstep
  · intro front written write reply rest hsteps workload
    cases horderly hsteps with
    | checked announced recorded =>
        rw [lastExchange_passed]
        exact recorded workload reply rfl
    | notice => cases workload
    | record recorded steps =>
        -- what records a write of the workload is no such write
        obtain ⟨request, answer, hstep, hcalled⟩ := recorded.called steps
        cases hstep
        rcases hcalled with hnotice | ⟨-, status, rfl⟩
        · cases write with
          | publish => cases workload
          | _ => cases hnotice
        · cases workload
  · intro expired
    rcases pass.program_begins with ⟨hstays, hprogram⟩ | ⟨hstays, before, request, next,
      announced, hprogram⟩
    · rw [hprogram]
      exact ⟨rfl, rfl, fun h => absurd h hns, fun _ _ => rfl, fun _ h => absurd hstays h⟩
    · obtain ⟨hrun, htrace⟩ := run_check_of_expired expired before (Program.call request next)
      rw [hprogram, hrun]
      exact ⟨htrace, rfl, fun h => absurd h hns, fun _ h => absurd h hstays,
        fun _ _ => ⟨before, request, announced, rfl⟩⟩

end runs

end Pass

/-- Whatever the store answers and whenever the deadline is exceeded, a run of a pass observes the
deadline: each read and each write is made directly behind a passed check of its own, but for the
record of a workload that was written, which is made whatever the deadline; the first check that
fails ends the pass in front of the call that it announces; and where the deadline is exceeded from
the start the pass calls nothing. -/
theorem pass_observes_deadline {σ : Type} (runner : Runner σ) (state : σ) (settings : Settings)
    (now : Timestamp) (cluster : Interconnect) :
    (cluster.freshPass cluster.space settings now).ObservesDeadline
      (reconcile settings now cluster) runner state := by
  cases hns : cluster.metadata.ns with
  | none =>
      rw [reconcile, hns]
      refine ⟨?_, ?_, ?_, fun _ => ⟨rfl, rfl, fun _ => rfl, ?_, ?_⟩⟩
      · simp [Program.steps]
      · simp [Program.steps]
      · simp [Program.steps]
      · exact fun h => absurd hns h
      · exact fun h => absurd hns h
  | some ns =>
      have hspace : cluster.space = ns := by
        rw [Interconnect.space, ObjectMeta.anySpace, hns]
        rfl
      have hprogram : reconcile settings now cluster =
          (cluster.freshPass cluster.space settings now).program := by
        rw [reconcile, hns, hspace]
        rfl
      rw [hprogram]
      refine Pass.observesDeadline_program _ runner state ?_
      exact fun h => absurd (hns.symm.trans h) (Option.some_ne_none ns)

/-- A bare store in which one call takes all the time that a pass has. -/
def slowStart : Simulation where
  callCost := 1
  deadline := 1

theorem slow_pass_stops_before_role :
    ∃ late,
      (reconcile {} default runningCluster).steps Simulation.runner slowStart =
        [(slowStart, .passed s!"get {Kind.role.name} {runningCluster.name}"),
          (slowStart, .called (.get .role "msg" "amq") (.ok none)),
          (late, .stopped s!"create {Kind.role.name} {runningCluster.name}")] ∧
      (reconcile {} default runningCluster).run Simulation.runner slowStart =
        (.error (.deadlineExceeded s!"create {Kind.role.name} {runningCluster.name}"), late) := by
  have hsteps : (reconcile {} default runningCluster).steps Simulation.runner slowStart =
      [(slowStart, .passed s!"get {Kind.role.name} {runningCluster.name}"),
        (slowStart, .called (.get .role "msg" "amq") (.ok none)),
        ((slowStart.call (.get .role "msg" "amq")).2,
          .stopped s!"create {Kind.role.name} {runningCluster.name}")] := rfl
  have hobserved := pass_observes_deadline Simulation.runner slowStart {} default runningCluster
  obtain ⟨-, hend, -⟩ := hobserved.stopped [_, _] _ _ [] hsteps
  exact ⟨_, hsteps, hend⟩

end RouterOperator
