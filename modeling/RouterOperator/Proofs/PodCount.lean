import RouterOperator.Proofs.OneWorkload
import RouterOperator.Proofs.Store.Strikes

/-!
# The number of routers that routers are told

Routers are told in their environment how many of them there are, and the deployment says how many
there are to be. The two numbers stand in different parts of the deployment, which is written in
three ways: anew, brought to another size, or brought to another template at the size that it has.
Each way leaves both numbers at what the cluster asks for, with all else that the routers are to
run, so a deployment needs to be written once and is never seen with one number old and one new.
-/

namespace RouterOperator

/-- The value of an environment variable that is set to one. -/
def Container.value? (container : Container) (name : String) : Option String :=
  ((container.env.getD []).find? (·.name = name)).bind (·.value)

namespace Deployment

/-- The only container of the pods. -/
def container (deployment : Deployment) : Option Container :=
  deployment.template.bind (·.onlyContainer)

/-- The number of routers that the routers are told. -/
def podCount (deployment : Deployment) : Option String :=
  deployment.container.bind (·.value? "POD_COUNT")

/-- The routers are told how many of them there are to be. -/
def InStep (deployment : Deployment) : Prop :=
  deployment.podCount = some (toString deployment.replicaCount.toInt)

/-- A deployment runs the routers of a cluster, as many as are asked for, and tells them so. -/
structure Deploys (deployment : Deployment) (cluster : Interconnect) (image : String) : Prop where
  size : deployment.replicaCount = cluster.spec.deploymentPlan.size
  container : deployment.container = some (cluster.routerContainer image)
  count : deployment.podCount = some (toString cluster.spec.deploymentPlan.size.toInt)
  settled : deployment.drifted (cluster.deployment image) = false

variable {live : Deployment} {cluster : Interconnect} {image : String}

theorem Deploys.inStep (h : live.Deploys cluster image) : live.InStep := by
  rw [InStep, h.count, h.size]

/-- The container that is built for a cluster tells its size. -/
theorem deploys_of (hsize : live.replicaCount = cluster.spec.deploymentPlan.size)
    (hcontainer : live.container = some (cluster.routerContainer image))
    (hruns : live.Runs cluster image) : live.Deploys cluster image := by
  refine ⟨hsize, hcontainer, ?_, (drifted_eq_false_iff live cluster image).mpr hruns⟩
  rw [podCount, hcontainer]
  simp [Container.value?, Interconnect.routerContainer, Interconnect.routerEnv, EnvVar.ofValue]

theorem container_updated (live : Deployment) (cluster : Interconnect) (image : String) :
    (live.updated (cluster.deployment image)).container =
      some (cluster.routerContainer image) := by
  cases hspec : live.spec with
  | none =>
      have hupdated : (live.updated (cluster.deployment image)).template =
          some (cluster.podTemplate image) := by
        simp [template, updated, hspec, Interconnect.deployment]
      rw [container, hupdated]
      rfl
  | some spec =>
      have hupdated : (live.updated (cluster.deployment image)).template =
          some (spec.template.updated (cluster.podTemplate image)) := by
        simp [template, updated, hspec, Interconnect.deployment]
      rw [container, hupdated]
      rfl

theorem container_resized (live : Deployment) (size : Int32) :
    (live.resized size).container = live.container := by
  have hresized : (live.resized size).template = live.template := by
    rw [template, template, resized, Option.map_map]
    rfl
  rw [container, container, hresized]

/-- A new deployment, an update at the size that is asked for, and a resize of an update all deploy
the cluster. -/
theorem deploys_deployment (cluster : Interconnect) (image : String) :
    (cluster.deployment image).Deploys cluster image :=
  deploys_of rfl rfl (runs_deployment cluster image)

theorem deploys_updated (hsize : live.replicaCount = cluster.spec.deploymentPlan.size) :
    (live.updated (cluster.deployment image)).Deploys cluster image :=
  deploys_of (replicaCount_updated hsize) (container_updated live cluster image)
    (runs_updated live cluster image)

theorem deploys_resized (live : Deployment) (cluster : Interconnect) (image : String) :
    ((live.updated (cluster.deployment image)).resized
      cluster.spec.deploymentPlan.size).Deploys cluster image := by
  have hruns := runs_updated live cluster image
  exact deploys_of (hruns.replicaCount_resized _)
    ((container_resized _ _).trans (container_updated live cluster image)) (hruns.resized _)

/-- What a deployment deploys is a matter of its specification, and of the name and the
specification of the cluster. -/
theorem Deploys.congr {other : Deployment} {next : Interconnect} (h : live.Deploys cluster image)
    (hlive : other.spec = live.spec) (hname : next.name = cluster.name)
    (hspec : next.spec = cluster.spec) : other.Deploys next image := by
  have htemplate : other.template = live.template := by rw [template, template, hlive]
  have hcount : other.replicaCount = live.replicaCount := by
    rw [replicaCount, replicaCount, hlive]
  have hother : other.container = live.container := by
    rw [Deployment.container, Deployment.container, htemplate]
  have hcontainer : next.routerContainer image = cluster.routerContainer image := by
    simp only [Interconnect.routerContainer, Interconnect.routerImage, Interconnect.routerEnv,
      Interconnect.routerPorts, Interconnect.routerMounts, Interconnect.profileSecrets, hname,
      hspec]
  have hvolumes : next.routerVolumes = cluster.routerVolumes := by
    simp only [Interconnect.routerVolumes, Interconnect.profileSecrets, hname, hspec]
  have hruns : live.Runs cluster image := (drifted_eq_false_iff _ _ _).mp h.settled
  refine deploys_of ?_ ?_ ?_
  · rw [hcount, hspec, h.size]
  · rw [hother, hcontainer, h.container]
  · rw [Runs, htemplate, hcontainer, hvolumes]
    exact hruns

end Deployment

/-- The deployment that an object is, if it is one. -/
def Kind.deployment? : (kind : Kind) → kind.Object → Option Deployment
  | .deployment, object => some object
  | _, _ => none

theorem Kind.deployment?_of_other {kind : Kind} (h : kind.isWorkload = false)
    (object : kind.Object) : kind.deployment? object = none := by
  cases kind <;> first | rfl | cases h

/-- The deployment that a call stores, if it stores one. -/
def StoreCall.deployment? : StoreCall → Option Deployment
  | create kind _ object | replace kind _ object => kind.deployment? object
  | _ => none

theorem StoreCall.deployment?_of_isRead {request : StoreCall} (h : request.isRead = true) :
    request.deployment? = none := by
  cases request with
  | get | listPods => rfl
  | _ => cases h

namespace Pass

variable {pass : Pass} {known : List Exchange} {moves : List Move} {outcome : Outcome}
  {store : MemoryStore}

/-- The deployments that a pass stores: none, or a single one, which deploys the cluster, where none
that does was stored before. -/
inductive Deploying (pass : Pass) (store : MemoryStore) (stored : List Deployment) : Prop where
  | spares (none : stored = [])
  | deploys {deployment : Deployment} (single : stored = [deployment])
    (deploys : deployment.Deploys pass.cluster pass.settings.routerImage)
    (needed : ∀ live : Deployment,
      store.object? ⟨.deployment, pass.ns, pass.cluster.name⟩ = some live →
        ¬ live.Deploys pass.cluster pass.settings.routerImage)

theorem Deploying.initial {stored first : List Deployment} (h : pass.Deploying store stored)
    (hfirst : first <+: stored) : pass.Deploying store first := by
  cases h with
  | spares none =>
      subst none
      exact .spares (List.prefix_nil.mp hfirst)
  | deploys single deploys needed =>
      subst single
      rcases List.prefix_cons_iff.mp hfirst with hnone | ⟨rest, rfl, hrest⟩
      · exact .spares hnone
      · rw [List.prefix_nil.mp hrest]
        exact .deploys rfl deploys needed

/-- The stage for the workload knows the size of a live deployment before it updates one. -/
theorem Action.deploying {goal : Goal} (h : pass.Action known goal moves outcome)
    (answers : ∀ exchange ∈ known, store.Answers exchange) :
    pass.Deploying store (moves.filterMap (·.request.deployment?)) := by
  have hlive {front : List Exchange} {name : String} {reply : Option Deployment}
      (answers : ∀ exchange ∈ front ++ [⟨.get .deployment pass.ns name, reply⟩],
        store.Answers exchange) : store.object? ⟨.deployment, pass.ns, name⟩ = reply := by
    have hread : store.Answers ⟨.get .deployment pass.ns name, reply⟩ :=
      (MemoryStore.answers_concat answers).2
    exact Except.ok.inj hread
  -- a live deployment that is updated in place was found to have its size
  have hupdated {front : List Exchange} {live : Deployment} (sized : pass.Sized front .deployment)
      (answers : ∀ exchange ∈ front ++ [⟨.get .deployment pass.ns pass.cluster.name, some live⟩],
        store.Answers exchange)
      (hdrift : live.drifted (pass.cluster.deployment pass.settings.routerImage) = true)
      {stored : List Deployment}
      (hstored : stored = [live.updated (pass.cluster.deployment pass.settings.routerImage)]) :
      pass.Deploying store stored := by
    obtain ⟨reply, hread, hsize⟩ := sized rfl
    have hreply := MemoryStore.object?_of_answers (MemoryStore.answers_concat answers).1 hread
    have hsame : reply = some live := hreply.symm.trans (hlive answers)
    refine .deploys hstored (Deployment.deploys_updated (hsize live hsame)) fun other hother => ?_
    obtain rfl := Option.some.inj ((hlive answers).symm.trans hother)
    exact fun hdeploys => nomatch hdeploys.settled.symm.trans hdrift
  cases h with
  | create derived other =>
      exact .spares (by simp [StoreCall.deployment?, Kind.deployment?_of_other other])
  | update derived other =>
      exact .spares (by simp [StoreCall.deployment?, Kind.deployment?_of_other other])
  | issue => exact .spares rfl
  | deploy selected =>
      cases selected with
      | daemonSet => exact .spares rfl
      | deployment =>
          refine .deploys rfl (Deployment.deploys_deployment _ _) fun live hstored => ?_
          exact nomatch (hlive answers).symm.trans hstored
  | refresh selected sized drift =>
      cases selected with
      | daemonSet => exact .spares rfl
      | deployment => exact hupdated sized answers drift rfl
  | upgrade selected sized drift =>
      cases selected with
      | daemonSet => exact .spares rfl
      | deployment => exact hupdated sized answers drift rfl
  | resize selected other =>
      refine .deploys rfl (Deployment.deploys_resized _ _ _) fun live hstored => ?_
      obtain rfl := Option.some.inj ((hlive answers).symm.trans hstored)
      exact fun hdeploys => other hdeploys.size

theorem Decision.deploying (h : pass.Decision known moves outcome)
    (answers : ∀ exchange ∈ known, store.Answers exchange) :
    pass.Deploying store (moves.filterMap (·.request.deployment?)) := by
  cases h with
  | act walks listed shown action => exact action.deploying answers
  | _ => exact .spares rfl

open Program in
/-- Whatever cuts a pass short, it stores a deployment once at most. -/
theorem deploying_program (pass : Pass) (simulation : Simulation) :
    pass.Deploying simulation.store
      ((pass.program.trace Simulation.runner simulation).filterMap (·.2.deployment?)) := by
  have hreads {entries : List (Simulation × StoreCall)}
      (h : ∀ entry ∈ entries, entry.2.isRead = true) :
      entries.filterMap (·.2.deployment?) = [] :=
    List.filterMap_eq_nil_iff.mpr fun entry hentry =>
      StoreCall.deployment?_of_isRead (h entry hentry)
  cases simulation.passCourse pass with
  | stopped same reads => exact .spares (hreads reads)
  | @decided known moves outcome after front decision answers store armed run reads trace =>
      have hmade := (trace_script_initial Simulation.runner outcome moves after).filterMap
        StoreCall.deployment?
      rw [List.filterMap_map, List.filterMap_map] at hmade
      rw [trace, List.filterMap_append, hreads reads, List.nil_append]
      exact (decision.deploying answers).initial hmade

end Pass

namespace MemoryStore

open Program

theorem run_of_other_size {settings : Settings} {ns : String} {store : MemoryStore}
    {cluster : Interconnect} {live : Deployment} (h : store.Fresh ns cluster)
    (underway : cluster.Underway settings) (ready : cluster.spec.Ready)
    (hplacement : cluster.runsOnEveryNode = false)
    (hgoals : ∀ goal ∈ cluster.accessGoals ++ [.object .configMap cluster.configMap],
      cluster.Meets settings store ns goal)
    (habsent : store.object? ⟨.daemonSet, ns, cluster.name⟩ = none)
    (hlive : store.object? ⟨.deployment, ns, cluster.name⟩ = some live)
    (hsize : live.replicaCount ≠ cluster.spec.deploymentPlan.size) (now : Timestamp) :
    ∃ stored : Deployment, stored.replicaCount = cluster.spec.deploymentPlan.size ∧
      ((cluster.freshPass ns settings now).program.run runner store).2.object?
        ⟨.deployment, ns, cluster.name⟩ = some stored := by
  let pass := cluster.freshPass ns settings now
  have hpass : store.Fresh pass.ns pass.cluster := h
  obtain ⟨object, hmeta, -, hcount, hacts⟩ := Pass.acts_resizeStage hpass rfl hlive hsize
  let result := store.change .replace (.of .deployment pass.ns object) object
  have hstage : pass.Acts pass.workloadStage store result := by
    unfold Pass.workloadStage
    dsimp only
    rw [if_neg (by simp [pass, Interconnect.freshPass, hplacement])]
    exact (hacts.firstSome _).hasWorkload (Option.not_isSome_iff_eq_none.mpr habsent)
  obtain ⟨rest, hstages⟩ : ∃ rest, pass.stages false =
      (cluster.accessGoals ++ [Goal.object .configMap cluster.configMap]).map pass.stageFor ++
        pass.workloadStage :: rest := ⟨_, by rw [pass.stages_eq_goals]; rfl⟩
  have hfront : ∀ stage ∈ (cluster.accessGoals ++ [Goal.object .configMap cluster.configMap]).map
      pass.stageFor, stage.run runner store = (.ok none, store) := by
    simp only [List.forall_mem_map]
    exact fun goal hgoal => (pass.passes_stageFor goal).of_goal (hgoals goal hgoal)
  have hwalk : pass.Acts (firstSome (pass.stages false)) store result := by
    rw [hstages]
    exact (hstage.firstSome rest).firstSome_append hfront
  obtain ⟨outcome, after, next, hrun, -, -, -, hsame⟩ := hwalk
  have hprogram : (pass.program.run runner store).2 = after := by
    rw [Fresh.program_eq underway, ready.any_isIncomplete, Bool.false_and, Pass.walk, run_bind,
      hrun]
    rfl
  have hname : object.metadata.anyName = cluster.name := by
    rw [hmeta]
    exact (h.placed _ _ hlive).name
  have hstored : result.object? ⟨.deployment, ns, cluster.name⟩ =
      some (Kind.deployment.withVersion object (toString (store.version + 1))) := by
    rw [← hname]
    exact object?_put_self store (.of .deployment ns object) object
  refine ⟨Kind.deployment.withVersion object (toString (store.version + 1)), hcount, ?_⟩
  rw [hprogram]
  exact (hsame _ (by simp)).trans hstored

end MemoryStore

namespace Simulation

variable {start current : Simulation} {ns name : String} {live : Deployment}

/-- The deployments that a pass stores, in order. -/
def deploymentsOf (simulation : Simulation) (settings : Settings) (now : Timestamp)
    (limits : PassLimits) (cluster : Interconnect) : List Deployment :=
  ((reconcile settings now cluster).trace runner (simulation.started limits)).filterMap
    (·.2.deployment?)

theorem deploying_reconcile (simulation : Simulation) (settings : Settings) (now : Timestamp)
    (limits : PassLimits) (cluster : Interconnect) :
    (cluster.freshPass cluster.space settings now).Deploying simulation.store
      (simulation.deploymentsOf settings now limits cluster) := by
  cases hns : cluster.metadata.ns with
  | none =>
      refine .spares ?_
      rw [deploymentsOf, reconcile, hns]
      rfl
  | some ns =>
      obtain rfl : cluster.space = ns := by
        simp [Interconnect.space, ObjectMeta.anySpace, hns]
      rw [deploymentsOf, Interconnect.reconcile_eq hns]
      exact Pass.deploying_program _ (simulation.started limits)

/-- A deployment that is stored after a call was stored before, or the call has stored it. -/
theorem deployment_call (request : StoreCall)
    (h : (current.call request).2.store.object? ⟨.deployment, ns, name⟩ = some live) :
    current.store.object? ⟨.deployment, ns, name⟩ = some live ∨
      ∃ stored, request.deployment? = some stored ∧ live.spec = stored.spec := by
  have hbefore := (current.facing_sameObjects request).object? ⟨.deployment, ns, name⟩
  rw [call_store] at h
  rw [← hbefore]
  have hput {store : MemoryStore} {verb : Verb} {key : ObjectKey} {object : key.kind.Object}
      (h : (store.change verb key object).object? ⟨.deployment, ns, name⟩ = some live) :
      store.object? ⟨.deployment, ns, name⟩ = some live ∨
        ∃ stored, key.kind.deployment? object = some stored ∧ live.spec = stored.spec := by
    by_cases hkey : (⟨.deployment, ns, name⟩ : ObjectKey) = key
    · subst hkey
      rw [MemoryStore.object?_change, MemoryStore.object?_put_self] at h
      cases h
      exact .inr ⟨object, rfl, rfl⟩
    · rw [MemoryStore.object?_change_of_ne hkey] at h
      exact .inl h
  rcases (current.facing request).call_cases request with hwrote | hsame
  · generalize ((current.facing request).call request).2 = after at h hwrote
    cases hwrote with
    | created absent => exact hput h
    | replaced found version => exact hput h
    | clusterReplaced found version => exact hput h
    | statusReplaced found version => exact hput h
  · rw [hsame.object?] at h
    exact .inl h

theorem deploys_of_mem {settings : Settings} {now : Timestamp} {limits : PassLimits}
    {cluster : Interconnect} (h : live ∈ current.deploymentsOf settings now limits cluster) :
    live.Deploys cluster settings.routerImage := by
  cases deploying_reconcile current settings now limits cluster with
  | spares none =>
      rw [none] at h
      cases h
  | deploys single deploys needed =>
      rw [single] at h
      obtain rfl := List.mem_singleton.mp h
      exact deploys

/-- A deployment that is stored after a pass was stored before, or the pass has stored it. -/
theorem deployment_pass (settings : Settings) (now : Timestamp) (limits : PassLimits)
    (cluster : Interconnect)
    (h : (current.pass settings now limits cluster).2.store.object? ⟨.deployment, ns, name⟩ =
      some live) :
    current.store.object? ⟨.deployment, ns, name⟩ = some live ∨
      ∃ stored ∈ current.deploymentsOf settings now limits cluster, live.spec = stored.spec := by
  let traced (state : Simulation) : Prop := ∀ live : Deployment,
    state.store.object? ⟨.deployment, ns, name⟩ = some live →
      current.store.object? ⟨.deployment, ns, name⟩ = some live ∨
        ∃ stored ∈ current.deploymentsOf settings now limits cluster, live.spec = stored.spec
  have hstarted : traced (current.started limits) := fun live hlive => .inl hlive
  have hcall : ∀ entry ∈ (reconcile settings now cluster).trace runner (current.started limits),
      traced entry.1 → traced (runner.call entry.2 entry.1).2 := by
    intro entry hentry htraced live hlive
    rcases deployment_call entry.2 hlive with hbefore | ⟨stored, hstored, hspec⟩
    · exact htraced live hbefore
    · exact .inr ⟨stored, List.mem_filterMap.mpr ⟨entry, hentry, hstored⟩, hspec⟩
  exact (Program.invariant_of_trace hstarted hcall).2 live h

/-- With all that comes before the workload in place, a pass that nothing interferes with brings a
deployment to its size. -/
theorem pass_of_other_size {simulation : Simulation} {settings : Settings} {cluster : Interconnect}
    (harmed : simulation.armed = none) (h : simulation.store.Fresh ns cluster)
    (underway : cluster.Underway settings) (ready : cluster.spec.Ready)
    (hplacement : cluster.runsOnEveryNode = false)
    (hgoals : ∀ goal ∈ cluster.accessGoals ++ [.object .configMap cluster.configMap],
      cluster.Meets settings simulation.store ns goal)
    (habsent : simulation.store.object? ⟨.daemonSet, ns, cluster.name⟩ = none)
    (hlive : simulation.store.object? ⟨.deployment, ns, cluster.name⟩ = some live)
    (hsize : live.replicaCount ≠ cluster.spec.deploymentPlan.size) (now : Timestamp) :
    ∃ stored : Deployment, stored.replicaCount = cluster.spec.deploymentPlan.size ∧
      (simulation.pass settings now {} cluster).2.store.object? ⟨.deployment, ns, cluster.name⟩ =
        some stored := by
  have hstore : (simulation.pass settings now {} cluster).2.store =
      ((cluster.freshPass ns settings now).program.run MemoryStore.runner simulation.store).2 := by
    rw [← Interconnect.reconcile_eq h.space]
    exact (run_started_eq harmed _).2
  rw [hstore]
  exact MemoryStore.run_of_other_size h underway ready hplacement hgoals habsent hlive hsize now

/-- A stored deployment is in step, or it is as it was at the start, or others have put it there. -/
def Traced (start : Simulation) (occurrences : List Occurrence) (current : Simulation) : Prop :=
  ∀ (ns name : String) (live : Deployment),
    current.store.object? ⟨.deployment, ns, name⟩ = some live → live.InStep ∨
      start.store.object? ⟨.deployment, ns, name⟩ = some live ∨
        ∃ given : Deployment, .insert .deployment given ∈ occurrences ∧ live.spec = given.spec

theorem traced_after (current : Simulation) (occurrence : Occurrence) :
    Traced current [occurrence] (current.after occurrence) := by
  intro ns name live h
  have hcluster {request : StoreCall} (hnone : request.deployment? = none)
      (h : (current.call request).2.store.object? ⟨.deployment, ns, name⟩ = some live) :
      current.store.object? ⟨.deployment, ns, name⟩ = some live := by
    rcases deployment_call request h with hbefore | ⟨stored, hstored, -⟩
    · exact hbefore
    · exact nomatch hnone.symm.trans hstored
  cases occurrence with
  | insert kind object =>
      by_cases hkey : (⟨.deployment, ns, name⟩ : ObjectKey) =
          .of kind (kind.metadata object).anySpace object
      · cases hkey
        have hput := MemoryStore.object?_put_self current.store
          (.of .deployment (Kind.deployment.metadata object).anySpace object) object
        cases hput.symm.trans h
        exact .inr (.inr ⟨object, List.mem_singleton_self _, rfl⟩)
      · exact .inr (.inl ((MemoryStore.object?_put_of_ne hkey _ _).symm.trans h))
  | editCluster cluster => exact .inr (.inl (hcluster rfl h))
  | editStatus cluster => exact .inr (.inl (hcluster rfl h))
  | plant failure => exact .inr (.inl h)
  | arm after failure => exact .inr (.inl h)
  | pass snapshot settings now limits =>
      rcases deployment_pass settings now limits snapshot h with hbefore | ⟨stored, hmem, hspec⟩
      · exact .inr (.inl hbefore)
      · exact .inl ((deploys_of_mem hmem).congr hspec rfl rfl).inStep

theorem traced_foldl (start : Simulation) (occurrences : List Occurrence) :
    Traced start occurrences (occurrences.foldl Simulation.after start) := by
  induction occurrences generalizing start with
  | nil => exact fun ns name live h => .inr (.inl h)
  | cons occurrence rest ih =>
      intro ns name live h
      rcases ih (start.after occurrence) ns name live h with
        hstep | hbefore | ⟨given, hgiven, hspec⟩
      · exact .inl hstep
      · rcases traced_after start occurrence ns name live hbefore with
          hstep | hbefore | ⟨given, hgiven, hspec⟩
        · exact .inl hstep
        · exact .inr (.inl hbefore)
        · exact .inr (.inr ⟨given, List.mem_cons.mpr (.inl (List.mem_singleton.mp hgiven)), hspec⟩)
      · exact .inr (.inr ⟨given, List.mem_cons_of_mem _ hgiven, hspec⟩)

/-- Whatever has happened to a store, what it holds of deployments is in step, but for what was
there from the start or was put there by others. A pass over whatever cluster, cut short by
whatever, stores one deployment at most, and that one has the size that the cluster asks for, tells
the routers this size and runs the container that is built for the cluster, whichever deployment was
there before. Where it is stored, no pass with the same image over a cluster with this specification
stores another, so a resize that comes with another template takes a single write. -/
theorem deployments_tell_their_size (start : Simulation) (occurrences : List Occurrence) :
    let current := occurrences.foldl Simulation.after start
    Traced start occurrences current ∧
      ∀ (cluster : Interconnect) (settings : Settings) (now : Timestamp) (limits : PassLimits),
        (current.deploymentsOf settings now limits cluster).length ≤ 1 ∧
        ∀ deployment ∈ current.deploymentsOf settings now limits cluster,
          deployment.Deploys cluster settings.routerImage ∧
          ∀ (later : Simulation) (next : Interconnect) (changed : Settings) (clock : Timestamp)
            (bounds : PassLimits), next.name = cluster.name → next.spec = cluster.spec →
            changed.routerImage = settings.routerImage →
            (∃ live : Deployment,
              later.store.object? ⟨.deployment, next.space, next.name⟩ = some live ∧
                live.spec = deployment.spec) →
            later.deploymentsOf changed clock bounds next = [] := by
  intro current
  refine ⟨traced_foldl start occurrences, fun cluster settings now limits =>
    ⟨?_, fun deployment hmem => ⟨deploys_of_mem hmem, ?_⟩⟩⟩
  · cases deploying_reconcile current settings now limits cluster with
    | spares none => simp [none]
    | deploys single deploys needed => simp [single]
  · intro later next changed clock bounds hname hspec himage ⟨live, hlive, hlivespec⟩
    have hdeploys : live.Deploys next changed.routerImage :=
      himage ▸ (deploys_of_mem hmem).congr hlivespec hname hspec
    cases deploying_reconcile later changed clock bounds next with
    | spares none => exact none
    | deploys single deploys needed => exact absurd hdeploys (needed live hlive)

/-- A deployment of four routers, of which nothing else is said. -/
def oversized : Deployment where
  metadata := { name := some "amq", ns := some "msg" }
  spec := some { replicas := some 4 }

/-- The run in which somebody puts it in place. -/
def oversizedRun : Simulation := [Occurrence.insert .deployment oversized].foldl after undeployed

/-- A pass writes it, as it brings it to its size. -/
theorem exists_mem_deploymentsOf_oversizedRun :
    ∃ deployment ∈ oversizedRun.deploymentsOf {} default {} undeployedCluster,
      ∃ live : Deployment, (oversizedRun.pass {} default {} undeployedCluster).2.store.object?
          ⟨.deployment, "msg", "amq"⟩ = some live ∧ live.spec = deployment.spec := by
  have hplaced : oversizedRun.store.Placed :=
    (run_undeployed.insert .deployment oversized).sound.wellFormed.fits
  have fresh : oversizedRun.store.Fresh "msg" undeployedCluster := ⟨hplaced, rfl, rfl, rfl⟩
  obtain ⟨underway, ready⟩ := underway_undeployedCluster
  have hmap (map : ConfigMap) (h : map.template = some undeployedCluster.spec.render) :
      Kind.configMap.drifted map undeployedCluster.configMap = false := by
    simp [Kind.drifted, ConfigMap.drifted, ConfigMap.template_configMap, h]
  have hgoals : ∀ goal ∈ undeployedCluster.accessGoals ++
      [.object .configMap undeployedCluster.configMap],
      undeployedCluster.Meets {} oversizedRun.store "msg" goal := by
    simp only [Interconnect.accessGoals, List.cons_append, List.nil_append, List.forall_mem_cons,
      List.not_mem_nil, false_imp_iff, implies_true, and_true]
    exact ⟨⟨_, rfl, rfl⟩, ⟨_, rfl, rfl⟩, ⟨_, rfl, rfl⟩,
      ⟨_, rfl, hmap _ (ConfigMap.template_configMap runningCluster)⟩⟩
  have hoversized : oversizedRun.store.object? ⟨.deployment, "msg", "amq"⟩ =
      some (Kind.deployment.withVersion oversized "7") := rfl
  obtain ⟨live, hsize, hstored⟩ :=
    pass_of_other_size rfl fresh underway ready rfl hgoals rfl hoversized (by decide) default
  rcases deployment_pass {} default {} undeployedCluster hstored with
    hbefore | ⟨stored, hmem, hspec⟩
  · obtain rfl := Option.some.inj (hoversized.symm.trans hbefore)
    exact absurd hsize (by decide)
  · exact ⟨stored, hmem, live, hstored, hspec⟩

theorem oversized_is_resized_once :
    ∃ deployment ∈ oversizedRun.deploymentsOf {} default {} undeployedCluster,
      deployment.replicaCount = 1 ∧ deployment.podCount = some "1" ∧
        (oversizedRun.pass {} default {} undeployedCluster).2.deploymentsOf {} default {}
          undeployedCluster = [] := by
  obtain ⟨deployment, hmem, hstored⟩ := exists_mem_deploymentsOf_oversizedRun
  obtain ⟨-, hpasses⟩ :=
    deployments_tell_their_size undeployed [.insert .deployment oversized]
  obtain ⟨deploys, hlater⟩ := (hpasses undeployedCluster {} default {}).2 deployment hmem
  exact ⟨deployment, hmem, deploys.size, deploys.count,
    hlater _ undeployedCluster {} default {} rfl rfl rfl hstored⟩

end Simulation

end RouterOperator
