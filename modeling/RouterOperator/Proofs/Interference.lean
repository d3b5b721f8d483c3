import RouterOperator.Proofs.Footprint
import RouterOperator.Proofs.Settling
import RouterOperator.Proofs.Shape

/-!
# Passes over different clusters

A pass depends on the objects of its cluster and on pods alone, and it writes the objects of its
cluster alone. So passes over two clusters that share no name come to the same in either order. Two
clusters share a name only if it is joined, and if the name of one begins with that of the other and
a dash.
-/

namespace RouterOperator

theorem StoreCall.target?_of_isWrite {request : StoreCall} (h : request.isWrite = false) :
    request.target? = none := by
  cases request with
  | get | listPods | publish => rfl
  | _ => cases h

/-- The writes of a pass are of different objects. -/
theorem WriteShape.nodup_target? {writes : List StoreCall} (h : WriteShape writes) :
    (writes.filterMap StoreCall.target?).Nodup := by
  have hone (write : StoreCall) : ([write].filterMap StoreCall.target?).Nodup := by
    cases hwrite : write.target? <;> simp [hwrite]
  cases h with
  | none => exact List.nodup_nil
  | derived | cluster => exact hone _
  | issue => simp [StoreCall.target?, ObjectKey.of]
  | @record write workload cluster =>
      have hderived := StoreCall.writesDerived_of_writesWorkload workload
      cases write with
      | create kind ns object | replace kind ns object =>
          have hkind : kind ≠ .interconnect := of_decide_eq_true hderived
          simp [StoreCall.target?, ObjectKey.of, hkind]
      | _ => cases workload

theorem targets_eq (moves : List Move) :
    targets moves =
      ((moves.map Move.request).filter StoreCall.isWrite).filterMap StoreCall.target? := by
  rw [List.filterMap_filter, List.filterMap_map]
  refine congrArg (List.filterMap · moves) (funext fun move => ?_)
  cases hwrite : move.request.isWrite with
  | true => simp [hwrite]
  | false => simp [hwrite, StoreCall.target?_of_isWrite hwrite]

theorem Pass.Decision.nodup_targets {pass : Pass} {known : List Exchange} {moves : List Move}
    {outcome : Outcome} (h : pass.Decision known moves outcome) : (targets moves).Nodup := by
  rw [targets_eq]
  exact h.plan.writeShape.nodup_target?

namespace MemoryStore

open Program

variable {store other : MemoryStore} {cluster first second : Interconnect} {ns : String}
  {key : ObjectKey}

/-- Over stores that agree on the objects of the cluster and on pods, a pass comes to the same
script, which writes objects of the cluster, each once. -/
theorem exists_script_of_pass (placed : store.Placed) (hns : cluster.metadata.ns = some ns)
    (settings : Settings) (now : Timestamp)
    (howned : ∀ key, cluster.Owns ns key → store.object? key = other.object? key)
    (hpods : ∀ key, key.kind = .pod → store.object? key = other.object? key) :
    ∃ moves outcome, (targets moves).Nodup ∧ (∀ key ∈ targets moves, cluster.Owns ns key) ∧
      store.pass settings now cluster = (script outcome moves).run runner store ∧
      other.pass settings now cluster = (script outcome moves).run runner other := by
  let pass := cluster.freshPass ns settings now
  have hreads (request : StoreCall) (reads : request.isRead = true)
      (allowed : pass.MayCall request) : (store.call request).1 = (other.call request).1 := by
    cases request with
    | get kind space name => exact congrArg Except.ok (howned _ allowed.owns)
    | listPods space selector => rw [call, call, podsIn_congr hpods]
    | _ => cases reads
  obtain ⟨later, moves, outcome, decision, hlater, hrun, hrun'⟩ :=
    exists_script pass.decides_decision pass.meets_program hreads (by simp)
  exact ⟨moves, outcome, decision.nodup_targets, decision.owns placed hlater hns,
    (pass_eq_run hns).trans hrun, (pass_eq_run hns).trans hrun'⟩

/-- A pass does the same over two stores that agree on the objects of the cluster and on pods. -/
theorem pass_congr (placed : store.Placed) (hstore : store.failure = none)
    (hother : other.failure = none) (hns : cluster.metadata.ns = some ns) (settings : Settings)
    (now : Timestamp)
    (howned : ∀ key, cluster.Owns ns key → store.object? key = other.object? key)
    (hpods : ∀ key, key.kind = .pod → store.object? key = other.object? key) :
    (store.pass settings now cluster).1 = (other.pass settings now cluster).1 ∧
      ∀ key, cluster.Owns ns key → (store.pass settings now cluster).2.Alike
        (other.pass settings now cluster).2 key := by
  obtain ⟨moves, outcome, once, hwrites, hrun, hrun'⟩ :=
    exists_script_of_pass placed hns settings now howned hpods
  obtain ⟨hresult, halike⟩ :=
    run_script_alike hstore hother once fun key hkey => howned key (hwrites key hkey)
  rw [hrun, hrun']
  refine ⟨hresult, fun key hkey => ?_⟩
  by_cases hwritten : key ∈ targets moves
  · exact halike key hwritten
  · refine alike_of_object?_eq ?_
    rw [object?_run_script_of_not_mem hwritten, object?_run_script_of_not_mem hwritten]
    exact howned key hkey

/-- A pass leaves what is not an object of the cluster. -/
theorem object?_pass_of_not_owns (placed : store.Placed) (hns : cluster.metadata.ns = some ns)
    (settings : Settings) (now : Timestamp) (h : ¬ cluster.Owns ns key) :
    (store.pass settings now cluster).2.object? key = store.object? key := by
  obtain ⟨moves, outcome, -, hwrites, hrun, -⟩ := exists_script_of_pass placed hns settings now
    (fun _ _ => rfl) fun _ _ => rfl
  rw [hrun]
  exact object?_run_script_of_not_mem fun hkey => h (hwrites key hkey)

/-- Two passes come to the same in either order: each has the result that it has alone, and they
leave the same objects, up to the versions that these are given. -/
structure Commute (store : MemoryStore)
    (first second : MemoryStore → Except Error Outcome × MemoryStore) : Prop where
  first_result : (first (second store).2).1 = (first store).1
  second_result : (second (first store).2).1 = (second store).1
  objects : ∀ key, (second (first store).2).2.Alike (first (second store).2).2 key

/-- Behind a pass over another cluster a pass does what it does without. -/
theorem pass_behind (h : store.WellFormed) (hstore : store.failure = none)
    (hfirst : first.metadata.ns = some ns) (hsecond : second.metadata.ns = some ns)
    (apart : ∀ key, first.Owns ns key → ¬ second.Owns ns key) (settings settings' : Settings)
    (now now' : Timestamp) :
    ((store.pass settings' now' second).2.pass settings now first).1 =
        (store.pass settings now first).1 ∧
      ∀ key, ¬ second.Owns ns key → ((store.pass settings' now' second).2.pass settings now
        first).2.Alike (store.pass settings now first).2 key := by
  have hafter := h.pass settings' now' second
  have hframe {key : ObjectKey} (hkey : ¬ second.Owns ns key) :=
    object?_pass_of_not_owns h.fits hsecond settings' now' hkey
  obtain ⟨hresult, halike⟩ := pass_congr hafter.fits (run_failure_eq_none hstore _) hstore hfirst
    settings now (fun key hkey => hframe (apart key hkey))
    fun key hkey => hframe fun howned => howned.kind_ne_pod hkey
  refine ⟨hresult, fun key hkey => ?_⟩
  by_cases howned : first.Owns ns key
  · exact halike key howned
  · refine alike_of_object?_eq ?_
    rw [object?_pass_of_not_owns hafter.fits hfirst settings now howned,
      object?_pass_of_not_owns h.fits hfirst settings now howned, hframe hkey]

/-- Passes over clusters that have no object in common commute. -/
theorem commute_of_apart (h : store.WellFormed) (hstore : store.failure = none)
    (hfirst : first.metadata.ns = some ns) (hsecond : second.metadata.ns = some ns)
    (apart : ∀ key, first.Owns ns key → ¬ second.Owns ns key) (settings settings' : Settings)
    (now now' : Timestamp) :
    store.Commute (·.pass settings now first) (·.pass settings' now' second) := by
  have apart' (key : ObjectKey) (howned : second.Owns ns key) : ¬ first.Owns ns key :=
    fun howned' => apart key howned' howned
  obtain ⟨hresult, halike⟩ :=
    pass_behind h hstore hfirst hsecond apart settings settings' now now'
  obtain ⟨hresult', halike'⟩ :=
    pass_behind h hstore hsecond hfirst apart' settings' settings now' now
  refine ⟨hresult, hresult', fun key => ?_⟩
  have hafter := h.pass settings now first
  have hafter' := h.pass settings' now' second
  by_cases howned : second.Owns ns key
  · have hframe := object?_pass_of_not_owns hafter'.fits hfirst settings now (apart' key howned)
    exact (halike' key (apart' key howned)).trans (alike_of_object?_eq hframe.symm)
  · have hframe := object?_pass_of_not_owns hafter.fits hsecond settings' now' howned
    exact (alike_of_object?_eq hframe).trans (halike key howned).symm

end MemoryStore

open Simulation

/-- A pass over the cluster may create or replace the object under a key: one does so in some run,
over the cluster as it was read before. -/
def Interconnect.MayWrite (cluster : Interconnect) (settings : Settings) (key : ObjectKey) : Prop :=
  ∃ (simulation : Simulation) (seen : List Interconnect) (now : Timestamp) (limits : PassLimits),
    Run simulation seen ∧ cluster ∈ seen ∧
      (simulation.pass settings now limits cluster).2.store.object? key ≠
        simulation.store.object? key

namespace Interconnect

variable {cluster : Interconnect} {ns : String} {settings : Settings} {key : ObjectKey}

theorem MayWrite.owns (h : cluster.MayWrite settings key) (hns : cluster.metadata.ns = some ns) :
    cluster.Owns ns key := by
  obtain ⟨simulation, seen, now, limits, run, -, hchanged⟩ := h
  obtain ⟨entry, hentry, htarget⟩ := exists_target_of_pass hchanged
  rw [reconcile, hns] at hentry
  let pass := cluster.freshPass ns settings now
  have placed : (simulation.started limits).store.Placed := run.sound.wellFormed.fits
  rcases pass.target_program placed entry hentry htarget with rfl | ⟨goal, hgoal⟩
  · exact Pass.owns_clusterKey hns
  · exact hgoal.owns

/-- In a run where all goals but the last are met and its object is absent, a pass writes it. -/
theorem mayWrite_of_last {simulation : Simulation} {seen : List Interconnect} {front : List Goal}
    {kind : Kind} {desired : kind.Object} (run : Run simulation seen) (read : cluster ∈ seen)
    (unarmed : simulation.armed = none) (fresh : simulation.store.Fresh ns cluster)
    (underway : cluster.Underway settings) (ready : cluster.spec.Ready)
    (listed : cluster.goals settings = front ++ [.object kind desired])
    (hfront : ∀ goal ∈ front, cluster.Meets settings simulation.store ns goal)
    (habsent : simulation.store.object? ⟨kind, ns, kind.nameOf desired⟩ = none) :
    cluster.MayWrite settings ⟨kind, ns, kind.nameOf desired⟩ := by
  let pass := cluster.freshPass ns settings default
  have hunmet : ¬ ∀ goal ∈ [Goal.object kind desired],
      cluster.Meets settings simulation.store ns goal := by
    intro hmet
    obtain ⟨live, hlive, -⟩ := hmet _ (List.mem_singleton_self _)
    exact absurd (hlive.symm.trans habsent) (Option.some_ne_none live)
  have hpursued : ∀ goal ∈ front ++ [.object kind desired], pass.Pursues goal :=
    listed ▸ pass.pursues_goals ready
  obtain ⟨outcome, after, next, done, todo, hrun, -, -, -, hlist, hless, hmet⟩ :=
    Pass.advance (show simulation.store.Fresh pass.ns pass.cluster from fresh) rfl hpursued hfront
      hunmet []
  -- no goal is left to do afterwards, so the last one is met
  obtain rfl : todo = [] := List.length_eq_zero_iff.mp (Nat.lt_one_iff.mp hless)
  rw [List.append_nil] at hlist
  obtain ⟨live, hlive, -⟩ := hmet (.object kind desired) (by simp [hlist])
  have hstages : (cluster.freshPass ns settings default).stages false =
      (front ++ [Goal.object kind desired]).map pass.stageFor ++ [] := by
    rw [Pass.stages_eq_goals, List.append_nil]
    exact congrArg (List.map pass.stageFor) listed
  have hprogram : pass.program.run MemoryStore.runner simulation.store = (.ok outcome, after) := by
    rw [MemoryStore.Fresh.program_eq underway, ready.any_isIncomplete, Bool.false_and, Pass.walk,
      hstages, Program.run_bind, hrun]
    rfl
  have hopen : (simulation.started {}).clock < (simulation.started {}).deadline :=
    Nat.lt_add_of_pos_right (by decide)
  have unarmed : (simulation.started {}).armed = none := unarmed
  have hstore : (simulation.pass settings default {} cluster).2.store = after := by
    refine (run_eq_of_free (reconcile settings default cluster) unarmed rfl hopen).2.trans ?_
    rw [reconcile, fresh.space]
    exact congrArg Prod.snd hprogram
  refine ⟨simulation, seen, default, {}, run, read, ?_⟩
  rw [hstore, habsent]
  exact fun hnone => absurd (hlive.symm.trans hnone) (Option.some_ne_none live)

end Interconnect

/-- A listener that is exposed. -/
def exposedListener (target : String) : Listener :=
  { name := some target, port := 5672, expose := true }

/-- A cluster with one more listener, which is exposed. -/
def exposingCluster (name target : String) : Interconnect :=
  { runningCluster with
    metadata := { runningCluster.metadata with name := some name }
    spec := { runningCluster.spec with
      listeners := runningCluster.spec.listeners ++ [exposedListener target] } }

/-- A run to where all is in place for a cluster but what exposes its listeners. -/
def unexposed (cluster : Interconnect) : Simulation where
  store := ((((((({} : MemoryStore).insert .role cluster.role).insert .roleBinding
    cluster.roleBinding).insert .serviceAccount cluster.serviceAccount).insert .configMap
    cluster.configMap).insert .deployment (cluster.deployment defaultRouterImage)).insert .service
    (cluster.service false)).insert .interconnect cluster

theorem run_unexposed (cluster : Interconnect) : Run (unexposed cluster) [] :=
  ((((((Run.start.insert .role _).insert .roleBinding _).insert .serviceAccount _).insert
    .configMap _).insert .deployment _).insert .service _).insert .interconnect _

section collision

variable {name target : String}
  (h : (name = "amq" ∧ target = "east-amqp") ∨ (name = "amq-east" ∧ target = "amqp"))

include h in
theorem meets_unexposed :
    ∀ goal ∈ (exposingCluster name target).accessGoals ++
        [.object .configMap (exposingCluster name target).configMap, .workload,
          .object .service ((exposingCluster name target).service false)],
      ((exposingCluster name target).under (some "7")).Meets {}
        (unexposed (exposingCluster name target)).store "msg" goal := by
  have hmap (map : ConfigMap) (h : map.template = some (exposingCluster name target).spec.render) :
      Kind.configMap.drifted map (exposingCluster name target).configMap = false := by
    simp [Kind.drifted, ConfigMap.drifted, ConfigMap.template_configMap, h]
  have hruns := (Deployment.drifted_eq_false_iff _ _ _).mpr
    (Deployment.runs_deployment (exposingCluster name target) defaultRouterImage)
  have hbuilt := ConfigMap.template_configMap (exposingCluster name target)
  simp only [Interconnect.accessGoals, List.forall_mem_append, List.forall_mem_cons,
    List.not_mem_nil, false_imp_iff, implies_true, and_true]
  rcases h with ⟨rfl, rfl⟩ | ⟨rfl, rfl⟩
  all_goals
    refine ⟨⟨⟨_, rfl, rfl⟩, ⟨_, rfl, rfl⟩, ⟨_, rfl, rfl⟩⟩, ⟨_, rfl, hmap _ hbuilt⟩,
      Or.inr ⟨_, rfl, hruns, rfl⟩, ⟨_, rfl, ?_⟩⟩
    exact (Service.drifted_eq_false_iff _ _).mpr ⟨rfl, rfl, rfl⟩

include h in
theorem mayWrite_exposingCluster :
    ((exposingCluster name target).under (some "7")).MayWrite {}
      ⟨.ingress, "msg", "amq-east-amqp"⟩ := by
  have underway : runningCluster.Underway {} :=
    ⟨by decide, (InterconnectSpec.normalize_spec_eq_iff _ false).mp rfl, .inr rfl, by decide⟩
  have complete : ∀ profile ∈ runningCluster.spec.sslProfiles, profile.isIncomplete = false := by
    decide
  have defaults : (exposingCluster name target).spec.HasDefaults :=
    (InterconnectSpec.normalize_spec_eq_iff _ false).mp rfl
  have found : (unexposed (exposingCluster name target)).store.cluster? "msg" name =
      some ((exposingCluster name target).under (some "7")) := by
    rcases h with ⟨rfl, rfl⟩ | ⟨rfl, rfl⟩ <;> rfl
  have hkey : (⟨.ingress, "msg", "amq-east-amqp"⟩ : ObjectKey) = ⟨.ingress, "msg",
      Kind.ingress.nameOf ((exposingCluster name target).ingress (exposedListener target))⟩ := by
    rcases h with ⟨rfl, rfl⟩ | ⟨rfl, rfl⟩ <;> rfl
  have run := run_unexposed (exposingCluster name target)
  rw [hkey]
  refine Interconnect.mayWrite_of_last (run.read found) (List.mem_singleton_self _) rfl
    ⟨run.sound.wellFormed.fits, rfl, found, rfl⟩
    ⟨underway.touched, defaults, underway.satisfiable, underway.phase⟩ ⟨defaults, complete⟩ rfl
    (meets_unexposed h) ?_
  rw [← hkey]
  rcases h with ⟨rfl, rfl⟩ | ⟨rfl, rfl⟩ <;> rfl

end collision

/-- Passes over two clusters of a namespace write the same object only under a name that both
clusters join. They share such a name only if the name of one begins with that of the other and a
dash, and if they share none, their passes commute. -/
theorem apart_but_for_shared_names {first second : Interconnect} {ns : String}
    (hfirst : first.metadata.ns = some ns) (hsecond : second.metadata.ns = some ns)
    (hne : first.name ≠ second.name) (settings settings' : Settings) :
    (∀ key, first.MayWrite settings key → second.MayWrite settings' key →
      first.SharesName second key.kind key.name) ∧
    (∀ kind name, first.SharesName second kind name →
      (∃ rest, second.name = first.name ++ "-" ++ rest) ∨
        ∃ rest, first.name = second.name ++ "-" ++ rest) ∧
    ((∀ kind name, ¬ first.SharesName second kind name) →
      ∀ store : MemoryStore, store.WellFormed → store.failure = none → ∀ now now',
        store.Commute (·.pass settings now first) (·.pass settings' now' second)) := by
  refine ⟨fun key h h' => ?_, fun kind name h => h.continues hne,
    fun hnone store wellFormed hstore now now' => ?_⟩
  · exact (h.owns hfirst).2.shared (h'.owns hsecond).2 hne
  · have apart (key : ObjectKey) (howned : first.Owns ns key) : ¬ second.Owns ns key :=
      fun howned' => hnone key.kind key.name (howned.2.shared howned'.2 hne)
    exact MemoryStore.commute_of_apart wellFormed hstore hfirst hsecond apart settings settings'
      now now'

theorem clusters_amq_and_web_apart :
    runningCluster.metadata.ns = some "msg" ∧
      (exposingCluster "web" "amqp").metadata.ns = some "msg" ∧
      runningCluster.name ≠ (exposingCluster "web" "amqp").name ∧
      (∀ key, runningCluster.MayWrite {} key →
        ¬ (exposingCluster "web" "amqp").MayWrite {} key) ∧
      completeStore.Commute (·.pass {} default runningCluster)
        (·.pass {} default (exposingCluster "web" "amqp")) := by
  have hne : runningCluster.name ≠ (exposingCluster "web" "amqp").name := by decide
  obtain ⟨hshared, hcontinues, hcommute⟩ := apart_but_for_shared_names
    (show runningCluster.metadata.ns = some "msg" from rfl)
    (show (exposingCluster "web" "amqp").metadata.ns = some "msg" from rfl) hne {} {}
  -- neither name begins with the first letter of the other
  have hnone (kind : Kind) (name : String) :
      ¬ runningCluster.SharesName (exposingCluster "web" "amqp") kind name := by
    intro h
    rcases hcontinues kind name h with ⟨rest, hname⟩ | ⟨rest, hname⟩
    · have hfirst : "web".toList.head? = ("amq" ++ "-" ++ rest).toList.head? :=
        congrArg (·.toList.head?) hname
      simp at hfirst
    · have hfirst : "amq".toList.head? = ("web" ++ "-" ++ rest).toList.head? :=
        congrArg (·.toList.head?) hname
      simp at hfirst
  have wellFormed : completeStore.WellFormed :=
    (((((MemoryStore.wellFormed_empty.insert .role _).insert .roleBinding _).insert
      .serviceAccount _).insert .configMap _).insert .deployment _).insert .service _
  exact ⟨rfl, rfl, hne, fun key h h' => hnone _ _ (hshared key h h'),
    hcommute hnone completeStore wellFormed rfl default default⟩

theorem exposures_of_two_clusters_meet :
    let first := (exposingCluster "amq" "east-amqp").under (some "7")
    let second := (exposingCluster "amq-east" "amqp").under (some "7")
    let key : ObjectKey := ⟨.ingress, "msg", "amq-east-amqp"⟩
    first.metadata.ns = some "msg" ∧ second.metadata.ns = some "msg" ∧ first.name ≠ second.name ∧
      key.kind ≠ .interconnect ∧ first.MayWrite {} key ∧ second.MayWrite {} key :=
  ⟨rfl, rfl, by decide, by decide, mayWrite_exposingCluster (.inl ⟨rfl, rfl⟩),
    mayWrite_exposingCluster (.inr ⟨rfl, rfl⟩)⟩

end RouterOperator
