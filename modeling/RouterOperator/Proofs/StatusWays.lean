import Mathlib.Data.List.DropRight
import RouterOperator.Proofs.Milestones
import RouterOperator.Proofs.Shape
import RouterOperator.Proofs.Store.Strikes

/-!
# How a pass changes a status

A pass over the cluster as it is stored writes its status in one of seven ways, each in
circumstances of its own, so no two of them meet in one write. Whatever else the pass writes leaves
the status alone, and a status that is written leaves everything else of the cluster alone.
-/

namespace RouterOperator

namespace InterconnectStatus

/-- A status with conditions added at the end, of which as many are kept as a status keeps. -/
def extended (status : InterconnectStatus) (added : List Condition) : InterconnectStatus :=
  { status with conditions := (status.conditions ++ added).rtake maxConditions }

theorem rtake_append {α : Type} (items added : List α) (n : Nat) :
    (items.rtake n ++ added).rtake n = (items ++ added).rtake n := by
  simp only [List.rtake_eq_reverse_take_reverse, List.reverse_append, List.reverse_reverse,
    List.take_append, List.take_take]
  rw [Nat.min_eq_left (Nat.sub_le _ _)]

/-- Adding conditions one by one is adding them at once. -/
theorem foldl_push_eq_extended (status : InterconnectStatus) (first : Condition)
    (added : List Condition) :
    (first :: added).foldl push status = status.extended (first :: added) := by
  induction added generalizing status first with
  | nil => rfl
  | cons second added ih =>
      rw [List.foldl_cons, ih, extended, extended]
      have hpush : (status.push first).conditions =
          (status.conditions ++ [first]).rtake maxConditions := rfl
      rw [hpush, rtake_append, List.append_assoc]
      rfl

end InterconnectStatus

/-- The ways in which a pass changes a status. -/
inductive StatusWay where
  | firstTouch
  | blocked
  | unblocked
  | created
  | resized
  | upgraded
  | converged
deriving DecidableEq

namespace StatusWay

variable (cluster : Interconnect) (settings : Settings) (now : Timestamp) (store : MemoryStore)

/-- The circumstances in which a way is taken. -/
def TakenAt : StatusWay → Prop
  | firstTouch => cluster.statusOrNew.revNumber = ""
  | blocked => cluster.statusOrNew.revNumber ≠ "" ∧ ¬ cluster.spec.Satisfiable settings
  | unblocked => cluster.statusOrNew.revNumber ≠ "" ∧ cluster.spec.Satisfiable settings ∧
    cluster.statusOrNew.phase = .failed
  | created => cluster.Underway settings ∧ ∀ kind : Kind, kind.isWorkload = true →
    store.object? ⟨kind, cluster.space, cluster.name⟩ = none
  | resized => cluster.Underway settings ∧
    ¬ cluster.HasWorkload store cluster.space settings.routerImage ∧
    ∃ live : Deployment, store.object? ⟨.deployment, cluster.space, cluster.name⟩ = some live ∧
      live.replicaCount ≠ cluster.spec.deploymentPlan.size
  | upgraded => cluster.Underway settings ∧
    ¬ cluster.HasWorkload store cluster.space settings.routerImage ∧
    (∀ live : Deployment, store.object? ⟨.deployment, cluster.space, cluster.name⟩ = some live →
      live.replicaCount = cluster.spec.deploymentPlan.size) ∧
    ∃ (kind : Kind) (live : kind.Object), kind.isWorkload = true ∧
      store.object? ⟨kind, cluster.space, cluster.name⟩ = some live ∧
      kind.runningImage live ≠ some (cluster.routerImage settings.routerImage)
  | converged => cluster.Underway settings ∧ ∀ goal ∈ cluster.checklist settings,
    cluster.Meets settings store cluster.space goal

/-- The condition for a milestone that is reached now. -/
def reached (type : ConditionType) (reason : String) : Condition :=
  { type, transitionTime := some now, reason }

/-- The conditions for an upgrade, which there is if the image that ran before was another one. -/
def upgrading (previous : Option String) : List Condition :=
  let image := cluster.routerImage settings.routerImage
  if previous = some image then [] else [reached now .upgrading s!"upgrading to {image}"]

/-- The condition for a deployment of some size that is brought to the one that is asked for. -/
def scaling (current : Int32) : Condition :=
  if current < cluster.spec.deploymentPlan.size then reached now .scalingUp "scaling up"
  else reached now .scalingDown "scaling down"

/-- The status that a way leads to. -/
def LeadsTo (status : InterconnectStatus) : StatusWay → Prop
  | firstTouch => status = ({ cluster.statusOrNew with
      phase := if cluster.statusOrNew.phase = .unset then .creating else cluster.statusOrNew.phase
      revNumber := cluster.metadata.resourceVersion.getD "" } : InterconnectStatus).extended
        [reached now .provisioning "provision spec to desired state"]
  | blocked => status = { cluster.statusOrNew with phase := .failed }
  | unblocked => status = { cluster.statusOrNew with phase := .creating }
  | created =>
    status = cluster.statusOrNew.extended [reached now .deployed "router workload deployed"]
  | resized => ∃ live : Deployment,
    store.object? ⟨.deployment, cluster.space, cluster.name⟩ = some live ∧
      status = { cluster.statusOrNew.extended
        (scaling cluster now live.replicaCount :: upgrading cluster settings now live.image) with
          pods := [] }
  | upgraded => status = cluster.statusOrNew.extended
    [reached now .upgrading s!"upgrading to {cluster.routerImage settings.routerImage}"]
  | converged => status = { cluster.statusOrNew with
      phase := .running
      pods := store.livePods cluster.space cluster.labelSelector }

/-- A pass takes a way to a status. -/
structure Changes (way : StatusWay) (status : InterconnectStatus) : Prop where
  taken : way.TakenAt cluster settings store
  leads : way.LeadsTo cluster settings now store status

variable {cluster settings store}

theorem exists_of_hasWorkload {image : String}
    (h : cluster.HasWorkload store cluster.space image) :
    ∃ kind : Kind, kind.isWorkload = true ∧
      store.object? ⟨kind, cluster.space, cluster.name⟩ ≠ none := by
  unfold Interconnect.HasWorkload at h
  split at h
  · rcases h with hother | ⟨live, hlive, -⟩
    · exact ⟨.deployment, rfl, Option.isSome_iff_ne_none.mp hother⟩
    · exact ⟨.daemonSet, rfl, fun hnone => nomatch hnone.symm.trans hlive⟩
  · rcases h with hother | ⟨live, hlive, -⟩
    · exact ⟨.daemonSet, rfl, Option.isSome_iff_ne_none.mp hother⟩
    · exact ⟨.deployment, rfl, fun hnone => nomatch hnone.symm.trans hlive⟩

theorem workload_mem_checklist : .workload ∈ cluster.checklist settings := by
  simp [Interconnect.checklist, Interconnect.servingGoals]

/-- Two circumstances never meet: the phase and the specification tell the first three ways from the
others, and the workload tells those from each other. -/
theorem TakenAt.unique {way other : StatusWay} (h : way.TakenAt cluster settings store)
    (h' : other.TakenAt cluster settings store) : way = other := by
  have hunderway (h : cluster.Underway settings) : cluster.statusOrNew.revNumber ≠ "" ∧
      cluster.spec.Satisfiable settings ∧ cluster.statusOrNew.phase ≠ .failed :=
    ⟨h.touched, h.satisfiable, h.phase⟩
  have hserves (h : ∀ goal ∈ cluster.checklist settings,
      cluster.Meets settings store cluster.space goal) :
      cluster.HasWorkload store cluster.space settings.routerImage := h _ workload_mem_checklist
  have hexists (h : cluster.HasWorkload store cluster.space settings.routerImage) :=
    exists_of_hasWorkload h
  have hdeployment : Kind.deployment.isWorkload = true := rfl
  -- every pair of ways is told apart by one of these facts
  cases way <;> cases other <;> simp only [TakenAt] at h h' <;> grind

end StatusWay

namespace StoreCall

/-- A call that writes no cluster: it writes a derived object, or it is a notice. -/
def SparesClusters (request : StoreCall) : Prop :=
  request.writesDerived = true ∨ request.isNotice = true

theorem sparesClusters_create {kind : Kind} (derived : kind ≠ .interconnect) (ns : String)
    (object : kind.Object) : (create kind ns object).SparesClusters :=
  .inl (decide_eq_true derived)

theorem sparesClusters_replace {kind : Kind} (derived : kind ≠ .interconnect) (ns : String)
    (object : kind.Object) : (replace kind ns object).SparesClusters :=
  .inl (decide_eq_true derived)

theorem sparesClusters_publish (about : Interconnect) (notice : Notice) :
    (publish about notice).SparesClusters := .inr rfl

end StoreCall

/-- The writes of a cluster that a pass may make: of its specification alone, or of its status alone
and in one of the ways. -/
inductive Interconnect.Rewrites (cluster : Interconnect) (settings : Settings) (now : Timestamp)
    (store : MemoryStore) : StoreCall → Interconnect → Prop where
  | persists (spec : InterconnectSpec) :
    Rewrites cluster settings now store (.replaceCluster { cluster with spec })
      { cluster with spec }
  | restates {way : StatusWay} {status : InterconnectStatus}
    (changes : way.Changes cluster settings now store status) :
    Rewrites cluster settings now store
      (.replaceStatus { cluster with status := some status })
      { cluster with status := some status }

/-- What calls do to a cluster: one of them may rewrite it, and the others spare it. -/
inductive Interconnect.Course (cluster : Interconnect) (settings : Settings) (now : Timestamp)
    (store : MemoryStore) (moves : List Move) : Prop where
  | spares (spare : ∀ move ∈ moves, move.request.SparesClusters)
  | rewrites {front rest : List Move} {move : Move} {next : Interconnect}
    (listed : moves = front ++ move :: rest)
    (write : cluster.Rewrites settings now store move.request next)
    (before : ∀ other ∈ front, other.request.SparesClusters)
    (behind : ∀ other ∈ rest, other.request.SparesClusters)

namespace Pass

variable {cluster : Interconnect} {settings : Settings} {now : Timestamp} {store : MemoryStore}
  {known : List Exchange} {moves rest : List Move} {outcome : Outcome} {before : Option String}

theorem course_of_spec {spec : InterconnectSpec} :
    cluster.Course settings now store
      [⟨before, (cluster.freshPass cluster.space settings now).specWrite spec⟩] :=
  .rewrites (List.nil_append _).symm (.persists spec) (by simp) (by simp)

theorem course_of_status {way : StatusWay} {status : InterconnectStatus}
    (changes : way.Changes cluster settings now store status)
    (hrest : ∀ move ∈ rest, move.request.SparesClusters) :
    cluster.Course settings now store
      (⟨before, (cluster.freshPass cluster.space settings now).statusWrite status⟩ :: rest) :=
  .rewrites (List.nil_append _).symm (.restates changes) (by simp) hrest

theorem course_cons {move : Move} (hmove : move.request.SparesClusters)
    (h : cluster.Course settings now store rest) :
    cluster.Course settings now store (move :: rest) := by
  cases h with
  | spares spare => exact .spares (List.forall_mem_cons.mpr ⟨hmove, spare⟩)
  | rewrites listed write before behind =>
      subst listed
      exact .rewrites (List.cons_append ..).symm write (List.forall_mem_cons.mpr ⟨hmove, before⟩)
        behind

theorem Walks.underway (h : (cluster.freshPass cluster.space settings now).Walks) :
    cluster.Underway settings := ⟨h.touched, h.defaults, h.satisfiable, h.phase⟩

/-- Where the workload that placement selects is missing, there is none at all. -/
theorem Selects.none_of_absent {kind : Kind} {desired : kind.Object}
    (h : (cluster.freshPass cluster.space settings now).Selects known kind desired)
    (hknown : ∀ exchange ∈ known, store.Answers exchange)
    (absent : store.object? ⟨kind, cluster.space, cluster.name⟩ = none) :
    ∀ kind : Kind, kind.isWorkload = true →
      store.object? ⟨kind, cluster.space, cluster.name⟩ = none := by
  intro other hother
  cases h with
  | deployment placed alone =>
      cases other with
      | deployment => exact absent
      | daemonSet => exact MemoryStore.object?_of_answers hknown alone
      | _ => cases hother
  | daemonSet placed alone =>
      cases other with
      | deployment => exact MemoryStore.object?_of_answers hknown alone
      | daemonSet => exact absent
      | _ => cases hother

/-- A workload is brought to its desired state only with the size that is asked for. -/
theorem Selects.sized {kind : Kind} {desired : kind.Object}
    (h : (cluster.freshPass cluster.space settings now).Selects known kind desired)
    (sized : (cluster.freshPass cluster.space settings now).Sized known kind)
    (hknown : ∀ exchange ∈ known, store.Answers exchange) {live : Deployment}
    (hlive : store.object? ⟨.deployment, cluster.space, cluster.name⟩ = some live) :
    live.replicaCount = cluster.spec.deploymentPlan.size := by
  cases h with
  | deployment placed alone =>
      obtain ⟨reply, hread, hsize⟩ := sized rfl
      exact hsize live ((MemoryStore.object?_of_answers hknown hread).symm.trans hlive)
  | daemonSet placed alone =>
      exact nomatch (MemoryStore.object?_of_answers hknown alone).symm.trans hlive

theorem Selects.nameOf {pass : Pass} {kind : Kind} {desired : kind.Object}
    (h : pass.Selects known kind desired) : kind.nameOf desired = pass.cluster.name := by
  cases h <;> rfl

theorem Action.course (underway : cluster.Underway settings) {goal : Goal}
    (h : (cluster.freshPass cluster.space settings now).Action known goal moves outcome)
    (hknown : ∀ exchange ∈ known, store.Answers exchange) :
    cluster.Course settings now store moves := by
  have unmet := h.unmet hknown
  have hpublish (about : Interconnect) (notice : Notice) : ∀ move ∈
      [(⟨none, .publish about notice⟩ : Move)], move.request.SparesClusters := by
    simp [StoreCall.sparesClusters_publish]
  cases h with
  | create derived other =>
      exact course_cons (StoreCall.sparesClusters_create derived ..) (.spares (by simp))
  | update derived other =>
      exact course_cons (StoreCall.sparesClusters_replace derived ..) (.spares (by simp))
  | issue spec =>
      exact course_cons (StoreCall.sparesClusters_create (by decide) ..) course_of_spec
  | deploy selected =>
      obtain ⟨hfront, habsent⟩ := MemoryStore.answers_concat hknown
      have habsent := Except.ok.inj habsent
      rw [selected.nameOf] at habsent
      have changes : StatusWay.created.Changes cluster settings now store
          (cluster.freshPass cluster.space settings now).deployedStatus :=
        ⟨⟨underway, selected.none_of_absent hfront habsent⟩, rfl⟩
      exact course_cons (StoreCall.sparesClusters_create selected.workload.kind_ne ..)
        (course_of_status changes (hpublish _ _))
  | refresh selected =>
      exact course_cons (StoreCall.sparesClusters_replace selected.workload.kind_ne ..)
        (.spares (by simp))
  | @upgrade known kind before desired live selected sized drift other =>
      obtain ⟨hfront, hlive⟩ := MemoryStore.answers_concat hknown
      have hlive := Except.ok.inj hlive
      rw [selected.nameOf] at hlive
      rw [upgraded, if_neg other]
      have taken : StatusWay.upgraded.TakenAt cluster settings store :=
        ⟨underway, unmet, fun deployment => selected.sized sized hfront, kind, live,
          selected.workload.isWorkload, hlive, other⟩
      have leads : StatusWay.upgraded.LeadsTo cluster settings now store
        (cluster.statusOrNew.reach now .upgrading
          s!"upgrading to {cluster.routerImage settings.routerImage}") := rfl
      exact course_cons (StoreCall.sparesClusters_replace selected.workload.kind_ne ..)
        (course_of_status ⟨taken, leads⟩ (by simp))
  | @resize known before notice live selected other =>
      have hlive := Except.ok.inj (MemoryStore.answers_concat hknown).2
      have hstatus : (cluster.freshPass cluster.space settings now).resizedStatus live =
          { cluster.statusOrNew.extended
            (StatusWay.scaling cluster now live.replicaCount ::
              StatusWay.upgrading cluster settings now live.image) with pods := [] } := by
        rw [resizedStatus, InterconnectStatus.foldl_push_eq_extended]
        rfl
      have changes : StatusWay.resized.Changes cluster settings now store
          ((cluster.freshPass cluster.space settings now).resizedStatus live) :=
        ⟨⟨underway, unmet, live, hlive, other⟩, live, hlive, hstatus⟩
      exact course_cons (StoreCall.sparesClusters_replace (by decide) ..)
        (course_of_status changes (hpublish _ _))

/-- Whatever a pass decides on, at most one of its calls rewrites the cluster. -/
theorem Decision.course
    (h : (cluster.freshPass cluster.space settings now).Decision known moves outcome)
    (hknown : ∀ exchange ∈ known, store.Answers exchange) :
    cluster.Course settings now store moves := by
  have hnext (phase : Phase) : phase.next .firstTouch =
      if phase = .unset then .creating else phase := by
    cases phase <;> rfl
  cases h with
  | blocked | idle => exact .spares (by simp)
  | persist spec => exact course_of_spec
  | touch new =>
      have changes : StatusWay.firstTouch.Changes cluster settings now store
          (cluster.freshPass cluster.space settings now).touchedStatus := by
        refine ⟨new, ?_⟩
        unfold StatusWay.LeadsTo
        rw [← hnext]
        rfl
      exact course_of_status changes (by simp)
  | block touched lacking phase =>
      have changes : StatusWay.blocked.Changes cluster settings now store
          (cluster.statusOrNew.on .blocked) := by
        refine ⟨⟨touched, lacking⟩, ?_⟩
        unfold StatusWay.LeadsTo InterconnectStatus.on Phase.next
        rfl
      exact course_of_status changes (by simp [StoreCall.sparesClusters_publish])
  | unblock touched satisfiable phase =>
      have phase : cluster.statusOrNew.phase = .failed := phase
      have changes : StatusWay.unblocked.Changes cluster settings now store
          (cluster.statusOrNew.on .unblocked) := by
        refine ⟨⟨touched, satisfiable, phase⟩, ?_⟩
        rw [InterconnectStatus.on, phase]
        rfl
      exact course_of_status changes (by simp)
  | act walks listed shown action => exact action.course walks.underway hknown
  | @report before pods walks shown read =>
      have hread : store.Answers
          ⟨.listPods cluster.space cluster.labelSelector, pods⟩ := hknown _ read
      have hpods : (store.podsIn cluster.space).filter
          (fun pod => MemoryStore.selects cluster.labelSelector pod.metadata.allLabels) = pods :=
        Except.ok.inj hread
      have changes : StatusWay.converged.Changes cluster settings now store
          ((cluster.freshPass cluster.space settings now).reportedStatus pods) := by
        refine ⟨⟨walks.underway, fun goal hgoal => shown goal hgoal store hknown⟩, ?_⟩
        have hphase (phase : Phase) : phase.next .converged = .running := by
          cases phase <;> rfl
        unfold StatusWay.LeadsTo reportedStatus InterconnectStatus.on MemoryStore.livePods
        dsimp only
        rw [hpods, hphase]
        rfl
      exact course_of_status changes (by simp)

end Pass

namespace Simulation

open Program

variable {α : Type} {simulation : Simulation} {cluster next : Interconnect} {settings : Settings}
  {now : Timestamp} {store : MemoryStore} {result : α} {move : Move} {moves rest : List Move}

theorem call_cluster?_of_spares {request : StoreCall} (h : request.SparesClusters)
    (ns name : String) :
    (simulation.call request).2.store.cluster? ns name = simulation.store.cluster? ns name := by
  have hfacing : (simulation.facing request).cluster? ns name =
      simulation.store.cluster? ns name := (simulation.facing_sameObjects request).object? _
  rw [call_store, ← hfacing]
  rcases (simulation.facing request).call_cases request with hwrote | hsame
  · generalize ((simulation.facing request).call request).2 = after at hwrote
    cases hwrote with
    | created | replaced =>
        have derived := of_decide_eq_true (h.resolve_right (by simp [StoreCall.isNotice]))
        exact MemoryStore.cluster?_change_of_kind_ne derived ..
    | clusterReplaced | statusReplaced =>
        simp [StoreCall.SparesClusters, StoreCall.writesDerived, StoreCall.isNotice] at h
  · exact hsame.object? _

/-- A write of a cluster is refused, or the cluster is stored as it asks. -/
theorem call_cluster?_of_rewrites {request : StoreCall}
    (h : cluster.Rewrites settings now store request next)
    (found : simulation.store.cluster? cluster.space cluster.name = some cluster) :
    (simulation.call request).2.store.cluster? cluster.space cluster.name = some cluster ∨
      ∃ version, (simulation.call request).2.store.cluster? cluster.space cluster.name =
        some (next.under version) := by
  have hfacing : (simulation.facing request).cluster? cluster.space cluster.name = some cluster :=
    ((simulation.facing_sameObjects request).object? _).trans found
  rw [call_store]
  rcases (simulation.facing request).call_cases request with hwrote | hsame
  · refine .inr ?_
    generalize ((simulation.facing request).call request).2 = after at hwrote
    cases h with
    | persists spec =>
        cases hwrote with
        | clusterReplaced hstored current =>
            obtain rfl := Option.some.inj (hfacing.symm.trans hstored)
            exact ⟨_, (MemoryStore.cluster?_change ..).trans (if_pos ⟨rfl, rfl⟩)⟩
    | restates changes =>
        cases hwrote with
        | statusReplaced hstored current =>
            obtain rfl := Option.some.inj (hfacing.symm.trans hstored)
            exact ⟨_, (MemoryStore.cluster?_change ..).trans (if_pos ⟨rfl, rfl⟩)⟩
  · exact .inl ((hsame.object? _).trans hfacing)

/-- A script ends before its first call or with it, or goes on behind it. -/
theorem run_script_cons_ends (simulation : Simulation) (result : α) (move : Move)
    (rest : List Move) :
    ((script result (move :: rest)).run runner simulation).2 = simulation ∨
      ((script result (move :: rest)).run runner simulation).2 =
          (simulation.call move.request).2 ∨
      ((script result (move :: rest)).run runner simulation).2 =
        ((script result rest).run runner (simulation.call move.request).2).2 := by
  rcases simulation.run_script_cons_cases result move rest with ⟨-, hexpired⟩ | hrun
  · exact .inl hexpired
  · rw [hrun]
    cases hcall : runner.call move.request simulation with
    | mk answer after =>
        have hafter : after = (simulation.call move.request).2 := (congrArg Prod.snd hcall).symm
        cases answer with
        | error error =>
            rw [run_call_of_error hcall, hafter]
            exact .inr (.inl rfl)
        | ok reply =>
            rw [run_call_of_ok hcall, hafter]
            exact .inr (.inr rfl)

theorem run_script_cluster?_of_spares (h : ∀ move ∈ moves, move.request.SparesClusters)
    (simulation : Simulation) (ns name : String) :
    ((script result moves).run runner simulation).2.store.cluster? ns name =
      simulation.store.cluster? ns name := by
  induction moves generalizing simulation with
  | nil => rfl
  | cons move rest ih =>
      obtain ⟨hmove, hrest⟩ := List.forall_mem_cons.mp h
      rcases simulation.run_script_cons_ends result move rest with hrun | hrun | hrun
      · rw [hrun]
      · rw [hrun, call_cluster?_of_spares hmove]
      · rw [hrun, ih hrest, call_cluster?_of_spares hmove]

/-- After a script of such calls the cluster is as it was, or as one of them asks. -/
theorem run_script_cluster? (h : cluster.Course settings now store moves)
    (found : simulation.store.cluster? cluster.space cluster.name = some cluster) :
    ∃ later, ((script result moves).run runner simulation).2.store.cluster? cluster.space
        cluster.name = some later ∧
      (later = cluster ∨ ∃ request next version,
        cluster.Rewrites settings now store request next ∧ later = next.under version) := by
  cases h with
  | spares spare =>
      exact ⟨cluster, (run_script_cluster?_of_spares spare ..).trans found, .inl rfl⟩
  | @rewrites front rest move next listed write before behind =>
      subst listed
      -- the calls in front of the write are walked off one by one; the cluster stays as it was
      -- found, so the write meets it in the state that it was made for
      induction front generalizing simulation with
      | nil =>
          have hwritten := call_cluster?_of_rewrites write found
          have hafter : ∃ later, (simulation.call move.request).2.store.cluster? cluster.space
              cluster.name = some later ∧
            (later = cluster ∨ ∃ request next version,
              cluster.Rewrites settings now store request next ∧ later = next.under version) := by
            rcases hwritten with hkept | ⟨version, hwritten⟩
            · exact ⟨cluster, hkept, .inl rfl⟩
            · exact ⟨_, hwritten, .inr ⟨_, _, version, write, rfl⟩⟩
          rw [List.nil_append]
          rcases simulation.run_script_cons_ends result move rest with hrun | hrun | hrun
          · rw [hrun]
            exact ⟨cluster, found, .inl rfl⟩
          · rw [hrun]
            exact hafter
          · rw [hrun, run_script_cluster?_of_spares behind]
            exact hafter
      | cons first front ih =>
          obtain ⟨hfirst, hfront⟩ := List.forall_mem_cons.mp before
          have hkept := (call_cluster?_of_spares hfirst cluster.space cluster.name).trans found
          rw [List.cons_append]
          rcases simulation.run_script_cons_ends result first (front ++ move :: rest) with
            hrun | hrun | hrun
          · rw [hrun]
            exact ⟨cluster, found, .inl rfl⟩
          · rw [hrun]
            exact ⟨cluster, hkept, .inl rfl⟩
          · rw [hrun]
            exact ih hkept hfront

/-- A pass over the stored cluster leaves it as it is or rewrites it. -/
theorem pass_cluster? (settings : Settings) (now : Timestamp) (limits : PassLimits)
    (found : simulation.store.cluster? cluster.space cluster.name = some cluster) :
    ∃ later, (simulation.pass settings now limits cluster).2.store.cluster? cluster.space
        cluster.name = some later ∧
      (later = cluster ∨ ∃ request next version,
        cluster.Rewrites settings now simulation.store request next ∧
          later = next.under version) := by
  change ∃ later, ((reconcile settings now cluster).run runner
    (simulation.started limits)).2.store.cluster? cluster.space cluster.name = some later ∧ _
  cases hns : cluster.metadata.ns with
  | none =>
      rw [reconcile, hns]
      exact ⟨cluster, found, .inl rfl⟩
  | some ns =>
      obtain rfl : cluster.space = ns := by
        simp [Interconnect.space, ObjectMeta.anySpace, hns]
      have hprogram : reconcile settings now cluster =
          (cluster.freshPass cluster.space settings now).program := by
        rw [reconcile, hns]
        rfl
      rw [hprogram]
      cases (simulation.started limits).passCourse (cluster.freshPass cluster.space settings now)
        with
      | stopped same reads =>
          rw [same]
          exact ⟨cluster, found, .inl rfl⟩
      | @decided known moves outcome after front decision answers store armed run reads trace =>
          have hfound : after.store.cluster? cluster.space cluster.name = some cluster := by
            rw [store]
            exact found
          rw [run]
          exact run_script_cluster? (decision.course answers) hfound

end Simulation

theorem StatusWay.Changes.revNumber {way : StatusWay} {cluster : Interconnect} {settings : Settings}
    {now : Timestamp} {store : MemoryStore} {status : InterconnectStatus}
    (h : way.Changes cluster settings now store status)
    (htouched : cluster.statusOrNew.revNumber ≠ "") :
    status.revNumber = cluster.statusOrNew.revNumber := by
  obtain ⟨taken, leads⟩ := h
  cases way with
  | firstTouch => exact absurd taken htouched
  | resized =>
      obtain ⟨live, -, rfl⟩ := leads
      rfl
  | created | upgraded =>
      rw [leads]
      rfl
  | _ => rw [leads]

namespace Interconnect.Rewrites

variable {cluster next : Interconnect} {settings : Settings} {now : Timestamp} {store : MemoryStore}
  {request : StoreCall}

theorem space_name (h : cluster.Rewrites settings now store request next) :
    next.space = cluster.space ∧ next.name = cluster.name := by
  cases h <;> exact ⟨rfl, rfl⟩

theorem revNumber (h : cluster.Rewrites settings now store request next)
    (htouched : cluster.statusOrNew.revNumber ≠ "") :
    next.statusOrNew.revNumber = cluster.statusOrNew.revNumber := by
  cases h with
  | persists spec => rfl
  | restates changes => exact changes.revNumber htouched

end Interconnect.Rewrites

namespace Simulation

/-- A run of passes, each over the cluster as it is stored, keeps a revision that is set. -/
theorem converge_revNumber {simulation : Simulation} {cluster : Interconnect} {ns name : String}
    (settings : Settings) (now : Timestamp) (limits : PassLimits) (max : Nat)
    (hspace : cluster.space = ns) (hname : cluster.name = name)
    (found : simulation.store.cluster? ns name = some cluster)
    (htouched : cluster.statusOrNew.revNumber ≠ "") :
    ∃ later, (simulation.converge settings now limits (fun state => state.store.cluster? ns name)
        max).2.store.cluster? ns name = some later ∧
      later.statusOrNew.revNumber = cluster.statusOrNew.revNumber := by
  induction max generalizing simulation cluster with
  | zero => exact ⟨cluster, found, rfl⟩
  | succ max ih =>
      subst hspace hname
      obtain ⟨next, hnext, hcourse⟩ := pass_cluster? settings now limits found
      have hkept : next.space = cluster.space ∧ next.name = cluster.name ∧
          next.statusOrNew.revNumber = cluster.statusOrNew.revNumber := by
        rcases hcourse with rfl | ⟨request, written, version, rewrites, rfl⟩
        · exact ⟨rfl, rfl, rfl⟩
        · exact ⟨rewrites.space_name.1, rewrites.space_name.2, rewrites.revNumber htouched⟩
      obtain ⟨hspace, hname, hrev⟩ := hkept
      rw [converge, found]
      dsimp only
      split
      · obtain ⟨later, hlater, hsame⟩ := ih hspace hname hnext (hrev ▸ htouched)
        exact ⟨later, hlater, hsame.trans hrev⟩
      · exact ⟨next, hnext, hrev⟩

/-- A pass over the cluster as it is stored changes its status in exactly one of the ways, if it
changes it, and then everything else but the version stays as it is; it never changes both the
status and the specification. A revision that is set stays, in this pass and in every run of passes
over the cluster as it is stored by then. -/
theorem pass_changes_status (simulation : Simulation) (settings : Settings) (now : Timestamp)
    (limits : PassLimits) {cluster : Interconnect}
    (found : simulation.store.cluster? cluster.space cluster.name = some cluster) :
    (∃ later, (simulation.pass settings now limits cluster).2.store.cluster? cluster.space
        cluster.name = some later ∧
      (later.status ≠ cluster.status → ∃ status version,
        later = ({ cluster with status := some status } : Interconnect).under version ∧
          ∃! way : StatusWay, way.Changes cluster settings now simulation.store status) ∧
      (cluster.statusOrNew.revNumber ≠ "" →
        later.statusOrNew.revNumber = cluster.statusOrNew.revNumber) ∧
      (later.spec = cluster.spec ∨ later.status = cluster.status)) ∧
    (cluster.statusOrNew.revNumber ≠ "" → ∀ max, ∃ later,
      (simulation.converge settings now limits
          (fun state => state.store.cluster? cluster.space cluster.name) max).2.store.cluster?
        cluster.space cluster.name = some later ∧
      later.statusOrNew.revNumber = cluster.statusOrNew.revNumber) := by
  refine ⟨?_, fun htouched max =>
    converge_revNumber settings now limits max rfl rfl found htouched⟩
  obtain ⟨later, hlater, hcourse⟩ := pass_cluster? settings now limits found
  refine ⟨later, hlater, ?_⟩
  rcases hcourse with rfl | ⟨request, next, version, rewrites, rfl⟩
  · exact ⟨fun hchanged => absurd rfl hchanged, fun _ => rfl, .inl rfl⟩
  · refine ⟨fun hchanged => ?_, rewrites.revNumber, ?_⟩
    · cases rewrites with
      | persists spec => exact absurd rfl hchanged
      | @restates way status changes =>
          exact ⟨status, version, rfl, way, changes,
            fun other hother => hother.taken.unique changes.taken⟩
    · cases rewrites with
      | persists spec => exact .inr rfl
      | restates changes => exact .inl rfl

/-- A cluster that no pass has seen yet, as it is stored. -/
def untouchedCluster : Interconnect :=
  ({ securedCluster with status := none } : Interconnect).under (some "1")

/-- A run to where nothing but that cluster is stored. -/
def untouched : Simulation where
  store := ({} : MemoryStore).insert .interconnect untouchedCluster

theorem first_touch_is_recorded :
    untouched.store.cluster? untouchedCluster.space untouchedCluster.name =
        some untouchedCluster ∧
      ∃ later status version, (untouched.pass {} default {} untouchedCluster).2.store.cluster?
          untouchedCluster.space untouchedCluster.name = some later ∧
        later = ({ untouchedCluster with status := some status } : Interconnect).under version ∧
        StatusWay.firstTouch.Changes untouchedCluster {} default untouched.store status ∧
        later.statusOrNew.revNumber ≠ "" ∧
        ∃ last, ((untouched.pass {} default {} untouchedCluster).2.pass {} default {}
            later).2.store.cluster? later.space later.name = some last ∧
          last.statusOrNew.revNumber = later.statusOrNew.revNumber := by
  have found : untouched.store.cluster? untouchedCluster.space untouchedCluster.name =
    some untouchedCluster := rfl
  obtain ⟨later, hlater, hchanges, -⟩ := (pass_changes_status untouched {} default {} found).1
  have hrev : later.statusOrNew.revNumber = "1" := by
    have hrev : ((untouched.pass {} default {} untouchedCluster).2.store.cluster?
        untouchedCluster.space untouchedCluster.name).map (·.statusOrNew.revNumber) =
      some "1" := rfl
    rw [hlater] at hrev
    exact Option.some.inj hrev
  have hstatus : later.status ≠ untouchedCluster.status := by
    intro hsame
    rw [Interconnect.statusOrNew, hsame] at hrev
    exact absurd hrev (by decide)
  have htouched : later.statusOrNew.revNumber ≠ "" := by
    rw [hrev]
    decide
  obtain ⟨status, version, rfl, way, changes, -⟩ := hchanges hstatus
  have taken : StatusWay.firstTouch.TakenAt untouchedCluster {} untouched.store := rfl
  obtain rfl : way = .firstTouch := changes.taken.unique taken
  -- the version has no part in where a cluster is found
  let later := ({ untouchedCluster with status := some status } : Interconnect).under version
  have hfound : (untouched.pass {} default {} untouchedCluster).2.store.cluster? later.space
    later.name = some later := hlater
  obtain ⟨last, hlast, -, hkept, -⟩ := (pass_changes_status
    (untouched.pass {} default {} untouchedCluster).2 {} default {} hfound).1
  exact ⟨found, _, status, version, hlater, rfl, changes, htouched, last, hlast, hkept htouched⟩

end Simulation

end RouterOperator
