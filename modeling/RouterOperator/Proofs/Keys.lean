import RouterOperator.Proofs.Order

/-!
# Which objects a pass writes

Every write of a pass has a key. Over a store whose objects lie where they belong a pass writes its
own cluster and otherwise the object of a goal of its checklist, under the name that the goal asks
for, and only where the store that the pass started from does not meet that goal.
-/

namespace RouterOperator

namespace StoreCall

/-- The key of the object that a call writes. -/
def target? : StoreCall → Option ObjectKey
  | create kind ns object | replace kind ns object => some (.of kind ns object)
  | replaceCluster cluster | replaceStatus cluster =>
    some ⟨.interconnect, cluster.space, cluster.name⟩
  | get _ _ _ | listPods _ _ | publish _ _ => none

theorem target?_of_isRead {request : StoreCall} (h : request.isRead = true) :
    request.target? = none := by
  cases request with
  | get | listPods => rfl
  | _ => cases h

end StoreCall

namespace MemoryStore

variable {store : MemoryStore} {request : StoreCall} {key : ObjectKey}

/-- A call that takes effect writes the object of its key and no other. -/
theorem Wrote.target {after : MemoryStore} (h : store.Wrote request after) :
    ∃ verb key object, request.target? = some key ∧ after = store.change verb key object := by
  cases h with
  | created => exact ⟨_, _, _, rfl, rfl⟩
  | replaced => exact ⟨_, _, _, rfl, rfl⟩
  | clusterReplaced => exact ⟨_, _, _, rfl, rfl⟩
  | statusReplaced => exact ⟨_, _, _, rfl, rfl⟩

theorem object?_call_of_ne (store : MemoryStore) (h : request.target? ≠ some key) :
    (store.call request).2.object? key = store.object? key := by
  rcases store.call_cases request with hwrote | hsame
  · obtain ⟨verb, other, object, htarget, hafter⟩ := hwrote.target
    rw [hafter, object?_change_of_ne]
    rintro rfl
    exact h htarget
  · exact hsame.object? key

theorem object?_put_ne_none (store : MemoryStore) (written : ObjectKey)
    (object : written.kind.Object) (h : store.object? key ≠ none) :
    (store.put written object).object? key ≠ none := by
  by_cases hkey : key = written
  · subst hkey
    rw [object?_put_self]
    exact Option.some_ne_none _
  · rw [object?_put_of_ne hkey]
    exact h

/-- No call removes an object. -/
theorem object?_call_ne_none (request : StoreCall) (h : store.object? key ≠ none) :
    (store.call request).2.object? key ≠ none := by
  rcases store.call_cases request with hwrote | hsame
  · obtain ⟨verb, written, object, -, hafter⟩ := hwrote.target
    rw [hafter]
    exact object?_put_ne_none store written object h
  · rw [hsame.object?]
    exact h

end MemoryStore

namespace Simulation

variable {simulation : Simulation} {request : StoreCall} {key : ObjectKey}

theorem object?_call_of_ne (simulation : Simulation) (h : request.target? ≠ some key) :
    (simulation.call request).2.store.object? key = simulation.store.object? key := by
  rw [call_store, MemoryStore.object?_call_of_ne _ h]
  exact (simulation.facing_sameObjects request).object? key

theorem object?_call_ne_none (request : StoreCall) (h : simulation.store.object? key ≠ none) :
    (simulation.call request).2.store.object? key ≠ none := by
  rw [call_store]
  refine MemoryStore.object?_call_ne_none request ?_
  rw [(simulation.facing_sameObjects request).object?]
  exact h

/-- What a pass writes, one of its calls writes under its key. -/
theorem exists_target_of_pass {settings : Settings} {now : Timestamp} {limits : PassLimits}
    {snapshot : Interconnect}
    (h : (simulation.pass settings now limits snapshot).2.store.object? key ≠
      simulation.store.object? key) :
    ∃ entry ∈ (reconcile settings now snapshot).trace runner (simulation.started limits),
      entry.2.target? = some key := by
  let view : Simulation → Option key.kind.Object := fun state => state.store.object? key
  obtain ⟨entry, hentry, hchanged⟩ := Program.exists_mem_trace_of_run_ne view h
  refine ⟨entry, hentry, Classical.byContradiction fun hother => hchanged ?_⟩
  exact object?_call_of_ne entry.1 hother

/-- No pass removes an object. -/
theorem object?_pass_ne_none (settings : Settings) (now : Timestamp) (limits : PassLimits)
    (snapshot : Interconnect) (h : simulation.store.object? key ≠ none) :
    (simulation.pass settings now limits snapshot).2.store.object? key ≠ none := by
  have hmeets : (reconcile settings now snapshot).Meets (fun _ => True) fun _ => True := by
    cases hns : snapshot.metadata.ns with
    | none =>
        rw [reconcile, hns]
        trivial
    | some ns =>
        exact (meets_reconcile settings now hns).imp (fun _ _ => trivial) fun _ _ => trivial
  let kept : Simulation → Prop := fun state => state.store.object? key ≠ none
  have hcall (state : Simulation) (request : StoreCall) (hstate : kept state) (_ : True) :
      kept (runner.call request state).2 := object?_call_ne_none request hstate
  have hstarted : kept (simulation.started limits) := h
  exact hmeets.run_invariant hcall hstarted

end Simulation

/-- The object that a goal is about: its own, or the workload that placement selects. -/
inductive Interconnect.Aims (cluster : Interconnect) (image : String) :
    Goal → (kind : Kind) → kind.Object → Prop where
  | object {kind : Kind} {desired : kind.Object} :
    Aims cluster image (.object kind desired) kind desired
  | workload {kind : Kind} {desired : kind.Object}
    (selected : cluster.Selects image kind desired) : Aims cluster image .workload kind desired

namespace Pass

variable {pass : Pass} {known : List Exchange} {moves : List Move} {outcome : Outcome}
  {store : MemoryStore} {key : ObjectKey}

/-- The key of the cluster that a pass is over. -/
def clusterKey (pass : Pass) : ObjectKey := ⟨.interconnect, pass.cluster.space, pass.cluster.name⟩

/-- A key under which a pass writes for a goal. -/
structure WritesUnder (pass : Pass) (store : MemoryStore) (goal : Goal) (key : ObjectKey) :
    Prop where
  listed : goal ∈ pass.cluster.checklist pass.settings
  unmet : ¬ pass.cluster.Meets pass.settings store pass.ns goal
  aims : ∃ kind desired, pass.cluster.Aims pass.settings.routerImage goal kind desired ∧
    key = ⟨kind, pass.ns, kind.nameOf desired⟩

@[simp] theorem target?_statusWrite (pass : Pass) (status : InterconnectStatus) :
    (pass.statusWrite status).target? = some pass.clusterKey := rfl

@[simp] theorem target?_specWrite (pass : Pass) (spec : InterconnectSpec) :
    (pass.specWrite spec).target? = some pass.clusterKey := rfl

@[simp] theorem target?_publish (about : Interconnect) (notice : Notice) :
    (StoreCall.publish about notice).target? = none := rfl

/-- The first call of an action writes the object of the goal, any other the cluster at most. -/
theorem Action.target {goal : Goal} (h : pass.Action known goal moves outcome)
    (placed : store.Placed) (hknown : ∀ exchange ∈ known, store.Answers exchange) :
    ∃ move rest kind desired, moves = move :: rest ∧
      pass.cluster.Aims pass.settings.routerImage goal kind desired ∧
      move.request.target? = some ⟨kind, pass.ns, kind.nameOf desired⟩ ∧
      ∀ other ∈ rest, other.request.target? = none ∨
        other.request.target? = some pass.clusterKey := by
  -- what was read under a name has this name, and what replaces it keeps it
  have hname {front : List Exchange} {kind : Kind} {name : String} {live : kind.Object}
      (h : ∀ exchange ∈ front ++ [⟨.get kind pass.ns name, some live⟩], store.Answers exchange) :
      kind.nameOf live = name := by
    have hlive : store.object? ⟨kind, pass.ns, name⟩ = some live :=
      Except.ok.inj (MemoryStore.answers_concat h).2
    exact (placed _ _ hlive).name
  cases h with
  | create => exact ⟨_, _, _, _, rfl, .object, rfl, by simp⟩
  | update =>
      refine ⟨_, _, _, _, rfl, .object, ?_, by simp⟩
      rw [StoreCall.target?, ObjectKey.of, Kind.nameOf_updated, hname hknown]
  | issue spec => exact ⟨_, _, _, _, rfl, .object, rfl, by simp⟩
  | deploy selected => exact ⟨_, _, _, _, rfl, .workload selected.cluster, rfl, by simp⟩
  | refresh selected | upgrade selected =>
      refine ⟨_, _, _, _, rfl, .workload selected.cluster, ?_, by simp⟩
      rw [StoreCall.target?, ObjectKey.of, Kind.nameOf_updated, hname hknown]
  | resize selected =>
      refine ⟨_, _, _, _, rfl, .workload selected.cluster, ?_, by simp⟩
      rw [StoreCall.target?, ObjectKey.of, pass.nameOf_resized, hname hknown]
      rfl

/-- Whatever a pass decides on, it writes its cluster or for a goal that is not met. -/
theorem Decision.target (h : pass.Decision known moves outcome) (placed : store.Placed)
    (hknown : ∀ exchange ∈ known, store.Answers exchange) :
    ∀ move ∈ moves, move.request.target? = some key →
      key = pass.clusterKey ∨ ∃ goal, pass.WritesUnder store goal key := by
  have hcluster {move : Move} (hmove : move.request.target? = none ∨
      move.request.target? = some pass.clusterKey) (htarget : move.request.target? = some key) :
      key = pass.clusterKey := by
    rcases hmove with hnone | hsome
    · exact nomatch hnone.symm.trans htarget
    · exact Option.some.inj (htarget.symm.trans hsome)
  have halone {moves : List Move} (hmoves : ∀ move ∈ moves, move.request.target? = none ∨
      move.request.target? = some pass.clusterKey) :
      ∀ move ∈ moves, move.request.target? = some key →
        key = pass.clusterKey ∨ ∃ goal, pass.WritesUnder store goal key :=
    fun move hmove htarget => .inl (hcluster (hmoves move hmove) htarget)
  cases h with
  | @act moves outcome front goal rest walks listed shown action =>
      obtain ⟨move, later, kind, desired, rfl, haims, hfirst, hlater⟩ :=
        action.target placed hknown
      refine List.forall_mem_cons.mpr ⟨fun htarget => ?_, fun other hother htarget =>
        .inl (hcluster (hlater other hother) htarget)⟩
      have hkey := Option.some.inj (htarget.symm.trans hfirst)
      exact .inr ⟨goal, by simp [listed], action.unmet hknown, kind, desired, haims, hkey⟩
  | blocked | idle => simp
  | _ => exact halone (by simp)

open Program in
/-- Every write of a pass is one of its cluster, or for a goal that the store did not meet when the
pass started. -/
theorem target_program (pass : Pass) {simulation : Simulation} (placed : simulation.store.Placed) :
    ∀ entry ∈ pass.program.trace Simulation.runner simulation, entry.2.target? = some key →
      key = pass.clusterKey ∨ ∃ goal, pass.WritesUnder simulation.store goal key := by
  intro entry hentry htarget
  cases Simulation.passCall hentry with
  | read reads => exact nomatch (StoreCall.target?_of_isRead reads).symm.trans htarget
  | decided decision answers store made =>
      obtain ⟨move, hmove, hsame⟩ := exists_move_of_mem_trace made
      exact decision.target placed answers move hmove (hsame ▸ htarget)

end Pass

end RouterOperator
