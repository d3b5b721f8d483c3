import RouterOperator.Proofs.Store.Runs

/-!
# No update is lost

A pass carries the version of the cluster that it has read into all its writes of it. The store
recalls what was read, so a write that takes effect replaces the very cluster that the pass has
seen, and whatever others have written since makes it fail.
-/

namespace RouterOperator

/-- Between two stores a cluster changed only from a snapshot, and only as the call asks for: its
specification with the status kept, or its status with all else kept, under a new version. -/
def MemoryStore.UpdatesFrom (before after : MemoryStore) (snapshot : Interconnect)
    (request : StoreCall) : Prop :=
  ∀ ns name, after.cluster? ns name ≠ before.cluster? ns name →
    before.cluster? ns name = some snapshot ∧
      ((∃ spec, request = .replaceCluster { snapshot with spec } ∧
          after.cluster? ns name = some { snapshot with
            spec
            metadata :=
              { snapshot.metadata with resourceVersion := some (toString after.version) } }) ∨
        (∃ status, request = .replaceStatus { snapshot with status := some status } ∧
          after.cluster? ns name = some { snapshot with
            status := some status
            metadata :=
              { snapshot.metadata with resourceVersion := some (toString after.version) } }))

/-- A call that writes a cluster while the store does not hold the snapshot fails and leaves all
objects as they are. The error is a conflict, unless a planted failure strikes first. -/
def Simulation.RefusesStale (before : Simulation) (snapshot : Interconnect)
    (request : StoreCall) : Prop :=
  (∃ cluster, request = .replaceCluster cluster ∨ request = .replaceStatus cluster) →
    before.store.cluster? snapshot.space snapshot.name ≠ some snapshot →
      (∀ key, (before.call request).2.store.object? key = before.store.object? key) ∧
        (before.call request).1 = .error (match (before.facing request).failure with
          | some failure => failure.error
          | none => MemoryStore.staleError snapshot)

namespace MemoryStore

variable {store : MemoryStore} {snapshot cluster : Interconnect}

theorem cluster?_change_of_kind_ne {key : ObjectKey} (hkind : key.kind ≠ .interconnect)
    (verb : Verb) (object : key.kind.Object) (ns name : String) :
    (store.change verb key object).cluster? ns name = store.cluster? ns name := by
  refine object?_change_of_ne ?_ store verb object
  rintro rfl
  exact hkind rfl

theorem cluster?_change (verb : Verb) (space name : String) (cluster : Interconnect)
    (ns other : String) :
    (store.change verb ⟨.interconnect, space, name⟩ cluster).cluster? ns other =
      if ns = space ∧ other = name then some { cluster with
        metadata :=
          { cluster.metadata with resourceVersion := some (toString (store.version + 1)) } }
      else store.cluster? ns other := by
  split
  next h =>
    obtain ⟨rfl, rfl⟩ := h
    exact object?_put_self store ⟨.interconnect, ns, other⟩ cluster
  next h =>
    have hkey : (⟨.interconnect, ns, other⟩ : ObjectKey) ≠ ⟨.interconnect, space, name⟩ := by
      intro hsame
      cases hsame
      exact h ⟨rfl, rfl⟩
    exact object?_change_of_ne hkey store verb cluster

/-- A stored cluster whose version the metadata of a snapshot matches is that snapshot. -/
theorem Recalls.eq_of_matches (h : store.Recalls snapshot) {ns name : String}
    {stored : Interconnect} (found : store.cluster? ns name = some stored)
    (current : snapshot.metadata.Matches stored.metadata) : stored = snapshot := by
  refine h.same ns name stored found ?_
  rcases current with hnone | hsame
  · obtain ⟨number, -, hversion⟩ := h.issued
    rw [hversion] at hnone
    cases hnone
  · exact hsame.symm

/-- Of the calls of a pass only the two writes of its cluster change a cluster. -/
theorem updatesFrom_call (h : store.Recalls snapshot) {pass : Pass}
    (hpass : pass.cluster = snapshot) {request : StoreCall} (hcall : pass.MayCall request) :
    store.UpdatesFrom (store.call request).2 snapshot request := by
  intro ns name hchanged
  rcases store.call_cases request with hwrote | hsame
  · generalize (store.call request).2 = after at hwrote hchanged
    cases hwrote with
    | created absent =>
        cases hcall with
        | create wanted => exact absurd (cluster?_change_of_kind_ne wanted.kind_ne ..) hchanged
    | replaced found current =>
        have hkind : ∀ {kind ns object}, pass.MayCall (.replace kind ns object) →
            kind ≠ .interconnect := by
          intro kind ns object hreplace
          cases hreplace with
          | replace wanted live => exact wanted.kind_ne
          | resize ready placed live => decide
        exact absurd (cluster?_change_of_kind_ne (hkind hcall) ..) hchanged
    | clusterReplaced found current =>
        cases hcall with
        | persist spec =>
            rw [hpass] at found current hchanged ⊢
            obtain rfl := h.eq_of_matches found current
            rw [cluster?_change] at hchanged ⊢
            split at hchanged
            next hkey =>
              obtain ⟨rfl, rfl⟩ := hkey
              rw [if_pos ⟨rfl, rfl⟩]
              exact ⟨found, Or.inl ⟨spec, rfl, rfl⟩⟩
            next => exact absurd rfl hchanged
    | statusReplaced found current =>
        cases hcall with
        | status status =>
            rw [hpass] at found current hchanged ⊢
            obtain rfl := h.eq_of_matches found current
            rw [cluster?_change] at hchanged ⊢
            split at hchanged
            next hkey =>
              obtain ⟨rfl, rfl⟩ := hkey
              rw [if_pos ⟨rfl, rfl⟩]
              exact ⟨found, Or.inr ⟨status, rfl, rfl⟩⟩
            next => exact absurd rfl hchanged
  · exact absurd (hsame.object? _) hchanged

/-- A write of a cluster under the version of a snapshot is refused where another one is stored. -/
theorem call_of_other (h : store.Recalls snapshot) {pass : Pass}
    (hpass : pass.cluster = snapshot) {request : StoreCall} (hcall : pass.MayCall request) :
    (∃ cluster, request = .replaceCluster cluster ∨ request = .replaceStatus cluster) →
      store.cluster? snapshot.space snapshot.name ≠ some snapshot →
        (∀ key, (store.call request).2.object? key = store.object? key) ∧
          (store.call request).1 = .error (match store.failure with
            | some failure => failure.error
            | none => staleError snapshot) := by
  intro hwrite hother
  -- the cluster is still there, under a version that the snapshot does not have
  obtain ⟨stored, found⟩ := Option.isSome_iff_exists.mp h.present
  have stale : ¬ snapshot.metadata.Matches stored.metadata := by
    intro current
    exact hother ((h.eq_of_matches found current) ▸ found)
  subst hpass
  obtain ⟨cluster, hrequest⟩ := hwrite
  -- what a pass writes has the name and the version that it has read
  have hmeta : cluster.metadata = pass.cluster.metadata := by
    rcases hrequest with rfl | rfl
    · cases hcall
      rfl
    · cases hcall
      rfl
  have hfound : store.cluster? cluster.space cluster.name = some stored := by
    rw [Interconnect.space, Interconnect.name, hmeta]
    exact found
  have herror : staleError cluster = staleError pass.cluster := by
    simp only [staleError, ObjectKey.of, Kind.nameOf, Kind.metadata, hmeta]
    rfl
  rw [← herror]
  exact call_of_stale hfound (hmeta ▸ stale) hrequest

end MemoryStore

namespace Simulation

variable {simulation : Simulation} {seen : List Interconnect} {snapshot : Interconnect}

theorem Sound.updatesFrom (h : simulation.Sound seen) (read : snapshot ∈ seen) {pass : Pass}
    (hpass : pass.cluster = snapshot) {request : StoreCall} (hcall : pass.MayCall request) :
    simulation.store.UpdatesFrom (simulation.call request).2.store snapshot request := by
  have hfacing := simulation.facing_sameObjects request
  intro ns name hchanged
  rw [call_store] at hchanged ⊢
  rw [← show (simulation.facing request).cluster? ns name = simulation.store.cluster? ns name from
    hfacing.object? _] at hchanged ⊢
  exact MemoryStore.updatesFrom_call ((h.recalls snapshot read).sameObjects hfacing) hpass hcall
    ns name hchanged

theorem Sound.refusesStale (h : simulation.Sound seen) (read : snapshot ∈ seen) {pass : Pass}
    (hpass : pass.cluster = snapshot) {request : StoreCall} (hcall : pass.MayCall request) :
    simulation.RefusesStale snapshot request := by
  have hfacing := simulation.facing_sameObjects request
  intro hwrite hother
  rw [← show (simulation.facing request).cluster? snapshot.space snapshot.name =
    simulation.store.cluster? snapshot.space snapshot.name from hfacing.object? _] at hother
  obtain ⟨hsame, hanswer⟩ :=
    MemoryStore.call_of_other ((h.recalls snapshot read).sameObjects hfacing) hpass hcall hwrite
      hother
  exact ⟨fun key => (hsame key).trans (hfacing.object? key), hanswer⟩

/-- In every run, whenever a call of a pass changes a stored cluster, the store held the snapshot
that the pass started from immediately before, and the call changed its specification alone or its
status alone. Where the store holds another cluster by then, a write of the pass fails and changes
nothing. And what a pass changes, one of its calls changes. -/
theorem cluster_writes_replace_snapshot (run : Run simulation seen) (read : snapshot ∈ seen)
    (settings : Settings) (now : Timestamp) (limits : PassLimits) :
    (∀ entry ∈ (reconcile settings now snapshot).trace runner (simulation.started limits),
      entry.1.store.UpdatesFrom (entry.1.call entry.2).2.store snapshot entry.2 ∧
        entry.1.RefusesStale snapshot entry.2) ∧
      ∀ ns name, (simulation.pass settings now limits snapshot).2.store.cluster? ns name ≠
          simulation.store.cluster? ns name →
        ∃ entry ∈ (reconcile settings now snapshot).trace runner (simulation.started limits),
          (entry.1.call entry.2).2.store.cluster? ns name ≠ entry.1.store.cluster? ns name := by
  refine ⟨?_, ?_⟩
  · intro entry hentry
    cases hns : snapshot.metadata.ns with
    | none => simp [reconcile, hns, Program.trace] at hentry
    | some ns =>
        have hmeets := meets_reconcile settings now hns
        have hstarted := run.sound.started limits
        obtain ⟨hsound, hcall⟩ := hmeets.trace_invariant (fun state => state.Sound seen)
          (sound_call_of_mayCall seen _) hstarted entry hentry
        exact ⟨hsound.updatesFrom read rfl hcall, hsound.refusesStale read rfl hcall⟩
  · intro ns name hchanged
    let view : Simulation → Option Interconnect := fun state => state.store.cluster? ns name
    exact Program.exists_mem_trace_of_run_ne view hchanged

/-- A cluster as it is read back after it was put in place. -/
def firstRead : Interconnect where
  metadata := { name := some "amq", ns := some "msg", resourceVersion := some "1" }
  spec := {}

/-- The run in which somebody else edits the specification after that. -/
def editedSince : Simulation :=
  (({ store := ({} : MemoryStore).insert .interconnect firstRead } : Simulation).call
    (.replaceCluster { firstRead with spec := { deploymentPlan := { size := 3 } } })).2

theorem stale_pass_conflicts :
    Run editedSince [firstRead] ∧ firstRead ∈ [firstRead] ∧
      ∃ entry ∈ (reconcile {} default firstRead).trace runner (editedSince.started {}),
        (entry.1.call entry.2).1 = .error (MemoryStore.staleError firstRead) := by
  have found : (({} : MemoryStore).insert .interconnect firstRead).cluster? "msg" "amq" =
      some firstRead := rfl
  have run : Run editedSince [firstRead] :=
    ((Run.start.insert .interconnect firstRead).read found).editCluster _
  have hwrite : ∃ status, (reconcile {} default firstRead).trace runner (editedSince.started {}) =
      [(editedSince.started {}, .replaceStatus { firstRead with status := some status })] :=
    ⟨_, rfl⟩
  obtain ⟨status, htrace⟩ := hwrite
  have hmem := List.mem_singleton_self
    (editedSince.started {}, StoreCall.replaceStatus { firstRead with status := some status })
  rw [← htrace] at hmem
  have hother : (editedSince.started {}).store.cluster? "msg" "amq" ≠ some firstRead := by
    intro hsame
    have hversion := congrArg (Option.map (·.metadata.resourceVersion)) hsame
    exact absurd hversion (by decide)
  obtain ⟨hcalls, -⟩ :=
    cluster_writes_replace_snapshot run (List.mem_singleton_self _) {} default {}
  exact ⟨run, List.mem_singleton_self _, _, hmem,
    ((hcalls _ hmem).2 ⟨_, Or.inr rfl⟩ hother).2⟩

end Simulation

end RouterOperator
