import RouterOperator.Proofs.Pass
import RouterOperator.Proofs.Store.Calls
import RouterOperator.Store.Simulation

/-!
# Runs over a store in memory

A run is any sequence of passes, each over some cluster that was read before, of edits by others and
of failures. Throughout a run the store stays in order, and it recalls every cluster that was ever
read: a stored cluster with the version of one that was read is that very cluster. This is so
because the counter never issues a version twice.
-/

namespace RouterOperator

/-- A store recalls a cluster: the cluster lies there in some form, its version was issued by the
counter, and no other cluster there has this version. -/
structure MemoryStore.Recalls (store : MemoryStore) (cluster : Interconnect) : Prop where
  issued : ∃ number, number ≤ store.version ∧
    cluster.metadata.resourceVersion = some (toString number)
  present : (store.cluster? cluster.space cluster.name).isSome
  same : ∀ ns name stored, store.cluster? ns name = some stored →
    stored.metadata.resourceVersion = cluster.metadata.resourceVersion → stored = cluster

namespace MemoryStore

variable {store : MemoryStore}

/-- A call that takes effect writes one object. -/
theorem Wrote.exists_change {request : StoreCall} {after : MemoryStore}
    (h : store.Wrote request after) :
    ∃ verb key object, after = store.change verb key object := by
  cases h with
  | created => exact ⟨_, _, _, rfl⟩
  | replaced => exact ⟨_, _, _, rfl⟩
  | clusterReplaced => exact ⟨_, _, _, rfl⟩
  | statusReplaced => exact ⟨_, _, _, rfl⟩

/-- A cluster that has just been read is recalled. -/
theorem WellFormed.recalls (h : store.WellFormed) {ns name : String} {cluster : Interconnect}
    (found : store.cluster? ns name = some cluster) : store.Recalls cluster := by
  have hfits := h.fits _ _ found
  have hspace : cluster.space = ns := hfits.space rfl
  have hname : cluster.name = name := hfits.name
  refine ⟨h.issued _ _ found, ?_, ?_⟩
  · rw [hspace, hname, found]
    rfl
  · intro ns' name' stored hstored hversion
    have hkey := h.unique _ _ _ _ hstored found hversion
    cases hkey
    exact Option.some.inj (hstored.symm.trans found)

theorem Recalls.put {cluster : Interconnect} (h : store.Recalls cluster) (key : ObjectKey)
    (object : key.kind.Object) : (store.put key object).Recalls cluster := by
  obtain ⟨number, hle, hversion⟩ := h.issued
  refine ⟨⟨number, Nat.le_trans hle (Nat.le_succ _), hversion⟩, ?_, ?_⟩
  · by_cases hkey : (⟨.interconnect, cluster.space, cluster.name⟩ : ObjectKey) = key
    · subst hkey
      rw [cluster?, object?_put_self]
      rfl
    · rw [cluster?, object?_put_of_ne hkey]
      exact h.present
  · intro ns name stored hstored hsame
    by_cases hkey : (⟨.interconnect, ns, name⟩ : ObjectKey) = key
    · -- the new object has a version that the counter had not issued before
      subst hkey
      rw [cluster?, object?_put_self] at hstored
      have hnew : stored.metadata.resourceVersion = some (toString (store.version + 1)) := by
        rw [← Option.some.inj hstored]
        exact Kind.version?_withVersion .interconnect object _
      rw [hnew, hversion] at hsame
      have hnumber := toString_injective (Option.some.inj hsame)
      omega
    · rw [cluster?, object?_put_of_ne hkey] at hstored
      exact h.same ns name stored hstored hsame

theorem Recalls.change {cluster : Interconnect} (h : store.Recalls cluster) (verb : Verb)
    (key : ObjectKey) (object : key.kind.Object) :
    (store.change verb key object).Recalls cluster :=
  ⟨(h.put key object).issued, (h.put key object).present, (h.put key object).same⟩

theorem Recalls.sameObjects {cluster : Interconnect} {other : MemoryStore}
    (h : store.Recalls cluster) (hsame : other.SameObjects store) : other.Recalls cluster := by
  refine ⟨?_, ?_, ?_⟩
  · rw [hsame.version]
    exact h.issued
  · rw [cluster?, hsame.object?]
    exact h.present
  · intro ns name stored hstored
    rw [cluster?, hsame.object?] at hstored
    exact h.same ns name stored hstored

/-- No call makes a store forget a cluster. -/
theorem Recalls.call {cluster : Interconnect} (h : store.Recalls cluster) (request : StoreCall) :
    (store.call request).2.Recalls cluster := by
  rcases store.call_cases request with hwrote | hsame
  · obtain ⟨verb, key, object, hafter⟩ := hwrote.exists_change
    rw [hafter]
    exact h.change verb key object
  · exact h.sameObjects hsame

end MemoryStore

/-- A pass writes clusters as clusters alone, never as objects of some kind. -/
theorem Pass.MayCall.isPlaced {pass : Pass} {request : StoreCall} (h : pass.MayCall request) :
    request.IsPlaced := by
  cases h with
  | create wanted => exact fun hkind => absurd hkind wanted.kind_ne
  | replace wanted live => exact fun hkind => absurd hkind wanted.kind_ne
  | resize ready placed live => exact fun hkind => nomatch hkind
  | _ => trivial

namespace Simulation

/-- The store as a call finds it: an armed failure is planted when its turn has come. -/
def facing (simulation : Simulation) (request : StoreCall) : MemoryStore :=
  (if request.isWrite then simulation.countWrite else simulation).store

variable (simulation : Simulation) (request : StoreCall)

theorem facing_sameObjects : (simulation.facing request).SameObjects simulation.store := by
  unfold facing
  split
  · unfold countWrite
    split
    · exact .refl _
    · exact ⟨rfl, rfl, rfl⟩
    · exact .refl _
  · exact .refl _

@[simp] theorem call_store :
    (simulation.call request).2.store = ((simulation.facing request).call request).2 := rfl

/-- The simulation at the start of a pass. -/
def started (limits : PassLimits) : Simulation :=
  { simulation with
    deadline := simulation.clock + limits.deadline
    callCost := limits.callCost }

/-- A run with the clusters that were read on the way. Others may put any object in place, or edit
a cluster or its status with or without the version that they have read; a pass may be over any
cluster that was read before, however long ago, with any settings and limits. -/
inductive Run : Simulation → List Interconnect → Prop where
  | start : Run {} []
  | read {simulation seen ns name cluster} (run : Run simulation seen)
    (found : simulation.store.cluster? ns name = some cluster) :
    Run simulation (cluster :: seen)
  | insert {simulation seen} (run : Run simulation seen) (kind : Kind) (object : kind.Object) :
    Run { simulation with store := simulation.store.insert kind object } seen
  | editCluster {simulation seen} (run : Run simulation seen) (cluster : Interconnect) :
    Run (simulation.call (.replaceCluster cluster)).2 seen
  | editStatus {simulation seen} (run : Run simulation seen) (cluster : Interconnect) :
    Run (simulation.call (.replaceStatus cluster)).2 seen
  | plant {simulation seen} (run : Run simulation seen) (failure : PlantedFailure) :
    Run { simulation with store := simulation.store.plant failure } seen
  | arm {simulation seen} (run : Run simulation seen) (after : Nat) (failure : PlantedFailure) :
    Run (simulation.arm after failure) seen
  | pass {simulation seen snapshot} (run : Run simulation seen) (read : snapshot ∈ seen)
    (settings : Settings) (now : Timestamp) (limits : PassLimits) :
    Run (simulation.pass settings now limits snapshot).2 seen

/-- What holds throughout a run: the store is in order and recalls what was read. -/
structure Sound (simulation : Simulation) (seen : List Interconnect) : Prop where
  wellFormed : simulation.store.WellFormed
  recalls : ∀ snapshot ∈ seen, simulation.store.Recalls snapshot

variable {simulation request} {seen : List Interconnect}

theorem Sound.sameObjects {other : Simulation} (h : simulation.Sound seen)
    (hsame : other.store.SameObjects simulation.store) : other.Sound seen :=
  ⟨h.wellFormed.sameObjects hsame,
    fun snapshot hseen => (h.recalls snapshot hseen).sameObjects hsame⟩

theorem Sound.call (h : simulation.Sound seen) (hplaced : request.IsPlaced) :
    (simulation.call request).2.Sound seen := by
  -- an armed failure may be planted before the call, which touches no object
  have hfacing := simulation.facing_sameObjects request
  refine ⟨?_, fun snapshot hseen => ?_⟩
  · rw [call_store]
    exact (h.wellFormed.sameObjects hfacing).call hplaced
  · rw [call_store]
    exact ((h.recalls snapshot hseen).sameObjects hfacing).call request

/-- Every call of a pass keeps what holds throughout a run. -/
theorem sound_call_of_mayCall (seen : List Interconnect) (pass : Pass) (state : Simulation)
    (request : StoreCall) (h : state.Sound seen) (hcall : pass.MayCall request) :
    (runner.call request state).2.Sound seen := h.call hcall.isPlaced

theorem Sound.started (h : simulation.Sound seen) (limits : PassLimits) :
    (simulation.started limits).Sound seen := h.sameObjects (.refl _)

/-- A pass keeps what holds throughout a run. -/
theorem Sound.pass (h : simulation.Sound seen) (settings : Settings) (now : Timestamp)
    (limits : PassLimits) (snapshot : Interconnect) :
    (simulation.pass settings now limits snapshot).2.Sound seen := by
  change ((reconcile settings now snapshot).run runner (simulation.started limits)).2.Sound seen
  cases hns : snapshot.metadata.ns with
  | none =>
      rw [reconcile, hns]
      exact h.started limits
  | some ns =>
      exact (meets_reconcile settings now hns).run_invariant (sound_call_of_mayCall seen _)
        (h.started limits)

theorem Run.sound (run : Run simulation seen) : simulation.Sound seen := by
  induction run with
  | start => exact ⟨MemoryStore.wellFormed_empty, by simp⟩
  | read run found ih =>
      refine ⟨ih.wellFormed, fun snapshot hseen => ?_⟩
      rcases List.mem_cons.mp hseen with rfl | hseen
      · exact ih.wellFormed.recalls found
      · exact ih.recalls snapshot hseen
  | insert run kind object ih =>
      exact ⟨ih.wellFormed.insert kind object,
        fun snapshot hseen => (ih.recalls snapshot hseen).put _ _⟩
  | editCluster run cluster ih => exact ih.call trivial
  | editStatus run cluster ih => exact ih.call trivial
  | plant run failure ih => exact ih.sameObjects ⟨rfl, rfl, rfl⟩
  | arm run after failure ih => exact ih.sameObjects (.refl _)
  | pass run read settings now limits ih => exact ih.pass settings now limits _

end Simulation

end RouterOperator
