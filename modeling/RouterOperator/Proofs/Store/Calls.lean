import RouterOperator.Proofs.Store.Objects

/-!
# What calls do to a store in memory

A call either takes effect, which `MemoryStore.Wrote` describes for each kind of write, or leaves
all objects and the counter as they are. A write that carries a version takes effect only where the
stored object has the same.
-/

namespace RouterOperator

/-- A version that a write carries matches a stored one; a write may also carry none. -/
def ObjectMeta.Matches (incoming stored : ObjectMeta) : Prop :=
  incoming.resourceVersion = none ∨ incoming.resourceVersion = stored.resourceVersion

/-- The notices that a call publishes. -/
def StoreCall.notices : StoreCall → List Notice
  | publish _ notice => [notice]
  | _ => []

theorem StoreCall.notices_of_isWrite {request : StoreCall} (h : request.isWrite = true) :
    request.notices = [] := by
  cases request with
  | publish => cases h
  | _ => rfl

namespace MemoryStore

/-- What a call that takes effect does to a store. -/
inductive Wrote (store : MemoryStore) : StoreCall → MemoryStore → Prop where
  | created {kind : Kind} {ns : String} {object : kind.Object}
    (absent : store.object? (.of kind ns object) = none) :
    store.Wrote (.create kind ns object) (store.change .create (.of kind ns object) object)
  | replaced {kind : Kind} {ns : String} {object stored : kind.Object}
    (found : store.object? (.of kind ns object) = some stored)
    (current : (kind.metadata object).Matches (kind.metadata stored)) :
    store.Wrote (.replace kind ns object) (store.change .replace (.of kind ns object) object)
  | clusterReplaced {cluster stored : Interconnect}
    (found : store.cluster? cluster.space cluster.name = some stored)
    (current : cluster.metadata.Matches stored.metadata) :
    store.Wrote (.replaceCluster cluster)
      (store.change .replace ⟨.interconnect, cluster.space, cluster.name⟩
        ({ cluster with status := stored.status } : Interconnect))
  | statusReplaced {cluster stored : Interconnect}
    (found : store.cluster? cluster.space cluster.name = some stored)
    (current : cluster.metadata.Matches stored.metadata) :
    store.Wrote (.replaceStatus cluster)
      (store.change .status ⟨.interconnect, cluster.space, cluster.name⟩
        ({ stored with status := cluster.status } : Interconnect))

/-- What a call may make of a store: it takes effect, a write is struck by the planted failure, or
nothing happens but that a notice is published. -/
inductive Leaves (store : MemoryStore) (request : StoreCall) : MemoryStore → Prop where
  | wrote {after : MemoryStore} (effect : store.Wrote request after) : Leaves store request after
  | struck (write : request.isWrite = true) : Leaves store request { store with failure := none }
  | spared : Leaves store request { store with notices := store.notices ++ request.notices }

/-- Two stores hold the same objects under the same versions. -/
structure SameObjects (store other : MemoryStore) : Prop where
  objects : store.objects = other.objects
  version : store.version = other.version
  mutations : store.mutations = other.mutations

theorem SameObjects.refl (store : MemoryStore) : store.SameObjects store := ⟨rfl, rfl, rfl⟩

theorem SameObjects.object? {store other : MemoryStore} (h : store.SameObjects other)
    (key : ObjectKey) : store.object? key = other.object? key := by
  rw [MemoryStore.object?, MemoryStore.object?, h.objects]

variable {store : MemoryStore}

theorem current?_of_found {key : ObjectKey} {incoming stored : key.kind.Object}
    (found : store.object? key = some stored)
    (current : (key.kind.metadata incoming).Matches (key.kind.metadata stored)) :
    store.current? key incoming = .ok stored := by
  have hpass : ¬ ((key.kind.version? incoming).isSome ∧
      key.kind.version? incoming ≠ key.kind.version? stored) := by
    rintro ⟨hsome, hne⟩
    rcases current with hnone | hsame
    · rw [Kind.version?, hnone] at hsome
      cases hsome
    · exact hne hsame
  rw [current?, found]
  exact if_neg hpass

theorem current?_of_stale {key : ObjectKey} {incoming stored : key.kind.Object}
    (found : store.object? key = some stored)
    (stale : ¬ (key.kind.metadata incoming).Matches (key.kind.metadata stored)) :
    store.current? key incoming =
      .error (.conflict s!"{key.typeName} {key.name} has been modified") := by
  have hstop : (key.kind.version? incoming).isSome ∧
      key.kind.version? incoming ≠ key.kind.version? stored := by
    refine ⟨Option.isSome_iff_ne_none.mpr fun hnone => stale (Or.inl hnone), fun hsame => ?_⟩
    exact stale (Or.inr hsame)
  rw [current?, found]
  exact if_pos hstop

theorem current?_of_absent {key : ObjectKey} (absent : store.object? key = none)
    (incoming : key.kind.Object) :
    store.current? key incoming = .error (.notFound s!"{key.typeName} {key.name}") := by
  rw [current?, absent]

theorem eq_of_current? {key : ObjectKey} {incoming stored : key.kind.Object}
    (h : store.current? key incoming = .ok stored) :
    store.object? key = some stored ∧
      (key.kind.metadata incoming).Matches (key.kind.metadata stored) := by
  cases hfound : store.object? key with
  | none =>
      rw [current?_of_absent hfound] at h
      cases h
  | some found =>
      by_cases hcurrent : (key.kind.metadata incoming).Matches (key.kind.metadata found)
      · rw [current?_of_found hfound hcurrent] at h
        cases h
        exact ⟨rfl, hcurrent⟩
      · rw [current?_of_stale hfound hcurrent] at h
        cases h

theorem write_of_failure {failure : PlantedFailure} (h : store.failure = some failure)
    (effect : MemoryStore → Except Error MemoryStore) :
    store.write effect = (.error failure.error, { store with failure := none }) := by
  rw [write, h]

theorem write_of_ok (h : store.failure = none) {effect : MemoryStore → Except Error MemoryStore}
    {after : MemoryStore} (heffect : effect store = .ok after) :
    store.write effect = (.ok (), after) := by
  rw [write, h]
  simp only [heffect]

theorem write_of_error (h : store.failure = none)
    {effect : MemoryStore → Except Error MemoryStore} {error : Error}
    (heffect : effect store = .error error) : store.write effect = (.error error, store) := by
  rw [write, h]
  simp only [heffect]

theorem call_create_of_absent (h : store.failure = none) {kind : Kind} {ns : String}
    {object : kind.Object} (absent : store.object? (.of kind ns object) = none) :
    store.call (.create kind ns object) =
      (.ok (), store.change .create (.of kind ns object) object) := by
  rw [call]
  refine write_of_ok h ?_
  simp only [absent, Option.isSome_none, Bool.false_eq_true, if_false]

theorem call_replace (h : store.failure = none) {kind : Kind} {ns : String}
    {object stored : kind.Object} (found : store.object? (.of kind ns object) = some stored)
    (current : (kind.metadata object).Matches (kind.metadata stored)) :
    store.call (.replace kind ns object) =
      (.ok (), store.change .replace (.of kind ns object) object) := by
  rw [call]
  refine write_of_ok h ?_
  dsimp only
  rw [current?_of_found found current]
  rfl

/-- An object that was read under its name may be replaced by one with its name and version. -/
theorem Placed.call_replace (h : store.Placed) (hnone : store.failure = none) {kind : Kind}
    {ns name : String} {live object : kind.Object}
    (hlive : store.object? ⟨kind, ns, name⟩ = some live)
    (hname : kind.nameOf object = kind.nameOf live)
    (hversion : kind.version? object = kind.version? live) :
    store.call (.replace kind ns object) =
      (.ok (), store.change .replace ⟨kind, ns, name⟩ object) := by
  obtain rfl : kind.nameOf object = name := hname.trans (h _ _ hlive).name
  exact MemoryStore.call_replace hnone hlive (Or.inr hversion)

variable {cluster stored : Interconnect}

theorem current?_cluster_of_found (found : store.cluster? cluster.space cluster.name = some stored)
    (current : cluster.metadata.Matches stored.metadata) :
    store.current? (.of .interconnect cluster.space cluster) cluster = .ok stored :=
  current?_of_found found current

/-- The answer to a write of a cluster that has been written by others since it was read. -/
def staleError (cluster : Interconnect) : Error :=
  let key := ObjectKey.of .interconnect cluster.space cluster
  .conflict s!"{key.typeName} {key.name} has been modified"

theorem current?_cluster_of_stale (found : store.cluster? cluster.space cluster.name = some stored)
    (stale : ¬ cluster.metadata.Matches stored.metadata) :
    store.current? (.of .interconnect cluster.space cluster) cluster =
      .error (staleError cluster) :=
  current?_of_stale found stale

theorem call_replaceCluster (h : store.failure = none)
    (found : store.cluster? cluster.space cluster.name = some stored)
    (current : cluster.metadata.Matches stored.metadata) :
    store.call (.replaceCluster cluster) =
      (.ok (), store.change .replace ⟨.interconnect, cluster.space, cluster.name⟩
        ({ cluster with status := stored.status } : Interconnect)) := by
  rw [call]
  refine write_of_ok h ?_
  dsimp only
  rw [current?_cluster_of_found found current]
  rfl

theorem call_replaceStatus (h : store.failure = none)
    (found : store.cluster? cluster.space cluster.name = some stored)
    (current : cluster.metadata.Matches stored.metadata) :
    store.call (.replaceStatus cluster) =
      (.ok (), store.change .status ⟨.interconnect, cluster.space, cluster.name⟩
        ({ stored with status := cluster.status } : Interconnect)) := by
  rw [call]
  refine write_of_ok h ?_
  dsimp only
  rw [current?_cluster_of_found found current]
  rfl

/-- A write of a cluster that has been written by others since it was read changes no object and
fails, with a planted failure if there is one. -/
theorem call_of_stale (found : store.cluster? cluster.space cluster.name = some stored)
    (stale : ¬ cluster.metadata.Matches stored.metadata) {request : StoreCall}
    (hrequest : request = .replaceCluster cluster ∨ request = .replaceStatus cluster) :
    (∀ key, (store.call request).2.object? key = store.object? key) ∧
      (store.call request).1 = .error (match store.failure with
        | some failure => failure.error
        | none => staleError cluster) := by
  cases hfailure : store.failure with
  | some failure =>
      rcases hrequest with rfl | rfl
      all_goals
        rw [call, write_of_failure hfailure]
        exact ⟨fun key => rfl, rfl⟩
  | none =>
      rcases hrequest with rfl | rfl
      all_goals
        rw [call, write_of_error hfailure]
        · exact ⟨fun key => rfl, rfl⟩
        · dsimp only
          rw [current?_cluster_of_stale found stale]
          rfl

theorem leaves_self {request : StoreCall} (h : request.notices = []) :
    store.Leaves request store := by
  have hspared : store.Leaves request { store with notices := store.notices ++ request.notices } :=
    .spared
  rw [h, List.append_nil] at hspared
  exact hspared

/-- A write through `write` whose effect is as expected. -/
theorem write_leaves {request : StoreCall} (hwrite : request.isWrite = true)
    {effect : MemoryStore → Except Error MemoryStore}
    (heffect : ∀ after, effect store = .ok after → store.Wrote request after ∨ after = store) :
    store.Leaves request (store.write effect).2 := by
  have hself := store.leaves_self (StoreCall.notices_of_isWrite hwrite)
  cases h : store.failure with
  | some failure =>
      rw [write_of_failure h]
      exact .struck hwrite
  | none =>
      cases hresult : effect store with
      | error error =>
          rw [write_of_error h hresult]
          exact hself
      | ok after =>
          rw [write_of_ok h hresult]
          rcases heffect after hresult with hwrote | rfl
          · exact .wrote hwrote
          · exact hself

/-- A replacement takes effect only behind the check of the version. -/
theorem write_current_leaves {request : StoreCall} (hwrite : request.isWrite = true)
    {key : ObjectKey} {incoming : key.kind.Object} {verb : Verb}
    {next : key.kind.Object → key.kind.Object}
    (heffect : ∀ stored, store.object? key = some stored →
      (key.kind.metadata incoming).Matches (key.kind.metadata stored) →
        store.Wrote request (store.change verb key (next stored))) :
    store.Leaves request (store.write fun given => do
      let stored ← given.current? key incoming
      return given.change verb key (next stored)).2 := by
  refine write_leaves hwrite fun after hafter => .inl ?_
  cases hcurrent : store.current? key incoming with
  | error error =>
      rw [hcurrent] at hafter
      cases hafter
  | ok stored =>
      rw [hcurrent] at hafter
      cases hafter
      exact heffect stored (eq_of_current? hcurrent).1 (eq_of_current? hcurrent).2

theorem call_leaves (store : MemoryStore) (request : StoreCall) :
    store.Leaves request (store.call request).2 := by
  cases request with
  | get | listPods => exact leaves_self rfl
  | publish => exact .spared
  | create kind ns object =>
      refine write_leaves rfl fun after hafter => ?_
      cases habsent : store.object? (.of kind ns object) with
      | some stored =>
          simp only [habsent, Option.isSome_some, if_true] at hafter
          cases hafter
          exact .inr rfl
      | none =>
          simp only [habsent, Option.isSome_none, Bool.false_eq_true, if_false] at hafter
          cases hafter
          exact .inl (.created habsent)
  | replace => exact write_current_leaves rfl fun _ found current => .replaced found current
  | replaceCluster =>
      exact write_current_leaves rfl fun _ found current => .clusterReplaced found current
  | replaceStatus =>
      exact write_current_leaves rfl fun _ found current => .statusReplaced found current

/-- A call takes effect or leaves all objects as they are. -/
theorem call_cases (store : MemoryStore) (request : StoreCall) :
    store.Wrote request (store.call request).2 ∨ (store.call request).2.SameObjects store := by
  have hleaves := store.call_leaves request
  generalize (store.call request).2 = after at hleaves ⊢
  cases hleaves with
  | wrote effect => exact .inl effect
  | struck | spared => exact .inr ⟨rfl, rfl, rfl⟩

theorem WellFormed.sameObjects {other : MemoryStore} (h : store.WellFormed)
    (hsame : other.SameObjects store) : other.WellFormed := by
  refine ⟨?_, ?_, ?_⟩
  · intro key object hobject
    rw [hsame.object?] at hobject
    exact h.fits key object hobject
  · intro key object hobject
    rw [hsame.object?] at hobject
    rw [hsame.version]
    exact h.issued key object hobject
  · intro key object other object' hobject hother
    rw [hsame.object?] at hobject hother
    exact h.unique key object other object' hobject hother

end MemoryStore

/-- A call that writes an object by kind puts clusters into their own namespace. -/
def StoreCall.IsPlaced : StoreCall → Prop
  | create kind ns object | replace kind ns object =>
    kind = .interconnect → (kind.metadata object).anySpace = ns
  | _ => True

/-- Every call keeps a store in order. -/
theorem MemoryStore.WellFormed.call {store : MemoryStore} (h : store.WellFormed)
    {request : StoreCall} (hplaced : request.IsPlaced) : (store.call request).2.WellFormed := by
  rcases store.call_cases request with hwrote | hsame
  · generalize (store.call request).2 = after at hwrote
    cases hwrote with
    | created absent => exact h.change .create ⟨rfl, hplaced⟩
    | replaced found current => exact h.change .replace ⟨rfl, hplaced⟩
    | clusterReplaced found current => exact h.change .replace ⟨rfl, fun _ => rfl⟩
    | statusReplaced found current =>
        have hfits := h.fits _ _ found
        exact h.change .status ⟨hfits.name, hfits.space⟩
  · exact h.sameObjects hsame

end RouterOperator
