import RouterOperator.Proofs.Store.Calls

/-!
# Writes after a fresh read

A store is fresh for a cluster when the cluster was just read from it and nothing stands in the way
of writing it back. The writes of a pass over such a store take effect, and each leaves a store that
is fresh for the cluster as it is stored by then.
-/

namespace RouterOperator

/-- A cluster under another version. -/
def Interconnect.under (cluster : Interconnect) (version : Option String) : Interconnect :=
  { cluster with metadata := { cluster.metadata with resourceVersion := version } }

namespace MemoryStore

/-- Every object lies where it belongs, no failure is planted, and the cluster of this namespace is
the stored one. -/
structure Fresh (store : MemoryStore) (ns : String) (cluster : Interconnect) : Prop where
  placed : store.Placed
  unharmed : store.failure = none
  found : store.cluster? ns cluster.name = some cluster
  space : cluster.metadata.ns = some ns

/-- Two stores hold the same objects apart from clusters. -/
def SameServing (store other : MemoryStore) : Prop :=
  ∀ key, key.kind ≠ .interconnect → store.object? key = other.object? key

theorem SameServing.refl (store : MemoryStore) : store.SameServing store := fun _ _ => rfl

theorem SameServing.trans {first second third : MemoryStore} (h : first.SameServing second)
    (h' : second.SameServing third) : first.SameServing third :=
  fun key hkey => (h key hkey).trans (h' key hkey)

theorem sameServing_change (store : MemoryStore) (verb : Verb) {key : ObjectKey}
    (hkind : key.kind = .interconnect) (object : key.kind.Object) :
    (store.change verb key object).SameServing store := by
  intro other hother
  refine object?_change_of_ne ?_ store verb object
  rintro rfl
  exact hother hkind

theorem SameServing.podsIn {store other : MemoryStore} (h : store.SameServing other)
    (ns : String) : store.podsIn ns = other.podsIn ns :=
  podsIn_congr (fun key hkey => h key (by rw [hkey]; decide)) ns

namespace Fresh

variable {store : MemoryStore} {ns : String} {cluster : Interconnect}

theorem space_eq (h : store.Fresh ns cluster) : cluster.space = ns := by
  rw [Interconnect.space, ObjectMeta.anySpace, h.space]
  rfl

/-- A change of another object leaves the store fresh. -/
theorem change (h : store.Fresh ns cluster) (verb : Verb) {key : ObjectKey}
    {object : key.kind.Object} (hkind : key.kind ≠ .interconnect)
    (hname : key.kind.nameOf object = key.name) :
    (store.change verb key object).Fresh ns cluster := by
  refine ⟨h.placed.change verb ⟨hname, fun hcluster => absurd hcluster hkind⟩, h.unharmed, ?_,
    h.space⟩
  rw [cluster?, object?_change_of_ne]
  · exact h.found
  · rintro rfl
    exact hkind rfl

/-- Storing the cluster in another form, with its name, leaves the store fresh for that form. -/
theorem change_cluster (h : store.Fresh ns cluster) (verb : Verb) {next : Interconnect}
    (hname : next.name = cluster.name) (hspace : next.metadata.ns = cluster.metadata.ns) :
    (store.change verb ⟨.interconnect, ns, cluster.name⟩ next).Fresh ns
      (next.under (some (toString (store.version + 1)))) := by
  have hsame : (next.under (some (toString (store.version + 1)))).name = cluster.name := hname
  refine ⟨h.placed.change verb ⟨hname, fun _ => ?_⟩, h.unharmed, ?_, hspace.trans h.space⟩
  · change next.metadata.ns.getD "" = ns
    rw [hspace, h.space]
    rfl
  · rw [hsame, cluster?, object?_change, object?_put_self]
    rfl

/-- A status that is written back is stored, under a new version. -/
theorem writeStatus (h : store.Fresh ns cluster) (status : InterconnectStatus) :
    ∃ after version,
      store.call (.replaceStatus { cluster with status := some status }) = (.ok (), after) ∧
        after.Fresh ns (({ cluster with status := some status } : Interconnect).under version) ∧
        after.SameServing store := by
  have hkey : store.cluster? cluster.space cluster.name = some cluster := by
    rw [h.space_eq, h.found]
  have hcall : store.call (.replaceStatus { cluster with status := some status }) =
      (.ok (), store.change .status ⟨.interconnect, cluster.space, cluster.name⟩
        ({ cluster with status := some status } : Interconnect)) :=
    call_replaceStatus h.unharmed hkey (Or.inr rfl)
  rw [h.space_eq] at hcall
  exact ⟨_, _, hcall, h.change_cluster .status rfl rfl, sameServing_change _ _ rfl _⟩

/-- A specification that is written back is stored, under a new version. -/
theorem writeSpec (h : store.Fresh ns cluster) (spec : InterconnectSpec) :
    ∃ after version,
      store.call (.replaceCluster { cluster with spec }) = (.ok (), after) ∧
        after.Fresh ns (({ cluster with spec } : Interconnect).under version) ∧
        after.SameServing store := by
  have hkey : store.cluster? cluster.space cluster.name = some cluster := by
    rw [h.space_eq, h.found]
  have hcall : store.call (.replaceCluster { cluster with spec }) =
      (.ok (), store.change .replace ⟨.interconnect, cluster.space, cluster.name⟩
        ({ cluster with spec } : Interconnect)) :=
    call_replaceCluster h.unharmed hkey (Or.inr rfl)
  rw [h.space_eq] at hcall
  exact ⟨_, _, hcall, h.change_cluster .replace rfl rfl, sameServing_change _ _ rfl _⟩

/-- A notice changes no object. -/
theorem publish (h : store.Fresh ns cluster) (about : Interconnect) (notice : Notice) :
    ∃ after, store.call (.publish about notice) = (.ok (), after) ∧ after.Fresh ns cluster ∧
      after.SameServing store :=
  ⟨_, rfl, ⟨h.placed, h.unharmed, h.found, h.space⟩, fun _ _ => rfl⟩

/-- Over a fresh store an object that was read may be replaced. -/
theorem call_replace (h : store.Fresh ns cluster) {kind : Kind} {live object : kind.Object}
    {name : String} (hlive : store.object? ⟨kind, ns, name⟩ = some live)
    (hname : kind.nameOf object = kind.nameOf live)
    (hversion : kind.version? object = kind.version? live) :
    store.call (.replace kind ns object) =
      (.ok (), store.change .replace (.of kind ns object) object) := by
  obtain rfl : kind.nameOf object = name := hname.trans (h.placed _ _ hlive).name
  exact h.placed.call_replace h.unharmed hlive hname hversion

end Fresh

end MemoryStore

end RouterOperator
