import RouterOperator.Proofs.OneWorkload

/-!
# Whose objects the stored objects are

Everything that is made for a cluster says so: it lies in the namespace of the cluster, carries the
two labels that the cluster's objects are found by, and names the cluster as the one owner that
controls it. The pods of its workload are labelled alike, and the workload and the service select
them by these labels. Builders give all of this to what they build and updates keep it, so it holds
of everything that passes over one cluster ever store.
-/

namespace RouterOperator

/-- What tells a cluster from all others: its place, and the identity it was given there. -/
structure Identity where
  name : String
  ns : String
  uid : String
deriving DecidableEq

namespace Identity

variable (owner : Identity)

/-- The labels of everything that is made for the cluster. -/
def labels : Dict String := .ofList [(applicationLabel, owner.name), (clusterLabel, owner.name)]

/-- The reference to the cluster as the owner that controls an object. -/
def reference : OwnerReference where
  apiVersion := Interconnect.apiType.apiVersion
  controller := some true
  kind := Interconnect.apiType.kind
  name := owner.name
  uid := owner.uid

end Identity

/-- A cluster has this identity. -/
structure Interconnect.Is (cluster : Interconnect) (owner : Identity) : Prop where
  name : cluster.metadata.name = some owner.name
  ns : cluster.metadata.ns = some owner.ns
  uid : cluster.metadata.uid = some owner.uid

/-- Metadata that tells whose the object is: the namespace, the labels and nothing but them, and the
one owner. -/
structure ObjectMeta.OwnedBy (metadata : ObjectMeta) (owner : Identity) : Prop where
  ns : metadata.ns = some owner.ns
  labels : metadata.labels = some owner.labels
  references : metadata.ownerReferences = some [owner.reference]

/-- The pods that are made from a template carry the labels. -/
def PodTemplate.Labelled (template : PodTemplate) (owner : Identity) : Prop :=
  template.metadata.bind (·.labels) = some owner.labels

/-- A workload labels its pods and selects them by these labels, and so does the service. -/
def Kind.FindsPods (owner : Identity) : (kind : Kind) → kind.Object → Prop
  | .deployment, object => ∃ spec, Deployment.spec object = some spec ∧
    spec.selector = { matchLabels := some owner.labels } ∧ spec.template.Labelled owner
  | .daemonSet, object => ∃ spec, DaemonSet.spec object = some spec ∧
    spec.selector = { matchLabels := some owner.labels } ∧ spec.template.Labelled owner
  | .service, object => Service.selector object = some owner.labels
  | _, _ => True

/-- An object was made for a cluster. -/
structure Kind.OwnedBy (kind : Kind) (object : kind.Object) (owner : Identity) : Prop where
  metadata : (kind.metadata object).OwnedBy owner
  pods : kind.FindsPods owner object

/-- An object that a goal asks for is made for a cluster. -/
def Goal.OwnedBy (owner : Identity) : Goal → Prop
  | .object kind desired => kind.OwnedBy desired owner
  | .workload => True

/-- A call that stores an object by kind stores one that was made for a cluster, in its
namespace. -/
def StoreCall.StoresOwned (owner : Identity) : StoreCall → Prop
  | create kind ns object | replace kind ns object => ns = owner.ns ∧ kind.OwnedBy object owner
  | _ => True

/-- Every stored object other than clusters and pods was made for a cluster and lies in its
namespace. -/
def MemoryStore.OwnedBy (store : MemoryStore) (owner : Identity) : Prop :=
  ∀ key object, store.object? key = some object → key.kind ≠ .interconnect → key.kind ≠ .pod →
    key.ns = owner.ns ∧ key.kind.OwnedBy object owner

variable {owner : Identity}

namespace Interconnect

variable {cluster : Interconnect}

theorem Is.selectorLabels (is : cluster.Is owner) : cluster.selectorLabels = owner.labels := by
  have hname : cluster.name = owner.name := by
    rw [Interconnect.name, ObjectMeta.anyName, is.name]
    rfl
  rw [Interconnect.selectorLabels, Identity.labels, hname]

theorem Is.ownedMeta (is : cluster.Is owner) (name : String) :
    (cluster.ownedMeta name).OwnedBy owner := by
  refine ⟨is.ns, congrArg some is.selectorLabels, ?_⟩
  unfold Interconnect.ownedMeta ownerReference?
  rw [is.name, is.uid]
  rfl

theorem Is.podTemplate (is : cluster.Is owner) (image : String) :
    (cluster.podTemplate image).Labelled owner := congrArg some is.selectorLabels

theorem Is.deployment (is : cluster.Is owner) (image : String) :
    Kind.deployment.OwnedBy (cluster.deployment image) owner := by
  refine ⟨is.ownedMeta _, _, rfl, ?_, is.podTemplate image⟩
  rw [is.selectorLabels]

theorem Is.daemonSet (is : cluster.Is owner) (image : String) :
    Kind.daemonSet.OwnedBy (cluster.daemonSet image) owner := by
  refine ⟨is.ownedMeta _, _, rfl, ?_, is.podTemplate image⟩
  rw [is.selectorLabels]

theorem Is.service (is : cluster.Is owner) (requestCert : Bool) :
    Kind.service.OwnedBy (cluster.service requestCert) owner := by
  obtain ⟨hns, hlabels, hreferences⟩ := is.ownedMeta cluster.name
  exact ⟨⟨hns, hlabels, hreferences⟩, congrArg some is.selectorLabels⟩

theorem Is.stepCertificate (is : cluster.Is owner) (step : CertStep) :
    Kind.certificate.OwnedBy (cluster.stepCertificate step) owner := by
  cases step with
  | credentials profile => exact ⟨is.ownedMeta _, trivial⟩
  | caCert profile => exact ⟨is.ownedMeta _, trivial⟩

/-- Every builder makes what it builds for the cluster. -/
theorem Is.checklist (is : cluster.Is owner) (settings : Settings) :
    ∀ goal ∈ cluster.checklist settings, goal.OwnedBy owner := by
  have hplain {kind : Kind} {desired : kind.Object} {name : String}
      (hmeta : kind.metadata desired = cluster.ownedMeta name)
      (hpods : kind.FindsPods owner desired) : (Goal.object kind desired).OwnedBy owner :=
    ⟨hmeta ▸ is.ownedMeta name, hpods⟩
  have haccess : ∀ goal ∈ cluster.accessGoals, goal.OwnedBy owner := by
    simp only [accessGoals, List.forall_mem_cons, List.not_mem_nil, false_imp_iff, implies_true,
      and_true]
    exact ⟨hplain rfl trivial, hplain rfl trivial, hplain rfl trivial⟩
  have hauthority : ∀ goal ∈ cluster.authorityGoals, goal.OwnedBy owner := by
    simp only [authorityGoals, List.forall_mem_append, List.forall_mem_singleton]
    refine ⟨?_, hplain rfl trivial⟩
    split
    · simp only [List.forall_mem_cons, List.not_mem_nil, false_imp_iff, implies_true, and_true]
      exact ⟨hplain rfl trivial, hplain rfl trivial⟩
    · simp
  have hcertificates : ∀ goal ∈ cluster.certificateGoals settings, goal.OwnedBy owner := by
    unfold certificateGoals
    split
    · split
      · simp
      next step _ =>
        simp only [List.forall_mem_append, List.forall_mem_singleton]
        exact ⟨hauthority, is.stepCertificate step⟩
    · simp
  have hserving : ∀ goal ∈ cluster.servingGoals settings, goal.OwnedBy owner := by
    simp only [servingGoals, List.forall_mem_append, List.forall_mem_cons, List.not_mem_nil,
      false_imp_iff, implies_true, and_true, List.forall_mem_map]
    refine ⟨⟨hplain rfl trivial, trivial, is.service false⟩, fun listener _ => ?_⟩
    unfold exposureGoal
    split
    · exact hplain rfl trivial
    · exact hplain rfl trivial
  unfold Interconnect.checklist
  simp only [List.forall_mem_append]
  exact ⟨⟨haccess, hcertificates⟩, hserving⟩

end Interconnect

namespace Kind

variable {kind : Kind} {live desired object : kind.Object}

theorem OwnedBy.withVersion (h : kind.OwnedBy object owner) (version : String) :
    kind.OwnedBy (kind.withVersion object version) owner := by
  obtain ⟨⟨hns, hlabels, hreferences⟩, hpods⟩ := h
  refine ⟨?_, ?_⟩
  · rw [Kind.withVersion, metadata_withMetadata]
    exact ⟨hns, hlabels, hreferences⟩
  · cases kind <;> exact hpods

/-- An update leaves the namespace, the labels and the owners of a live object as they are. -/
theorem ownedBy_metadata_updated :
    (kind.metadata (kind.updated live desired)).OwnedBy owner ↔
      (kind.metadata live).OwnedBy owner := by
  cases kind with
  | deployment => exact iff_of_eq (congrArg (·.OwnedBy owner) (Deployment.metadata_updated ..))
  | daemonSet => exact iff_of_eq (congrArg (·.OwnedBy owner) (DaemonSet.metadata_updated ..))
  | configMap => exact iff_of_eq (congrArg (·.OwnedBy owner) (ConfigMap.metadata_updated ..))
  | service =>
      -- the annotations of a service change, and nothing else of its metadata
      exact ⟨fun h => ⟨h.ns, h.labels, h.references⟩, fun h => ⟨h.ns, h.labels, h.references⟩⟩
  | _ => exact Iff.rfl

theorem labelled_updated {template wanted : PodTemplate} (h : template.Labelled owner) :
    (template.updated wanted).Labelled owner := by
  unfold PodTemplate.updated
  split
  · exact h
  · exact h

/-- What was made for a cluster remains so when it is brought to a state that is desired for the
cluster. -/
theorem OwnedBy.updated (h : kind.OwnedBy live owner) (hdesired : kind.OwnedBy desired owner) :
    kind.OwnedBy (kind.updated live desired) owner := by
  refine ⟨ownedBy_metadata_updated.mpr h.metadata, ?_⟩
  have hlive := h.pods
  have hwanted := hdesired.pods
  cases kind with
  | deployment | daemonSet =>
      obtain ⟨spec, hspec, hselector, htemplate⟩ := hlive
      obtain ⟨wanted, hwanted, -, -⟩ := hwanted
      refine ⟨{ spec with template := spec.template.updated wanted.template }, ?_, hselector,
        labelled_updated htemplate⟩
      simp [Kind.updated, Deployment.updated, DaemonSet.updated, hspec, hwanted]
  | service =>
      change (Service.spec desired).bind (·.selector) = _ at hwanted
      obtain ⟨spec, hspec, hselector⟩ := Option.bind_eq_some_iff.mp hwanted
      simp [FindsPods, Kind.updated, Service.updated, Service.selector, hspec, hselector]
  | _ => trivial

theorem OwnedBy.resized {deployment : Deployment} (h : Kind.deployment.OwnedBy deployment owner)
    (size : Int32) : Kind.deployment.OwnedBy (deployment.resized size) owner := by
  obtain ⟨hmetadata, spec, hspec, hselector, htemplate⟩ := h
  refine ⟨hmetadata, { spec with replicas := some size }, ?_, hselector, htemplate⟩
  rw [Deployment.resized, hspec]
  rfl

end Kind

namespace MemoryStore

variable {store : MemoryStore}

theorem OwnedBy.change (h : store.OwnedBy owner) (verb : Verb) {key : ObjectKey}
    {object : key.kind.Object} (hobject : key.kind ≠ .interconnect → key.kind ≠ .pod →
      key.ns = owner.ns ∧ key.kind.OwnedBy object owner) :
    (store.change verb key object).OwnedBy owner := by
  intro other stored hstored hcluster hpod
  by_cases hkey : other = key
  · subst hkey
    rw [object?_change, object?_put_self] at hstored
    cases hstored
    obtain ⟨hns, howned⟩ := hobject hcluster hpod
    exact ⟨hns, howned.withVersion _⟩
  · rw [object?_change_of_ne hkey] at hstored
    exact h other stored hstored hcluster hpod

theorem OwnedBy.sameObjects {other : MemoryStore} (h : store.OwnedBy owner)
    (hsame : other.SameObjects store) : other.OwnedBy owner := by
  intro key object hobject
  rw [hsame.object?] at hobject
  exact h key object hobject

/-- What was stored and was made for the cluster is still so after a call that stores nothing
else. -/
theorem OwnedBy.call (h : store.OwnedBy owner) {request : StoreCall}
    (hstores : request.StoresOwned owner) : (store.call request).2.OwnedBy owner := by
  rcases store.call_cases request with hwrote | hsame
  · generalize (store.call request).2 = after at hwrote
    cases hwrote with
    | created absent => exact h.change .create fun _ _ => hstores
    | replaced found current => exact h.change .replace fun _ _ => hstores
    | clusterReplaced found current => exact h.change .replace fun hkind => absurd rfl hkind
    | statusReplaced found current => exact h.change .status fun hkind => absurd rfl hkind
  · exact h.sameObjects hsame

end MemoryStore

namespace Pass

variable {pass : Pass} {known : List Exchange} {moves : List Move} {outcome : Outcome}
  {store : MemoryStore}

theorem Selects.ownedBy {kind : Kind} {desired : kind.Object}
    (h : pass.Selects known kind desired) (is : pass.cluster.Is owner) :
    kind.OwnedBy desired owner := by
  cases h with
  | deployment => exact is.deployment _
  | daemonSet => exact is.daemonSet _

theorem Selects.derived {kind : Kind} {desired : kind.Object}
    (h : pass.Selects known kind desired) : kind ≠ .interconnect ∧ kind ≠ .pod := by
  cases h <;> decide

/-- The action for a goal stores what was made for the cluster, if that is all there was and all
that the goal asks for. -/
theorem Action.storesOwned {goal : Goal} (h : pass.Action known goal moves outcome)
    (is : pass.cluster.Is owner) (hns : pass.ns = owner.ns) (hgoal : goal.OwnedBy owner)
    (hproper : goal.IsProper) (howned : store.OwnedBy owner)
    (hknown : ∀ exchange ∈ known, store.Answers exchange) :
    ∀ move ∈ moves, move.request.StoresOwned owner := by
  -- what is replaced was read, and so it was made for the cluster
  have hlive {front : List Exchange} {kind : Kind} {name : String} {live : kind.Object}
      (hkind : kind ≠ .interconnect ∧ kind ≠ .pod)
      (h : ∀ exchange ∈ front ++ [⟨.get kind pass.ns name, some live⟩], store.Answers exchange) :
      kind.OwnedBy live owner := by
    have hread : store.object? ⟨kind, pass.ns, name⟩ = some live :=
      Except.ok.inj (MemoryStore.answers_concat h).2
    exact (howned _ _ hread hkind.1 hkind.2).2
  cases h with
  | create => simpa using show StoreCall.StoresOwned owner (.create ..) from ⟨hns, hgoal⟩
  | @update known kind before desired live derived other drift =>
      -- pods never drift
      have hkind : kind ≠ .interconnect ∧ kind ≠ .pod := by
        refine ⟨derived, ?_⟩
        rintro rfl
        cases drift
      have hstores := (hlive hkind hknown).updated hgoal
      simpa using show StoreCall.StoresOwned owner (.replace ..) from ⟨hns, hstores⟩
  | issue spec =>
      simp only [List.forall_mem_cons, List.not_mem_nil, false_imp_iff, implies_true, and_true]
      exact ⟨⟨hns, hgoal⟩, trivial⟩
  | deploy selected =>
      simp only [List.forall_mem_cons, List.not_mem_nil, false_imp_iff, implies_true, and_true]
      exact ⟨⟨hns, selected.ownedBy is⟩, trivial, trivial⟩
  | refresh selected =>
      have hstores := (hlive selected.derived hknown).updated (selected.ownedBy is)
      simpa using show StoreCall.StoresOwned owner (.replace ..) from ⟨hns, hstores⟩
  | upgrade selected =>
      have hstores := (hlive selected.derived hknown).updated (selected.ownedBy is)
      simp only [List.forall_mem_cons, List.not_mem_nil, false_imp_iff, implies_true, and_true]
      exact ⟨⟨hns, hstores⟩, trivial⟩
  | resize selected =>
      have hstores := (hlive selected.derived hknown).updated (selected.ownedBy is)
      simp only [List.forall_mem_cons, List.not_mem_nil, false_imp_iff, implies_true, and_true]
      exact ⟨⟨hns, hstores.resized _⟩, trivial, trivial⟩

/-- Whatever a pass decides on, it stores nothing but what was made for the cluster. -/
theorem Decision.storesOwned (h : pass.Decision known moves outcome)
    (is : pass.cluster.Is owner) (hns : pass.ns = owner.ns) (howned : store.OwnedBy owner)
    (hknown : ∀ exchange ∈ known, store.Answers exchange) :
    ∀ move ∈ moves, move.request.StoresOwned owner := by
  cases h with
  | act walks listed shown action =>
      have hmem := listed ▸ List.mem_append_right _ List.mem_cons_self
      exact action.storesOwned is hns (is.checklist _ _ hmem)
        (Interconnect.isProper_of_checklist _ hmem) howned hknown
  | blocked | idle => simp
  | _ => simp [statusWrite, specWrite, StoreCall.StoresOwned]

end Pass

namespace Simulation

variable {current start : Simulation} {snapshot : Interconnect}

/-- An occurrence leaves what is made for a cluster to the passes over it: others put nothing but
clusters and pods in place, and no other cluster is passed over. -/
def Occurrence.Concerns (owner : Identity) : Occurrence → Prop
  | insert kind _ => kind = .interconnect ∨ kind = .pod
  | pass snapshot _ _ _ => snapshot.Is owner
  | _ => True

theorem ownedBy_call (h : current.store.OwnedBy owner) {request : StoreCall}
    (hstores : request.StoresOwned owner) : (current.call request).2.store.OwnedBy owner := by
  rw [call_store]
  exact (h.sameObjects (current.facing_sameObjects request)).call hstores

open Program in
/-- Over a store that holds nothing but what was made for the cluster, every call of a pass finds
the store so and stores such objects alone, and so does the pass leave it. -/
theorem ownedBy_pass (h : current.store.OwnedBy owner) (is : snapshot.Is owner)
    (settings : Settings) (now : Timestamp) (limits : PassLimits) :
    (∀ entry ∈ (reconcile settings now snapshot).trace runner (current.started limits),
      entry.1.store.OwnedBy owner ∧ entry.2.StoresOwned owner) ∧
    (current.pass settings now limits snapshot).2.store.OwnedBy owner := by
  have hread {request : StoreCall} (hread : request.isRead = true) :
      request.StoresOwned owner := by
    cases request with
    | get | listPods => trivial
    | _ => cases hread
  have hstores : ∀ entry ∈ (reconcile settings now snapshot).trace runner (current.started limits),
      entry.2.StoresOwned owner := by
    rw [reconcile, is.ns]
    let pass : Pass :=
      { cluster := snapshot, ns := owner.ns, settings, now, status := snapshot.statusOrNew }
    have howned : (current.started limits).store.OwnedBy owner := h
    intro entry hentry
    have call : (current.started limits).PassCall pass entry := passCall hentry
    cases call with
    | read reads => exact hread reads
    | decided decision answers store made =>
        obtain ⟨move, hmove, hsame⟩ := exists_move_of_mem_trace made
        exact hsame ▸ decision.storesOwned is rfl howned answers move hmove
  let owned (state : Simulation) : Prop := state.store.OwnedBy owner
  have hstarted : owned (current.started limits) := h
  have hcall : ∀ entry ∈ (reconcile settings now snapshot).trace runner (current.started limits),
      owned entry.1 → owned (runner.call entry.2 entry.1).2 :=
    fun entry hentry howned => ownedBy_call howned (hstores entry hentry)
  obtain ⟨hentries, hend⟩ := invariant_of_trace hstarted hcall
  exact ⟨fun entry hentry => ⟨hentries entry hentry, hstores entry hentry⟩, hend⟩

/-- Nothing that concerns the cluster stores an object that was not made for it. -/
theorem ownedBy_after (h : current.store.OwnedBy owner) {occurrence : Occurrence}
    (concerns : occurrence.Concerns owner) : (current.after occurrence).store.OwnedBy owner := by
  cases occurrence with
  | insert kind object =>
      refine h.change .create fun hcluster hpod => ?_
      exact absurd concerns (not_or.mpr ⟨hcluster, hpod⟩)
  | editCluster cluster => exact ownedBy_call h trivial
  | editStatus cluster => exact ownedBy_call h trivial
  | plant failure => exact h.sameObjects ⟨rfl, rfl, rfl⟩
  | arm after failure => exact h
  | pass snapshot settings now limits => exact (ownedBy_pass h concerns settings now limits).2

theorem ownedBy_foldl (h : start.store.OwnedBy owner) {occurrences : List Occurrence}
    (concern : ∀ occurrence ∈ occurrences, occurrence.Concerns owner) :
    (occurrences.foldl Simulation.after start).store.OwnedBy owner := by
  induction occurrences generalizing start with
  | nil => exact h
  | cons occurrence rest ih =>
      obtain ⟨hfirst, hrest⟩ := List.forall_mem_cons.mp concern
      exact ih (ownedBy_after h hfirst) hrest

/-- Whatever passes over one cluster have done since a store held nothing derived, over whatever
snapshots of the cluster, with whatever settings, limits and failures, and whatever others have
written to clusters meanwhile: all that is stored but clusters and pods was made for the cluster and
says so, and whatever a pass stores next, anew or in place of a stored object, says so as well. -/
theorem stored_objects_are_owned
    (none_yet : ∀ key : ObjectKey, key.kind ≠ .interconnect → key.kind ≠ .pod →
      start.store.object? key = none)
    {occurrences : List Occurrence}
    (concern : ∀ occurrence ∈ occurrences, occurrence.Concerns owner) :
    let current := occurrences.foldl Simulation.after start
    current.store.OwnedBy owner ∧
      ∀ (snapshot : Interconnect) (settings : Settings) (now : Timestamp) (limits : PassLimits),
        snapshot.Is owner →
          ∀ entry ∈ (reconcile settings now snapshot).trace runner (current.started limits),
            entry.1.store.OwnedBy owner ∧ entry.2.StoresOwned owner := by
  have hstart : start.store.OwnedBy owner := by
    intro key object hobject hcluster hpod
    exact nomatch (none_yet key hcluster hpod).symm.trans hobject
  have hcurrent := ownedBy_foldl hstart concern
  exact ⟨hcurrent, fun snapshot settings now limits is =>
    (ownedBy_pass hcurrent is settings now limits).1⟩

/-- A cluster that was given an identity when it was stored. -/
def identifiedCluster : Interconnect :=
  { securedCluster with metadata := { securedCluster.metadata with uid := some "7f1c" } }

theorem first_role_is_owned :
    let stored : Simulation :=
      [Occurrence.insert .interconnect identifiedCluster,
        .pass identifiedCluster {} default {}].foldl Simulation.after {}
    stored.store.OwnedBy ⟨"amq", "msg", "7f1c"⟩ ∧
      stored.store.object? ⟨.role, "msg", "amq"⟩ ≠ none := by
  refine ⟨(stored_objects_are_owned (fun key _ _ => by simp [MemoryStore.object?]) ?_).1, ?_⟩
  · simp only [List.forall_mem_cons, List.not_mem_nil, false_imp_iff, implies_true, and_true]
    exact ⟨.inl rfl, rfl, rfl, rfl⟩
  · exact Option.some_ne_none _

end Simulation

end RouterOperator
