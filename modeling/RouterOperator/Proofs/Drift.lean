import RouterOperator.Proofs.Pass

/-!
# Drift and its repair

A live object has drifted when it disagrees with the desired one in what is compared. Bringing it to
the desired state clears the drift that led to it and keeps the name and the version of the object,
so the object is written where it was read and is not written again. This holds of everything that
is built for a cluster, and so of everything that a pass wants, which includes what is created
afresh. Objects wanted under one name agree on what has drifted.
-/

namespace RouterOperator

/-- A live template runs a single container that agrees with a built one in all that is compared,
over volumes with the same sources. -/
def PodTemplate.Runs (template : PodTemplate) (container : Container) (volumes : List Volume) :
    Prop :=
  ∃ spec live, template.spec = some spec ∧ spec.containers = [live] ∧
    live.image = container.image ∧ live.env = container.env ∧ live.ports = container.ports ∧
    live.volumeMounts = container.volumeMounts ∧
    spec.volumeSources = volumes.map Volume.source

namespace PodTemplate

theorem onlyContainer_eq_some_iff {template : PodTemplate} {container : Container} :
    template.onlyContainer = some container ↔
      ∃ spec, template.spec = some spec ∧ spec.containers = [container] := by
  unfold onlyContainer
  constructor
  · intro h
    split at h
    next live hspec =>
      cases h
      exact Option.map_eq_some_iff.mp hspec
    next => cases h
  · rintro ⟨spec, hspec, hcontainers⟩
    rw [hspec, Option.map_some, hcontainers]

/-- A template has not drifted from the one that is built for a cluster exactly if it runs what the
cluster needs. -/
theorem drifted_podTemplate_eq_false_iff (template : PodTemplate) (cluster : Interconnect)
    (image : String) :
    template.drifted (cluster.podTemplate image) = false ↔
      template.Runs (cluster.routerContainer image) cluster.routerVolumes := by
  have hwanted : (cluster.podTemplate image).firstContainer =
      some (cluster.routerContainer image) := rfl
  have hsources : (cluster.podTemplate image).volumeSources =
      cluster.routerVolumes.map Volume.source := rfl
  unfold drifted
  rw [hwanted, hsources]
  constructor
  · intro h
    split at h
    next hnone => cases hnone
    next => cases h
    next wanted live hsome hlive =>
      cases hsome
      obtain ⟨spec, hspec, hcontainers⟩ := onlyContainer_eq_some_iff.mp hlive
      simp only [Bool.or_eq_false_iff, decide_eq_false_iff_not, Decidable.not_not] at h
      obtain ⟨⟨⟨⟨himage, henv⟩, hports⟩, hmounts⟩, hvolumes⟩ := h
      refine ⟨spec, live, hspec, hcontainers, himage, henv, hports, hmounts, ?_⟩
      rw [← hvolumes, volumeSources, hspec]
      rfl
  · rintro ⟨spec, live, hspec, hcontainers, himage, henv, hports, hmounts, hvolumes⟩
    have hlive := onlyContainer_eq_some_iff.mpr ⟨spec, hspec, hcontainers⟩
    have hlist : template.volumeSources = spec.volumeSources := by
      rw [volumeSources, hspec]
      rfl
    simp [hlive, himage, henv, hports, hmounts, hlist, hvolumes]

theorem runs_podTemplate (cluster : Interconnect) (image : String) :
    (cluster.podTemplate image).Runs (cluster.routerContainer image) cluster.routerVolumes :=
  ⟨_, _, rfl, rfl, rfl, rfl, rfl, rfl, rfl⟩

theorem runs_updated (template : PodTemplate) (cluster : Interconnect) (image : String) :
    (template.updated (cluster.podTemplate image)).Runs (cluster.routerContainer image)
      cluster.routerVolumes :=
  ⟨_, _, rfl, rfl, rfl, rfl, rfl, rfl, rfl⟩

/-- There are a live and a desired template, the desired one has a single container, and the live
one runs it over the desired volumes. -/
def Agrees (live desired : Option PodTemplate) : Prop :=
  ∃ template wanted spec container, live = some template ∧ desired = some wanted ∧
    wanted.spec = some spec ∧ spec.containers = [container] ∧
    template.Runs container (spec.volumes.getD [])

theorem agrees_podTemplate_iff (live : Option PodTemplate) (cluster : Interconnect)
    (image : String) :
    Agrees live (some (cluster.podTemplate image)) ↔
      ∃ template, live = some template ∧
        template.Runs (cluster.routerContainer image) cluster.routerVolumes := by
  constructor
  · rintro ⟨template, _, _, _, hlive, hwanted, hspec, hcontainer, hruns⟩
    cases hwanted
    cases hspec
    cases hcontainer
    exact ⟨template, hlive, hruns⟩
  · rintro ⟨template, hlive, hruns⟩
    exact ⟨template, _, _, _, hlive, rfl, rfl, rfl, hruns⟩

end PodTemplate

namespace Deployment

variable (live : Deployment) (cluster : Interconnect) (image : String)

/-- The pods of a live deployment run what the cluster needs. -/
def Runs : Prop :=
  ∃ template, live.template = some template ∧
    template.Runs (cluster.routerContainer image) cluster.routerVolumes

theorem drifted_eq_false_iff :
    live.drifted (cluster.deployment image) = false ↔ live.Runs cluster image := by
  have hwanted : (cluster.deployment image).template = some (cluster.podTemplate image) := rfl
  unfold drifted Runs
  rw [hwanted]
  cases live.template with
  | none => simp
  | some template => simp [PodTemplate.drifted_podTemplate_eq_false_iff]

theorem runs_deployment : (cluster.deployment image).Runs cluster image :=
  ⟨_, rfl, PodTemplate.runs_podTemplate cluster image⟩

theorem runs_updated : (live.updated (cluster.deployment image)).Runs cluster image := by
  cases hspec : live.spec with
  | none =>
      refine ⟨cluster.podTemplate image, ?_, PodTemplate.runs_podTemplate cluster image⟩
      simp [template, updated, hspec, Interconnect.deployment]
  | some spec =>
      refine ⟨spec.template.updated (cluster.podTemplate image), ?_,
        PodTemplate.runs_updated spec.template cluster image⟩
      simp [template, updated, hspec, Interconnect.deployment]

variable {live cluster image} in
/-- The number of pods is no part of what they run. -/
theorem Runs.resized (h : live.Runs cluster image) (size : Int32) :
    (live.resized size).Runs cluster image := by
  obtain ⟨template, htemplate, hruns⟩ := h
  refine ⟨template, ?_, hruns⟩
  rw [← htemplate, Deployment.template, Deployment.template, Deployment.resized, Option.map_map]
  rfl

variable {live cluster image} in
theorem Runs.replicaCount_resized (h : live.Runs cluster image) (size : Int32) :
    (live.resized size).replicaCount = size := by
  obtain ⟨template, htemplate, -⟩ := h
  obtain ⟨spec, hspec, -⟩ := Option.map_eq_some_iff.mp htemplate
  simp [Deployment.replicaCount, Deployment.resized, hspec]

variable {live cluster image} in
theorem replicaCount_updated (h : live.replicaCount = cluster.spec.deploymentPlan.size) :
    (live.updated (cluster.deployment image)).replicaCount = cluster.spec.deploymentPlan.size := by
  cases hspec : live.spec with
  | none => simp [replicaCount, updated, hspec, Interconnect.deployment]
  | some spec =>
      rw [← h]
      simp [replicaCount, updated, hspec, Interconnect.deployment]

@[simp] theorem metadata_updated (current desired : Deployment) :
    (current.updated desired).metadata = current.metadata := by
  unfold updated
  split <;> rfl

end Deployment

namespace DaemonSet

variable (live : DaemonSet) (cluster : Interconnect) (image : String)

/-- The pods of a live daemon set run what the cluster needs. -/
def Runs : Prop :=
  ∃ template, live.template = some template ∧
    template.Runs (cluster.routerContainer image) cluster.routerVolumes

theorem drifted_eq_false_iff :
    live.drifted (cluster.daemonSet image) = false ↔ live.Runs cluster image := by
  have hwanted : (cluster.daemonSet image).template = some (cluster.podTemplate image) := rfl
  unfold drifted Runs
  rw [hwanted]
  cases live.template with
  | none => simp
  | some template => simp [PodTemplate.drifted_podTemplate_eq_false_iff]

theorem runs_daemonSet : (cluster.daemonSet image).Runs cluster image :=
  ⟨_, rfl, PodTemplate.runs_podTemplate cluster image⟩

theorem runs_updated : (live.updated (cluster.daemonSet image)).Runs cluster image := by
  cases hspec : live.spec with
  | none =>
      refine ⟨cluster.podTemplate image, ?_, PodTemplate.runs_podTemplate cluster image⟩
      simp [template, updated, hspec, Interconnect.daemonSet]
  | some spec =>
      refine ⟨spec.template.updated (cluster.podTemplate image), ?_,
        PodTemplate.runs_updated spec.template cluster image⟩
      simp [template, updated, hspec, Interconnect.daemonSet]

@[simp] theorem metadata_updated (current desired : DaemonSet) :
    (current.updated desired).metadata = current.metadata := by
  unfold updated
  split <;> rfl

end DaemonSet

namespace ConfigMap

theorem template_configMap (cluster : Interconnect) :
    cluster.configMap.template = some cluster.spec.render :=
  Dict.get?_insert_self _ _ _

theorem template_updated (current : ConfigMap) {desired : ConfigMap} {config : String}
    (h : desired.template = some config) : (current.updated desired).template = some config := by
  unfold updated
  rw [h]
  exact Dict.get?_insert_self _ _ _

@[simp] theorem metadata_updated (current desired : ConfigMap) :
    (current.updated desired).metadata = current.metadata := by
  unfold updated
  split <;> rfl

end ConfigMap

namespace Service

variable (current desired : Service)

theorem drifted_eq_false_iff :
    current.drifted desired = false ↔
      current.servingCert = desired.servingCert ∧ current.selector = desired.selector ∧
        current.portTargets = desired.portTargets := by
  simp only [drifted, Bool.or_eq_false_iff, decide_eq_false_iff_not, Decidable.not_not, and_assoc]

theorem servingCert_updated : (current.updated desired).servingCert = desired.servingCert := by
  simp only [updated, servingCert, ObjectMeta.allAnnotations, Option.getD_some]
  split
  next secret hsecret =>
    rw [Dict.get?_insert_self]
    exact hsecret.symm
  next hnone =>
    rw [Dict.get?_erase_self]
    exact hnone.symm

theorem selector_updated : (current.updated desired).selector = desired.selector := by
  unfold selector updated
  cases desired.spec <;> rfl

theorem portTargets_updated : (current.updated desired).portTargets = desired.portTargets := by
  unfold portTargets updated
  cases desired.spec <;> rfl

end Service

theorem Route.drifted_eq_false_iff (current desired : Route) :
    current.drifted desired = false ↔
      current.spec.port = desired.spec.port ∧ current.spec.tls = desired.spec.tls ∧
        current.spec.target = desired.spec.target := by
  simp only [drifted, Bool.or_eq_false_iff, decide_eq_false_iff_not, Decidable.not_not, and_assoc]

namespace Kind

variable (kind : Kind)

/-- The version of an object does not count as drift. -/
@[simp] theorem drifted_withVersion (object desired : kind.Object) (version : String) :
    kind.drifted (kind.withVersion object version) desired = kind.drifted object desired := by
  cases kind <;> rfl

@[simp] theorem nameOf_updated (current desired : kind.Object) :
    kind.nameOf (kind.updated current desired) = kind.nameOf current := by
  cases kind <;> simp [nameOf, metadata, updated, Role.updated, RoleBinding.updated,
    Service.updated, Route.updated, Ingress.updated, ObjectMeta.anyName]

@[simp] theorem version?_updated (current desired : kind.Object) :
    kind.version? (kind.updated current desired) = kind.version? current := by
  cases kind <;> simp [version?, metadata, updated, Role.updated, RoleBinding.updated,
    Service.updated, Route.updated, Ingress.updated]

/-- What is compared of a live object is as desired. -/
def Agrees : (kind : Kind) → (live desired : kind.Object) → Prop
  | role => fun live desired => Role.rules live = Role.rules desired
  | roleBinding => fun live desired => RoleBinding.subjects live = RoleBinding.subjects desired
  | configMap => fun live desired => ConfigMap.template live = ConfigMap.template desired
  | deployment => fun live desired =>
      PodTemplate.Agrees (Deployment.template live) (Deployment.template desired)
  | daemonSet => fun live desired =>
      PodTemplate.Agrees (DaemonSet.template live) (DaemonSet.template desired)
  | service => fun live desired =>
      Service.servingCert live = Service.servingCert desired ∧
        Service.selector live = Service.selector desired ∧
        Service.portTargets live = Service.portTargets desired
  | route => fun live desired =>
      (Route.spec live).port = (Route.spec desired).port ∧
        (Route.spec live).tls = (Route.spec desired).tls ∧
        (Route.spec live).target = (Route.spec desired).target
  | ingress => fun live desired => Ingress.rules live = Ingress.rules desired
  | interconnect | serviceAccount | issuer | certificate | pod => fun _ _ => True

end Kind

/-- What is built for a cluster whose routers run an image, whether or not a pass wants it now. -/
inductive Interconnect.Builds (cluster : Interconnect) (image : String) :
    (kind : Kind) → kind.Object → Prop where
  | role : cluster.Builds image .role cluster.role
  | roleBinding : cluster.Builds image .roleBinding cluster.roleBinding
  | serviceAccount : cluster.Builds image .serviceAccount cluster.serviceAccount
  | selfSignedIssuer : cluster.Builds image .issuer cluster.selfSignedIssuer
  | selfSignedCa : cluster.Builds image .certificate cluster.selfSignedCa
  | caIssuer : cluster.Builds image .issuer cluster.caIssuer
  | stepCertificate (step : CertStep) :
    cluster.Builds image .certificate (cluster.stepCertificate step)
  | configMap : cluster.Builds image .configMap cluster.configMap
  | deployment : cluster.Builds image .deployment (cluster.deployment image)
  | daemonSet : cluster.Builds image .daemonSet (cluster.daemonSet image)
  | service (requestCert : Bool) : cluster.Builds image .service (cluster.service requestCert)
  | route (listener : Listener) : cluster.Builds image .route (cluster.route listener)
  | ingress (listener : Listener) : cluster.Builds image .ingress (cluster.ingress listener)

namespace Interconnect.Builds

variable {cluster : Interconnect} {image : String} {kind : Kind} {desired : kind.Object}

/-- Drift from what is built is disagreement in what is compared. -/
theorem drifted_eq_false_iff (built : cluster.Builds image kind desired) (live : kind.Object) :
    kind.drifted live desired = false ↔ kind.Agrees live desired := by
  cases built with
  | deployment =>
      exact (Deployment.drifted_eq_false_iff live cluster image).trans
        (PodTemplate.agrees_podTemplate_iff _ cluster image).symm
  | daemonSet =>
      exact (DaemonSet.drifted_eq_false_iff live cluster image).trans
        (PodTemplate.agrees_podTemplate_iff _ cluster image).symm
  | service => exact Service.drifted_eq_false_iff live _
  | route => exact Route.drifted_eq_false_iff live _
  | role => simp [Kind.drifted, Role.drifted, Kind.Agrees]
  | roleBinding => simp [Kind.drifted, RoleBinding.drifted, Kind.Agrees]
  | configMap => simp [Kind.drifted, ConfigMap.drifted, Kind.Agrees]
  | ingress => simp [Kind.drifted, Ingress.drifted, Kind.Agrees]
  | _ => exact iff_of_true rfl trivial

theorem agrees_self (built : cluster.Builds image kind desired) : kind.Agrees desired desired := by
  cases built with
  | deployment =>
      exact (PodTemplate.agrees_podTemplate_iff _ cluster image).mpr
        (Deployment.runs_deployment cluster image)
  | daemonSet =>
      exact (PodTemplate.agrees_podTemplate_iff _ cluster image).mpr
        (DaemonSet.runs_daemonSet cluster image)
  | service => exact ⟨rfl, rfl, rfl⟩
  | route => exact ⟨rfl, rfl, rfl⟩
  | role | roleBinding | configMap | ingress => exact Eq.refl _
  | _ => trivial

/-- Whatever a live object looks like, it agrees with what is built once it was brought to it. -/
theorem agrees_updated (built : cluster.Builds image kind desired) (live : kind.Object) :
    kind.Agrees (kind.updated live desired) desired := by
  cases built with
  | deployment =>
      exact (PodTemplate.agrees_podTemplate_iff _ cluster image).mpr
        (Deployment.runs_updated live cluster image)
  | daemonSet =>
      exact (PodTemplate.agrees_podTemplate_iff _ cluster image).mpr
        (DaemonSet.runs_updated live cluster image)
  | service =>
      exact ⟨Service.servingCert_updated live _, Service.selector_updated live _,
        Service.portTargets_updated live _⟩
  | configMap =>
      have hbuilt := ConfigMap.template_configMap cluster
      exact (ConfigMap.template_updated live hbuilt).trans hbuilt.symm
  | route => exact ⟨rfl, rfl, rfl⟩
  | role | roleBinding | ingress => exact Eq.refl _
  | _ => trivial

end Interconnect.Builds

namespace Pass.Wants

variable {pass : Pass} {kind : Kind} {desired : kind.Object}

/-- What a pass wants is built for its cluster. -/
theorem builds (h : pass.Wants kind desired) :
    pass.cluster.Builds pass.settings.routerImage kind desired := by
  cases h with
  | role => exact .role
  | roleBinding => exact .roleBinding
  | serviceAccount => exact .serviceAccount
  | selfSignedIssuer => exact .selfSignedIssuer
  | selfSignedCa => exact .selfSignedCa
  | caIssuer => exact .caIssuer
  | stepCertificate => exact .stepCertificate _
  | configMap => exact .configMap
  | deployment => exact .deployment
  | daemonSet => exact .daemonSet
  | service => exact .service false
  | route => exact .route _
  | ingress => exact .ingress _

/-- What is created has not drifted. -/
theorem drifted_self (h : pass.Wants kind desired) : kind.drifted desired desired = false :=
  (h.builds.drifted_eq_false_iff _).mpr h.builds.agrees_self

/-- What was brought to the desired state has not drifted any more. -/
theorem drifted_updated (h : pass.Wants kind desired) (live : kind.Object) :
    kind.drifted (kind.updated live desired) desired = false :=
  (h.builds.drifted_eq_false_iff _).mpr (h.builds.agrees_updated live)

/-- Objects that are wanted under one name agree on what has drifted: exposed listeners may share a
name, and then they are exposed alike. -/
theorem drifted_congr {other : kind.Object} (h : pass.Wants kind desired)
    (hother : pass.Wants kind other) (hname : kind.nameOf desired = kind.nameOf other)
    (live : kind.Object) : kind.drifted live desired = kind.drifted live other := by
  -- the name of an exposure determines the target that it is built for
  have htarget : ∀ first second : Listener,
      pass.cluster.exposureName first = pass.cluster.exposureName second →
        first.targetName = second.targetName := by
    intro first second hsame
    have htext : pass.cluster.name ++ "-" ++ first.targetName =
        pass.cluster.name ++ "-" ++ second.targetName := hsame
    simpa using htext
  cases h with
  | route ready exposed =>
      cases hother with
      | route ready' exposed' =>
          simp only [Kind.drifted, Route.drifted, Interconnect.route, htarget _ _ hname]
          rfl
  | ingress ready exposed =>
      cases hother with
      | ingress ready' exposed' =>
          simp only [Interconnect.ingress, Interconnect.exposureHost, Interconnect.exposureName,
            htarget _ _ hname]
  | _ => cases hother <;> rfl

end Pass.Wants

end RouterOperator
