import RouterOperator.Proofs.Drift

/-!
# Updates of live objects

An update carries the managed part of a desired object over to a live one, whatever the live one
lacks. Two laws say that it does no more and no less than that. One update is enough: afterwards
the live object agrees with the desired one in all that is compared, and a second update changes
nothing. And what is not managed stays: with the managed part blanked out, the object is the same
before and after, however many updates there were and whatever they were made from.
-/

namespace RouterOperator

/-! ## Updating twice -/

namespace PodTemplate

variable (live desired : PodTemplate)

theorem updated_self : live.updated live = live := by
  unfold updated
  split
  next => rfl
  next spec hspec =>
    rw [hspec, Option.getD_some]
    cases live
    cases hspec
    rfl

theorem updated_updated : (live.updated desired).updated desired = live.updated desired := by
  unfold updated
  cases desired.spec <;> rfl

end PodTemplate

namespace Deployment

theorem updated_updated (live desired : Deployment) :
    (live.updated desired).updated desired = live.updated desired := by
  cases hlive : live.spec with
  | none =>
      cases hdesired : desired.spec with
      | none => simp [updated, hlive, hdesired]
      | some wanted =>
          -- the first update has taken the whole specification, which takes nothing from itself
          simp [updated, hlive, hdesired, PodTemplate.updated_self]
  | some spec =>
      cases hdesired : desired.spec with
      | none => simp [updated, hlive, hdesired]
      | some wanted => simp [updated, hlive, hdesired, PodTemplate.updated_updated]

end Deployment

namespace DaemonSet

theorem updated_updated (live desired : DaemonSet) :
    (live.updated desired).updated desired = live.updated desired := by
  cases hlive : live.spec with
  | none =>
      cases hdesired : desired.spec with
      | none => simp [updated, hlive, hdesired]
      | some wanted =>
          -- the first update has taken the whole specification, which takes nothing from itself
          simp [updated, hlive, hdesired, PodTemplate.updated_self]
  | some spec =>
      cases hdesired : desired.spec with
      | none => simp [updated, hlive, hdesired]
      | some wanted => simp [updated, hlive, hdesired, PodTemplate.updated_updated]

end DaemonSet

theorem ConfigMap.updated_updated (live desired : ConfigMap) :
    (live.updated desired).updated desired = live.updated desired := by
  unfold updated
  cases desired.template <;> simp

theorem Service.updated_updated (live desired : Service) :
    (live.updated desired).updated desired = live.updated desired := by
  unfold updated
  cases desired.servingCert <;> simp [ObjectMeta.allAnnotations]

namespace Kind

variable (kind : Kind)

/-- Whatever is desired, updating twice is updating once. -/
theorem updated_updated (live desired : kind.Object) :
    kind.updated (kind.updated live desired) desired = kind.updated live desired := by
  cases kind with
  | configMap => exact ConfigMap.updated_updated live desired
  | deployment => exact Deployment.updated_updated live desired
  | daemonSet => exact DaemonSet.updated_updated live desired
  | service => exact Service.updated_updated live desired
  | _ => rfl

end Kind

/-- Whatever is built for a cluster, and whatever the live object looks like: drift is disagreement
in what is compared, an update ends it, and another update changes nothing. -/
theorem Interconnect.Builds.update_settles {cluster : Interconnect} {image : String} {kind : Kind}
    {desired : kind.Object} (built : cluster.Builds image kind desired) (live : kind.Object) :
    (kind.drifted live desired = false ↔ kind.Agrees live desired) ∧
      kind.drifted (kind.updated live desired) desired = false ∧
      kind.updated (kind.updated live desired) desired = kind.updated live desired := by
  refine ⟨built.drifted_eq_false_iff live, ?_, kind.updated_updated live desired⟩
  exact (built.drifted_eq_false_iff _).mpr (built.agrees_updated live)

/-- A service that somebody else made, with an annotation of theirs and nothing specified. -/
def adoptedService : Service where
  metadata := { name := some "amq", annotations := some (.ofList [("team", "edge")]) }

/-- A cluster that asks for nothing. -/
def plainCluster : Interconnect where
  metadata := { name := some "amq", ns := some "msg" }
  spec := {}

theorem adopted_service_settles :
    adoptedService.drifted (plainCluster.service true) = true ∧
      (adoptedService.updated (plainCluster.service true)).drifted (plainCluster.service true) =
        false ∧
      (adoptedService.updated (plainCluster.service true)).updated (plainCluster.service true) =
        adoptedService.updated (plainCluster.service true) := by
  have built : plainCluster.Builds defaultRouterImage .service (plainCluster.service true) :=
    .service true
  obtain ⟨hagrees, hclear, htwice⟩ := built.update_settles adoptedService
  refine ⟨?_, hclear, htwice⟩
  apply eq_true_of_ne_false
  intro hsettled
  -- nobody has asked for a certificate yet
  have hasked : (plainCluster.service true).servingCert = some "amq-cert" := rfl
  have hcert : adoptedService.servingCert = _ := (hagrees.mp hsettled).1
  rw [hasked] at hcert
  exact absurd hcert (by decide)

/-! ## What updates keep -/

/-- A role without its rules. -/
def Role.stripped (role : Role) : Role := { role with rules := none }

/-- A binding without its subjects. -/
def RoleBinding.stripped (binding : RoleBinding) : RoleBinding := { binding with subjects := none }

/-- A config map without the entry that holds the configuration. -/
def ConfigMap.stripped (map : ConfigMap) : ConfigMap :=
  { map with data := some ((map.data.getD .empty).erase templateKey) }

/-- What a pod runs, without its containers and volumes. -/
def PodSpec.stripped (spec : PodSpec) : PodSpec := { spec with containers := [], volumes := none }

/-- A template without containers and volumes. -/
def PodTemplate.stripped (template : PodTemplate) : PodTemplate :=
  { template with spec := some (template.spec.getD {}).stripped }

/-- What a deployment runs, without containers and volumes. -/
def DeploymentSpec.stripped (spec : DeploymentSpec) : DeploymentSpec :=
  { spec with template := spec.template.stripped }

/-- What a daemon set runs, without containers and volumes. -/
def DaemonSetSpec.stripped (spec : DaemonSetSpec) : DaemonSetSpec :=
  { spec with template := spec.template.stripped }

/-- A service without its selector, its ports and the annotation that asks for a certificate. -/
def Service.stripped (service : Service) : Service :=
  { service with
    metadata :=
      { service.metadata with
        annotations := some (service.metadata.allAnnotations.erase servingCertKey) }
    spec := some { service.spec.getD {} with ports := none, selector := none } }

/-- A route without its port, its handling of TLS and its target. -/
def Route.stripped (route : Route) : Route :=
  { route with
    spec := { route.spec with port := none, tls := none, target := { kind := "", name := "" } } }

/-- An ingress without its rules. -/
def Ingress.stripped (ingress : Ingress) : Ingress :=
  { ingress with spec := some { ingress.spec.getD {} with rules := none } }

/-- A part that was there is still there, and the same up to what is stripped. -/
def KeepsPart {α : Type} (stripped : α → α) (live next : Option α) : Prop :=
  ∀ part, live = some part → next.map stripped = some (stripped part)

theorem keepsPart_self {α : Type} (stripped : α → α) (live : Option α) :
    KeepsPart stripped live live :=
  fun _ hlive => congrArg (Option.map stripped) hlive

theorem KeepsPart.trans {α : Type} {stripped : α → α} {live middle next : Option α}
    (h : KeepsPart stripped live middle) (hnext : KeepsPart stripped middle next) :
    KeepsPart stripped live next := by
  intro part hlive
  obtain ⟨other, hmiddle, hother⟩ := Option.map_eq_some_iff.mp (h part hlive)
  rw [hnext other hmiddle, hother]

/-- A later state of a deployment differs in containers and volumes only, unless it specified
nothing before. -/
def Deployment.Keeps (live next : Deployment) : Prop :=
  next.metadata = live.metadata ∧ next.status = live.status ∧
    KeepsPart DeploymentSpec.stripped live.spec next.spec

/-- A later state of a daemon set differs in containers and volumes only, unless it specified
nothing before. -/
def DaemonSet.Keeps (live next : DaemonSet) : Prop :=
  next.metadata = live.metadata ∧ next.status = live.status ∧
    KeepsPart DaemonSetSpec.stripped live.spec next.spec

theorem PodTemplate.stripped_updated (live desired : PodTemplate) :
    (live.updated desired).stripped = live.stripped := by
  unfold updated
  cases desired.spec <;> rfl

theorem Deployment.keeps_updated (live desired : Deployment) :
    live.Keeps (live.updated desired) := by
  unfold updated
  split
  next spec wanted hspec _ =>
    refine ⟨rfl, rfl, fun part hpart => ?_⟩
    obtain rfl := Option.some.inj (hspec.symm.trans hpart)
    simp [DeploymentSpec.stripped, PodTemplate.stripped_updated]
  next hnone => exact ⟨rfl, rfl, fun part hpart => nomatch hnone.symm.trans hpart⟩
  next => exact ⟨rfl, rfl, keepsPart_self _ _⟩

theorem DaemonSet.keeps_updated (live desired : DaemonSet) :
    live.Keeps (live.updated desired) := by
  unfold updated
  split
  next spec wanted hspec _ =>
    refine ⟨rfl, rfl, fun part hpart => ?_⟩
    obtain rfl := Option.some.inj (hspec.symm.trans hpart)
    simp [DaemonSetSpec.stripped, PodTemplate.stripped_updated]
  next hnone => exact ⟨rfl, rfl, fun part hpart => nomatch hnone.symm.trans hpart⟩
  next => exact ⟨rfl, rfl, keepsPart_self _ _⟩

theorem ConfigMap.stripped_updated (live desired : ConfigMap) :
    (live.updated desired).stripped = live.stripped := by
  unfold updated stripped
  cases desired.template <;> simp

theorem Service.stripped_updated (live desired : Service) :
    (live.updated desired).stripped = live.stripped := by
  unfold updated stripped
  cases desired.servingCert <;> simp [ObjectMeta.allAnnotations]

/-- Other entries of a config map read as before. -/
theorem ConfigMap.get?_updated_of_ne (live desired : ConfigMap) {key : String}
    (hne : key ≠ templateKey) :
    ((live.updated desired).data.getD .empty).get? key = (live.data.getD .empty).get? key := by
  have herased := congrArg (fun map => (map.data.getD .empty).get? key)
    (stripped_updated live desired)
  simpa only [stripped, Option.getD_some, Dict.get?_erase_of_ne _ hne] using herased

/-- Annotations that other controllers have put on a service read as before. -/
theorem Service.annotation_updated_of_ne (live desired : Service) {key : String}
    (hne : key ≠ servingCertKey) :
    (live.updated desired).metadata.allAnnotations.get? key =
      live.metadata.allAnnotations.get? key := by
  have herased := congrArg (fun service => service.metadata.allAnnotations.get? key)
    (stripped_updated live desired)
  simpa only [stripped, ObjectMeta.allAnnotations, Option.getD_some,
    Dict.get?_erase_of_ne _ hne] using herased

namespace Kind

/-- A later state of an object differs from it in nothing but what is managed. -/
def Keeps : (kind : Kind) → (live next : kind.Object) → Prop
  | role => fun live next => Role.stripped next = Role.stripped live
  | roleBinding => fun live next => RoleBinding.stripped next = RoleBinding.stripped live
  | configMap => fun live next => ConfigMap.stripped next = ConfigMap.stripped live
  | deployment => Deployment.Keeps
  | daemonSet => DaemonSet.Keeps
  | service => fun live next => Service.stripped next = Service.stripped live
  | route => fun live next => Route.stripped next = Route.stripped live
  | ingress => fun live next => Ingress.stripped next = Ingress.stripped live
  | interconnect | serviceAccount | issuer | certificate | pod => fun live next => next = live

variable (kind : Kind)

theorem keeps_self (live : kind.Object) : kind.Keeps live live := by
  cases kind with
  | deployment => exact ⟨rfl, rfl, keepsPart_self _ _⟩
  | daemonSet => exact ⟨rfl, rfl, keepsPart_self _ _⟩
  | _ => rfl

variable {kind} in
theorem Keeps.trans {live middle next : kind.Object} (h : kind.Keeps live middle)
    (hnext : kind.Keeps middle next) : kind.Keeps live next := by
  cases kind with
  | deployment =>
      exact ⟨hnext.1.trans h.1, hnext.2.1.trans h.2.1, h.2.2.trans hnext.2.2⟩
  | daemonSet =>
      exact ⟨hnext.1.trans h.1, hnext.2.1.trans h.2.1, h.2.2.trans hnext.2.2⟩
  | _ => exact Eq.trans hnext h

theorem keeps_updated (live desired : kind.Object) :
    kind.Keeps live (kind.updated live desired) := by
  cases kind with
  | configMap => exact ConfigMap.stripped_updated live desired
  | deployment => exact Deployment.keeps_updated live desired
  | daemonSet => exact DaemonSet.keeps_updated live desired
  | service => exact Service.stripped_updated live desired
  | _ => rfl

/-- An update keeps all that is not managed, and so does any number of them, each from a desired
object of its own. -/
theorem updates_keep_unmanaged (live : kind.Object) :
    (∀ desired, kind.Keeps live (kind.updated live desired)) ∧
      ∀ desireds : List kind.Object, kind.Keeps live (desireds.foldl kind.updated live) := by
  refine ⟨kind.keeps_updated live, fun desireds => ?_⟩
  induction desireds generalizing live with
  | nil => exact kind.keeps_self live
  | cons desired later ih => exact (kind.keeps_updated live desired).trans (ih _)

end Kind

end RouterOperator
