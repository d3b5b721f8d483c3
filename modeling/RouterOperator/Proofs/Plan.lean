import RouterOperator.Proofs.Drift
import RouterOperator.Proofs.Script

/-!
# What a pass decides

A pass only reads until it has decided how to end. What it may decide is listed here once, with what
it must have read for that: every path through the stages ends in one of these plans.
-/

namespace RouterOperator

/-- The workload of a cluster is of one of these kinds. -/
def Kind.isWorkload : Kind → Bool
  | deployment | daemonSet => true
  | _ => false

/-- A status has the conditions of an earlier one with some added at the end. -/
def InterconnectStatus.Adds (earlier status : InterconnectStatus) (added : List Condition) : Prop :=
  status.conditions = (added.foldl push earlier).conditions

namespace Pass

open Program

variable (pass : Pass)

/-- The write of the cluster's status. -/
def statusWrite (status : InterconnectStatus) : StoreCall :=
  .replaceStatus { pass.cluster with status := some status }

/-- The write of the cluster's specification. -/
def specWrite (spec : InterconnectSpec) : StoreCall := .replaceCluster { pass.cluster with spec }

/-- The workloads that a pass may bring to a desired state. -/
inductive Workload : (kind : Kind) → kind.Object → Prop where
  | deployment : Workload .deployment (pass.cluster.deployment pass.settings.routerImage)
  | daemonSet : Workload .daemonSet (pass.cluster.daemonSet pass.settings.routerImage)

/-- The size of a deployment was found to be as asked for, or there was none when that was read. -/
def Sized (known : List Exchange) (kind : Kind) : Prop :=
  kind = .deployment → ∃ reply : Option Deployment,
    (⟨.get .deployment pass.ns pass.cluster.name, reply⟩ : Exchange) ∈ known ∧
      ∀ live ∈ reply, live.replicaCount = pass.cluster.spec.deploymentPlan.size

/-- The milestone of bringing a deployment of some size to the one that is asked for. -/
def scaling (current : Int32) : ConditionType :=
  if current < pass.cluster.spec.deploymentPlan.size then .scalingUp else .scalingDown

/-- A live deployment brought to the desired state and to the size that is asked for. -/
def resized (live : Deployment) : Deployment :=
  (live.updated (pass.cluster.deployment pass.settings.routerImage)).resized
    pass.cluster.spec.deploymentPlan.size

theorem metadata_resized (live : Deployment) : (pass.resized live).metadata = live.metadata :=
  Deployment.metadata_updated live _

theorem nameOf_resized (live : Deployment) :
    Kind.deployment.nameOf (pass.resized live) = Kind.deployment.nameOf live :=
  congrArg ObjectMeta.anyName (pass.metadata_resized live)

theorem version?_resized (live : Deployment) :
    Kind.deployment.version? (pass.resized live) = Kind.deployment.version? live :=
  congrArg ObjectMeta.resourceVersion (pass.metadata_resized live)

/-- The plans of a pass: what was read, the calls that are made in the end, and the outcome. The
status write that records a change of the workload is the only one without a check in front. -/
inductive Plan : List Exchange → List Move → Outcome → Prop where
  | idle {known} : Plan known [] .idle
  | blocked {known reason} : Plan known [] (.blocked reason)
  | block {known before status notice reason} (adds : pass.status.Adds status []) :
    Plan known [⟨some before, pass.statusWrite status⟩,
      ⟨none, .publish { pass.cluster with status := some status } notice⟩] (.blocked reason)
  | restate {known before status added} (adds : pass.status.Adds status added)
    (few : added.length ≤ 1) (first : ∀ condition ∈ added, condition.type = .provisioning) :
    Plan known [⟨some before, pass.statusWrite status⟩] .statusUpdated
  | persist {known before} (spec : InterconnectSpec) :
    Plan known [⟨some before, pass.specWrite spec⟩] .specUpdated
  | create {known kind before} {desired : kind.Object} (derived : kind ≠ .interconnect)
    (other : kind.isWorkload = false) :
    Plan (known ++ [⟨.get kind pass.ns (kind.nameOf desired), none⟩])
      [⟨some before, .create kind pass.ns desired⟩] (.created kind (kind.nameOf desired))
  | update {known kind before} {desired live : kind.Object} (derived : kind ≠ .interconnect)
    (other : kind.isWorkload = false) :
    Plan (known ++ [⟨.get kind pass.ns (kind.nameOf desired), some live⟩])
      [⟨some before, .replace kind pass.ns (kind.updated live desired)⟩]
      (.updated kind (kind.nameOf desired))
  | issue {known before before'} {certificate : Certificate} (spec : InterconnectSpec) :
    Plan (known ++ [⟨.get .certificate pass.ns (Kind.certificate.nameOf certificate), none⟩])
      [⟨some before, .create .certificate pass.ns certificate⟩,
        ⟨some before', pass.specWrite spec⟩]
      (.created .certificate (Kind.certificate.nameOf certificate))
  | deploy {known kind before status condition notice} {desired : kind.Object}
    (workload : pass.Workload kind desired) (adds : pass.status.Adds status [condition])
    (milestone : condition.type = .deployed) :
    Plan (known ++ [⟨.get kind pass.ns (kind.nameOf desired), none⟩])
      [⟨some before, .create kind pass.ns desired⟩, ⟨none, pass.statusWrite status⟩,
        ⟨none, .publish { pass.cluster with status := some status } notice⟩]
      (.created kind (kind.nameOf desired))
  | refresh {known kind before} {desired live : kind.Object}
    (workload : pass.Workload kind desired) (sized : pass.Sized known kind) :
    Plan (known ++ [⟨.get kind pass.ns (kind.nameOf desired), some live⟩])
      [⟨some before, .replace kind pass.ns (kind.updated live desired)⟩]
      (.updated kind (kind.nameOf desired))
  | upgrade {known kind before status condition} {desired live : kind.Object}
    (workload : pass.Workload kind desired) (sized : pass.Sized known kind)
    (adds : pass.status.Adds status [condition]) (milestone : condition.type = .upgrading) :
    Plan (known ++ [⟨.get kind pass.ns (kind.nameOf desired), some live⟩])
      [⟨some before, .replace kind pass.ns (kind.updated live desired)⟩,
        ⟨none, pass.statusWrite status⟩] (.updated kind (kind.nameOf desired))
  | resize {known before status condition upgrades notice} {live : Deployment}
    (other : live.replicaCount ≠ pass.cluster.spec.deploymentPlan.size)
    (adds : pass.status.Adds status (condition :: upgrades)) (few : upgrades.length ≤ 1)
    (milestone : condition.type = pass.scaling live.replicaCount)
    (upgrading : ∀ condition ∈ upgrades, condition.type = .upgrading) :
    Plan (known ++ [⟨.get .deployment pass.ns pass.cluster.name, some live⟩])
      [⟨some before, .replace .deployment pass.ns (pass.resized live)⟩,
        ⟨none, pass.statusWrite status⟩,
        ⟨none, .publish { pass.cluster with status := some status } notice⟩]
      (.updated .deployment pass.cluster.name)

variable {pass} {kind : Kind} {desired : kind.Object} {known : List Exchange}

/-- Ensuring an object is a read, and a script if the object is to be changed. -/
theorem ensure_bind {α : Type} (next : Ensured kind → Program α) :
    (pass.ensure kind desired >>= next) =
      .check s!"get {kind.name} {kind.nameOf desired}"
        (.call (.get kind pass.ns (kind.nameOf desired)) fun
          | none => script .created [⟨some s!"create {kind.name} {kind.nameOf desired}",
              .create kind pass.ns desired⟩] >>= next
          | some live =>
            if kind.drifted live desired then
              script (.updated live) [⟨some s!"update {kind.name} {kind.nameOf desired}",
                .replace kind pass.ns (kind.updated live desired)⟩] >>= next
            else next (.unchanged live)) := by
  refine congrArg (Program.check _) (congrArg (Program.call _) (funext fun reply => ?_))
  cases reply with
  | none => rfl
  | some live =>
      -- the same condition on both sides, one under the continuation
      change ((if kind.drifted live desired = true then _ else _ : Program _) >>= next) = _
      dsimp only
      split <;> rfl

/-- An object is ensured after it was read, and what follows a change is a script. -/
theorem decides_ensure {α : Type} {plans : List Exchange → List Move → α → Prop}
    {next : Ensured kind → Program α}
    (hunchanged : ∀ live, kind.drifted live desired = false → Decides plans
      (known ++ [⟨.get kind pass.ns (kind.nameOf desired), some live⟩]) (next (.unchanged live)))
    (hcreated : ∀ before, ∃ rest last, next .created = script last rest ∧
      plans (known ++ [⟨.get kind pass.ns (kind.nameOf desired), none⟩])
        (⟨some before, .create kind pass.ns desired⟩ :: rest) last)
    (hupdated : ∀ before live, kind.drifted live desired = true →
      ∃ rest last, next (.updated live) = script last rest ∧
        plans (known ++ [⟨.get kind pass.ns (kind.nameOf desired), some live⟩])
          (⟨some before, .replace kind pass.ns (kind.updated live desired)⟩ :: rest) last) :
    Decides plans known (pass.ensure kind desired >>= next) := by
  rw [ensure_bind]
  refine .check (.read rfl fun reply => ?_)
  cases reply with
  | none =>
      obtain ⟨rest, last, hnext, planned⟩ := hcreated _
      dsimp only
      rw [script_bind hnext]
      exact .script planned
  | some live =>
      dsimp only
      split
      next hdrift =>
        obtain ⟨rest, last, hnext, planned⟩ := hupdated _ live hdrift
        rw [script_bind hnext]
        exact .script planned
      next hdrift => exact hunchanged live (by simpa using hdrift)

end Pass

end RouterOperator
