import RouterOperator.Proofs.Config.Files
import RouterOperator.Proofs.Drift

/-!
# Rolling out an edit

The drift test compares five things: image, environment, ports and mounts of the router container,
and the sources of the volumes. Between templates that are built for clusters this settles nearly
everything that a template has. The environment tells the name of the cluster, from which the
labels, the service account and the names of container and configuration follow, and a volume of a
router is told by its source. What remains is the affinity of the pods, which is not brought to a
live workload at all, and the probe and the resources of the container. So an edit that shows in
anything else is drift from every workload that runs what was needed before.
-/

namespace RouterOperator

/-- A container without its liveness probe and its resources. -/
def Container.bare (container : Container) : Container :=
  { container with livenessProbe := none, resources := none }

/-- A template without the affinity of its pods and without the liveness probes and the resources of
their containers. -/
def PodTemplate.bare (template : PodTemplate) : PodTemplate :=
  { template with
    spec := template.spec.map fun spec =>
      { spec with affinity := none, containers := spec.containers.map Container.bare } }

/-- The volume with a source and nothing else. -/
def Volume.ofSource (source : String × Option String × Option String) : Volume where
  name := source.1
  configMap := source.2.1.map fun name => { name }
  secret := source.2.2.map fun secretName => { secretName := some secretName }

namespace Interconnect

variable {first second : Interconnect} {image image' : String}

theorem ofSource_source {cluster : Interconnect} {volume : Volume}
    (h : volume ∈ cluster.routerVolumes) : Volume.ofSource volume.source = volume := by
  rcases (cluster.declares_routerVolumes.mem_iff volume).mp h with rfl | ⟨secret, -, -, rfl⟩
  · rfl
  · rfl

/-- The volumes of routers are told by their sources. -/
theorem routerVolumes_inj
    (h : first.routerVolumes.map Volume.source = second.routerVolumes.map Volume.source) :
    first.routerVolumes = second.routerVolumes := by
  have hback (cluster : Interconnect) :
      (cluster.routerVolumes.map Volume.source).map Volume.ofSource = cluster.routerVolumes := by
    rw [List.map_map]
    exact (List.map_congr_left fun _ hvolume => ofSource_source hvolume).trans (List.map_id _)
  rw [← hback first, h, hback second]

/-- The environment of routers tells the name of their cluster. -/
theorem name_eq_of_routerEnv (h : first.routerEnv = second.routerEnv) :
    first.name = second.name := by
  have hfirst : EnvVar.ofValue "APPLICATION_NAME" first.name =
      EnvVar.ofValue "APPLICATION_NAME" second.name := (List.cons.inj h).1
  exact Option.some.inj (congrArg EnvVar.value hfirst)

/-- The cluster with another placement of its routers. -/
def placed (cluster : Interconnect) (placement : Option Placement) : Interconnect :=
  { cluster with
    spec := { cluster.spec with
      deploymentPlan := { cluster.spec.deploymentPlan with placement } } }

end Interconnect

variable {first second : Interconnect} {image image' : String}

namespace PodTemplate

/-- A template that runs what two clusters need was built alike for both, but for what is not
compared. -/
theorem Runs.bare_eq {template : PodTemplate}
    (h : template.Runs (first.routerContainer image) first.routerVolumes)
    (h' : template.Runs (second.routerContainer image') second.routerVolumes) :
    (first.podTemplate image).bare = (second.podTemplate image').bare := by
  obtain ⟨spec, live, hspec, hcontainers, himage, henv, hports, hmounts, hvolumes⟩ := h
  obtain ⟨spec', live', hspec', hcontainers', himage', henv', hports', hmounts', hvolumes'⟩ := h'
  obtain rfl : spec = spec' := Option.some.inj (hspec.symm.trans hspec')
  obtain rfl : live = live' := List.singleton_inj.mp (hcontainers.symm.trans hcontainers')
  have hname : first.name = second.name :=
    Interconnect.name_eq_of_routerEnv (Option.some.inj (henv.symm.trans henv'))
  have hlabels : first.selectorLabels = second.selectorLabels := by
    rw [Interconnect.selectorLabels, Interconnect.selectorLabels, hname]
  have hcontainer :
      (first.routerContainer image).bare = (second.routerContainer image').bare := by
    rw [Container.bare, Container.bare, ← himage, ← himage', ← henv, ← henv', ← hports, ← hports',
      ← hmounts, ← hmounts']
    simp [Interconnect.routerContainer, hname]
  have hsources : first.routerVolumes = second.routerVolumes :=
    Interconnect.routerVolumes_inj (hvolumes.symm.trans hvolumes')
  simp [bare, Interconnect.podTemplate, hcontainer, hlabels, hname, hsources]

/-- Of two templates that differ in what `bare` leaves, a live one agrees with one at most. -/
theorem not_agrees_of_bare_ne {live : Option PodTemplate}
    (hdiffer : (first.podTemplate image).bare ≠ (second.podTemplate image').bare)
    (hlive : Agrees live (some (first.podTemplate image))) :
    ¬ Agrees live (some (second.podTemplate image')) := by
  intro hother
  obtain ⟨template, htemplate, hruns⟩ := (agrees_podTemplate_iff _ _ _).mp hlive
  obtain ⟨other, hsame, hruns'⟩ := (agrees_podTemplate_iff _ _ _).mp hother
  obtain rfl : template = other := Option.some.inj (htemplate.symm.trans hsame)
  exact hdiffer (hruns.bare_eq hruns')

/-- The placement decides the affinity of a template, and nothing that an update takes from it. -/
theorem updated_placed (live : PodTemplate) (cluster : Interconnect) (placement : Option Placement)
    (image : String) :
    live.updated ((cluster.placed placement).podTemplate image) =
      live.updated (cluster.podTemplate image) := rfl

end PodTemplate

namespace Deployment

/-- No live deployment tells two desired ones apart: it has drifted from both or from neither, and
it is updated alike if it specifies anything. -/
def Alike (desired other : Deployment) : Prop :=
  ∀ live : Deployment, live.drifted desired = live.drifted other ∧
    (live.spec ≠ none → live.updated desired = live.updated other)

theorem drifted_of_bare_ne {live : Deployment}
    (hdiffer : (first.podTemplate image).bare ≠ (second.podTemplate image').bare)
    (hlive : live.drifted (first.deployment image) = false) :
    live.drifted (second.deployment image') = true := by
  have hfirst := (Interconnect.Builds.deployment.drifted_eq_false_iff live).mp hlive
  apply eq_true_of_ne_false
  intro hsettled
  have hsecond := (Interconnect.Builds.deployment.drifted_eq_false_iff live).mp hsettled
  exact PodTemplate.not_agrees_of_bare_ne hdiffer hfirst hsecond

theorem alike_placed (cluster : Interconnect) (placement : Option Placement) (image : String) :
    ((cluster.placed placement).deployment image).Alike (cluster.deployment image) := by
  intro live
  constructor
  · unfold drifted
    cases live.template <;> rfl
  · intro hspec
    obtain ⟨spec, hspec⟩ := Option.ne_none_iff_exists'.mp hspec
    simp only [updated, hspec, Interconnect.deployment, PodTemplate.updated_placed]

end Deployment

namespace DaemonSet

/-- No live daemon set tells two desired ones apart: it has drifted from both or from neither, and
it is updated alike if it specifies anything. -/
def Alike (desired other : DaemonSet) : Prop :=
  ∀ live : DaemonSet, live.drifted desired = live.drifted other ∧
    (live.spec ≠ none → live.updated desired = live.updated other)

theorem drifted_of_bare_ne {live : DaemonSet}
    (hdiffer : (first.podTemplate image).bare ≠ (second.podTemplate image').bare)
    (hlive : live.drifted (first.daemonSet image) = false) :
    live.drifted (second.daemonSet image') = true := by
  have hfirst := (Interconnect.Builds.daemonSet.drifted_eq_false_iff live).mp hlive
  apply eq_true_of_ne_false
  intro hsettled
  have hsecond := (Interconnect.Builds.daemonSet.drifted_eq_false_iff live).mp hsettled
  exact PodTemplate.not_agrees_of_bare_ne hdiffer hfirst hsecond

theorem alike_placed (cluster : Interconnect) (placement : Option Placement) (image : String) :
    ((cluster.placed placement).daemonSet image).Alike (cluster.daemonSet image) := by
  intro live
  constructor
  · unfold drifted
    cases live.template <;> rfl
  · intro hspec
    obtain ⟨spec, hspec⟩ := Option.ne_none_iff_exists'.mp hspec
    simp only [updated, hspec, Interconnect.daemonSet, PodTemplate.updated_placed]

end DaemonSet

/-- An edit of a cluster that shows in its pod template in anything but affinity, liveness probe and
resources is drift from the workload that was built before, and from every live one that was as it
should be. The placement, which decides the affinity, takes no part in that. -/
theorem edits_are_drift (first second : Interconnect) (image image' : String) :
    ((first.podTemplate image).bare ≠ (second.podTemplate image').bare →
      (first.deployment image).drifted (second.deployment image') = true ∧
        (first.daemonSet image).drifted (second.daemonSet image') = true ∧
        (∀ live : Deployment, live.drifted (first.deployment image) = false →
          live.drifted (second.deployment image') = true) ∧
        ∀ live : DaemonSet, live.drifted (first.daemonSet image) = false →
          live.drifted (second.daemonSet image') = true) ∧
      ∀ placement : Option Placement,
        ((second.placed placement).deployment image').Alike (second.deployment image') ∧
          ((second.placed placement).daemonSet image').Alike (second.daemonSet image') := by
  constructor
  · intro hdiffer
    refine ⟨?_, ?_, ?_, ?_⟩
    · apply Deployment.drifted_of_bare_ne hdiffer
      exact (Deployment.drifted_eq_false_iff _ _ _).mpr (Deployment.runs_deployment first image)
    · apply DaemonSet.drifted_of_bare_ne hdiffer
      exact (DaemonSet.drifted_eq_false_iff _ _ _).mpr (DaemonSet.runs_daemonSet first image)
    · intro live hlive
      exact Deployment.drifted_of_bare_ne hdiffer hlive
    · intro live hlive
      exact DaemonSet.drifted_of_bare_ne hdiffer hlive
  · intro placement
    exact ⟨Deployment.alike_placed second placement image',
      DaemonSet.alike_placed second placement image'⟩

/-- A cluster of which only the plan is given. -/
def plannedCluster (plan : DeploymentPlan) : Interconnect where
  metadata := { name := some "amq", ns := some "msg" }
  spec := { deploymentPlan := plan }

/-- The size shows in the environment of the routers. -/
theorem grown_cluster_is_drift :
    ((plannedCluster { size := 1 }).deployment defaultRouterImage).drifted
        ((plannedCluster { size := 2 }).deployment defaultRouterImage) = true ∧
      ((plannedCluster { size := 1 }).daemonSet defaultRouterImage).drifted
        ((plannedCluster { size := 2 }).daemonSet defaultRouterImage) = true := by
  have hdiffer : ((plannedCluster { size := 1 }).podTemplate defaultRouterImage).bare ≠
      ((plannedCluster { size := 2 }).podTemplate defaultRouterImage).bare := by
    intro hsame
    have henv := congrArg (fun template => template.firstContainer.map (·.env)) hsame
    exact absurd henv (by decide)
  obtain ⟨hdeployment, hdaemonSet, -⟩ :=
    (edits_are_drift (plannedCluster { size := 1 }) (plannedCluster { size := 2 })
      defaultRouterImage defaultRouterImage).1 hdiffer
  exact ⟨hdeployment, hdaemonSet⟩

/-- An edit of a cluster that shows in its pod template and is no drift from the workload that was
built before. -/
structure Interconnect.Unnoticed (first second : Interconnect) (image : String) : Prop where
  metadata : first.metadata = second.metadata
  template : first.podTemplate image ≠ second.podTemplate image
  deployment : (first.deployment image).drifted (second.deployment image) = false
  daemonSet : (first.daemonSet image).drifted (second.daemonSet image) = false

theorem Interconnect.Unnoticed.of_runs (hmetadata : first.metadata = second.metadata)
    (hdiffer : first.podTemplate image ≠ second.podTemplate image)
    (hruns : (first.podTemplate image).Runs (second.routerContainer image) second.routerVolumes) :
    first.Unnoticed second image where
  metadata := hmetadata
  template := hdiffer
  deployment := (Deployment.drifted_eq_false_iff _ _ _).mpr ⟨_, rfl, hruns⟩
  daemonSet := (DaemonSet.drifted_eq_false_iff _ _ _).mpr ⟨_, rfl, hruns⟩

/-- Another placement, another liveness port and other resources go unnoticed. -/
theorem unnoticed_edits :
    (plannedCluster { size := 1 }).Unnoticed
        (plannedCluster { size := 1, placement := some .antiAffinity }) defaultRouterImage ∧
      (plannedCluster { size := 1 }).Unnoticed
        (plannedCluster { size := 1, livenessPort := 9999 }) defaultRouterImage ∧
      (plannedCluster { size := 1 }).Unnoticed
        (plannedCluster {
          size := 1, resources := some { limits := some (.ofList [("cpu", "500m")]) } })
        defaultRouterImage := by
  -- what is compared is the same in all three cases, what differs is found in another part each
  refine ⟨.of_runs rfl ?_ ?_, .of_runs rfl ?_ ?_, .of_runs rfl ?_ ?_⟩
  · intro hsame
    have haffinity := congrArg (fun template => template.spec.map (·.affinity.isSome)) hsame
    exact absurd haffinity (by decide)
  · exact ⟨_, _, rfl, rfl, rfl, rfl, rfl, rfl, rfl⟩
  · intro hsame
    have hprobe := congrArg (fun template => template.firstContainer.map (·.livenessProbe)) hsame
    cases hprobe
  · exact ⟨_, _, rfl, rfl, rfl, rfl, rfl, rfl, rfl⟩
  · intro hsame
    have hresources := congrArg (fun template => template.firstContainer.map (·.resources)) hsame
    exact absurd hresources (by decide)
  · exact ⟨_, _, rfl, rfl, rfl, rfl, rfl, rfl, rfl⟩

end RouterOperator
