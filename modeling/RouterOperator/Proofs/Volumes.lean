import Mathlib.Data.List.Induction
import Mathlib.Data.List.Nodup
import RouterOperator.Managed.Workload

/-!
# The volumes of a pod

A container may mount one volume at many places, and a pod must declare each volume once. The mounts
of a router name every secret once for each profile that uses it; the volumes are declared by a loop
over the same secrets that passes over a name it has declared. So a volume stands where its name is
used first, and mounts and volumes have the same names.
-/

namespace RouterOperator

namespace Text

/-- One more name at the end counts only if it is new. -/
theorem eraseDups_concat (names : List String) (name : String) :
    (names ++ [name]).eraseDups =
      if name ∈ names then names.eraseDups else names.eraseDups ++ [name] := by
  rw [List.eraseDups_append]
  split
  next hmem => simp [List.removeAll, hmem]
  next hnew =>
    have hlast : [name].removeAll names = [name] := by simp [List.removeAll, hnew]
    rw [hlast]
    rfl

/-- Without repetitions, names stand in the order of their first use. -/
theorem pairwise_eraseDups (names : List String) :
    names.eraseDups.Pairwise fun name later => names.idxOf name < names.idxOf later := by
  induction names using List.reverseRecOn with
  | nil => exact .nil
  | append_singleton names last ih =>
      have hbefore : names.eraseDups.Pairwise fun name later =>
          (names ++ [last]).idxOf name < (names ++ [last]).idxOf later := by
        refine ih.imp_of_mem fun {name later} hname hlater hless => ?_
        rw [List.mem_eraseDups] at hname hlater
        rwa [List.idxOf_append_of_mem hname, List.idxOf_append_of_mem hlater]
      rw [eraseDups_concat]
      split
      · exact hbefore
      next hnew =>
        refine List.pairwise_append.mpr ⟨hbefore, List.pairwise_singleton _ _, ?_⟩
        intro name hname other hother
        rw [List.mem_eraseDups] at hname
        rw [List.mem_singleton.mp hother, List.idxOf_append_of_mem hname,
          List.idxOf_append_of_notMem hnew]
        exact Nat.lt_add_right _ (List.idxOf_lt_length_of_mem hname)

end Text

/-- The volumes of a pod cover the mounts of its container: no name is declared twice, each mount
names exactly one volume, each volume is mounted, and they stand in the order in which the mounts
use them first. -/
structure VolumesCover (volumes : List Volume) (mounts : List VolumeMount) : Prop where
  distinct : (volumes.map (·.name)).Nodup
  declared : ∀ mount ∈ mounts, (volumes.map (·.name)).count mount.name = 1
  mounted : ∀ volume ∈ volumes, ∃ mount ∈ mounts, mount.name = volume.name
  ordered : (volumes.map (·.name)).Pairwise fun name later =>
    (mounts.map (·.name)).idxOf name < (mounts.map (·.name)).idxOf later

/-- It is enough that the volumes have the names of the mounts, each once. -/
theorem volumesCover_of_eq {volumes : List Volume} {mounts : List VolumeMount}
    (h : volumes.map (·.name) = (mounts.map (·.name)).eraseDups) : VolumesCover volumes mounts := by
  have hordered := Text.pairwise_eraseDups (mounts.map (·.name))
  rw [← h] at hordered
  have hdistinct : (volumes.map (·.name)).Nodup := hordered.imp fun hless hsame => by
    rw [hsame] at hless
    exact Nat.lt_irrefl _ hless
  refine ⟨hdistinct, fun mount hmount => ?_, fun volume hvolume => ?_, hordered⟩
  · refine List.count_eq_one_of_mem hdistinct ?_
    rw [h, List.mem_eraseDups]
    exact List.mem_map_of_mem hmount
  · have hname := List.mem_map_of_mem (f := (·.name)) hvolume
    rw [h, List.mem_eraseDups] at hname
    exact List.mem_map.mp hname

/-- The secrets that a profile names, its certificate before the authority, whether or not these are
in one secret. -/
def SslProfile.namedSecrets (profile : SslProfile) : List String :=
  profile.credentialsSecret.toList ++ profile.caSecret.toList

namespace Interconnect

variable {first : Volume} {volumes : List Volume} {secret : String}

/-- The volumes with that of a secret, unless its name is taken. -/
def declare (volumes : List Volume) (secret : String) : List Volume :=
  if volumes.any (·.name = secret) then volumes else volumes ++ [secretVolume secret]

theorem declare_of_mem (h : secret ∈ volumes.map (·.name)) : declare volumes secret = volumes := by
  refine if_pos ?_
  simpa using h

theorem declare_of_notMem (h : secret ∉ volumes.map (·.name)) :
    declare volumes secret = volumes ++ [secretVolume secret] := by
  refine if_neg ?_
  simpa using h

theorem declare_declare (volumes : List Volume) (secret : String) :
    declare (declare volumes secret) secret = declare volumes secret := by
  refine declare_of_mem ?_
  by_cases hmem : secret ∈ volumes.map (·.name)
  · rwa [declare_of_mem hmem]
  · rw [declare_of_notMem hmem, List.map_append]
    exact List.mem_append_right _ (List.mem_singleton_self _)

/-- The loop declares the names it has seen, each once and in the order of first use. -/
theorem map_name_declared (first : Volume) (secrets : List String) :
    (secrets.foldl declare [first]).map (·.name) = (first.name :: secrets).eraseDups := by
  induction secrets using List.reverseRecOn with
  | nil => rfl
  | append_singleton secrets last ih =>
      rw [List.foldl_append, ← List.cons_append, Text.eraseDups_concat, ← ih, List.foldl_cons,
        List.foldl_nil]
      split
      next hseen =>
        refine congrArg (List.map _) (declare_of_mem ?_)
        rwa [ih, List.mem_eraseDups]
      next hnew =>
        rw [declare_of_notMem (by rwa [ih, List.mem_eraseDups]), List.map_append]
        rfl

theorem exists_declared_eq (first : Volume) (secrets : List String) :
    ∃ names : List String, secrets.foldl declare [first] = first :: names.map secretVolume := by
  induction secrets using List.reverseRecOn with
  | nil => exact ⟨[], rfl⟩
  | append_singleton secrets last ih =>
      obtain ⟨names, hnames⟩ := ih
      rw [List.foldl_append, List.foldl_cons, List.foldl_nil]
      by_cases hmem : last ∈ (secrets.foldl declare [first]).map (·.name)
      · exact ⟨names, (declare_of_mem hmem).trans hnames⟩
      · refine ⟨names ++ [last], ?_⟩
        rw [declare_of_notMem hmem, hnames, List.map_append]
        rfl

/-- Behind the first volume stand those of the secrets that have not its name, each where the secret
is named first. -/
theorem declared_eq (first : Volume) (secrets : List String) :
    secrets.foldl declare [first] =
      first :: ((secrets.filter (· ≠ first.name)).eraseDups).map secretVolume := by
  obtain ⟨names, hnames⟩ := exists_declared_eq first secrets
  have hmap := map_name_declared first secrets
  rw [hnames, List.map_cons, List.map_map, List.eraseDups_cons] at hmap
  have hnames' : names.map ((·.name) ∘ secretVolume) = names := List.map_id names
  rw [hnames'] at hmap
  rw [hnames, (List.cons.inj hmap).2]
  simp [beq_eq_decide]

/-- It makes no difference that a profile's authority is passed over where it is in the secret of
the certificate. -/
theorem foldl_declare_secrets (profile : SslProfile) (volumes : List Volume) :
    profile.secrets.foldl declare volumes = profile.namedSecrets.foldl declare volumes := by
  unfold SslProfile.secrets SslProfile.namedSecrets
  cases hca : profile.caSecret with
  | none => rfl
  | some ca =>
      by_cases hsame : some ca = profile.credentialsSecret
      · rw [← hsame, Option.filter_some, if_neg (by simp)]
        exact (declare_declare volumes ca).symm
      · rw [Option.filter_some, if_pos (by simpa using hsame)]

/-- The secrets that a router mounts. -/
def mountedSecrets (cluster : Interconnect) : List String := cluster.profileSecrets.map Prod.snd

/-- The volume that holds the configuration. -/
def configVolume (cluster : Interconnect) : Volume :=
  { name := cluster.name, configMap := some { name := cluster.name } }

variable (cluster : Interconnect)

theorem mountedSecrets_eq :
    cluster.mountedSecrets = cluster.spec.sslProfiles.flatMap SslProfile.secrets := by
  rw [mountedSecrets, profileSecrets, List.map_flatMap]
  simp only [List.map_map]
  exact congrArg (List.flatMap · cluster.spec.sslProfiles) (funext fun profile => List.map_id _)

theorem routerVolumes_eq_foldl :
    cluster.routerVolumes = cluster.mountedSecrets.foldl declare [cluster.configVolume] := by
  rw [mountedSecrets, List.foldl_map]
  rfl

/-- The volumes of a router are that of its configuration, and then those of the secrets that its
profiles name. -/
theorem routerVolumes_eq : cluster.routerVolumes = cluster.configVolume ::
    ((((cluster.spec.sslProfiles.flatMap SslProfile.namedSecrets).filter
      (· ≠ cluster.name)).eraseDups).map secretVolume) := by
  have hprofiles : cluster.mountedSecrets.foldl declare [cluster.configVolume] =
      (cluster.spec.sslProfiles.flatMap SslProfile.namedSecrets).foldl declare
        [cluster.configVolume] := by
    rw [mountedSecrets_eq, List.foldl_flatMap, List.foldl_flatMap]
    simp only [foldl_declare_secrets]
  rw [routerVolumes_eq_foldl, hprofiles, declared_eq]
  rfl

theorem map_name_routerMounts :
    cluster.routerMounts.map (·.name) = cluster.name :: cluster.mountedSecrets := by
  rw [routerMounts, List.map_cons, List.map_map]
  rfl

theorem volumesCover_router : VolumesCover cluster.routerVolumes cluster.routerMounts := by
  apply volumesCover_of_eq
  rw [routerVolumes_eq_foldl, map_name_declared, map_name_routerMounts]
  rfl

/-- Whatever the name of a cluster and its profiles, the volumes of its pods cover the mounts of the
router. The first one holds the configuration; behind it stands each secret that a profile names,
where it is named first, profile by profile and the certificate before the authority. Only a secret
with the name of the cluster has no volume of its own. -/
theorem volumes_cover_mounts (cluster : Interconnect) (image : String) :
    ∃ spec container mounts volumes, (cluster.podTemplate image).spec = some spec ∧
      spec.containers = [container] ∧ container.volumeMounts = some mounts ∧
      spec.volumes = some volumes ∧ VolumesCover volumes mounts ∧
      volumes = cluster.configVolume ::
        (((cluster.spec.sslProfiles.flatMap SslProfile.namedSecrets).filter
          (· ≠ cluster.name)).eraseDups).map secretVolume := by
  exact ⟨_, _, cluster.routerMounts, cluster.routerVolumes, rfl, rfl, rfl, rfl,
    cluster.volumesCover_router, cluster.routerVolumes_eq⟩

/-- A cluster of which two profiles share a certificate, one with an authority of its own. -/
def meshCluster : Interconnect where
  metadata := { name := some "amq", ns := some "msg" }
  spec := {
    deploymentPlan := { size := 1 }
    sslProfiles := [
      { name := "clients", credentials := some "leaf" },
      { name := "mesh", credentials := some "leaf", caCert := some "root" }] }

/-- Two profiles share a certificate, which is mounted twice and declared once. -/
example : meshCluster.routerMounts.map (·.name) = ["amq", "leaf", "leaf", "root"] ∧
    meshCluster.routerVolumes.map (·.name) = ["amq", "leaf", "root"] := by
  decide

end Interconnect

end RouterOperator
