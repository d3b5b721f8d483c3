import RouterOperator.Proofs.Config.Rendering
import RouterOperator.Proofs.TlsGate
import RouterOperator.Proofs.Volumes

/-!
# The files that a configuration points at

The configuration names the files of TLS profiles, the container mounts directories and the pod
declares volumes, each for itself. They agree on every secret but one: a secret with the name of the
cluster finds its volume taken by the configuration, and its files are nowhere.
-/

namespace RouterOperator

/-- A path leads to a file right in a directory. -/
def Text.LiesIn (path directory : String) : Prop :=
  ∃ file : String, '/' ∉ file.toList ∧ path = directory ++ "/" ++ file

/-- The container of a template mounts a volume at a directory, and the pod declares a volume of
that name exactly once. -/
def PodTemplate.Mounts (template : PodTemplate) (directory : String) (volume : Volume) : Prop :=
  ∃ spec container, template.spec = some spec ∧ spec.containers = [container] ∧
    (∃ mount ∈ container.volumeMounts.getD [], mount.mountPath = directory ∧
      mount.name = volume.name) ∧
    volume ∈ spec.volumes.getD [] ∧ ((spec.volumes.getD []).map (·.name)).count volume.name = 1

/-- A directory is mounted from a secret. -/
def PodTemplate.MountsSecret (template : PodTemplate) (directory secret : String) : Prop :=
  ∃ volume, template.Mounts directory volume ∧ volume.configMap.isNone ∧
    volume.secret.bind (·.secretName) = some secret

/-- The attributes of a TLS profile that are paths, with the secret that each file belongs to. -/
def SslProfile.files (profile : SslProfile) : List (String × Option String) := [
  ("certFile", profile.credentials),
  ("privateKeyFile", profile.credentials),
  ("caCertFile", profile.caCert)]

namespace SslProfile

variable {profile : SslProfile} {secret : String}

theorem mem_secrets : secret ∈ profile.secrets ↔
    profile.credentialsSecret = some secret ∨ profile.caSecret = some secret := by
  by_cases hsame : some secret = profile.credentialsSecret
  · simp [secrets, hsame.symm]
  · simp [secrets, hsame, Ne.symm hsame]

theorem mem_attributes {entry : String × String} : entry ∈ profile.stanza.attributes ↔
    some entry ∈ [
      some ("name", profile.name),
      profile.credentialsSecret.map fun secret =>
        ("certFile", certificatePath profile.name secret ++ "/tls.crt"),
      profile.credentialsSecret.map fun secret =>
        ("privateKeyFile", certificatePath profile.name secret ++ "/tls.key"),
      profile.caSecret.map fun secret =>
        ("caCertFile", certificatePath profile.name secret ++ "/" ++ profile.caFile),
      Stanza.textAttribute "ciphers" profile.ciphers,
      Stanza.textAttribute "protocols" profile.protocols] :=
  Stanza.mem_attributes_of

/-- Every path in the stanza of a profile leads into the directory of the secret that it belongs to,
which is among the secrets to mount. -/
theorem liesIn_of_mem_files {name path : String} {source : Option String}
    (hfile : (name, source) ∈ profile.files) (hpath : (name, path) ∈ profile.stanza.attributes) :
    ∃ secret ∈ profile.secrets, source = some secret ∧
      Text.LiesIn path (certificatePath profile.name secret) := by
  rw [mem_attributes] at hpath
  simp only [files, List.mem_cons, Prod.mk.injEq, List.not_mem_nil, or_false] at hfile
  rcases hfile with ⟨rfl, rfl⟩ | ⟨rfl, rfl⟩ | ⟨rfl, rfl⟩
  · obtain ⟨secret, hsecret, rfl⟩ : ∃ secret, profile.credentialsSecret = some secret ∧
        certificatePath profile.name secret ++ "/tls.crt" = path := by
      simpa [Stanza.textAttribute, eq_comm (a := some (_, path))] using hpath
    refine ⟨secret, mem_secrets.mpr (.inl hsecret), (Text.given_eq_some_iff.mp hsecret).1,
      "tls.crt", by decide, ?_⟩
    rw [String.append_assoc]
    rfl
  · obtain ⟨secret, hsecret, rfl⟩ : ∃ secret, profile.credentialsSecret = some secret ∧
        certificatePath profile.name secret ++ "/tls.key" = path := by
      simpa [Stanza.textAttribute, eq_comm (a := some (_, path))] using hpath
    refine ⟨secret, mem_secrets.mpr (.inl hsecret), (Text.given_eq_some_iff.mp hsecret).1,
      "tls.key", by decide, ?_⟩
    rw [String.append_assoc]
    rfl
  · obtain ⟨secret, hsecret, rfl⟩ : ∃ secret, profile.caSecret = some secret ∧
        certificatePath profile.name secret ++ "/" ++ profile.caFile = path := by
      simpa [Stanza.textAttribute, eq_comm (a := some (_, path))] using hpath
    exact ⟨secret, mem_secrets.mpr (.inr hsecret), (Text.given_eq_some_iff.mp hsecret).1,
      profile.caFile, profile.slash_notMem_caFile, rfl⟩

end SslProfile

namespace Interconnect

/-- The volumes that are declared for some secrets behind a first volume: every name once, and each
secret unless its name is that of the first volume. -/
structure Declares (first : Volume) (secrets : List String) (volumes : List Volume) : Prop where
  distinct : (volumes.map (·.name)).Nodup
  mem_iff : ∀ volume, volume ∈ volumes ↔
    volume = first ∨ ∃ secret ∈ secrets, secret ≠ first.name ∧ volume = secretVolume secret

theorem declares_routerVolumes (cluster : Interconnect) :
    Declares cluster.configVolume cluster.mountedSecrets cluster.routerVolumes where
  distinct := cluster.volumesCover_router.distinct
  mem_iff volume := by
    rw [routerVolumes_eq_foldl, declared_eq, List.mem_cons, List.mem_map]
    simp only [List.mem_eraseDups, List.mem_filter, decide_eq_true_eq, and_assoc,
      eq_comm (a := secretVolume _)]

variable {cluster : Interconnect} {image directory secret : String} {volume : Volume}

/-- What is mounted at a directory, read off the mounts and volumes of a router. -/
theorem mounts_iff : (cluster.podTemplate image).Mounts directory volume ↔
    (∃ mount ∈ cluster.routerMounts, mount.mountPath = directory ∧ mount.name = volume.name) ∧
      volume ∈ cluster.routerVolumes := by
  constructor
  · rintro ⟨_, _, hspec, hcontainer, hmount, hvolume, -⟩
    cases hspec
    cases hcontainer
    exact ⟨hmount, hvolume⟩
  · rintro ⟨hmount, hvolume⟩
    refine ⟨_, _, rfl, rfl, hmount, hvolume, ?_⟩
    exact List.count_eq_one_of_mem cluster.declares_routerVolumes.distinct
      (List.mem_map_of_mem hvolume)

/-- The only secret that a router does not mount where it is looked for has the name of the
cluster. -/
theorem mountsSecret_iff {profile : SslProfile} (hprofile : profile ∈ cluster.spec.sslProfiles)
    (hsecret : secret ∈ profile.secrets) :
    (cluster.podTemplate image).MountsSecret (certificatePath profile.name secret) secret ↔
      secret ≠ cluster.name := by
  have hentry : (profile.name, secret) ∈ cluster.profileSecrets :=
    List.mem_flatMap.mpr ⟨profile, hprofile, List.mem_map_of_mem hsecret⟩
  have hvolumes := cluster.declares_routerVolumes.mem_iff
  constructor
  · rintro ⟨volume, hmounts, -, hsource⟩
    rcases (hvolumes volume).mp (mounts_iff.mp hmounts).2 with rfl | ⟨other, -, hne, rfl⟩
    · cases hsource
    · cases hsource
      exact hne
  · intro hne
    refine ⟨secretVolume secret, mounts_iff.mpr ⟨?_, ?_⟩, rfl, rfl⟩
    · refine ⟨{ name := secret, mountPath := certificatePath profile.name secret },
        List.mem_cons_of_mem _ ?_, rfl, rfl⟩
      exact List.mem_map.mpr ⟨_, hentry, rfl⟩
    · exact (hvolumes _).mpr (.inr ⟨secret, List.mem_map_of_mem hentry, hne, rfl⟩)

/-- Every path that the configuration has for a profile leads into one directory, and that directory
is mounted from the secret that the profile names exactly if the secret has not the name of the
cluster. -/
theorem files_mounted_iff (cluster : Interconnect) (image : String) :
    cluster.configMap.template = some cluster.spec.config.text ∧
      ∀ stanza ∈ cluster.spec.config.sections.flatten, stanza.kind = Stanza.profileKind →
        ∃ profile ∈ cluster.spec.sslProfiles, stanza = profile.stanza ∧
          ∀ name source path, (name, source) ∈ profile.files → (name, path) ∈ stanza.attributes →
            ∃ secret directory, source = some secret ∧ Text.LiesIn path directory ∧
              ((cluster.podTemplate image).MountsSecret directory secret ↔
                secret ≠ cluster.name) := by
  refine ⟨ConfigMap.template_configMap cluster, fun stanza hstanza hkind => ?_⟩
  obtain ⟨profile, hprofile, rfl⟩ := InterconnectSpec.stanza_of_profileKind hstanza hkind
  refine ⟨profile, hprofile, rfl, fun name source path hfile hpath => ?_⟩
  obtain ⟨secret, hsecret, hsource, hlies⟩ := SslProfile.liesIn_of_mem_files hfile hpath
  exact ⟨secret, _, hsource, hlies, mountsSecret_iff hprofile hsecret⟩

theorem mesh_authority_mounted :
    ∃ directory, Text.LiesIn "/etc/qpid-dispatch-certs/mesh/root/tls.crt" directory ∧
      (meshCluster.podTemplate defaultRouterImage).MountsSecret directory "root" := by
  have hstanza : meshCluster.spec.sslProfiles[1].stanza ∈
      meshCluster.spec.config.sections.flatten := by
    simp [InterconnectSpec.config, meshCluster]
  obtain ⟨-, hall⟩ := files_mounted_iff meshCluster defaultRouterImage
  obtain ⟨profile, hprofile, hsame, hfiles⟩ := hall _ hstanza rfl
  have hpath : ("caCertFile", "/etc/qpid-dispatch-certs/mesh/root/tls.crt") ∈
      meshCluster.spec.sslProfiles[1].stanza.attributes := by decide
  have hfile : ("caCertFile", some "root") ∈ profile.files := by
    obtain rfl | rfl : profile = meshCluster.spec.sslProfiles[0] ∨
        profile = meshCluster.spec.sslProfiles[1] := by simpa [meshCluster] using hprofile
    · exact absurd hsame (by decide)
    · decide
  obtain ⟨secret, directory, hsecret, hlies, hmounts⟩ := hfiles _ _ _ hfile hpath
  cases hsecret
  exact ⟨directory, hlies, hmounts.mpr (by decide)⟩

/-- A cluster with a certificate in a secret of its own name. -/
def eponymousCluster : Interconnect where
  metadata := { name := some "amq", ns := some "msg" }
  spec := {
    deploymentPlan := { size := 1 }
    sslProfiles := [{ name := "default", credentials := some "amq" }] }

theorem eponymous_certificate_not_mounted :
    ∃ profile ∈ eponymousCluster.spec.sslProfiles,
      ("certFile", some "amq") ∈ profile.files ∧
      ("certFile", "/etc/qpid-dispatch-certs/default/amq/tls.crt") ∈ profile.stanza.attributes ∧
      ∀ directory, Text.LiesIn "/etc/qpid-dispatch-certs/default/amq/tls.crt" directory →
        ¬ (eponymousCluster.podTemplate defaultRouterImage).MountsSecret directory "amq" := by
  have hprofile : ({ name := "default", credentials := some "amq" } : SslProfile) ∈
      eponymousCluster.spec.sslProfiles := List.mem_singleton_self _
  refine ⟨_, hprofile, by decide, by decide, ?_⟩
  rintro directory ⟨file, hfile, hpath⟩
  have hsplit : "/etc/qpid-dispatch-certs/default/amq/tls.crt" =
      certificatePath "default" "amq" ++ "/" ++ "tls.crt" := by decide
  obtain rfl : certificatePath "default" "amq" = directory :=
    SslProfile.append_slash_inj (by decide) hfile (hsplit.symm.trans hpath)
  intro hmounts
  exact (mountsSecret_iff hprofile (by decide)).mp hmounts rfl

end Interconnect

end RouterOperator
