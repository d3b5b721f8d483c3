import RouterOperator.Proofs.Store.Commuting

/-!
# The names that belong to a cluster

Whatever a pass reads or writes, pods apart, lies under a name made from that of the cluster: the
name itself, the name with a fixed ending, or the name joined by a dash to that of a TLS profile or
of an exposed listener. Names of the first two sorts tell clusters apart. A joined name does not: a
dash may stand in the names on both sides of it.
-/

namespace RouterOperator

namespace Text

/-- Texts that end in different characters are different. -/
theorem append_ne {front front' ending ending' : String} {last last' : Char}
    (h : ending.toList.getLast? = some last) (h' : ending'.toList.getLast? = some last')
    (hne : last ≠ last') : front ++ ending ≠ front' ++ ending' := by
  intro hsame
  have hlast := congrArg (·.toList.getLast?) hsame
  simp [List.getLast?_append, h, h'] at hlast
  exact hne hlast

/-- What stands between two dashes, if a text is split at both. -/
theorem exists_middle {front back front' back' : String} {rest : List Char}
    (hfront : front'.toList = front.toList ++ rest)
    (hback : '-' :: back.toList = rest ++ '-' :: back'.toList) (hne : front ≠ front') :
    ∃ middle, front' = front ++ "-" ++ middle ∧ back = middle ++ "-" ++ back' := by
  cases rest with
  | nil => exact absurd (String.toList_injective (by simpa using hfront.symm)) hne
  | cons first rest =>
      obtain ⟨rfl, hback⟩ := List.cons.inj hback
      refine ⟨String.ofList rest, String.toList_injective ?_, String.toList_injective ?_⟩
      · simpa using hfront
      · simpa using hback

/-- A text may be split at each of its dashes: two splits differ by what stands between them. -/
theorem joined_eq_joined {front back front' back' : String}
    (h : front ++ "-" ++ back = front' ++ "-" ++ back') (hne : front ≠ front') :
    (∃ middle, front' = front ++ "-" ++ middle ∧ back = middle ++ "-" ++ back') ∨
      ∃ middle, front = front' ++ "-" ++ middle ∧ back' = middle ++ "-" ++ back := by
  have hlists : front.toList ++ '-' :: back.toList = front'.toList ++ '-' :: back'.toList := by
    simpa using congrArg String.toList h
  rcases List.append_eq_append_iff.mp hlists with ⟨rest, hfront, hback⟩ | ⟨rest, hfront, hback⟩
  · exact .inl (exists_middle hfront hback hne)
  · exact .inr (exists_middle hfront hback (Ne.symm hne))

end Text

/-- The kinds of which a cluster has one object at most, under its own name. -/
def Kind.isNamesake : Kind → Bool
  | interconnect | role | roleBinding | serviceAccount | configMap | deployment | daemonSet
  | service => true
  | issuer | certificate | route | ingress | pod => false

/-- What a certificate of a cluster is for: its own authority, or a piece of a TLS profile. -/
inductive CertPurpose where
  | authority
  | step (step : CertStep)
deriving DecidableEq

namespace Interconnect

/-- The certificate of a cluster for a purpose. -/
def certificateFor (cluster : Interconnect) : CertPurpose → Certificate
  | .authority => cluster.selfSignedCa
  | .step step => cluster.stepCertificate step

/-- A kind of object whose name is joined from that of the cluster and a part, with an ending. The
part names a TLS profile that lacks a secret, or the target of an exposed listener. -/
inductive Joins (cluster : Interconnect) : Kind → String → String → Prop where
  | credentials {profile : SslProfile} (listed : profile ∈ cluster.spec.sslProfiles)
    (lacking : profile.needsCredentials = true) :
    Joins cluster .certificate profile.name "-tls"
  | clientCa {profile : SslProfile} (listed : profile ∈ cluster.spec.sslProfiles)
    (lacking : profile.needsCa = true) : Joins cluster .certificate profile.name "-ca"
  | route {listener : Listener} (exposed : listener ∈ cluster.spec.exposedListeners) :
    Joins cluster .route listener.targetName ""
  | ingress {listener : Listener} (exposed : listener ∈ cluster.spec.exposedListeners) :
    Joins cluster .ingress listener.targetName ""

/-- The names of the objects that are made for a cluster, and its own. -/
inductive Names (cluster : Interconnect) : Kind → String → Prop where
  | namesake {kind : Kind} (one : kind.isNamesake = true) : Names cluster kind cluster.name
  | selfSignedIssuer : Names cluster .issuer cluster.selfSignedName
  | selfSignedCa : Names cluster .certificate cluster.selfSignedName
  | caIssuer : Names cluster .issuer cluster.caIssuerName
  | joined {kind : Kind} {part ending : String} (joins : cluster.Joins kind part ending) :
    Names cluster kind (cluster.name ++ "-" ++ part ++ ending)

/-- A name that two clusters join, each from its own name and a part. -/
inductive SharesName (first second : Interconnect) : Kind → String → Prop where
  | joined {kind : Kind} {part part' ending : String} (joins : first.Joins kind part ending)
    (joins' : second.Joins kind part' ending)
    (same : first.name ++ "-" ++ part = second.name ++ "-" ++ part') :
    SharesName first second kind (first.name ++ "-" ++ part ++ ending)

variable {cluster first second : Interconnect} {kind : Kind} {name : String}

/-- The name of a certificate tells what it is for. The endings are different, and between the name
of the cluster and the ending stands the profile, whatever it is called. -/
theorem certificateName_eq_iff {purpose other : CertPurpose} :
    Kind.certificate.nameOf (cluster.certificateFor purpose) =
      Kind.certificate.nameOf (cluster.certificateFor other) ↔ purpose = other := by
  refine ⟨fun h => ?_, fun h => h ▸ rfl⟩
  cases purpose with
  | authority =>
      cases other with
      | authority => rfl
      | step other => cases other <;> exact absurd h (Text.append_ne rfl rfl (by decide))
  | step step =>
      cases step with
      | credentials profile =>
          cases other with
          | authority => exact absurd h (Text.append_ne rfl rfl (by decide))
          | step other =>
              cases other with
              | credentials other =>
                  change cluster.name ++ "-" ++ profile ++ "-tls" =
                    cluster.name ++ "-" ++ other ++ "-tls" at h
                  obtain rfl : profile = other := by simpa using h
                  rfl
              | caCert other => exact absurd h (Text.append_ne rfl rfl (by decide))
      | caCert profile =>
          cases other with
          | authority => exact absurd h (Text.append_ne rfl rfl (by decide))
          | step other =>
              cases other with
              | credentials other => exact absurd h (Text.append_ne rfl rfl (by decide))
              | caCert other =>
                  change cluster.name ++ "-" ++ profile ++ "-ca" =
                    cluster.name ++ "-" ++ other ++ "-ca" at h
                  obtain rfl : profile = other := by simpa using h
                  rfl

theorem Names.stepCertificate {step : CertStep} (pending : cluster.pendingStep = some step) :
    cluster.Names .certificate (Kind.certificate.nameOf (cluster.stepCertificate step)) := by
  obtain ⟨profile, listed, hstep⟩ := List.exists_of_findSome?_eq_some pending
  unfold SslProfile.pendingStep at hstep
  split at hstep
  next lacking =>
    cases hstep
    exact .joined (.credentials listed lacking)
  next =>
    split at hstep
    next lacking =>
      cases hstep
      exact .joined (.clientCa listed lacking)
    next => cases hstep

theorem Names.exposure (joins : ∀ listener ∈ cluster.spec.exposedListeners,
      cluster.Joins kind listener.targetName "") {listener : Listener}
    (exposed : listener ∈ cluster.spec.exposedListeners) :
    cluster.Names kind (cluster.exposureName listener) := by
  have hname :
      cluster.exposureName listener = cluster.name ++ "-" ++ listener.targetName ++ "" := by
    rw [String.append_empty]
    rfl
  rw [hname]
  exact .joined (joins listener exposed)

/-- A goal asks for an object with a name of the cluster, or for the workload. -/
def NamesGoal (cluster : Interconnect) : Goal → Prop
  | .object kind desired => cluster.Names kind (kind.nameOf desired)
  | .workload => True

theorem namesGoal_of_checklist (cluster : Interconnect) (settings : Settings) :
    ∀ goal ∈ cluster.checklist settings, cluster.NamesGoal goal := by
  have hauthority : ∀ goal ∈ cluster.authorityGoals, cluster.NamesGoal goal := by
    unfold authorityGoals
    split
    · simpa using ⟨.selfSignedIssuer, .selfSignedCa, .caIssuer⟩
    · simpa using .caIssuer
  have hcertificates : ∀ goal ∈ cluster.certificateGoals settings, cluster.NamesGoal goal := by
    unfold certificateGoals
    split
    · split
      · simp
      next step pending =>
        simp only [List.forall_mem_append, List.forall_mem_singleton]
        exact ⟨hauthority, .stepCertificate pending⟩
    · simp
  have hexposure : ∀ listener ∈ cluster.spec.exposedListeners,
      cluster.NamesGoal (cluster.exposureGoal settings listener) := by
    intro listener exposed
    unfold exposureGoal
    split
    · exact .exposure (fun _ => .route) exposed
    · exact .exposure (fun _ => .ingress) exposed
  simp only [checklist, accessGoals, servingGoals, List.forall_mem_append, List.forall_mem_cons,
    List.not_mem_nil, false_imp_iff, implies_true, and_true, List.forall_mem_map]
  exact ⟨⟨⟨.namesake rfl, .namesake rfl, .namesake rfl⟩, hcertificates⟩,
    ⟨.namesake rfl, trivial, .namesake rfl⟩, hexposure⟩

/-- What a goal of the checklist is about has a name of the cluster. -/
theorem Names.of_aims {settings : Settings} {image : String} {goal : Goal} {desired : kind.Object}
    (listed : goal ∈ cluster.checklist settings) (aims : cluster.Aims image goal kind desired) :
    cluster.Names kind (kind.nameOf desired) := by
  cases aims with
  | object => exact cluster.namesGoal_of_checklist settings _ listed
  | workload selected => cases selected <;> exact .namesake rfl

/-- Where two clusters with different names have a name in common, both join it. -/
theorem Names.shared (h : first.Names kind name) (h' : second.Names kind name)
    (hne : first.name ≠ second.name) : first.SharesName second kind name := by
  generalize hname : name = name' at h'
  cases h with
  | namesake one =>
      cases h' with
      | namesake => exact absurd hname hne
      | joined joins => cases joins <;> cases one
      | _ => cases one
  | selfSignedIssuer =>
      cases h' with
      | namesake one => cases one
      | selfSignedIssuer => exact absurd (String.append_left_inj _ |>.mp hname) hne
      | caIssuer => exact absurd hname (Text.append_ne rfl rfl (by decide))
      | joined joins => cases joins
  | selfSignedCa =>
      cases h' with
      | namesake one => cases one
      | selfSignedCa => exact absurd (String.append_left_inj _ |>.mp hname) hne
      | joined joins => cases joins <;> exact absurd hname (Text.append_ne rfl rfl (by decide))
  | caIssuer =>
      cases h' with
      | namesake one => cases one
      | selfSignedIssuer => exact absurd hname (Text.append_ne rfl rfl (by decide))
      | caIssuer => exact absurd (String.append_left_inj _ |>.mp hname) hne
      | joined joins => cases joins
  | @joined _ part ending joins =>
      cases h' with
      | namesake one => cases joins <;> cases one
      | selfSignedIssuer | caIssuer => cases joins
      | selfSignedCa => cases joins <;> exact absurd hname (Text.append_ne rfl rfl (by decide))
      | @joined _ part' ending' joins' =>
          -- an ending is put behind parts of one sort, so the endings are the same
          obtain rfl : ending = ending' := by
            cases joins with
            | credentials =>
                cases joins' with
                | credentials => rfl
                | clientCa => exact absurd hname (Text.append_ne rfl rfl (by decide))
            | clientCa =>
                cases joins' with
                | credentials => exact absurd hname (Text.append_ne rfl rfl (by decide))
                | clientCa => rfl
            | route | ingress =>
                cases joins'
                rfl
          rw [← hname]
          exact .joined joins joins' (String.append_left_inj ending |>.mp hname)

/-- Names are shared only where the name of one cluster begins with that of the other and a dash. -/
theorem SharesName.continues (h : first.SharesName second kind name)
    (hne : first.name ≠ second.name) :
    (∃ rest, second.name = first.name ++ "-" ++ rest) ∨
      ∃ rest, first.name = second.name ++ "-" ++ rest := by
  cases h with
  | joined joins joins' same =>
      exact (Text.joined_eq_joined same hne).imp (fun ⟨middle, hname, _⟩ => ⟨middle, hname⟩)
        fun ⟨middle, hname, _⟩ => ⟨middle, hname⟩

/-- The keys of the objects of a cluster. -/
def Owns (cluster : Interconnect) (ns : String) (key : ObjectKey) : Prop :=
  key.ns = ns ∧ cluster.Names key.kind key.name

theorem Owns.kind_ne_pod {ns : String} {key : ObjectKey} (h : cluster.Owns ns key) :
    key.kind ≠ .pod := by
  obtain ⟨kind, space, name⟩ := key
  rintro rfl
  obtain ⟨-, hnames⟩ := h
  cases hnames with
  | namesake one => cases one
  | joined joins => cases joins

end Interconnect

namespace Pass

variable {pass : Pass} {kind : Kind} {desired : kind.Object} {store : MemoryStore}
  {goal : Goal} {key : ObjectKey}

theorem Wants.names (h : pass.Wants kind desired) :
    pass.cluster.Names kind (kind.nameOf desired) := by
  cases h with
  | selfSignedIssuer => exact .selfSignedIssuer
  | selfSignedCa => exact .selfSignedCa
  | caIssuer => exact .caIssuer
  | stepCertificate pending => exact .stepCertificate pending
  | route ready exposed => exact .exposure (fun _ => .route) exposed
  | ingress ready exposed => exact .exposure (fun _ => .ingress) exposed
  | _ => exact .namesake rfl

/-- What a pass reads, pods apart, belongs to its cluster. -/
theorem MayCall.owns {ns name : String} (h : pass.MayCall (.get kind ns name)) :
    pass.cluster.Owns pass.ns ⟨kind, ns, name⟩ := by
  cases h with
  | get wanted => exact ⟨rfl, wanted.names⟩
  | otherDeployment | otherDaemonSet => exact ⟨rfl, .namesake rfl⟩

theorem WritesUnder.owns (h : pass.WritesUnder store goal key) :
    pass.cluster.Owns pass.ns key := by
  obtain ⟨kind, desired, aims, rfl⟩ := h.aims
  exact ⟨rfl, .of_aims h.listed aims⟩

theorem owns_clusterKey (hns : pass.cluster.metadata.ns = some pass.ns) :
    pass.cluster.Owns pass.ns pass.clusterKey := by
  refine ⟨?_, .namesake rfl⟩
  rw [clusterKey, Interconnect.space, ObjectMeta.anySpace, hns]
  rfl

/-- What a pass writes belongs to its cluster. -/
theorem Decision.owns {known : List Exchange} {moves : List Move} {outcome : Outcome}
    (h : pass.Decision known moves outcome) (placed : store.Placed)
    (hknown : ∀ exchange ∈ known, store.Answers exchange)
    (hns : pass.cluster.metadata.ns = some pass.ns) :
    ∀ key ∈ targets moves, pass.cluster.Owns pass.ns key := by
  intro key hkey
  obtain ⟨move, hmove, htarget⟩ := List.mem_filterMap.mp hkey
  rcases h.target placed hknown move hmove htarget with rfl | ⟨goal, hgoal⟩
  · exact owns_clusterKey hns
  · exact hgoal.owns

end Pass

end RouterOperator
