import RouterOperator.Proofs.Wire.Records

/-!
# The round trip over the wire

What is written of a cluster, of its parts and of the objects that are exchanged with extensions is
read back as it was, so nothing that differs looks alike on the wire. What was read from any text
settles with the first writing: it may come in many forms, but from then on in one.
-/

namespace RouterOperator

/-- The values of a type survive the wire. Their dictionaries are in order, as all are that were
filled entry by entry, and their times can be written. -/
structure RoundTrips {α : Type} (read : Json → Option α) (write : α → Json)
    (ordered timely : α → Prop) : Prop where
  /-- What is written of a value is read as the value. -/
  back : ∀ value, ordered value → timely value → read (write value) = some value
  /-- Values that differ are written in different ways. -/
  apart : ∀ value other, ordered value → timely value → ordered other → timely other →
    write value = write other → value = other
  /-- What was read and written stays as it is when it is read and written again. -/
  steady : ∀ json value, read json = some value → timely value →
    ∃ again, read (write value) = some again ∧ write again = write value

namespace RoundTrips

variable {α : Type} {read : Json → Option α} {write : α → Json} {ordered timely : α → Prop}

/-- It is enough that values in order are read back and that what was read is in order. -/
theorem of_back (hback : ∀ {value}, ordered value → timely value → read (write value) = some value)
    (hordered : ∀ {json value}, read json = some value → ordered value) :
    RoundTrips read write ordered timely where
  back _ := hback
  apart value other hvalue htime hother htime' hsame := by
    have hread := hback hvalue htime
    rw [hsame, hback hother htime'] at hread
    exact (Option.some.inj hread).symm
  steady _ value hread htime := ⟨value, hback (hordered hread) htime, rfl⟩

theorem of_always (h : ∀ value, read (write value) = some value) :
    RoundTrips read write (fun _ => True) fun _ => True :=
  of_back (fun _ _ => h _) fun _ => trivial

end RoundTrips

/-- All types that are exchanged survive the wire, and an unset phase is written as the empty
text. -/
theorem wire_round_trip :
    RoundTrips Interconnect.ofJson? Interconnect.toJson Interconnect.Ordered Interconnect.Timely ∧
    RoundTrips InterconnectSpec.ofJson? InterconnectSpec.toJson InterconnectSpec.Ordered
      (fun _ => True) ∧
    RoundTrips InterconnectStatus.ofJson? InterconnectStatus.toJson (fun _ => True)
      InterconnectStatus.Timely ∧
    RoundTrips Condition.ofJson? Condition.toJson (fun _ => True) Condition.Timely ∧
    RoundTrips DeploymentPlan.ofJson? DeploymentPlan.toJson DeploymentPlan.Ordered
      (fun _ => True) ∧
    RoundTrips Listener.ofJson? Listener.toJson (fun _ => True) (fun _ => True) ∧
    RoundTrips Connector.ofJson? Connector.toJson (fun _ => True) (fun _ => True) ∧
    RoundTrips SslProfile.ofJson? SslProfile.toJson (fun _ => True) (fun _ => True) ∧
    RoundTrips Address.ofJson? Address.toJson (fun _ => True) (fun _ => True) ∧
    RoundTrips AutoLink.ofJson? AutoLink.toJson (fun _ => True) (fun _ => True) ∧
    RoundTrips LinkRoute.ofJson? LinkRoute.toJson (fun _ => True) (fun _ => True) ∧
    RoundTrips Issuer.ofJson? Issuer.toJson (·.metadata.Ordered) (·.metadata.Timely) ∧
    RoundTrips Certificate.ofJson? Certificate.toJson (·.metadata.Ordered)
      (·.metadata.Timely) ∧
    RoundTrips Route.ofJson? Route.toJson (·.metadata.Ordered) (·.metadata.Timely) ∧
    ∀ status : InterconnectStatus, status.phase = .unset →
      status.toJson.get? "phase" = some (.string "") := by
  refine ⟨.of_back Interconnect.ofJson?_toJson Interconnect.ordered_of_ofJson?,
    .of_back (fun ordered _ => InterconnectSpec.ofJson?_toJson ordered)
      InterconnectSpec.ordered_of_ofJson?,
    .of_back (fun _ timely => InterconnectStatus.ofJson?_toJson timely) fun _ => trivial,
    .of_back (fun _ timely => Condition.ofJson?_toJson timely) fun _ => trivial,
    .of_back (fun ordered _ => DeploymentPlan.ofJson?_toJson ordered)
      DeploymentPlan.ordered_of_ofJson?,
    .of_always Listener.ofJson?_toJson, .of_always Connector.ofJson?_toJson,
    .of_always SslProfile.ofJson?_toJson, .of_always Address.ofJson?_toJson,
    .of_always AutoLink.ofJson?_toJson, .of_always LinkRoute.ofJson?_toJson,
    .of_back Issuer.ofJson?_toJson Issuer.ordered_of_ofJson?,
    .of_back Certificate.ofJson?_toJson Certificate.ordered_of_ofJson?,
    .of_back Route.ofJson?_toJson Route.ordered_of_ofJson?, fun status hphase => ?_⟩
  unfold InterconnectStatus.toJson
  rw [hphase]
  rfl

/-- A cluster with labels, times and values at the edge of what is written: a host that is empty, a
host name that is not verified, a phase that is unset. -/
def reportedCluster : Interconnect where
  metadata := {
    creationTimestamp := some default
    labels := some (.ofList [("tier", "edge"), ("app", "")])
    name := some "amq" }
  spec := {
    listeners := [{ name := some "", http := true }]
    connectors := [{ host := "", verifyHostname := some false }, { name := some "peer" }] }
  status := some { conditions := [{ type := .deployed, transitionTime := some default }] }

theorem reported_cluster_read_back :
    reportedCluster.Ordered ∧ reportedCluster.Timely ∧
      Interconnect.ofJson? reportedCluster.toJson = some reportedCluster ∧
      ∃ status, reportedCluster.status = some status ∧ status.phase = .unset ∧
        status.toJson.get? "phase" = some (.string "") := by
  have htimes : ∀ time ∈ some (default : Timestamp), time.FourDigit := by
    intro time htime
    rw [← Option.mem_some_iff.mp htime]
    exact ⟨by decide, by decide⟩
  have ordered : reportedCluster.Ordered := by
    refine ⟨⟨nofun, ?_, nofun⟩, nofun⟩
    rintro _ ⟨⟩
    exact Dict.ordered_ofList _
  have timely : reportedCluster.Timely := by
    refine ⟨⟨htimes, fun _ hnone => (nomatch hnone), nofun⟩, ?_⟩
    intro status hstatus condition hcondition
    rw [← Option.some.inj hstatus] at hcondition
    rw [List.mem_singleton.mp hcondition]
    exact htimes
  obtain ⟨hcluster, -, -, -, -, -, -, -, -, -, -, -, -, -, hphase⟩ := wire_round_trip
  exact ⟨ordered, timely, hcluster.back _ ordered timely, _, rfl, rfl, hphase _ rfl⟩

end RouterOperator
