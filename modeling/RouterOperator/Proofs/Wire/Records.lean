import RouterOperator.Extension.Certificate
import RouterOperator.Extension.Route
import RouterOperator.Interconnect.Basic
import RouterOperator.Proofs.Wire.Metadata

/-!
# Records on the wire

Each record of a specification or a status reads back as it was written. The only conditions are
those of what it holds: dictionaries are in order and times are in years of four digits.
-/

namespace RouterOperator

open Json

/-! ## Listeners, connectors and profiles -/

theorem Listener.ofJson?_toJson (listener : Listener) :
    ofJson? listener.toJson = some listener := by
  unfold ofJson? toJson
  rw [record?_ofFields (by simp)]
  simp [-Option.bind_eq_bind]

theorem Connector.ofJson?_toJson (connector : Connector) :
    ofJson? connector.toJson = some connector := by
  unfold ofJson? toJson
  rw [record?_ofFields (by simp)]
  simp [-Option.bind_eq_bind]

theorem SslProfile.ofJson?_toJson (profile : SslProfile) :
    ofJson? profile.toJson = some profile := by
  unfold ofJson? toJson
  rw [record?_ofFields (by simp)]
  simp [-Option.bind_eq_bind]

/-! ## Addresses and links -/

theorem Address.ofJson?_toJson (address : Address) : ofJson? address.toJson = some address := by
  unfold ofJson? toJson
  rw [record?_ofFields (by simp)]
  simp [-Option.bind_eq_bind]

theorem AutoLink.ofJson?_toJson (link : AutoLink) : ofJson? link.toJson = some link := by
  unfold ofJson? toJson
  rw [record?_ofFields (by simp)]
  simp [-Option.bind_eq_bind]

theorem LinkRoute.ofJson?_toJson (route : LinkRoute) : ofJson? route.toJson = some route := by
  unfold ofJson? toJson
  rw [record?_ofFields (by simp)]
  simp [-Option.bind_eq_bind]

/-! ## Plans and specifications -/

/-- A case that is written by its name is read by it. -/
theorem restores_case {α : Type} {name : α → String} {ofName? : String → Option α}
    (h : ∀ x, ofName? (name x) = some x) (value : Option α) :
    Restores (fun json => json.case?.bind ofName?) (fun x => string (name x)) value :=
  .of_forall h nofun

theorem RouterRole.ofName?_name (role : RouterRole) : ofName? role.name = some role := by
  cases role <;> rfl

theorem Placement.ofName?_name (placement : Placement) :
    ofName? placement.name = some placement := by
  cases placement <;> rfl

theorem ConditionType.ofName?_name (type : ConditionType) : ofName? type.name = some type := by
  cases type <;> rfl

theorem Phase.ofName?_name (phase : Phase) : ofName? phase.name = some phase := by
  cases phase <;> rfl

namespace DeploymentPlan

/-- The resources are in order. -/
def Ordered (plan : DeploymentPlan) : Prop := ∀ resources ∈ plan.resources, resources.Ordered

theorem ofJson?_toJson {plan : DeploymentPlan} (ordered : plan.Ordered) :
    ofJson? plan.toJson = some plan := by
  have hrole := restores_case RouterRole.ofName?_name plan.role
  have hplacement := restores_case Placement.ofName?_name plan.placement
  have hresources : Restores ResourceRequirements.ofJson? ResourceRequirements.toJson
      plan.resources := fun resources hresources =>
    ⟨ResourceRequirements.ofJson?_toJson (ordered resources hresources), ofFields_ne_null⟩
  unfold ofJson? toJson
  rw [record?_ofFields (by simp)]
  simp [-Option.bind_eq_bind, hrole, hplacement, hresources]

theorem ordered_of_ofJson? {json : Json} {plan : DeploymentPlan} (h : ofJson? json = some plan) :
    plan.Ordered := by
  unfold ofJson? at h
  obtain ⟨members, -, h⟩ := exists_of_bind h
  repeat obtain ⟨_, _, h⟩ := exists_of_bind h
  cases h
  intro resources hresources
  obtain ⟨json, hread⟩ := Dict.exists_of_optional
    ‹members.optional "resources" ResourceRequirements.ofJson? = some _› resources hresources
  exact ResourceRequirements.ordered_of_ofJson? hread

end DeploymentPlan

namespace InterconnectSpec

/-- The resources are in order. -/
def Ordered (spec : InterconnectSpec) : Prop := spec.deploymentPlan.Ordered

theorem ofJson?_toJson {spec : InterconnectSpec} (ordered : spec.Ordered) :
    ofJson? spec.toJson = some spec := by
  have hlisteners (listeners : List Listener) :
      listOf? Listener.ofJson? (list Listener.toJson listeners) = some listeners :=
    listOf?_list fun listener _ => listener.ofJson?_toJson
  have hconnectors (connectors : List Connector) :
      listOf? Connector.ofJson? (list Connector.toJson connectors) = some connectors :=
    listOf?_list fun connector _ => connector.ofJson?_toJson
  have hprofiles := listOf?_list fun profile (_ : profile ∈ spec.sslProfiles) =>
    profile.ofJson?_toJson
  have haddresses := listOf?_list fun address (_ : address ∈ spec.addresses) =>
    address.ofJson?_toJson
  have hautoLinks := listOf?_list fun link (_ : link ∈ spec.autoLinks) => link.ofJson?_toJson
  have hlinkRoutes := listOf?_list fun route (_ : route ∈ spec.linkRoutes) => route.ofJson?_toJson
  unfold ofJson? toJson
  rw [record?_ofFields (by simp)]
  simp [-Option.bind_eq_bind, DeploymentPlan.ofJson?_toJson ordered, Dict.defaulted_ifNonempty,
    hlisteners, hconnectors, hprofiles, haddresses, hautoLinks, hlinkRoutes]

theorem ordered_of_ofJson? {json : Json} {spec : InterconnectSpec} (h : ofJson? json = some spec) :
    spec.Ordered := by
  unfold ofJson? at h
  obtain ⟨members, -, h⟩ := exists_of_bind h
  obtain ⟨plan, hplan, h⟩ := exists_of_bind h
  repeat obtain ⟨_, _, h⟩ := exists_of_bind h
  cases h
  rcases Dict.exists_of_defaulted hplan with rfl | ⟨json, hread⟩
  · exact fun resources hresources => nomatch hresources
  · exact DeploymentPlan.ordered_of_ofJson? hread

end InterconnectSpec

/-! ## Status -/

namespace Condition

/-- The time is in a year of four digits. -/
def Timely (condition : Condition) : Prop := ∀ time ∈ condition.transitionTime, time.FourDigit

theorem ofJson?_toJson {condition : Condition} (timely : condition.Timely) :
    ofJson? condition.toJson = some condition := by
  have htime := restores_timestamp timely
  have htype : (string condition.type.name).case?.bind ConditionType.ofName? =
    some condition.type := condition.type.ofName?_name
  unfold ofJson? toJson
  rw [record?_ofFields (by simp)]
  simp [-Option.bind_eq_bind, htime, htype]

end Condition

namespace InterconnectStatus

/-- All times are in years of four digits. -/
def Timely (status : InterconnectStatus) : Prop := ∀ condition ∈ status.conditions, condition.Timely

theorem ofJson?_toJson {status : InterconnectStatus} (timely : status.Timely) :
    ofJson? status.toJson = some status := by
  have hphase : (string status.phase.name).case?.bind Phase.ofName? = some status.phase :=
    status.phase.ofName?_name
  have hconditions := listOf?_list fun condition hcondition =>
    Condition.ofJson?_toJson (timely condition hcondition)
  unfold ofJson? toJson
  rw [record?_ofFields (by simp)]
  simp [-Option.bind_eq_bind, hphase, hconditions]

end InterconnectStatus

/-! ## Issuers, certificates and routes -/

theorem IssuerSpec.ofJson?_toJson (spec : IssuerSpec) : ofJson? spec.toJson = some spec := by
  have hca : Restores ca? (fun secret => .ofFields [("secretName", some (.string secret))])
      spec.ca := by
    refine .of_forall (fun secret => ?_) fun _ => ofFields_ne_null
    unfold ca?
    rw [record?_ofFields (by simp)]
    simp [-Option.bind_eq_bind]
  have hself (rest : List (String × Option Json)) (h : Lacks rest "selfSigned") :
      (given (("selfSigned", if spec.selfSigned then some (.object []) else none) :: rest)).optional
        "selfSigned" (fun json => json.record? [] 0) =
      some (if spec.selfSigned then some .empty else none) := by
    rw [Dict.optional, get?_given_self h]
    cases spec.selfSigned <;> rfl
  unfold ofJson? toJson
  rw [record?_ofFields (by simp)]
  simp [-Option.bind_eq_bind, hself, hca]
  obtain ⟨selfSigned, ca⟩ := spec
  cases selfSigned <;> rfl

theorem IssuerRef.ofJson?_toJson (reference : IssuerRef) :
    ofJson? reference.toJson = some reference := by
  unfold ofJson? toJson
  rw [record?_ofFields (by simp)]
  simp [-Option.bind_eq_bind]

theorem CertificateSpec.ofJson?_toJson (spec : CertificateSpec) :
    ofJson? spec.toJson = some spec := by
  unfold ofJson? toJson
  rw [record?_ofFields (by simp)]
  simp [-Option.bind_eq_bind, IssuerRef.ofJson?_toJson]

theorem RouteTls.ofJson?_toJson (tls : RouteTls) : ofJson? tls.toJson = some tls := by
  unfold ofJson? toJson
  rw [record?_ofFields (by simp)]
  simp [-Option.bind_eq_bind]

theorem RouteTarget.ofJson?_toJson (target : RouteTarget) :
    ofJson? target.toJson = some target := by
  unfold ofJson? toJson
  rw [record?_ofFields (by simp)]
  simp [-Option.bind_eq_bind]

theorem RouteSpec.ofJson?_toJson (spec : RouteSpec) : ofJson? spec.toJson = some spec := by
  have hport : Restores port? (fun port => .ofFields [("targetPort", some (.string port))])
      spec.port := by
    refine .of_forall (fun port => ?_) fun _ => ofFields_ne_null
    unfold port?
    rw [record?_ofFields (by simp)]
    simp [-Option.bind_eq_bind]
  have htls : Restores RouteTls.ofJson? RouteTls.toJson spec.tls :=
    .of_forall RouteTls.ofJson?_toJson fun _ => ofFields_ne_null
  unfold ofJson? toJson
  rw [record?_ofFields (by simp)]
  simp [-Option.bind_eq_bind, hport, htls, RouteTarget.ofJson?_toJson]

/-! ## Objects with a kind -/

namespace Interconnect

/-- The dictionaries of metadata and resources are in order. -/
structure Ordered (cluster : Interconnect) : Prop where
  metadata : cluster.metadata.Ordered
  spec : cluster.spec.Ordered

/-- All times are in years of four digits. -/
structure Timely (cluster : Interconnect) : Prop where
  metadata : cluster.metadata.Timely
  status : ∀ status ∈ cluster.status, status.Timely

theorem ofJson?_toJson {cluster : Interconnect} (ordered : cluster.Ordered)
    (timely : cluster.Timely) : ofJson? cluster.toJson = some cluster := by
  have hmetadata := ObjectMeta.ofJson?_toJson ordered.metadata timely.metadata
  have hspec := InterconnectSpec.ofJson?_toJson ordered.spec
  have hstatus : Restores InterconnectStatus.ofJson? InterconnectStatus.toJson cluster.status :=
    fun status hstatus =>
      ⟨InterconnectStatus.ofJson?_toJson (timely.status status hstatus), ofFields_ne_null⟩
  unfold ofJson? toJson
  rw [record?_ofFields (by simp [ApiType.fields])]
  simp [-Option.bind_eq_bind, ApiType.fields, hmetadata, hspec, hstatus]

theorem ordered_of_ofJson? {json : Json} {cluster : Interconnect}
    (h : ofJson? json = some cluster) : cluster.Ordered := by
  unfold ofJson? at h
  obtain ⟨members, -, h⟩ := exists_of_bind h
  obtain ⟨metadata, hmetadata, h⟩ := exists_of_bind h
  obtain ⟨spec, hspec, h⟩ := exists_of_bind h
  obtain ⟨status, -, h⟩ := exists_of_bind h
  cases h
  obtain ⟨given, hread⟩ := Dict.exists_of_required hspec
  exact ⟨ObjectMeta.ordered_of_required hmetadata, InterconnectSpec.ordered_of_ofJson? hread⟩

end Interconnect

namespace Issuer

theorem ofJson?_toJson {issuer : Issuer} (ordered : issuer.metadata.Ordered)
    (timely : issuer.metadata.Timely) : ofJson? issuer.toJson = some issuer := by
  unfold ofJson? toJson
  rw [record?_ofFields (by simp [ApiType.fields])]
  simp [-Option.bind_eq_bind, ApiType.fields, ObjectMeta.ofJson?_toJson ordered timely,
    IssuerSpec.ofJson?_toJson]

theorem ordered_of_ofJson? {json : Json} {issuer : Issuer} (h : ofJson? json = some issuer) :
    issuer.metadata.Ordered := by
  unfold ofJson? at h
  obtain ⟨members, -, h⟩ := exists_of_bind h
  obtain ⟨metadata, hmetadata, h⟩ := exists_of_bind h
  obtain ⟨spec, -, h⟩ := exists_of_bind h
  cases h
  exact ObjectMeta.ordered_of_required hmetadata

end Issuer

namespace Certificate

theorem ofJson?_toJson {certificate : Certificate} (ordered : certificate.metadata.Ordered)
    (timely : certificate.metadata.Timely) :
    ofJson? certificate.toJson = some certificate := by
  unfold ofJson? toJson
  rw [record?_ofFields (by simp [ApiType.fields])]
  simp [-Option.bind_eq_bind, ApiType.fields, ObjectMeta.ofJson?_toJson ordered timely,
    CertificateSpec.ofJson?_toJson]

theorem ordered_of_ofJson? {json : Json} {certificate : Certificate}
    (h : ofJson? json = some certificate) : certificate.metadata.Ordered := by
  unfold ofJson? at h
  obtain ⟨members, -, h⟩ := exists_of_bind h
  obtain ⟨metadata, hmetadata, h⟩ := exists_of_bind h
  obtain ⟨spec, -, h⟩ := exists_of_bind h
  cases h
  exact ObjectMeta.ordered_of_required hmetadata

end Certificate

namespace Route

theorem ofJson?_toJson {route : Route} (ordered : route.metadata.Ordered)
    (timely : route.metadata.Timely) : ofJson? route.toJson = some route := by
  unfold ofJson? toJson
  rw [record?_ofFields (by simp [ApiType.fields])]
  simp [-Option.bind_eq_bind, ApiType.fields, ObjectMeta.ofJson?_toJson ordered timely,
    RouteSpec.ofJson?_toJson]

theorem ordered_of_ofJson? {json : Json} {route : Route} (h : ofJson? json = some route) :
    route.metadata.Ordered := by
  unfold ofJson? at h
  obtain ⟨members, -, h⟩ := exists_of_bind h
  obtain ⟨metadata, hmetadata, h⟩ := exists_of_bind h
  obtain ⟨spec, -, h⟩ := exists_of_bind h
  cases h
  exact ObjectMeta.ordered_of_required hmetadata

end Route

end RouterOperator
