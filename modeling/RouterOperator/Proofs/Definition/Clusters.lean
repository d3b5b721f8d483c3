import RouterOperator.Definition.Resource
import RouterOperator.Proofs.Definition.Admission
import RouterOperator.Proofs.Wire.Records

/-!
# Clusters by their published schema

The writer and the schema of a record list its fields apart from each other, in another order and
with other rules for what is absent. Each record keeps to its schema all the same: every field that
is ever written is declared with the type it is written in, and what is required or has a default is
always written. So the cluster API admits every specification and every status, and gives them back
as they were written.
-/

namespace RouterOperator

open Json

namespace FieldSchema

variable {α : Type} {schema item : FieldSchema} {write : α → Json} {json : Json}
  {name other : String} {field : String × Option Json} {fields : List (String × Option Json)}
  {properties : List (String × FieldSchema)}

/-! Each way of writing a value keeps to a schema. -/

@[simp] theorem keeps_anyText (text : String) : anyText.keeps (string text) = true := rfl

@[simp] theorem keeps_optionalText (text : String) : optionalText.keeps (string text) = true := rfl

@[simp] theorem keeps_writtenText (text : String) : writtenText.keeps (string text) = true := rfl

@[simp] theorem keeps_int32 (number : Int32) : int32.keeps (.int32 number) = true := by
  have hleast := number.le_toInt
  have hgreatest : number.toInt ≤ 2147483647 := number.toInt_le
  rw [Json.int32, keeps, Bool.and_eq_true, decide_eq_true_iff, decide_eq_true_iff]
  exact ⟨by omega, hgreatest⟩

@[simp] theorem keeps_optionalInt32 (number : Int32) :
    optionalInt32.keeps (.int32 number) = true := keeps_int32 number

@[simp] theorem keeps_writtenInt32 (number : Int32) :
    writtenInt32.keeps (.int32 number) = true := keeps_int32 number

@[simp] theorem keeps_flag (value : Bool) : flag.keeps (bool value) = true := rfl

@[simp] theorem keeps_nullable_flag (value : Bool) :
    (nullable flag).keeps (bool value) = true := rfl

@[simp] theorem keeps_described (description : String) (schema : FieldSchema) (json : Json) :
    (described description schema).keeps json = schema.keeps json := rfl

@[simp] theorem keeps_defaulting (absent : Json) (schema : FieldSchema) (json : Json) :
    (defaulting absent schema).keeps json = schema.keeps json := rfl

@[simp] theorem keeps_required (schema : FieldSchema) (json : Json) :
    (required schema).keeps json = schema.keeps json := rfl

@[simp] theorem keeps_anyFields (fields : List (String × Option Json)) :
    anyFields.keeps (ofFields fields) = true := rfl

@[simp] theorem keeps_list (h : ∀ x, item.keeps (write x) = true) (items : List α) :
    (listOf item).keeps (list write items) = true := by
  rw [list, keeps, List.all_map, List.all_eq_true]
  exact fun x _ => h x

/-! A member is kept by the property of its name. -/

@[simp] theorem keepsMember_self :
    keepsMember ((name, schema) :: properties) name json = schema.keeps json := by
  rw [keepsMember, if_pos rfl]

@[simp] theorem keepsMember_of_ne (h : name ≠ other) :
    keepsMember ((name, schema) :: properties) other json = keepsMember properties other json := by
  rw [keepsMember, if_neg h]

/-- Every value that is written of these fields is kept by the property of its field. -/
def Declares (properties : List (String × FieldSchema)) (fields : List (String × Option Json)) :
    Prop :=
  ∀ field ∈ fields, ∀ json ∈ field.2, keepsMember properties field.1 json = true

@[simp] theorem declares_nil : Declares properties [] := nofun

@[simp] theorem declares_cons : Declares properties (field :: fields) ↔
    (∀ json ∈ field.2, keepsMember properties field.1 json = true) ∧ Declares properties fields :=
  List.forall_mem_cons

/-- A record is kept if all its fields are declared and those that are required or have a default
are always written. -/
theorem keeps_ofFields (always : List String)
    (halways : requiredNames properties ++ defaultedNames properties = always)
    (hwritten : ∀ name ∈ always, ∃ json, (name, some json) ∈ fields)
    (hdeclared : Declares properties fields) :
    (record properties).keeps (ofFields fields) = true := by
  rw [ofFields, keeps, halways, Bool.and_eq_true, List.all_eq_true, List.all_eq_true]
  constructor
  · intro name hname
    obtain ⟨json, hjson⟩ := hwritten name hname
    exact List.any_eq_true.mpr ⟨(name, json),
      List.mem_filterMap.mpr ⟨_, hjson, rfl⟩, decide_eq_true rfl⟩
  · intro member hmember
    obtain ⟨field, hfield, hmap⟩ := List.mem_filterMap.mp hmember
    obtain ⟨json, hjson, rfl⟩ := Option.map_eq_some_iff.mp hmap
    exact hdeclared field hfield json hjson

end FieldSchema

open FieldSchema

/-! ## The records of a specification -/

theorem Listener.keeps_toJson (listener : Listener) : schema.keeps listener.toJson = true :=
  keeps_ofFields ["port"] rfl (by simp) (by simp [ifTrue])

/-- A field that is not declared is pruned, and the port is filled in. -/
example : Listener.schema.toJson.stored (.object [("prot", .integer 5672), ("http", .bool true)]) =
    .object [("http", .bool true), ("port", .integer 0)] := rfl

theorem Connector.keeps_toJson (connector : Connector) : schema.keeps connector.toJson = true :=
  keeps_ofFields ["host", "port"] rfl (by simp) (by simp [ifTrue, or_imp, forall_and])

theorem SslProfile.keeps_toJson (profile : SslProfile) : schema.keeps profile.toJson = true :=
  keeps_ofFields ["name"] rfl (by simp) (by simp [ifTrue])

theorem Address.keeps_toJson (address : Address) : schema.keeps address.toJson = true :=
  keeps_ofFields [] rfl (by simp) (by simp [ifTrue])

theorem AutoLink.keeps_toJson (link : AutoLink) : schema.keeps link.toJson = true :=
  keeps_ofFields ["address", "direction"] rfl (by simp) (by simp)

theorem LinkRoute.keeps_toJson (route : LinkRoute) : schema.keeps route.toJson = true :=
  keeps_ofFields [] rfl (by simp) (by simp)

theorem DeploymentPlan.keeps_toJson (plan : DeploymentPlan) : schema.keeps plan.toJson = true := by
  have hrole (role : RouterRole) :
      (nullable (text ([.interior, .edge].map RouterRole.name))).keeps
        (string role.name) = true := by
    cases role <;> rfl
  have hplacement (placement : Placement) :
      (nullable (text ([.any, .every, .antiAffinity, .node].map Placement.name))).keeps
        (string placement.name) = true := by
    cases placement <;> rfl
  refine keeps_ofFields ["livenessPort", "size"] rfl (by simp) ?_
  simp [hrole, hplacement, ResourceRequirements.toJson, -List.map_cons]

theorem InterconnectSpec.keeps_toJson (spec : InterconnectSpec) :
    schema.keeps spec.toJson = true := by
  refine keeps_ofFields ["deploymentPlan"] rfl (by simp) ?_
  simp [ifNonempty, DeploymentPlan.keeps_toJson, Listener.keeps_toJson, SslProfile.keeps_toJson,
    Address.keeps_toJson, AutoLink.keeps_toJson, LinkRoute.keeps_toJson, Connector.keeps_toJson]

/-! ## The records of a status -/

theorem Condition.keeps_toJson (condition : Condition) :
    schema.keeps condition.toJson = true := by
  have htype (type : ConditionType) :
      (text ([.provisioning, .deployed, .scalingUp, .scalingDown, .upgrading].map
        ConditionType.name)).keeps (string type.name) = true := by
    cases type <;> rfl
  refine keeps_ofFields ["type"] rfl (by simp) ?_
  simp [htype, ifGiven, timestamp, -List.map_cons]

theorem InterconnectStatus.keeps_toJson (status : InterconnectStatus) :
    schema.keeps status.toJson = true := by
  have hphase (phase : Phase) :
      (text ([.unset, .creating, .running, .failed].map Phase.name)).keeps
        (string phase.name) = true := by
    cases phase <;> rfl
  have hpods := keeps_list keeps_anyText status.pods
  refine keeps_ofFields ["conditions", "phase", "pods"] rfl (by simp) ?_
  simp [hphase, hpods, ifGiven, strings, Condition.keeps_toJson, -List.map_cons]

/-! ## Clusters -/

namespace Interconnect

/-- The schema of a field of clusters, as the definition of clusters publishes it. -/
def publishedSchema? (field : String) : Option Json := do
  let versions ← (← definition.get? "spec").get? "versions"
  let version ← (← versions.items?).head?
  let schema ← (← version.get? "schema").get? "openAPIV3Schema"
  schema.property? field

theorem publishedSchema?_spec :
    publishedSchema? "spec" = some (required InterconnectSpec.schema).toJson := rfl

theorem publishedSchema?_status :
    publishedSchema? "status" = some (nullable InterconnectStatus.schema).toJson := rfl

/-- The published schemas admit every specification and every status that is written, and both are
stored as they were written. A specification whose dictionaries are in order is read back from the
store as it was. -/
theorem written_clusters_pass (cluster : Interconnect) :
    ∃ specSchema statusSchema,
      publishedSchema? "spec" = some specSchema ∧
      publishedSchema? "status" = some statusSchema ∧
      cluster.toJson.get? "spec" = some cluster.spec.toJson ∧
      cluster.toJson.get? "status" = cluster.status.map InterconnectStatus.toJson ∧
      specSchema.Passes cluster.spec.toJson ∧
      (∀ status ∈ cluster.status, statusSchema.Passes status.toJson) ∧
      (cluster.spec.Ordered →
        InterconnectSpec.ofJson? (specSchema.stored cluster.spec.toJson) = some cluster.spec) := by
  have hspec : (required InterconnectSpec.schema).toJson.Passes cluster.spec.toJson :=
    passes_of_keeps _ _ cluster.spec.keeps_toJson
  refine ⟨_, _, publishedSchema?_spec, publishedSchema?_status, rfl, ?_, hspec, ?_, ?_⟩
  · unfold toJson
    cases cluster.status <;> rfl
  · intro status _
    exact passes_of_keeps (nullable InterconnectStatus.schema) status.toJson status.keeps_toJson
  · intro ordered
    rw [hspec.unchanged]
    exact InterconnectSpec.ofJson?_toJson ordered

/-- A cluster that limits what its routers use, with an edge listener on no port and a milestone. -/
def limitedCluster : Interconnect where
  metadata := { name := some "amq" }
  spec := {
    deploymentPlan := {
      role := some .edge
      resources := some { limits := some (.ofList [("memory", "1Gi"), ("cpu", "500m")]) } }
    edgeListeners := [{ name := some "", expose := true }]
    sslProfiles := [{ name := "default", requireClientCerts := true }] }
  status := some { conditions := [{ type := .scalingUp, transitionTime := some default }] }

theorem limited_cluster_passes :
    limitedCluster.spec.Ordered ∧
      (∃ schema, publishedSchema? "spec" = some schema ∧
        schema.Passes limitedCluster.spec.toJson ∧
        InterconnectSpec.ofJson? (schema.stored limitedCluster.spec.toJson) =
          some limitedCluster.spec) ∧
      ∃ schema status, publishedSchema? "status" = some schema ∧
        limitedCluster.status = some status ∧ schema.Passes status.toJson := by
  have ordered : limitedCluster.spec.Ordered := by
    rintro _ ⟨⟩
    refine ⟨?_, nofun⟩
    rintro _ ⟨⟩
    exact Dict.ordered_ofList _
  obtain ⟨specSchema, statusSchema, hspec, hstatus, -, -, hpasses, hstatusPasses, hback⟩ :=
    written_clusters_pass limitedCluster
  exact ⟨ordered, ⟨specSchema, hspec, hpasses, hback ordered⟩, statusSchema, _, hstatus, rfl,
    hstatusPasses _ rfl⟩

end Interconnect

end RouterOperator
