import RouterOperator.Kubernetes.Resources
import RouterOperator.Proofs.Wire.Fields
import RouterOperator.Proofs.Wire.Plain
import RouterOperator.Proofs.Wire.Timestamps

/-!
# Metadata and resources on the wire

Metadata and resource requirements hold dictionaries and, in what field managers leave behind, whole
values. What is read has these in order and without `null`; written, it reads back as itself if all
its times are in years of four digits.
-/

namespace RouterOperator

namespace Json

/-- A dictionary that was read is in order. -/
theorem ordered_of_texts? {json : Json} {texts : Dict String} (h : json.texts? = some texts) :
    texts.Ordered := by
  obtain ⟨members, -, h⟩ := Option.bind_eq_some_iff.mp h
  obtain ⟨entries, -, h⟩ := Option.bind_eq_some_iff.mp h
  cases h
  exact Dict.ordered_ofList entries

theorem ordered_of_lastGiven {members : Dict Json} {name : String} {value : Option (Dict String)}
    (h : members.lastGiven name texts? = some value) : ∀ texts ∈ value, texts.Ordered := by
  intro texts htexts
  obtain ⟨json, -, hread⟩ := Dict.exists_of_lastGiven h texts htexts
  exact ordered_of_texts? hread

theorem texts?_texts {texts : Dict String} (h : texts.Ordered) :
    (Json.texts texts).texts? = some texts := by
  let print : String × String → String × Json := fun entry => (entry.1, string entry.2)
  let parse : String × Json → Option (String × String) :=
    fun entry => entry.2.string?.map (entry.1, ·)
  have hentries : (texts.entries.map print).mapM parse = some texts.entries :=
    mapM_map fun entry _ => rfl
  change ((texts.entries.map print).mapM parse).bind
    (fun entries => some (Dict.ofList entries)) = some texts
  rw [hentries, Option.bind_some, h.ofList_entries]

theorem restores_texts {value : Option (Dict String)} (h : ∀ texts ∈ value, texts.Ordered) :
    Restores texts? texts value := fun texts htexts => ⟨texts?_texts (h texts htexts), nofun⟩

@[simp] theorem strings?_strings (items : List String) : (strings items).strings? = some items :=
  listOf?_list fun item _ => string?_string item

@[simp] theorem restores_strings (value : Option (List String)) :
    Restores strings? strings value := .of_forall strings?_strings nofun

theorem timestamp?_timestamp {time : Timestamp} (h : time.FourDigit) :
    timestamp? (timestamp time) = some time := by
  rw [timestamp?, timestamp, string?_string, Option.bind_some, Timestamp.parse?_toText h]

theorem restores_timestamp {value : Option Timestamp} (h : ∀ time ∈ value, time.FourDigit) :
    Restores timestamp? timestamp value :=
  fun time htime => ⟨timestamp?_timestamp (h time htime), nofun⟩

end Json

open Json

namespace OwnerReference

theorem ofJson?_toJson (owner : OwnerReference) : ofJson? owner.toJson = some owner := by
  unfold ofJson? toJson
  simp [-Option.bind_eq_bind, members?_ofFields, Dict.optional_some]

end OwnerReference

namespace ManagedFieldsEntry

/-- What the entry keeps as it is can be read and is in order. -/
def Ordered (entry : ManagedFieldsEntry) : Prop := Restores plain? id entry.fieldsV1

/-- The time is in a year of four digits. -/
def Timely (entry : ManagedFieldsEntry) : Prop := ∀ time ∈ entry.time, time.FourDigit

theorem ofJson?_toJson {entry : ManagedFieldsEntry} (ordered : entry.Ordered)
    (timely : entry.Timely) : ofJson? entry.toJson = some entry := by
  have hfields (rest : List (String × Option Json)) (h : Lacks rest "fieldsV1") :
      (given (("fieldsV1", entry.fieldsV1) :: rest)).optional "fieldsV1" plain? =
        some entry.fieldsV1 := Dict.optional_raw h ordered
  have htime := restores_timestamp timely
  unfold ofJson? toJson
  simp [-Option.bind_eq_bind, members?_ofFields, hfields, htime]

theorem ordered_of_ofJson? {json : Json} {entry : ManagedFieldsEntry}
    (h : ofJson? json = some entry) : entry.Ordered := by
  unfold ofJson? at h
  -- the fields are read one after another, and each leaves behind what it was read from
  obtain ⟨members, -, h⟩ := exists_of_bind h
  repeat obtain ⟨_, _, h⟩ := exists_of_bind h
  cases h
  intro given hgiven
  obtain ⟨json, hjson, hplain⟩ := Dict.exists_of_lastGiven
    ‹members.lastGiven "fieldsV1" plain? = some _› given hgiven
  refine ⟨plain?_of_plain? hplain, ?_⟩
  rintro rfl
  exact hjson (eq_null_of_plain? hplain)

end ManagedFieldsEntry

namespace ObjectMeta

/-- The dictionaries are in order, and so is what field managers left. -/
structure Ordered (metadata : ObjectMeta) : Prop where
  annotations : ∀ texts ∈ metadata.annotations, texts.Ordered
  labels : ∀ texts ∈ metadata.labels, texts.Ordered
  managedFields : ∀ entries ∈ metadata.managedFields, ∀ entry ∈ entries, entry.Ordered

/-- All times are in years of four digits. -/
structure Timely (metadata : ObjectMeta) : Prop where
  creation : ∀ time ∈ metadata.creationTimestamp, time.FourDigit
  deletion : ∀ time ∈ metadata.deletionTimestamp, time.FourDigit
  managedFields : ∀ entries ∈ metadata.managedFields, ∀ entry ∈ entries, entry.Timely

theorem ofJson?_toJson {metadata : ObjectMeta} (ordered : metadata.Ordered)
    (timely : metadata.Timely) : ofJson? metadata.toJson = some metadata := by
  have hannotations := restores_texts ordered.annotations
  have hlabels := restores_texts ordered.labels
  have hcreation := restores_timestamp timely.creation
  have hdeletion := restores_timestamp timely.deletion
  have hfields : Restores (listOf? ManagedFieldsEntry.ofJson?) (list ManagedFieldsEntry.toJson)
      metadata.managedFields :=
    restores_list fun entries hentries entry hentry => ManagedFieldsEntry.ofJson?_toJson
      (ordered.managedFields entries hentries entry hentry)
      (timely.managedFields entries hentries entry hentry)
  have howners : Restores (listOf? OwnerReference.ofJson?) (list OwnerReference.toJson)
      metadata.ownerReferences :=
    restores_list fun owners _ owner _ => owner.ofJson?_toJson
  unfold ofJson? toJson
  simp [-Option.bind_eq_bind, members?_ofFields, hannotations, hlabels, hcreation, hdeletion,
    hfields, howners]

theorem ordered_of_ofJson? {json : Json} {metadata : ObjectMeta}
    (h : ofJson? json = some metadata) : metadata.Ordered := by
  unfold ofJson? at h
  obtain ⟨members, -, h⟩ := exists_of_bind h
  repeat obtain ⟨_, _, h⟩ := exists_of_bind h
  cases h
  refine ⟨ordered_of_lastGiven ‹members.lastGiven "annotations" texts? = some _›,
    ordered_of_lastGiven ‹members.lastGiven "labels" texts? = some _›,
    fun entries hentries entry hentry => ?_⟩
  obtain ⟨json, -, hread⟩ := Dict.exists_of_lastGiven
    ‹members.lastGiven "managedFields" (listOf? ManagedFieldsEntry.ofJson?) = some _›
    entries hentries
  obtain ⟨json, hjson⟩ := exists_of_listOf? hread entry hentry
  exact ManagedFieldsEntry.ordered_of_ofJson? hjson

theorem ordered_of_required {members : Dict Json} {name : String} {metadata : ObjectMeta}
    (h : members.required name ofJson? = some metadata) : metadata.Ordered := by
  obtain ⟨json, hread⟩ := Dict.exists_of_required h
  exact ordered_of_ofJson? hread

end ObjectMeta

theorem ResourceClaim.ofJson?_toJson (claim : ResourceClaim) :
    ofJson? claim.toJson = some claim := by
  unfold ofJson? toJson
  simp [-Option.bind_eq_bind, members?_ofFields, Dict.optional_some]

namespace ResourceRequirements

/-- The dictionaries are in order. -/
structure Ordered (resources : ResourceRequirements) : Prop where
  limits : ∀ texts ∈ resources.limits, texts.Ordered
  requests : ∀ texts ∈ resources.requests, texts.Ordered

theorem ofJson?_toJson {resources : ResourceRequirements} (ordered : resources.Ordered) :
    ofJson? resources.toJson = some resources := by
  have hclaims : Restores (listOf? ResourceClaim.ofJson?) (list ResourceClaim.toJson)
      resources.claims := restores_list fun claims _ claim _ => claim.ofJson?_toJson
  have hlimits := restores_texts ordered.limits
  have hrequests := restores_texts ordered.requests
  unfold ofJson? toJson
  simp [-Option.bind_eq_bind, members?_ofFields, hclaims, hlimits, hrequests]

theorem ordered_of_ofJson? {json : Json} {resources : ResourceRequirements}
    (h : ofJson? json = some resources) : resources.Ordered := by
  unfold ofJson? at h
  obtain ⟨members, -, h⟩ := exists_of_bind h
  repeat obtain ⟨_, _, h⟩ := exists_of_bind h
  cases h
  exact ⟨ordered_of_lastGiven ‹members.lastGiven "limits" texts? = some _›,
    ordered_of_lastGiven ‹members.lastGiven "requests" texts? = some _›⟩

end ResourceRequirements

end RouterOperator
