import RouterOperator.Api.Client
import RouterOperator.Proofs.Wire.MergePatches
import RouterOperator.Proofs.Wire.Records

/-!
# Patching the status of a cluster

A merge patch keeps every member that it does not name. The patch of a status names all fields of
the new status but a revision that is empty, so once it is applied the stored status reads as the
new one, unless it has a revision that the new one has not. The version in the patch is the stored
one, and the rest of the cluster stays as it is.
-/

namespace RouterOperator

namespace Json

variable {fields : List (String × Option Json)} {name : String}

theorem nodup_given (h : Distinct fields) : ((given fields).entries.map Prod.fst).Nodup := by
  induction fields with
  | nil => exact List.nodup_nil
  | cons field rest ih =>
      obtain ⟨key, slot⟩ := field
      obtain ⟨hlacks, hrest⟩ := distinct_cons.mp h
      rw [given_cons]
      cases slot with
      | none => exact ih hrest
      | some json =>
          have hnone := List.lookup_eq_none_iff.mp (get?_given_of_lacks hlacks)
          refine List.nodup_cons.mpr ⟨fun hmem => ?_, ih hrest⟩
          obtain ⟨member, hmember, hkey⟩ := List.mem_map.mp hmem
          exact bne_iff_ne.mp (hnone member hmember) hkey.symm

/-- A value that replaces whatever stood in its place. -/
def Flat (json : Json) : Prop := ∀ old, json.patched old = some json

theorem flat_string (text : String) : (string text).Flat := fun _ => rfl

theorem flat_list {α : Type} (write : α → Json) (items : List α) : (list write items).Flat :=
  fun _ => rfl

/-- A patch of flat fields gives those that have a value and leaves the others. -/
theorem get?_mergeMembers_given (distinct : Distinct fields)
    (flat : ∀ field ∈ fields, ∀ json ∈ field.2, json.Flat) (members : List (String × Json)) :
    (⟨mergeMembers (given fields).entries members⟩ : Dict Json).get? name =
      ((given fields).get? name).or ((⟨members⟩ : Dict Json).get? name) := by
  cases hget : (given fields).get? name with
  | none =>
      refine lookup_mergeMembers_of_not_mem fun hmem => ?_
      obtain ⟨member, hmember, rfl⟩ := List.mem_map.mp hmem
      exact bne_iff_ne.mp (List.lookup_eq_none_iff.mp hget member hmember) rfl
  | some json =>
      obtain ⟨front, rest, hentries, -⟩ := List.lookup_eq_some_iff.mp hget
      have hmem : (name, json) ∈ (given fields).entries := by simp [hentries]
      obtain ⟨field, hfield, hmap⟩ := List.mem_filterMap.mp hmem
      obtain ⟨given, hgiven, heq⟩ := Option.map_eq_some_iff.mp hmap
      cases heq
      exact (lookup_mergeMembers_of_mem (nodup_given distinct) hmem).trans
        (flat field hfield json hgiven _)

/-- So a field with a default reads as it is given, unless the patch has no value for it and
something other than the default is left. -/
theorem defaulted_mergeMembers_given {α : Type} {read : Json → Option α} {absent : α}
    {members : List (String × Json)} (distinct : Distinct fields)
    (flat : ∀ field ∈ fields, ∀ json ∈ field.2, json.Flat)
    (h : (given fields).get? name = none →
      (⟨members⟩ : Dict Json).defaulted name read absent = some absent) :
    (⟨mergeMembers (given fields).entries members⟩ : Dict Json).defaulted name read absent =
      (given fields).defaulted name read absent := by
  have hget : (⟨mergeMembers (given fields).entries members⟩ : Dict Json).get? name = _ :=
    get?_mergeMembers_given distinct flat members
  cases hgiven : (given fields).get? name with
  | none =>
      rw [hgiven, Option.none_or] at hget
      rw [Dict.defaulted, hget, Dict.defaulted, hgiven]
      exact h hgiven
  | some json =>
      rw [hgiven, Option.some_or] at hget
      rw [Dict.defaulted, hget, Dict.defaulted, hgiven]

end Json

open Json

namespace InterconnectStatus

variable {status : InterconnectStatus} {old : Json}

/-- The names of the fields of a status. -/
def fieldNames : List String := ["phase", "revNumber", "pods", "conditions"]

/-- The fields of a status as they are written. -/
def fields (status : InterconnectStatus) : List (String × Option Json) := [
  ("phase", some (.string status.phase.name)), ("revNumber", ifGiven status.revNumber),
  ("pods", some (.strings status.pods)),
  ("conditions", some (.list Condition.toJson status.conditions))]

theorem distinct_fields (status : InterconnectStatus) : Distinct status.fields := by
  simp [fields]

theorem flat_fields (status : InterconnectStatus) :
    ∀ field ∈ status.fields, ∀ json ∈ field.2, json.Flat := by
  simp only [fields, List.forall_mem_cons, List.not_mem_nil, false_imp_iff, implies_true, and_true]
  refine ⟨?_, fun json hjson => ?_, ?_, ?_⟩
  · rintro json ⟨⟩
    exact flat_string _
  · rw [Option.mem_def, ifGiven] at hjson
    split at hjson
    · cases hjson
    · cases hjson
      exact flat_string _
  · rintro json ⟨⟩
    exact flat_list _ _
  · rintro json ⟨⟩
    exact flat_list _ _

/-- A new status may be merged into what is stored: nothing, or a status that has no revision
unless the new one has. -/
def Supersedes (status : InterconnectStatus) (old : Json) : Prop :=
  old = .null ∨ ∃ earlier, ofJson? old = some earlier ∧
    (status.revNumber = "" → earlier.revNumber = "")

/-- What is stored then has no field twice, and no revision that the new status has not. -/
theorem Supersedes.membersOrNone (h : status.Supersedes old) :
    (object old.membersOrNone).membersOnce? fieldNames = some ⟨old.membersOrNone⟩ ∧
      (status.revNumber = "" →
        (⟨old.membersOrNone⟩ : Dict Json).defaulted "revNumber" string? "" = some "") := by
  rcases h with rfl | ⟨earlier, hread, hkept⟩
  · exact ⟨rfl, fun _ => rfl⟩
  · unfold ofJson? at hread
    obtain ⟨members, hmembers, hread⟩ := exists_of_bind hread
    obtain ⟨phase, -, hread⟩ := exists_of_bind hread
    obtain ⟨revNumber, hrev, hread⟩ := exists_of_bind hread
    obtain ⟨pods, -, hread⟩ := exists_of_bind hread
    obtain ⟨conditions, -, hread⟩ := exists_of_bind hread
    cases hread
    cases old with
    | array items => exact ⟨rfl, fun _ => rfl⟩
    | object given =>
        have hgiven : (object given).membersOnce? fieldNames = some members := hmembers
        obtain rfl : ⟨given⟩ = members :=
          Option.some.inj (Option.filter_eq_some_iff.mp hgiven).1
        exact ⟨hgiven, fun hempty => hrev.trans (congrArg some (hkept hempty))⟩
    | _ => cases hmembers

/-- A stored status that was patched reads as the new one does. -/
theorem ofJson?_mergePatch (h : status.Supersedes old) :
    ofJson? (status.toJson.mergePatch old) = ofJson? status.toJson := by
  obtain ⟨honce, hrev⟩ := h.membersOrNone
  let merged : Dict Json := ⟨mergeMembers (given status.fields).entries old.membersOrNone⟩
  have hmerged : (status.toJson.mergePatch old).record? fieldNames 0 = some merged :=
    membersOnce?_mergeMembers honce (nodup_given status.distinct_fields)
  have hgiven : status.toJson.record? fieldNames 0 = some (given status.fields) :=
    record?_ofFields status.distinct_fields _ _
  -- three fields are always given, and the revision is left out only if there was none
  have hphase : (given status.fields).get? "phase" = some (.string status.phase.name) := rfl
  have hpods : (given status.fields).get? "pods" = some (.strings status.pods) := by
    simp [fields, get?_given_of_ne, get?_given_self]
  have hconditions : (given status.fields).get? "conditions" =
      some (.list Condition.toJson status.conditions) := by
    simp [fields, get?_given_of_ne, get?_given_self]
  have hempty (hnone : (given status.fields).get? "revNumber" = none) : status.revNumber = "" := by
    have hself : (given status.fields).get? "revNumber" = ifGiven status.revNumber := by
      simp [fields, get?_given_of_ne, get?_given_self]
    rw [hself, ifGiven] at hnone
    exact of_not_not fun hne => by simp [hne] at hnone
  have hsame {α : Type} {read : Json → Option α} {absent : α} {name : String} {json : Json}
      (h : (given status.fields).get? name = some json) :
      merged.defaulted name read absent = (given status.fields).defaulted name read absent :=
    defaulted_mergeMembers_given status.distinct_fields status.flat_fields fun hnone =>
      absurd (h.symm.trans hnone) (Option.some_ne_none json)
  have hrevision : merged.defaulted "revNumber" string? "" =
      (given status.fields).defaulted "revNumber" string? "" :=
    defaulted_mergeMembers_given status.distinct_fields status.flat_fields fun hnone =>
      hrev (hempty hnone)
  unfold ofJson?
  change ((status.toJson.mergePatch old).record? fieldNames 0 >>= _) =
    (status.toJson.record? fieldNames 0 >>= _)
  rw [hmerged, hgiven, some_bind, some_bind, hsame hphase, hrevision, hsame hpods,
    hsame hconditions]

theorem supersedes_of_optional {members : List (String × Json)}
    {earlier : Option InterconnectStatus}
    (read : (⟨members⟩ : Dict Json).optional "status" ofJson? = some earlier)
    (kept : status.revNumber = "" → (earlier.getD {}).revNumber = "") :
    status.Supersedes ((members.lookup "status").getD .null) := by
  unfold Dict.optional Dict.get? at read
  split at read
  next hnone => exact .inl (by rw [hnone]; rfl)
  next hnull => exact .inl (by rw [hnull]; rfl)
  next json hnonnull hsome =>
    obtain ⟨given, hgiven, rfl⟩ := Option.map_eq_some_iff.mp read
    rw [hsome]
    exact .inr ⟨given, hgiven, kept⟩

end InterconnectStatus

namespace ObjectMeta

variable {metadata : ObjectMeta} {old : Json}

theorem exists_of_ofJson? (h : ofJson? old = some metadata) :
    ∃ members, old = object members ∧ (⟨members⟩ : Dict Json).lastGiven "resourceVersion" string? =
      some metadata.resourceVersion := by
  unfold ofJson? at h
  obtain ⟨members, hmembers, h⟩ := exists_of_bind h
  repeat obtain ⟨_, _, h⟩ := exists_of_bind h
  cases h
  cases old with
  | object given =>
      cases hmembers
      exact ⟨given, rfl, ‹_›⟩
  | _ => cases hmembers

/-- The patch that puts metadata on its own version. -/
def versionPatch (metadata : ObjectMeta) : Json :=
  object [("resourceVersion", (metadata.resourceVersion.map string).getD null)]

/-- Metadata that was patched with its own version reads as before. -/
theorem ofJson?_mergePatch (h : ofJson? old = some metadata) :
    ofJson? (metadata.versionPatch.mergePatch old) = some metadata := by
  obtain ⟨members, rfl, hversion⟩ := exists_of_ofJson? h
  let version := (metadata.resourceVersion.map string).getD null
  let merged : Dict Json := ⟨mergeMembers [("resourceVersion", version)] members⟩
  have hmerged : (metadata.versionPatch.mergePatch (object members)).members? = some merged := rfl
  have hother {α : Type} {read : Json → Option α} {name : String}
      (hne : name ≠ "resourceVersion") :
      merged.lastGiven name read = (⟨members⟩ : Dict Json).lastGiven name read := by
    rw [Dict.lastGiven, Dict.lastGiven, filter_mergeMembers_singleton_of_ne hne]
  have hsame : merged.lastGiven "resourceVersion" string? =
      (⟨members⟩ : Dict Json).lastGiven "resourceVersion" string? := by
    rw [hversion, Dict.lastGiven, filter_mergeMembers_singleton_self]
    unfold version
    cases metadata.resourceVersion <;> rfl
  have hmembers : (object members).members? = some ⟨members⟩ := rfl
  rw [← h]
  unfold ofJson?
  rw [hmerged, hmembers, some_bind, some_bind]
  simp (disch := decide) only [hother, hsame]

end ObjectMeta

namespace Interconnect

/-- The names of the fields of a cluster. -/
def fieldNames : List String := ["metadata", "spec", "status"]

/-- What is stored for a cluster, patched with a new status, reads as the cluster with what the new
status reads as. -/
theorem ofJson?_statusPatch {members : List (String × Json)} {cluster : Interconnect}
    (read : ofJson? (object members) = some cluster) {status : InterconnectStatus}
    (kept : status.revNumber = "" → cluster.statusOrNew.revNumber = "") :
    ofJson? (({ cluster with status := some status } : Interconnect).statusPatch.mergePatch
        (object members)) =
      (InterconnectStatus.ofJson? status.toJson).map
        fun status => { cluster with status := some status } := by
  let changes : List (String × Json) :=
    [("metadata", cluster.metadata.versionPatch), ("status", status.toJson)]
  let merged : Dict Json := ⟨mergeMembers changes members⟩
  unfold ofJson? at read
  obtain ⟨given, hgiven, read⟩ := exists_of_bind read
  obtain ⟨metadata, hmetadata, read⟩ := exists_of_bind read
  obtain ⟨spec, hspec, read⟩ := exists_of_bind read
  obtain ⟨earlier, hstatus, read⟩ := exists_of_bind read
  cases read
  have honce : (object members).membersOnce? fieldNames = some given := hgiven
  obtain rfl : ⟨members⟩ = given := Option.some.inj (Option.filter_eq_some_iff.mp honce).1
  have names : (changes.map Prod.fst).Nodup := by simp [changes]
  have hmerged : (object (mergeMembers changes members)).membersOnce? fieldNames = some merged :=
    membersOnce?_mergeMembers honce names
  have hnewMetadata : merged.required "metadata" ObjectMeta.ofJson? = some metadata := by
    obtain ⟨old, hold, hread⟩ := Option.bind_eq_some_iff.mp hmetadata
    have hlookup : members.lookup "metadata" = some old := hold
    rw [Dict.required, Dict.get?, lookup_mergeMembers_of_mem names List.mem_cons_self, hlookup]
    exact ObjectMeta.ofJson?_mergePatch hread
  have hsameSpec : merged.required "spec" InterconnectSpec.ofJson? = some spec := by
    rw [← hspec, Dict.required, Dict.get?, lookup_mergeMembers_of_not_mem (by simp [changes])]
    rfl
  have hnewStatus : merged.optional "status" InterconnectStatus.ofJson? =
      (InterconnectStatus.ofJson? status.toJson).map some := by
    have hsupersedes := InterconnectStatus.supersedes_of_optional hstatus kept
    have hget : merged.get? "status" =
        some (status.toJson.mergePatch ((members.lookup "status").getD .null)) :=
      lookup_mergeMembers_of_mem names (List.mem_cons_of_mem _ List.mem_cons_self)
    rw [Dict.optional, hget, ← InterconnectStatus.ofJson?_mergePatch hsupersedes]
    rfl
  change (do
    let members ← (object (mergeMembers changes members)).membersOnce? fieldNames
    let metadata ← members.required "metadata" ObjectMeta.ofJson?
    let spec ← members.required "spec" InterconnectSpec.ofJson?
    let status ← members.optional "status" InterconnectStatus.ofJson?
    return { metadata, spec, status : Interconnect }) = _
  rw [hmerged, some_bind, hnewMetadata, some_bind, hsameSpec, some_bind, hnewStatus]
  cases InterconnectStatus.ofJson? status.toJson <;> rfl

end Interconnect

end RouterOperator
