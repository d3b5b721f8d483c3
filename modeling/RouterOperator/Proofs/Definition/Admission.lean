import RouterOperator.Definition.FieldSchema
import RouterOperator.Json.MergePatch

/-!
# Admission by a published schema

What the cluster API does with a value by the schema that it was given as JSON: it refuses what the
schema does not admit, prunes the members that no property declares, and fills in the defaults of
the properties that are absent. A value that a field schema keeps passes all of it as it is.
-/

namespace RouterOperator

namespace Json

variable {schema other item json : Json} {items : List Json} {members : List (String × Json)}

/-- The schema gives its values this type. -/
def HasType (schema : Json) (type : String) : Prop := schema.get? "type" = some (.string type)

/-- The schema switches this on. -/
def isSet (schema : Json) (key : String) : Bool := ((schema.get? key).bind bool?).getD false

/-- The properties that a schema of objects declares. -/
def properties (schema : Json) : Dict Json :=
  ((schema.get? "properties").bind members?).getD .empty

/-- The schema of a property that is declared. -/
def property? (schema : Json) (name : String) : Option Json := schema.properties.get? name

/-- The entry by which a schema of objects keeps the members that it does not declare. -/
def preserving : String := "x-kubernetes-preserve-unknown-fields"

/-- A value is valid by a schema: it has the declared type and, for a text, one of the declared
choices; what is required of an object is there, and every member is valid by its own property. A
member without a property is refused unless the schema preserves unknown fields. -/
inductive Admits : Json → Json → Prop
  | null {schema : Json} (hnullable : schema.isSet "nullable" = true) : Admits schema null
  | bool {schema : Json} {value : Bool} (htype : schema.HasType "boolean") :
      Admits schema (bool value)
  | integer {schema : Json} {value : Int} (htype : schema.HasType "integer")
      (hformat : schema.get? "format" = some (string "int32") →
        -2147483648 ≤ value ∧ value ≤ 2147483647) : Admits schema (integer value)
  | string {schema : Json} {value : String} (htype : schema.HasType "string")
      (henum : ∀ choices, schema.get? "enum" = some (array choices) → string value ∈ choices) :
      Admits schema (string value)
  | array {schema item : Json} {items : List Json} (htype : schema.HasType "array")
      (hitem : schema.get? "items" = some item) (hitems : ∀ value ∈ items, Admits item value) :
      Admits schema (array items)
  | object {schema : Json} {members : List (String × Json)} (htype : schema.HasType "object")
      (hrequired : ∀ names, schema.get? "required" = some (array names) →
        ∀ name, string name ∈ names → ∃ member ∈ members, member.1 = name)
      (hdeclared : ∀ member ∈ members, ∀ property,
        schema.property? member.1 = some property → Admits property member.2)
      (hunknown : ∀ member ∈ members, schema.property? member.1 = none →
        schema.isSet preserving = true) : Admits schema (object members)

/-- The members, followed by the defaults of the properties that are not among them. -/
def completed (schema : Json) (members : List (String × Json)) : List (String × Json) :=
  members ++ schema.properties.entries.filterMap fun property =>
    if members.any (·.1 = property.1) then none
    else (property.2.get? "default").map (property.1, ·)

mutual

/-- The value as it is stored: a member that no property declares is pruned unless the schema
preserves it, and so is a `null` that is not allowed; then the defaults are filled in. -/
def stored (schema : Json) : Json → Json
  | array items => array (storedItems ((schema.get? "items").getD null) items)
  | object members => object (schema.completed (storedMembers schema members))
  | json => json

/-- The items of an array, each as it is stored. -/
def storedItems (schema : Json) : List Json → List Json
  | [] => []
  | item :: rest => schema.stored item :: storedItems schema rest

/-- The members of an object that are not pruned, each as it is stored. -/
def storedMembers (schema : Json) : List (String × Json) → List (String × Json)
  | [] => []
  | (name, value) :: rest =>
    match schema.property? name with
    | none =>
      if schema.isSet preserving then (name, value) :: storedMembers schema rest
      else storedMembers schema rest
    | some property =>
      if value.isNull && !property.isSet "nullable" then storedMembers schema rest
      else (name, property.stored value) :: storedMembers schema rest

end

/-- A value is admitted by a schema and stored as it is. -/
structure Passes (schema json : Json) : Prop where
  admitted : schema.Admits json
  unchanged : schema.stored json = json

theorem storedItems_eq_map (schema : Json) (items : List Json) :
    storedItems schema items = items.map schema.stored := by
  induction items with
  | nil => rfl
  | cons item rest ih => rw [storedItems, ih, List.map_cons]

theorem Admits.isSet_nullable (h : schema.Admits Json.null) : schema.isSet "nullable" = true := by
  cases h
  assumption

theorem passes_array (htype : schema.HasType "array") (hitem : schema.get? "items" = some item)
    (hitems : ∀ value ∈ items, item.Passes value) : schema.Passes (array items) where
  admitted := .array htype hitem fun value hvalue => (hitems value hvalue).admitted
  unchanged := by
    rw [stored, hitem, Option.getD_some, storedItems_eq_map]
    exact congrArg array <|
      (List.map_congr_left fun value hvalue => (hitems value hvalue).unchanged).trans
        (List.map_id items)

theorem storedMembers_eq_self
    (h : ∀ member ∈ members, ∀ property, schema.property? member.1 = some property →
      property.Passes member.2)
    (hunknown : ∀ member ∈ members, schema.property? member.1 = none →
      schema.isSet preserving = true) : storedMembers schema members = members := by
  induction members with
  | nil => rfl
  | cons member rest ih =>
      obtain ⟨name, value⟩ := member
      obtain ⟨hmember, hrest⟩ := List.forall_mem_cons.mp h
      obtain ⟨hpreserved, hpreservedRest⟩ := List.forall_mem_cons.mp hunknown
      rw [storedMembers]
      split
      next hnone => rw [if_pos (hpreserved hnone), ih hrest hpreservedRest]
      next property hproperty =>
        have hpasses := hmember property hproperty
        have hallowed : (value.isNull && !property.isSet "nullable") = false := by
          cases value with
          | null => rw [hpasses.admitted.isSet_nullable]; rfl
          | _ => rfl
        rw [if_neg (Bool.eq_false_iff.mp hallowed), hpasses.unchanged, ih hrest hpreservedRest]

theorem completed_eq_self
    (h : ∀ property ∈ schema.properties.entries, (property.2.get? "default").isSome = true →
      ∃ member ∈ members, member.1 = property.1) : schema.completed members = members := by
  refine (congrArg (members ++ ·) (List.filterMap_eq_nil_iff.mpr ?_)).trans (List.append_nil _)
  intro property hproperty
  split
  · rfl
  next habsent =>
    cases hdefault : property.2.get? "default" with
    | none => rfl
    | some value =>
        obtain ⟨member, hmember, hname⟩ := h property hproperty (by rw [hdefault]; rfl)
        exact absurd (List.any_eq_true.mpr ⟨member, hmember, decide_eq_true hname⟩) habsent

theorem passes_object (htype : schema.HasType "object")
    (hrequired : ∀ names, schema.get? "required" = some (array names) →
      ∀ name, string name ∈ names → ∃ member ∈ members, member.1 = name)
    (hdefaulted : ∀ property ∈ schema.properties.entries,
      (property.2.get? "default").isSome = true → ∃ member ∈ members, member.1 = property.1)
    (hdeclared : ∀ member ∈ members, ∀ property, schema.property? member.1 = some property →
      property.Passes member.2)
    (hunknown : ∀ member ∈ members, schema.property? member.1 = none →
      schema.isSet preserving = true) : schema.Passes (object members) where
  admitted := .object htype hrequired (fun member hmember property hproperty =>
    (hdeclared member hmember property hproperty).admitted) hunknown
  unchanged := by
    rw [stored, storedMembers_eq_self hdeclared hunknown, completed_eq_self hdefaulted]

section alike

/-- Two schemas say the same of all values, apart from `null`. -/
def Alike (schema other : Json) : Prop :=
  ∀ key ∈ ["type", "format", "enum", "items", "properties", "required", preserving],
    other.get? key = schema.get? key

variable (h : schema.Alike other)

include h

theorem Alike.property? (name : String) : other.property? name = schema.property? name := by
  unfold Json.property? properties
  rw [h "properties" (by decide)]

theorem Alike.storedMembers (members : List (String × Json)) :
    other.storedMembers members = schema.storedMembers members := by
  have hpreserving : other.isSet preserving = schema.isSet preserving := by
    unfold isSet
    rw [h preserving (by decide)]
  induction members with
  | nil => rfl
  | cons member rest ih =>
      obtain ⟨name, value⟩ := member
      rw [Json.storedMembers, Json.storedMembers, h.property?, hpreserving, ih]

theorem Alike.stored (json : Json) : other.stored json = schema.stored json := by
  cases json with
  | array items => rw [Json.stored, Json.stored, h "items" (by decide)]
  | object members =>
      rw [Json.stored, Json.stored, h.storedMembers]
      unfold completed properties
      rw [h "properties" (by decide)]
  | _ => rfl

theorem Alike.admits (hnullable : schema.isSet "nullable" = true → other.isSet "nullable" = true)
    (hadmits : schema.Admits json) : other.Admits json := by
  have htype {type : String} (ht : schema.HasType type) : other.HasType type :=
    (h "type" (by decide)).trans ht
  cases hadmits with
  | null hnull => exact .null (hnullable hnull)
  | bool ht => exact .bool (htype ht)
  | integer ht hformat => exact .integer (htype ht) (h "format" (by decide) ▸ hformat)
  | string ht henum => exact .string (htype ht) (h "enum" (by decide) ▸ henum)
  | array ht hitem hitems => exact .array (htype ht) ((h "items" (by decide)).trans hitem) hitems
  | object ht hrequired hdeclared hunknown =>
      refine .object (htype ht) (h "required" (by decide) ▸ hrequired) ?_ ?_
      · intro member hmember property hproperty
        exact hdeclared member hmember property ((h.property? _).symm.trans hproperty)
      · intro member hmember hnone
        unfold isSet at hunknown ⊢
        rw [h preserving (by decide)]
        exact hunknown member hmember ((h.property? _).symm.trans hnone)

theorem Alike.passes (hnullable : schema.isSet "nullable" = true → other.isSet "nullable" = true)
    (hpasses : schema.Passes json) : other.Passes json :=
  ⟨h.admits hnullable hpasses.admitted, (h.stored json).trans hpasses.unchanged⟩

end alike

end Json

namespace FieldSchema

open Json

variable {schema : FieldSchema} {json : Json} {members : List (String × Json)}
  {properties : List (String × FieldSchema)}

theorem get?_toJson (schema : FieldSchema) (key : String) :
    schema.toJson.get? key = schema.entries.lookup key := rfl

/-- The entries that annotate a schema and say nothing about values other than `null`. -/
def annotations : List String := ["description", "default", "nullable"]

theorem get?_cons_of_ne {key asked : String} {value : Json} {entries : List (String × Json)}
    (hne : asked ≠ key) :
    (object ((key, value) :: entries)).get? asked = (object entries).get? asked := by
  change List.lookup asked ((key, value) :: entries) = entries.lookup asked
  rw [List.lookup_cons, beq_false_of_ne hne]

theorem alike_cons {key : String} {value : Json} {entries : List (String × Json)}
    (hkey : key ∈ annotations) : (object entries).Alike (object ((key, value) :: entries)) := by
  have happart : ∀ asked ∈ ["type", "format", "enum", "items", "properties", "required",
      preserving], ∀ key ∈ annotations, asked ≠ key := by decide
  exact fun asked hasked => get?_cons_of_ne (happart asked hasked key hkey)

/-- A value passes a schema with one more annotation. -/
theorem passes_cons {key : String} {value : Json} {entries : List (String × Json)}
    (hkey : key ∈ annotations) (hnullable : key = "nullable" → value = bool true)
    (h : (object entries).Passes json) : (object ((key, value) :: entries)).Passes json := by
  refine (alike_cons hkey).passes (fun hset => ?_) h
  unfold isSet at hset ⊢
  by_cases heq : key = "nullable"
  · rw [heq, hnullable heq]
    rfl
  · rwa [get?_cons_of_ne (Ne.symm heq)]

theorem propertyEntries_eq_map (properties : List (String × FieldSchema)) :
    propertyEntries properties = properties.map fun property =>
      (property.1, property.2.toJson) := by
  induction properties with
  | nil => rfl
  | cons property rest ih => rw [propertyEntries, ih]; rfl

theorem properties_record (properties : List (String × FieldSchema)) :
    (record properties).toJson.properties.entries = propertyEntries properties := rfl

theorem hasType_record (properties : List (String × FieldSchema)) :
    (record properties).toJson.HasType "object" := by
  unfold HasType
  rw [get?_toJson, entries]
  split <;> rfl

/-- The names that a published record requires are those of its required properties. -/
theorem mem_requiredNames {names : List Json} {name : String}
    (h : (record properties).toJson.get? "required" = some (array names))
    (hname : string name ∈ names) : name ∈ requiredNames properties := by
  rw [get?_toJson, entries] at h
  cases hrequired : requiredNames properties with
  | nil => rw [hrequired] at h; cases h
  | cons first rest =>
      rw [hrequired] at h
      have hnames : (first :: rest).map string = names := by
        injection h with h
        injection h
      rw [← hnames, List.mem_map] at hname
      obtain ⟨given, hgiven, heq⟩ := hname
      injection heq with heq
      rwa [← heq]

theorem get?_default : (schema : FieldSchema) → schema.toJson.get? "default" = schema.absent?
  | text choices => by
    rw [get?_toJson, entries]
    split <;> rfl
  | record properties => by
    rw [get?_toJson, entries]
    split <;> rfl
  | described _ schema | nullable schema | required schema => get?_default schema
  | int32 | flag | listOf _ | anyFields | defaulting _ _ => rfl

/-- The properties that a published record fills in are those of its type that have a default. -/
theorem mem_defaultedNames {property : String × Json}
    (hproperty : property ∈ (record properties).toJson.properties.entries)
    (hdefault : (property.2.get? "default").isSome = true) :
    property.1 ∈ defaultedNames properties := by
  rw [properties_record, propertyEntries_eq_map] at hproperty
  obtain ⟨declared, hdeclared, rfl⟩ := List.mem_map.mp hproperty
  rw [get?_default] at hdefault
  exact List.mem_map_of_mem (List.mem_filter.mpr ⟨hdeclared, hdefault⟩)

theorem passes_text {choices : List String} (h : (text choices).keeps json = true) :
    (text choices).toJson.Passes json := by
  cases json with
  | string value =>
      refine ⟨.string ?_ fun listed hlisted => ?_, rfl⟩
      · unfold HasType
        rw [get?_toJson, entries]
        split <;> rfl
      · rw [get?_toJson, entries] at hlisted
        rw [keeps, Bool.or_eq_true] at h
        split at hlisted
        · cases hlisted
        next hnonempty =>
          have hmem : value ∈ choices := List.contains_iff_mem.mp (h.resolve_left hnonempty)
          cases hlisted
          exact List.mem_map_of_mem hmem
  | _ => cases h

theorem passes_int32 (h : int32.keeps json = true) : int32.toJson.Passes json := by
  cases json with
  | integer value =>
      rw [keeps, Bool.and_eq_true, decide_eq_true_iff, decide_eq_true_iff] at h
      exact ⟨.integer rfl fun _ => h, rfl⟩
  | _ => cases h

theorem passes_flag (h : flag.keeps json = true) : flag.toJson.Passes json := by
  cases json with
  | bool value => exact ⟨.bool rfl, rfl⟩
  | _ => cases h

theorem passes_anyFields (h : anyFields.keeps json = true) : anyFields.toJson.Passes json := by
  cases json with
  | object members =>
      refine passes_object rfl nofun nofun (fun member _ property hproperty => ?_) fun _ _ _ => rfl
      cases hproperty
  | _ => cases h

mutual

/-- A value that a field schema keeps passes the schema as it is published. -/
theorem passes_of_keeps : (schema : FieldSchema) → (json : Json) → schema.keeps json = true →
    schema.toJson.Passes json
  | text _, _, h => passes_text h
  | int32, _, h => passes_int32 h
  | flag, _, h => passes_flag h
  | anyFields, _, h => passes_anyFields h
  | listOf item, json, h => by
    cases json with
    | array items =>
        exact passes_array rfl rfl fun value hvalue =>
          passes_of_keeps item value (List.all_eq_true.mp h value hvalue)
    | _ => cases h
  | record properties, json, h => by
    cases json with
    | object members =>
        rw [keeps, Bool.and_eq_true, List.all_eq_true, List.all_eq_true] at h
        obtain ⟨hpresent, hmembers⟩ := h
        have hgiven (name : String)
            (hname : name ∈ requiredNames properties ++ defaultedNames properties) :
            ∃ member ∈ members, member.1 = name := by
          obtain ⟨member, hmember, heq⟩ := List.any_eq_true.mp (hpresent name hname)
          exact ⟨member, hmember, of_decide_eq_true heq⟩
        have hpasses (member : String × Json) (hmember : member ∈ members) :=
          passes_of_keepsMember properties member.1 member.2 (hmembers member hmember)
        refine passes_object (hasType_record properties) ?_ ?_ ?_ ?_
        · intro names hnames name hname
          exact hgiven name (List.mem_append_left _ (mem_requiredNames hnames hname))
        · intro property hproperty hdefault
          exact hgiven _ (List.mem_append_right _ (mem_defaultedNames hproperty hdefault))
        · intro member hmember property hproperty
          obtain ⟨declared, hdeclared, hkept⟩ := hpasses member hmember
          cases hdeclared.symm.trans hproperty
          exact hkept
        · intro member hmember hnone
          obtain ⟨declared, hdeclared, -⟩ := hpasses member hmember
          cases hdeclared.symm.trans hnone
    | _ => cases h
  | described _ schema, json, h =>
    passes_cons (by decide) nofun (passes_of_keeps schema json h)
  | defaulting _ schema, json, h =>
    passes_cons (by decide) nofun (passes_of_keeps schema json h)
  | nullable schema, json, h => by
    cases json with
    | null => exact ⟨.null rfl, rfl⟩
    | _ => exact passes_cons (by decide) (fun _ => rfl) (passes_of_keeps schema _ h)
  | required schema, json, h => passes_of_keeps schema json h

theorem passes_of_keepsMember : (properties : List (String × FieldSchema)) → (name : String) →
    (json : Json) → keepsMember properties name json = true →
      ∃ property, (record properties).toJson.property? name = some property ∧ property.Passes json
  | [], _, _, h => by cases h
  | (declared, schema) :: rest, name, json, h => by
    rw [keepsMember] at h
    change ∃ property, List.lookup name (propertyEntries ((declared, schema) :: rest)) = _ ∧ _
    rw [propertyEntries, List.lookup_cons]
    split at h
    next heq =>
      rw [heq, beq_self_eq_true]
      exact ⟨schema.toJson, rfl, passes_of_keeps schema json h⟩
    next hne =>
      rw [beq_false_of_ne (Ne.symm hne)]
      exact passes_of_keepsMember rest name json h

end

end FieldSchema

end RouterOperator
