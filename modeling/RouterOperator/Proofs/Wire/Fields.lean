import RouterOperator.Json.Record

/-!
# Reading written fields

A record is written as an object of the fields that have a value. Whatever rule a field is written
by, the rule that it is read by gives its value back: an optional field is left out when it has no
value, a flag, a text or a list when it is at its default, and the others are always written.
-/

namespace RouterOperator

namespace Json

variable {α : Type} {read : Json → Option α} {write : α → Json} {value : Option α}
  {fields : List (String × Option Json)} {name key : String} {json : Json} {slot : Option Json}

/-- The members of an object of the fields that have a value. -/
def given (fields : List (String × Option Json)) : Dict Json :=
  ⟨fields.filterMap fun field => field.2.map (field.1, ·)⟩

/-- No field has this name. -/
def Lacks (fields : List (String × Option Json)) (name : String) : Prop :=
  ∀ field ∈ fields, field.1 ≠ name

@[simp] theorem lacks_nil : Lacks [] name := by simp [Lacks]

@[simp] theorem lacks_cons :
    Lacks ((key, slot) :: fields) name ↔ key ≠ name ∧ Lacks fields name := by
  simp [Lacks]

/-- No two fields have one name. -/
def Distinct (fields : List (String × Option Json)) : Prop :=
  fields.Pairwise fun first second => second.1 ≠ first.1

@[simp] theorem distinct_nil : Distinct [] := List.Pairwise.nil

@[simp] theorem distinct_cons :
    Distinct ((name, slot) :: fields) ↔ Lacks fields name ∧ Distinct fields :=
  List.pairwise_cons

theorem given_cons : (given ((key, slot) :: fields)).entries =
    (slot.map (key, ·)).toList ++ (given fields).entries := by
  cases slot <;> rfl

theorem get?_given_of_lacks (h : Lacks fields name) : (given fields).get? name = none := by
  refine List.lookup_eq_none_iff.mpr fun member hmember => ?_
  obtain ⟨field, hfield, hmap⟩ := List.mem_filterMap.mp hmember
  obtain ⟨json, -, rfl⟩ := Option.map_eq_some_iff.mp hmap
  exact bne_iff_ne.mpr (h field hfield).symm

/-- A field that the others lack is given by its own value. -/
theorem get?_given_self (h : Lacks fields name) :
    (given ((name, slot) :: fields)).get? name = slot := by
  have hrest := get?_given_of_lacks h
  unfold Dict.get? at hrest ⊢
  rw [given_cons, List.lookup_append, hrest]
  cases slot <;> simp

theorem get?_given_of_ne (h : key ≠ name) :
    (given ((key, slot) :: fields)).get? name = (given fields).get? name := by
  have hfirst : (slot.map (key, ·)).toList.lookup name = none := by
    cases slot with
    | none => rfl
    | some json => simp [List.lookup_cons, beq_false_of_ne h.symm]
  unfold Dict.get?
  rw [given_cons, List.lookup_append, hfirst, Option.none_or]

theorem filter_given_of_lacks (h : Lacks fields name) :
    (given fields).entries.filter (·.1 = name) = [] := by
  rw [List.filter_eq_nil_iff]
  intro member hmember
  obtain ⟨field, hfield, hmap⟩ := List.mem_filterMap.mp hmember
  obtain ⟨json, -, rfl⟩ := Option.map_eq_some_iff.mp hmap
  simpa using h field hfield

theorem filter_given_self (h : Lacks fields name) :
    (given ((name, slot) :: fields)).entries.filter (·.1 = name) =
      (slot.map (name, ·)).toList := by
  rw [given_cons, List.filter_append, filter_given_of_lacks h]
  cases slot <;> simp

theorem filter_given_of_ne (h : key ≠ name) :
    (given ((key, slot) :: fields)).entries.filter (·.1 = name) =
      (given fields).entries.filter (·.1 = name) := by
  rw [given_cons, List.filter_append]
  cases slot <;> simp [h]

theorem length_filter_given_le (h : Distinct fields) (name : String) :
    ((given fields).entries.filter (·.1 = name)).length ≤ 1 := by
  induction fields with
  | nil => exact Nat.zero_le 1
  | cons field rest ih =>
      obtain ⟨key, slot⟩ := field
      obtain ⟨hlacks, hrest⟩ := distinct_cons.mp h
      by_cases hkey : key = name
      · subst hkey
        rw [filter_given_self hlacks]
        cases slot <;> simp
      · rw [filter_given_of_ne hkey]
        exact ih hrest

/-- The members of a written record are read back. -/
theorem record?_ofFields (h : Distinct fields) (names : List String) (least : Nat) :
    record? names least (ofFields fields) = some (given fields) := by
  have honce : names.all (fun name =>
      ((given fields).entries.filter (·.1 = name)).length ≤ 1) = true :=
    List.all_eq_true.mpr fun name _ => decide_eq_true (length_filter_given_le h name)
  have hmembers : record? names least (ofFields fields) =
    (ofFields fields).membersOnce? names := rfl
  rw [hmembers, membersOnce?]
  exact Option.filter_eq_some_iff.mpr ⟨rfl, honce⟩

theorem members?_ofFields : (ofFields fields).members? = some (given fields) := rfl

@[simp] theorem ofFields_ne_null : ofFields fields ≠ null := nofun

/-- A step of a reader that succeeds. The `bind` of readers is kept as it is: unfolded, it would be
simplified once more at each of its steps. -/
@[simp] theorem some_bind {β : Type} (x : α) (next : α → Option β) : (some x >>= next) = next x :=
  rfl

/-- A reader that succeeds has read its first part. -/
theorem exists_of_bind {β : Type} {x : Option α} {next : α → Option β} {y : β}
    (h : (x >>= next) = some y) : ∃ part, x = some part ∧ next part = some y :=
  Option.bind_eq_some_iff.mp h

/-- What is written for a value, unless there is none, reads as the value and is not `null`. -/
def Restores (read : Json → Option α) (write : α → Json) (value : Option α) : Prop :=
  ∀ x ∈ value, read (write x) = some x ∧ write x ≠ null

theorem Restores.of_forall (h : ∀ x, read (write x) = some x) (hnull : ∀ x, write x ≠ null) :
    Restores read write value := fun x _ => ⟨h x, hnull x⟩

@[simp] theorem string?_string (text : String) : (string text).string? = some text := rfl

@[simp] theorem bool?_bool (flag : Bool) : (bool flag).bool? = some flag := rfl

@[simp] theorem int32?_int32 (number : Int32) : (int32 number).int32? = some number := by
  have hleast := number.le_toInt
  have hgreatest : number.toInt ≤ 2147483647 := number.toInt_le
  rw [int32, int32?, if_pos ⟨by omega, hgreatest⟩, Int32.ofInt_toInt]

@[simp] theorem int64?_int64 (number : Int64) : (int64 number).int64? = some number := by
  have hleast := number.le_toInt
  have hgreatest : number.toInt ≤ 9223372036854775807 := number.toInt_le
  rw [int64, int64?, if_pos ⟨by omega, hgreatest⟩, Int64.ofInt_toInt]

/-- A list that was written item by item is read item by item. -/
theorem mapM_map {β : Type} {print : α → β} {parse : β → Option α} {items : List α}
    (h : ∀ item ∈ items, parse (print item) = some item) :
    (items.map print).mapM parse = some items := by
  induction items with
  | nil => rfl
  | cons item rest ih =>
      obtain ⟨hitem, hrest⟩ := List.forall_mem_cons.mp h
      rw [List.map_cons, List.mapM_cons, hitem, ih hrest]
      rfl

theorem listOf?_list {items : List α} (h : ∀ item ∈ items, read (write item) = some item) :
    listOf? read (list write items) = some items := mapM_map h

@[simp] theorem restores_string (value : Option String) : Restores string? string value :=
  .of_forall string?_string nofun

@[simp] theorem restores_bool (value : Option Bool) : Restores bool? bool value :=
  .of_forall bool?_bool nofun

@[simp] theorem restores_int32 (value : Option Int32) : Restores int32? int32 value :=
  .of_forall int32?_int32 nofun

@[simp] theorem restores_int64 (value : Option Int64) : Restores int64? int64 value :=
  .of_forall int64?_int64 nofun

theorem restores_list {value : Option (List α)}
    (h : ∀ items ∈ value, ∀ item ∈ items, read (write item) = some item) :
    Restores (listOf? read) (list write) value :=
  fun items hitems => ⟨listOf?_list (h items hitems), nofun⟩

theorem exists_of_mapM {β : Type} {f : α → Option β} {items : List α} {results : List β}
    (h : items.mapM f = some results) :
    ∀ result ∈ results, ∃ item ∈ items, f item = some result := by
  induction items generalizing results with
  | nil =>
      cases h
      simp
  | cons item rest ih =>
      rw [List.mapM_cons] at h
      obtain ⟨first, hfirst, h⟩ := Option.bind_eq_some_iff.mp h
      obtain ⟨others, hothers, h⟩ := Option.bind_eq_some_iff.mp h
      cases h
      refine List.forall_mem_cons.mpr ⟨⟨item, List.mem_cons_self, hfirst⟩, fun result hresult => ?_⟩
      obtain ⟨other, hother, hread⟩ := ih hothers result hresult
      exact ⟨other, List.mem_cons_of_mem _ hother, hread⟩

theorem exists_of_listOf? {items : List α} (h : json.listOf? read = some items) :
    ∀ item ∈ items, ∃ given, read given = some item := by
  obtain ⟨given, -, hmapM⟩ := Option.bind_eq_some_iff.mp h
  intro item hitem
  obtain ⟨json, -, hread⟩ := exists_of_mapM hmapM item hitem
  exact ⟨json, hread⟩

end Json

namespace Dict

open Json

variable {α : Type} {read : Json → Option α} {write : α → Json} {value : Option α} {absent : α}
  {fields : List (String × Option Json)} {name key : String} {json : Json} {slot : Option Json}

/-! A field is looked up among the others. -/

@[simp] theorem optional_of_ne (h : key ≠ name) :
    (given ((key, slot) :: fields)).optional name read = (given fields).optional name read := by
  rw [optional, optional, get?_given_of_ne h]

@[simp] theorem defaulted_of_ne (h : key ≠ name) :
    (given ((key, slot) :: fields)).defaulted name read absent =
      (given fields).defaulted name read absent := by
  rw [defaulted, defaulted, get?_given_of_ne h]

@[simp] theorem required_of_ne (h : key ≠ name) :
    (given ((key, slot) :: fields)).required name read = (given fields).required name read := by
  rw [required, required, get?_given_of_ne h]

@[simp] theorem lastGiven_of_ne (h : key ≠ name) :
    (given ((key, slot) :: fields)).lastGiven name read = (given fields).lastGiven name read := by
  rw [lastGiven, lastGiven, filter_given_of_ne h]

/-! Each rule of writing has its rule of reading. -/

/-- A field that is left out when it has no value. -/
@[simp] theorem optional_self (hlacks : Lacks fields name) (h : Restores read write value) :
    (given ((name, value.map write) :: fields)).optional name read = some value := by
  rw [optional, get?_given_self hlacks]
  cases value with
  | none => rfl
  | some x =>
      obtain ⟨hread, hnull⟩ := h x rfl
      rw [Option.map_some]
      split
      next heq => cases heq
      next heq => exact absurd (Option.some.inj heq) hnull
      next heq =>
        cases heq
        rw [hread]
        rfl

/-- A value that is written as it is. -/
theorem optional_raw {value : Option Json} {read : Json → Option Json}
    (hlacks : Lacks fields name) (h : Restores read id value) :
    (given ((name, value) :: fields)).optional name read = some value := by
  have hself := optional_self hlacks h
  rwa [Option.map_id, id] at hself

/-- An optional field that is always written. -/
theorem optional_some (hlacks : Lacks fields name) (hnull : json ≠ null) :
    (given ((name, some json) :: fields)).optional name read = (read json).map some := by
  rw [optional, get?_given_self hlacks]
  split
  next heq => cases heq
  next heq => exact absurd (Option.some.inj heq) hnull
  next heq =>
    cases heq
    rfl

/-- A field with a default that is always written. -/
@[simp] theorem defaulted_some (hlacks : Lacks fields name) :
    (given ((name, some json) :: fields)).defaulted name read absent = read json := by
  rw [defaulted, get?_given_self hlacks]

@[simp] theorem required_some (hlacks : Lacks fields name) :
    (given ((name, some json) :: fields)).required name read = read json := by
  rw [required, get?_given_self hlacks]
  rfl

/-- A flag that is written only when it is set. -/
@[simp] theorem defaulted_ifTrue (hlacks : Lacks fields name) (flag : Bool) :
    (given ((name, ifTrue flag) :: fields)).defaulted name bool? false = some flag := by
  rw [defaulted, get?_given_self hlacks]
  cases flag <;> rfl

/-- A text that is written only when it is not empty. -/
@[simp] theorem defaulted_ifGiven (hlacks : Lacks fields name) (text : String) :
    (given ((name, ifGiven text) :: fields)).defaulted name string? "" = some text := by
  rw [defaulted, get?_given_self hlacks, ifGiven]
  by_cases hempty : text = ""
  · rw [if_pos hempty, hempty]
  · rw [if_neg hempty]
    rfl

/-- A list that is written only when it is not empty. -/
theorem defaulted_ifNonempty (hlacks : Lacks fields name) {items : List α}
    (h : listOf? read (list write items) = some items) :
    (given ((name, ifNonempty write items) :: fields)).defaulted name (listOf? read) [] =
      some items := by
  rw [defaulted, get?_given_self hlacks, ifNonempty]
  cases items with
  | nil => rfl
  | cons item rest => exact h

/-- A field that may be given repeatedly is given at most once. -/
@[simp] theorem lastGiven_self (hlacks : Lacks fields name) :
    (given ((name, slot) :: fields)).lastGiven name read =
      (given ((name, slot) :: fields)).optional name read := by
  -- one entry is all there is to choose the last one from
  have hone (json : Json) (f : String × Json → Option (Option α)) :
      (do return (← [(name, json)].mapM f).getLast?.join) = f (name, json) := by
    rw [List.mapM_cons, List.mapM_nil]
    cases f (name, json) <;> rfl
  rw [lastGiven, filter_given_self hlacks, optional, get?_given_self hlacks]
  cases slot with
  | none => rfl
  | some json =>
      refine (hone json _).trans ?_
      cases json <;> rfl

/-! What a field is read to comes from what was given for it. -/

section given

variable {members : Dict Json}

theorem exists_of_optional (h : members.optional name read = some value) :
    ∀ x ∈ value, ∃ json, read json = some x := by
  rintro x rfl
  unfold optional at h
  split at h
  next => cases h
  next => cases h
  next json _ _ =>
    obtain ⟨y, hy, heq⟩ := Option.map_eq_some_iff.mp h
    cases heq
    exact ⟨json, hy⟩

theorem exists_of_defaulted {x : α} (h : members.defaulted name read absent = some x) :
    x = absent ∨ ∃ json, read json = some x := by
  unfold defaulted at h
  split at h
  next => exact .inl (Option.some.inj h).symm
  next json _ => exact .inr ⟨json, h⟩

theorem exists_of_required {x : α} (h : members.required name read = some x) :
    ∃ json, read json = some x := by
  obtain ⟨json, -, hread⟩ := Option.bind_eq_some_iff.mp h
  exact ⟨json, hread⟩

/-- What may be given repeatedly comes from something other than `null`. -/
theorem exists_of_lastGiven (h : members.lastGiven name read = some value) :
    ∀ x ∈ value, ∃ json, json ≠ null ∧ read json = some x := by
  intro x hx
  obtain ⟨given, hgiven, hlast⟩ := Option.bind_eq_some_iff.mp h
  cases hlast
  have hmem : some x ∈ given := List.mem_of_getLast? (Option.join_eq_some_iff.mp hx)
  obtain ⟨member, -, hread⟩ := exists_of_mapM hgiven _ hmem
  split at hread
  next => cases hread
  next hnull =>
    obtain ⟨y, hy, heq⟩ := Option.map_eq_some_iff.mp hread
    cases heq
    exact ⟨member.2, hnull, hy⟩

end given

end Dict

end RouterOperator
