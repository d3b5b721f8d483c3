import RouterOperator.Proofs.Wire.Dictionaries

/-!
# Plain values

Putting the members of all objects of a value in order a second time changes nothing, so the plain
value of a text is its own plain value.
-/

namespace RouterOperator.Json

variable {json plain : Json}

theorem orderedItems_eq_map (items : List Json) : orderedItems items = items.map ordered := by
  induction items with
  | nil => rfl
  | cons item rest ih => rw [orderedItems, ih, List.map_cons]

theorem orderedMembers_eq_map (members : List (String × Json)) :
    orderedMembers members = members.map fun member => (member.1, member.2.ordered) := by
  induction members with
  | nil => rfl
  | cons member rest ih => rw [orderedMembers, ih, List.map_cons]

theorem areReadable_iff {items : List Json} :
    areReadable items = true ↔ ∀ item ∈ items, item.isReadable = true := by
  induction items with
  | nil => simp [areReadable]
  | cons item rest ih => simp [areReadable, ih]

theorem membersReadable_iff {members : List (String × Json)} :
    membersReadable members = true ↔ ∀ member ∈ members, member.2.isReadable = true := by
  induction members with
  | nil => simp [membersReadable]
  | cons member rest ih => simp [membersReadable, ih]

/-- Members whose values are in order stay as they are once they are in order as well. -/
theorem orderedMembers_eq_self {members : List (String × Json)}
    (h : ∀ member ∈ members, member.2.ordered = member.2) : orderedMembers members = members := by
  rw [orderedMembers_eq_map]
  refine (List.map_congr_left fun member hmember => ?_).trans (List.map_id members)
  rw [h member hmember]
  rfl

mutual

/-- A value in order stays as it is. -/
theorem ordered_ordered : (json : Json) → json.ordered.ordered = json.ordered
  | array items => by
    have hitems : ∀ item ∈ items.map ordered, item.ordered = item :=
      List.forall_mem_map.mpr (ordered_items items)
    rw [ordered, ordered, orderedItems_eq_map, orderedItems_eq_map]
    exact congrArg array ((List.map_congr_left hitems).trans (List.map_id _))
  | object members => by
    have hmembers : ∀ member ∈ (Dict.ofList (orderedMembers members)).entries,
        member.2.ordered = member.2 := by
      intro member hmember
      have hmem := Dict.mem_of_mem_ofList hmember
      rw [orderedMembers_eq_map] at hmem
      obtain ⟨given, hgiven, rfl⟩ := List.mem_map.mp hmem
      exact ordered_members members given hgiven
    rw [ordered, ordered, orderedMembers_eq_self hmembers,
      (Dict.ordered_ofList _).ofList_entries]
  | null | bool _ | integer _ | decimal _ _ | string _ | unreadable => rfl

theorem ordered_items : (items : List Json) → ∀ item ∈ items, item.ordered.ordered = item.ordered
  | [] => by simp
  | item :: rest => List.forall_mem_cons.mpr ⟨ordered_ordered item, ordered_items rest⟩

theorem ordered_members : (members : List (String × Json)) →
    ∀ member ∈ members, member.2.ordered.ordered = member.2.ordered
  | [] => by simp
  | (key, value) :: rest =>
    List.forall_mem_cons.mpr ⟨ordered_ordered value, ordered_members rest⟩

end

mutual

/-- A value stays readable when it is put in order. -/
theorem isReadable_ordered : (json : Json) → json.isReadable = true → json.ordered.isReadable = true
  | array items, h => by
    rw [isReadable, areReadable_iff] at h
    rw [ordered, isReadable, areReadable_iff, orderedItems_eq_map, List.forall_mem_map]
    exact items_readable items h
  | object members, h => by
    rw [isReadable, membersReadable_iff] at h
    rw [ordered, isReadable, membersReadable_iff]
    intro member hmember
    have hmem := Dict.mem_of_mem_ofList hmember
    rw [orderedMembers_eq_map] at hmem
    obtain ⟨given, hgiven, rfl⟩ := List.mem_map.mp hmem
    exact members_readable members h given hgiven
  | null, h | bool _, h | integer _, h | decimal _ _, h | string _, h | unreadable, h => h

theorem items_readable : (items : List Json) → (∀ item ∈ items, item.isReadable = true) →
    ∀ item ∈ items, item.ordered.isReadable = true
  | [], _ => by simp
  | item :: rest, h => by
    obtain ⟨hitem, hrest⟩ := List.forall_mem_cons.mp h
    exact List.forall_mem_cons.mpr ⟨isReadable_ordered item hitem, items_readable rest hrest⟩

theorem members_readable : (members : List (String × Json)) →
    (∀ member ∈ members, member.2.isReadable = true) →
      ∀ member ∈ members, member.2.ordered.isReadable = true
  | [], _ => by simp
  | (key, value) :: rest, h => by
    obtain ⟨hvalue, hrest⟩ := List.forall_mem_cons.mp h
    exact List.forall_mem_cons.mpr ⟨isReadable_ordered value hvalue, members_readable rest hrest⟩

end

/-- The plain value of a text is its own plain value. -/
theorem plain?_of_plain? (h : json.plain? = some plain) : plain.plain? = some plain := by
  unfold plain? at h
  split at h
  next hreadable =>
    cases h
    rw [plain?, if_pos (isReadable_ordered json hreadable), ordered_ordered]
  next => cases h

/-- Only `null` has the plain value `null`. -/
theorem eq_null_of_plain? (h : json.plain? = some null) : json = null := by
  unfold plain? at h
  split at h
  next =>
    cases json with
    | null => rfl
    | _ => cases h
  next => cases h

end RouterOperator.Json
