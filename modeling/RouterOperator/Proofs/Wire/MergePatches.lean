import RouterOperator.Json.MergePatch
import RouterOperator.Proofs.Wire.Fields

/-!
# Reading what was patched

A merge patch that names no member twice acts on each member by itself: what it names it replaces,
merges or removes, and the rest it leaves. So a reader finds every field in one of these states.
-/

namespace RouterOperator

namespace Dict

variable {α : Type} {key name : String} {value : α} {entries : List (String × α)}

/-- A key is looked up among the entries with this key. -/
theorem lookup_eq_head? (name : String) (entries : List (String × α)) :
    entries.lookup name = (entries.filter (·.1 = name)).head?.map Prod.snd := by
  induction entries with
  | nil => rfl
  | cons entry rest ih =>
      by_cases hkey : entry.1 = name
      · rw [List.filter_cons_of_pos (by simpa using hkey), List.lookup_cons, hkey]
        simp
      · rw [List.filter_cons_of_neg (by simpa using hkey), List.lookup_cons,
          beq_false_of_ne (Ne.symm hkey)]
        exact ih

theorem filter_drop_self : (drop key entries).filter (·.1 = key) = [] := by
  rw [drop, List.filter_filter, List.filter_eq_nil_iff]
  simp

theorem filter_drop_of_ne (hne : name ≠ key) :
    (drop key entries).filter (·.1 = name) = entries.filter (·.1 = name) := by
  rw [drop, List.filter_filter]
  refine List.filter_congr fun entry _ => ?_
  by_cases hname : entry.1 = name
  · simp [hname, hne]
  · simp [hname]

/-- Splitting the other entries in two loses none of them. -/
theorem filter_split (key name : String) (entries : List (String × α)) :
    ((drop key entries).takeWhile (·.1 < key)).filter (·.1 = name) ++
        ((drop key entries).dropWhile (·.1 < key)).filter (·.1 = name) =
      (drop key entries).filter (·.1 = name) := by
  rw [← List.filter_append, List.takeWhile_append_dropWhile]

theorem filter_put_self : (put key value entries).filter (·.1 = key) = [(key, value)] := by
  have hnone := filter_split key key entries
  rw [filter_drop_self, List.append_eq_nil_iff] at hnone
  rw [put, List.filter_append, hnone.1, List.filter_cons_of_pos (by simp), hnone.2, List.nil_append]

theorem filter_put_of_ne (hne : name ≠ key) :
    (put key value entries).filter (·.1 = name) = entries.filter (·.1 = name) := by
  rw [put, List.filter_append, List.filter_cons_of_neg (by simpa using hne.symm), filter_split,
    filter_drop_of_ne hne]

end Dict

namespace Json

variable {changes members : List (String × Json)} {key name : String} {patch : Json}
  {fields : List (String × Option Json)}

/-- What a patch makes of a member that may be absent. -/
def patched (patch : Json) (member : Option Json) : Option Json :=
  if patch.isNull then none else some (patch.mergePatch (member.getD null))

theorem mergeMembers_cons : mergeMembers ((key, patch) :: changes) members =
    mergeMembers changes (mergeMembers [(key, patch)] members) := rfl

theorem filter_mergeMembers_singleton_self :
    (mergeMembers [(key, patch)] members).filter (·.1 = key) =
      (patch.patched (members.lookup key)).toList.map (key, ·) := by
  simp only [mergeMembers, patched]
  split
  · exact Dict.filter_drop_self
  · exact Dict.filter_put_self

theorem filter_mergeMembers_singleton_of_ne (hne : name ≠ key) :
    (mergeMembers [(key, patch)] members).filter (·.1 = name) = members.filter (·.1 = name) := by
  simp only [mergeMembers]
  split
  · exact Dict.filter_drop_of_ne hne
  · exact Dict.filter_put_of_ne hne

/-- A member that a patch does not name stays as it is. -/
theorem filter_mergeMembers_of_not_mem (h : name ∉ changes.map Prod.fst) :
    (mergeMembers changes members).filter (·.1 = name) = members.filter (·.1 = name) := by
  induction changes generalizing members with
  | nil => rfl
  | cons change rest ih =>
      rw [List.map_cons, List.mem_cons, not_or] at h
      exact (ih h.2).trans (filter_mergeMembers_singleton_of_ne h.1)

theorem lookup_mergeMembers_of_not_mem (h : name ∉ changes.map Prod.fst) :
    (mergeMembers changes members).lookup name = members.lookup name := by
  rw [Dict.lookup_eq_head?, filter_mergeMembers_of_not_mem h, ← Dict.lookup_eq_head?]

/-- A member that a patch names once becomes what the patch makes of it. -/
theorem filter_mergeMembers_of_mem (once : (changes.map Prod.fst).Nodup)
    (h : (name, patch) ∈ changes) :
    (mergeMembers changes members).filter (·.1 = name) =
      (patch.patched (members.lookup name)).toList.map (name, ·) := by
  induction changes generalizing members with
  | nil => cases h
  | cons change rest ih =>
      obtain ⟨key, other⟩ := change
      obtain ⟨hkey, hrest⟩ := List.nodup_cons.mp once
      rw [mergeMembers_cons]
      rcases List.mem_cons.mp h with hfirst | hlater
      · cases hfirst
        rw [filter_mergeMembers_of_not_mem hkey, filter_mergeMembers_singleton_self]
      · have hne : name ≠ key := by
          rintro rfl
          exact hkey (List.mem_map.mpr ⟨_, hlater, rfl⟩)
        rw [ih hrest hlater, Dict.lookup_eq_head?, filter_mergeMembers_singleton_of_ne hne,
          ← Dict.lookup_eq_head?]

theorem lookup_mergeMembers_of_mem (once : (changes.map Prod.fst).Nodup)
    (h : (name, patch) ∈ changes) :
    (mergeMembers changes members).lookup name = patch.patched (members.lookup name) := by
  rw [Dict.lookup_eq_head?, filter_mergeMembers_of_mem once h]
  cases patch.patched (members.lookup name) <;> rfl

/-- A patch gives no name twice that was not given twice before. -/
theorem membersOnce?_mergeMembers {names : List String}
    (hmembers : (object members).membersOnce? names = some ⟨members⟩)
    (once : (changes.map Prod.fst).Nodup) :
    (object (mergeMembers changes members)).membersOnce? names =
      some ⟨mergeMembers changes members⟩ := by
  have hbefore := (Option.filter_eq_some_iff.mp hmembers).2
  rw [List.all_eq_true] at hbefore
  refine Option.filter_eq_some_iff.mpr ⟨rfl, List.all_eq_true.mpr fun name hname => ?_⟩
  refine decide_eq_true ?_
  by_cases hmem : name ∈ changes.map Prod.fst
  · obtain ⟨⟨key, patch⟩, hchange, rfl⟩ := List.mem_map.mp hmem
    rw [filter_mergeMembers_of_mem once hchange]
    cases patch.patched (members.lookup key) <;> simp
  · rw [filter_mergeMembers_of_not_mem hmem]
    exact of_decide_eq_true (hbefore name hname)

end Json

end RouterOperator
