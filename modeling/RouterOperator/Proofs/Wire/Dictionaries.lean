import Mathlib.Data.List.TakeWhile
import Mathlib.Data.String.Basic
import RouterOperator.Json.Basic

/-!
# Dictionaries in order

A dictionary that was filled entry by entry has its keys in ascending order, each once, and filling
another one with its entries gives the same dictionary. So it does not change any more once it is
written and read back.
-/

namespace RouterOperator

namespace Dict

variable {α : Type} {key : String} {value : α} {entries : List (String × α)} {dict : Dict α}

/-- The keys are in ascending order, each once. -/
def Ordered (dict : Dict α) : Prop := dict.entries.Pairwise fun first second => first.1 < second.1

theorem ordered_empty : (empty : Dict α).Ordered := List.Pairwise.nil

theorem drop_sublist (key : String) (entries : List (String × α)) :
    List.Sublist (drop key entries) entries := List.filter_sublist

/-- In ascending order, what does not stand before a key stands behind it, unless it is the key. -/
theorem not_lt_of_mem_dropWhile (h : entries.Pairwise fun first second => first.1 < second.1) :
    ∀ entry ∈ entries.dropWhile (·.1 < key), ¬ entry.1 < key := by
  induction entries with
  | nil => simp
  | cons first rest ih =>
      obtain ⟨hfirst, hrest⟩ := List.pairwise_cons.mp h
      by_cases hless : first.1 < key
      · rw [List.dropWhile_cons_of_pos (by simpa using hless)]
        exact ih hrest
      · rw [List.dropWhile_cons_of_neg (by simpa using hless)]
        refine List.forall_mem_cons.mpr ⟨hless, fun entry hentry hkey => ?_⟩
        exact hless ((hfirst entry hentry).trans hkey)

theorem Ordered.insert (h : dict.Ordered) (key : String) (value : α) :
    (dict.insert key value).Ordered := by
  -- the new entry stands between those that are less and those that are greater
  have hothers : (drop key dict.entries).Pairwise fun first second => first.1 < second.1 :=
    h.sublist (drop_sublist _ _)
  have hbefore : ∀ entry ∈ (drop key dict.entries).takeWhile (·.1 < key), entry.1 < key := by
    intro entry hentry
    have hless := List.mem_takeWhile_imp hentry
    exact of_decide_eq_true hless
  have hbehind : ∀ entry ∈ (drop key dict.entries).dropWhile (·.1 < key), key < entry.1 := by
    intro entry hentry
    have hne : entry.1 ≠ key := of_decide_eq_true
      (List.mem_filter.mp ((List.dropWhile_sublist _).subset hentry)).2
    exact lt_of_le_of_ne (not_lt.mp (not_lt_of_mem_dropWhile hothers entry hentry)) hne.symm
  refine List.pairwise_append.mpr ⟨hothers.sublist (List.takeWhile_sublist _),
    List.pairwise_cons.mpr ⟨hbehind, hothers.sublist (List.dropWhile_sublist _)⟩, ?_⟩
  intro first hfirst
  refine List.forall_mem_cons.mpr ⟨hbefore first hfirst, fun second hsecond => ?_⟩
  exact (hbefore first hfirst).trans (hbehind second hsecond)

/-- Collected entries are in order. -/
theorem ordered_ofList (entries : List (String × α)) : (ofList entries).Ordered := by
  unfold ofList
  have hfold (dict : Dict α) (h : dict.Ordered) :
      (entries.foldl (fun dict entry => dict.insert entry.1 entry.2) dict).Ordered := by
    induction entries generalizing dict with
    | nil => exact h
    | cons entry rest ih => exact ih _ (h.insert entry.1 entry.2)
  exact hfold empty ordered_empty

theorem mem_of_mem_insert {entry : String × α} (h : entry ∈ (dict.insert key value).entries) :
    entry = (key, value) ∨ entry ∈ dict.entries := by
  rcases List.mem_append.mp h with hbefore | hbehind
  · exact .inr ((drop_sublist _ _).subset ((List.takeWhile_sublist _).subset hbefore))
  · refine (List.mem_cons.mp hbehind).imp_right fun hentry => ?_
    exact (drop_sublist _ _).subset ((List.dropWhile_sublist _).subset hentry)

/-- Collecting makes up no entry. -/
theorem mem_of_mem_ofList {entry : String × α} (h : entry ∈ (ofList entries).entries) :
    entry ∈ entries := by
  have hfold (rest : List (String × α)) (dict : Dict α)
      (h : entry ∈ (rest.foldl (fun dict entry => dict.insert entry.1 entry.2) dict).entries) :
      entry ∈ dict.entries ∨ entry ∈ rest := by
    induction rest generalizing dict with
    | nil => exact .inl h
    | cons first rest ih =>
        rcases ih _ h with hinsert | hrest
        · rcases mem_of_mem_insert hinsert with rfl | hdict
          · exact .inr List.mem_cons_self
          · exact .inl hdict
        · exact .inr (List.mem_cons_of_mem _ hrest)
  exact (hfold entries empty h).resolve_left (by simp [empty])

/-- An entry behind all others is stored at the end. -/
theorem insert_last (h : ∀ entry ∈ entries, entry.1 < key) (value : α) :
    (⟨entries⟩ : Dict α).insert key value = ⟨entries ++ [(key, value)]⟩ := by
  have hdrop : drop key entries = entries :=
    List.filter_eq_self.mpr fun entry hentry => decide_eq_true (h entry hentry).ne
  have htake : entries.takeWhile (·.1 < key) = entries :=
    List.takeWhile_eq_self_iff.mpr fun entry hentry => decide_eq_true (h entry hentry)
  have hrest : entries.dropWhile (·.1 < key) = [] :=
    List.dropWhile_eq_nil_iff.mpr fun entry hentry => decide_eq_true (h entry hentry)
  rw [insert, put, hdrop, htake, hrest]

/-- Collecting the entries of a dictionary in order gives it back. -/
theorem Ordered.ofList_entries (h : dict.Ordered) : ofList dict.entries = dict := by
  -- by induction on what is left to store: what is stored already lies in front of it
  have hfold (front : List (String × α)) (rest : List (String × α))
      (h : (front ++ rest).Pairwise fun first second => first.1 < second.1) :
      rest.foldl (fun dict entry => dict.insert entry.1 entry.2) (⟨front⟩ : Dict α) =
        ⟨front ++ rest⟩ := by
    induction rest generalizing front with
    | nil => simp
    | cons entry rest ih =>
        have hlast : ∀ earlier ∈ front, earlier.1 < entry.1 := fun earlier hearlier =>
          (List.pairwise_append.mp h).2.2 earlier hearlier entry List.mem_cons_self
        rw [List.foldl_cons, insert_last hlast, ih _ (by simpa using h)]
        simp
  exact hfold [] dict.entries h

end Dict

end RouterOperator
