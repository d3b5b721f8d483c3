import RouterOperator.Proofs.ByteOrder
import RouterOperator.Proofs.Converged

/-!
# Listing pods

A selector is a text that is put together from labels and values and taken apart again where pods
are listed. Unless a comma gets in, a selector asks for exactly the labels that it was made of. What
is listed comes in the order of the keys, so the names of pods are listed in ascending order, each
once.
-/

namespace RouterOperator

namespace ObjectKey

/-- Keys that differ in their name alone are ordered by their name. -/
theorem lt_of_order {kind : Kind} {ns first second : String}
    (h : order ⟨kind, ns, first⟩ ⟨kind, ns, second⟩ = .lt) : first < second := by
  have hself (name : String) : compare name name = .eq := Std.ReflCmp.compare_self
  have hkind : compare kind.index kind.index = .eq := Std.ReflCmp.compare_self
  simp only [order, compareLex, compareOn, hkind, hself] at h
  exact compareOfLessAndEq_eq_lt.mp h

end ObjectKey

namespace MemoryStore

section selectors

variable {label value rest : String} {labels : Dict String}

/-- A part of a selector is taken apart at its first equals sign. -/
theorem selects_part (hlabel : '=' ∉ label.toList) :
    ((label.toList ++ '=' :: value.toList).takeWhile (· ≠ '='),
      (label.toList ++ '=' :: value.toList).dropWhile (· ≠ '=')) =
      (label.toList, '=' :: value.toList) := by
  have hbefore : ∀ char ∈ label.toList, decide (char ≠ '=') = true := by
    intro char hchar
    refine decide_eq_true ?_
    rintro rfl
    exact hlabel hchar
  rw [List.takeWhile_append_of_pos hbefore, List.dropWhile_append_of_pos hbefore]
  simp

/-- A selector of one pair asks for one label. -/
theorem selects_pair (hlabel : '=' ∉ label.toList) (hcomma : ',' ∉ label.toList)
    (hvalue : ',' ∉ value.toList) :
    selects (label ++ "=" ++ value) labels = true ↔ labels.get? label = some value := by
  have hpart : ',' ∉ label.toList ++ '=' :: value.toList := by simp [hcomma, hvalue]
  have htext : (label ++ "=" ++ value).toList = label.toList ++ '=' :: value.toList := by simp
  unfold selects
  rw [htext, List.splitOn_eq_singleton hpart, List.map_singleton, selects_part hlabel]
  simp

/-- A pair in front of a selector asks for one more label. -/
theorem selects_pair_append (hlabel : '=' ∉ label.toList) (hcomma : ',' ∉ label.toList)
    (hvalue : ',' ∉ value.toList) :
    selects (label ++ "=" ++ value ++ "," ++ rest) labels = true ↔
      labels.get? label = some value ∧ selects rest labels = true := by
  have hpart : ',' ∉ label.toList ++ '=' :: value.toList := by simp [hcomma, hvalue]
  have htext : (label ++ "=" ++ value ++ "," ++ rest).toList =
      (label.toList ++ '=' :: value.toList) ++ ',' :: rest.toList := by simp
  unfold selects
  rw [htext, List.splitOn_append_cons_self_of_not_mem hpart, List.map_cons, selects_part hlabel]
  simp

variable {cluster : Interconnect}

/-- The selector of a cluster asks for its two labels. -/
theorem selects_labelSelector (comma : ',' ∉ cluster.name.toList) :
    selects cluster.labelSelector labels = true ↔
      labels.get? applicationLabel = some cluster.name ∧
        labels.get? clusterLabel = some cluster.name := by
  have htext : cluster.labelSelector = applicationLabel ++ "=" ++ cluster.name ++ "," ++
      (clusterLabel ++ "=" ++ cluster.name) := by
    simp [Interconnect.labelSelector, String.append_assoc, toString]
  rw [htext, selects_pair_append (by decide) (by decide) comma,
    selects_pair (by decide) (by decide) comma]

/-- With a comma in the name of the cluster the selector asks for the part in front of it. -/
example : selects
    (Interconnect.labelSelector { metadata := { name := some "a,b" }, spec := {} })
    ((Dict.empty.insert applicationLabel "a").insert clusterLabel "a") = true := by decide

/-- The template of a cluster's pods carries these labels. -/
theorem selects_of_template (comma : ',' ∉ cluster.name.toList) {metadata : ObjectMeta}
    {image : String}
    (h : metadata.labels = (cluster.podTemplate image).metadata.bind (·.labels)) :
    selects cluster.labelSelector metadata.allLabels = true := by
  have hlabels : metadata.allLabels = cluster.selectorLabels := by
    rw [ObjectMeta.allLabels, h]
    rfl
  have hne : applicationLabel ≠ clusterLabel := by decide
  rw [selects_labelSelector comma, hlabels]
  exact ⟨(Dict.get?_insert_of_ne _ hne _).trans (Dict.get?_insert_self _ _ _),
    Dict.get?_insert_self _ _ _⟩

end selectors

variable {store : MemoryStore} {ns : String} {cluster : Interconnect} {pod : Pod}

theorem mem_podsIn_iff :
    pod ∈ store.podsIn ns ↔ ∃ name, store.object? ⟨.pod, ns, name⟩ = some pod := by
  unfold podsIn object?
  rw [List.mem_filterMap]
  constructor
  · rintro ⟨⟨⟨kind, space, name⟩, object⟩, hmem, hpod⟩
    cases kind with
    | pod =>
        obtain ⟨rfl, hsame⟩ := Option.ite_none_right_eq_some.mp hpod
        obtain rfl := Option.some.inj hsame
        exact ⟨name, Std.DTreeMap.mem_toList_iff_get?_eq_some.mp hmem⟩
    | _ => cases hpod
  · rintro ⟨name, hpod⟩
    exact ⟨⟨⟨.pod, ns, name⟩, pod⟩, Std.DTreeMap.mem_toList_iff_get?_eq_some.mpr hpod, if_pos rfl⟩

/-- The pods of a namespace come in the order of their names. -/
theorem Placed.pairwise_podsIn (h : store.Placed) (ns : String) :
    (store.podsIn ns).Pairwise fun first second =>
      first.metadata.anyName < second.metadata.anyName := by
  unfold podsIn
  rw [List.pairwise_filterMap]
  refine Std.DTreeMap.ordered_keys_toList.imp_of_mem ?_
  rintro ⟨⟨kind, space, name⟩, object⟩ ⟨⟨kind', space', name'⟩, object'⟩ hmem hmem' horder
    first hfirst second hsecond
  cases kind with
  | pod =>
      cases kind' with
      | pod =>
          obtain ⟨rfl, hsame⟩ := Option.ite_none_right_eq_some.mp hfirst
          obtain ⟨rfl, hsame'⟩ := Option.ite_none_right_eq_some.mp hsecond
          obtain rfl := Option.some.inj hsame
          obtain rfl := Option.some.inj hsame'
          have hname := (h _ _ (Std.DTreeMap.mem_toList_iff_get?_eq_some.mp hmem)).name
          have hname' := (h _ _ (Std.DTreeMap.mem_toList_iff_get?_eq_some.mp hmem')).name
          change Kind.pod.nameOf object < Kind.pod.nameOf object'
          rw [hname, hname']
          exact ObjectKey.lt_of_order horder
      | _ => cases hsecond
  | _ => cases hfirst

/-- There is a pod of this name that carries both labels of the cluster and is not about to end. -/
def HasLivePod (store : MemoryStore) (cluster : Interconnect) (podName : String) : Prop :=
  ∃ pod : Pod, store.object? ⟨.pod, cluster.space, podName⟩ = some pod ∧
    pod.metadata.allLabels.get? applicationLabel = some cluster.name ∧
    pod.metadata.allLabels.get? clusterLabel = some cluster.name ∧
    pod.metadata.deletionTimestamp = none

/-- The names of exactly these pods are listed. -/
theorem Placed.mem_livePods_iff (h : store.Placed) (comma : ',' ∉ cluster.name.toList)
    {podName : String} :
    podName ∈ store.livePods cluster.space cluster.labelSelector ↔
      store.HasLivePod cluster podName := by
  simp only [livePods, List.mem_map, List.mem_filter, mem_podsIn_iff, HasLivePod,
    selects_labelSelector comma, Option.isNone_iff_eq_none]
  constructor
  · rintro ⟨pod, ⟨⟨⟨name, hpod⟩, happ, hcluster⟩, hlive⟩, rfl⟩
    obtain rfl : pod.metadata.anyName = name := (h _ _ hpod).name
    exact ⟨pod, hpod, happ, hcluster, hlive⟩
  · rintro ⟨pod, hpod, happ, hcluster, hlive⟩
    exact ⟨pod, ⟨⟨⟨podName, hpod⟩, happ, hcluster⟩, hlive⟩, (h _ _ hpod).name⟩

/-- They come in the order of their bytes, each once. -/
theorem Placed.pairwise_livePods (h : store.Placed) (ns selector : String) :
    (store.livePods ns selector).Pairwise fun first second =>
      Text.bytes first < Text.bytes second := by
  unfold livePods
  rw [List.pairwise_map]
  refine List.Pairwise.imp (fun hlt => Text.bytes_lt_bytes_iff.mpr hlt) ?_
  exact ((h.pairwise_podsIn ns).filter _).filter _

end MemoryStore

end RouterOperator
