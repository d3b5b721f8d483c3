import RouterOperator.Proofs.Keys
import RouterOperator.Proofs.Milestones
import RouterOperator.Proofs.Store.Histories

/-!
# One workload

A cluster has a deployment or a daemon set, never both. The stage for the workload looks at the kind
that placement does not select before it does anything, and leaves alone what it finds there. So
while one kind exists no pass creates the other, however often placement changes and however old the
snapshot is that a pass is over.
-/

namespace RouterOperator

theorem Interconnect.isProper_of_checklist {cluster : Interconnect} {settings : Settings} :
    ∀ goal ∈ cluster.checklist settings, goal.IsProper := by
  have hcertificates : ∀ goal ∈ cluster.certificateGoals settings, goal.IsProper := by
    unfold certificateGoals
    split
    · split
      · simp
      · simp only [List.forall_mem_append, List.forall_mem_singleton]
        exact ⟨isProper_of_authority, by simp [Goal.IsProper, Kind.isWorkload]⟩
    · simp
  unfold checklist
  simp only [List.forall_mem_append]
  exact ⟨⟨isProper_of_access, hcertificates⟩, isProper_of_serving⟩

namespace Pass

variable {pass : Pass} {store : MemoryStore} {goal : Goal} {kind : Kind} {ns name : String}

/-- A pass writes a workload only of the kind that placement selects, and only where there is none
of the other kind. -/
theorem WritesUnder.workload (h : pass.WritesUnder store goal ⟨kind, ns, name⟩)
    (hkind : kind.isWorkload = true) :
    (∃ desired, pass.cluster.Selects pass.settings.routerImage kind desired) ∧
      ∀ other : Kind, other.isWorkload = true → other ≠ kind →
        store.object? ⟨other, ns, name⟩ = none := by
  obtain ⟨found, desired, haims, hkey⟩ := h.aims
  cases hkey
  cases haims with
  | object =>
      have hproper := Interconnect.isProper_of_checklist _ h.listed
      exact nomatch hkind.symm.trans hproper.2
  | workload selected =>
      refine ⟨⟨desired, selected⟩, fun other hother hne => ?_⟩
      have hserves : ¬ pass.cluster.HasWorkload store pass.ns pass.settings.routerImage := h.unmet
      unfold Interconnect.HasWorkload at hserves
      cases selected with
      | deployment placed =>
          rw [if_neg (by simp [placed])] at hserves
          cases other with
          | deployment => exact absurd rfl hne
          | daemonSet =>
              exact Option.not_isSome_iff_eq_none.mp fun hsome => hserves (.inl hsome)
          | _ => cases hother
      | daemonSet placed =>
          rw [if_pos placed] at hserves
          cases other with
          | deployment =>
              exact Option.not_isSome_iff_eq_none.mp fun hsome => hserves (.inl hsome)
          | daemonSet => exact absurd rfl hne
          | _ => cases hother

end Pass

/-- Placement selects one kind of workload. -/
theorem Interconnect.Selects.kind_unique {cluster : Interconnect} {image image' : String}
    {kind kind' : Kind} {desired : kind.Object} {desired' : kind'.Object}
    (h : cluster.Selects image kind desired) (h' : cluster.Selects image' kind' desired') :
    kind = kind' := by
  cases h with
  | deployment placed =>
      cases h' with
      | deployment => rfl
      | daemonSet placed' => exact nomatch placed.symm.trans placed'
  | daemonSet placed =>
      cases h' with
      | deployment placed' => exact nomatch placed.symm.trans placed'
      | daemonSet => rfl

namespace Simulation

variable {start current : Simulation} {past : List (Simulation × Occurrence)} {ns name : String}
  {kind other : Kind}

/-- Others put no workload of a name in place. -/
def Occurrence.SparesWorkload (ns name : String) : Occurrence → Prop
  | insert kind object => kind.isWorkload = true →
    ObjectKey.of kind (kind.metadata object).anySpace object ≠ ⟨kind, ns, name⟩
  | _ => True

/-- A name has at most one workload. -/
def OneWorkload (simulation : Simulation) (ns name : String) : Prop :=
  ∀ kind other : Kind, kind.isWorkload = true → other.isWorkload = true →
    simulation.store.object? ⟨kind, ns, name⟩ ≠ none →
      simulation.store.object? ⟨other, ns, name⟩ ≠ none → kind = other

/-- When a pass writes a workload, placement selects its kind and there was none of the other kind
when the pass started. -/
theorem workload_of_target (placed : current.store.Placed) {settings : Settings} {now : Timestamp}
    {limits : PassLimits} {snapshot : Interconnect} (hkind : kind.isWorkload = true)
    (h : ∃ entry ∈ (reconcile settings now snapshot).trace runner (current.started limits),
      entry.2.target? = some ⟨kind, ns, name⟩) :
    (∃ desired, snapshot.Selects settings.routerImage kind desired) ∧
      ∀ other : Kind, other.isWorkload = true → other ≠ kind →
        current.store.object? ⟨other, ns, name⟩ = none := by
  obtain ⟨entry, hentry, htarget⟩ := h
  cases hns : snapshot.metadata.ns with
  | none => simp [reconcile, hns, Program.trace] at hentry
  | some space =>
      rw [reconcile, hns] at hentry
      let pass : Pass :=
        { cluster := snapshot, ns := space, settings, now, status := snapshot.statusOrNew }
      have hstarted : (current.started limits).store.Placed := placed
      rcases pass.target_program hstarted entry hentry htarget with hcluster | ⟨goal, hgoal⟩
      · cases hcluster
        cases hkind
      · exact hgoal.workload hkind

theorem OneWorkload.pass (h : current.OneWorkload ns name) (placed : current.store.Placed)
    (snapshot : Interconnect) (settings : Settings) (now : Timestamp) (limits : PassLimits) :
    (current.pass settings now limits snapshot).2.OneWorkload ns name := by
  -- a workload that was not there before was written by the pass
  have hwritten {kind : Kind} (hkind : kind.isWorkload = true)
      (habsent : current.store.object? ⟨kind, ns, name⟩ = none)
      (hpresent : (current.pass settings now limits snapshot).2.store.object? ⟨kind, ns, name⟩ ≠
        none) :=
    workload_of_target placed hkind (exists_target_of_pass (habsent ▸ hpresent))
  intro kind other hkind hother hfirst hsecond
  by_cases hbefore : current.store.object? ⟨kind, ns, name⟩ = none
  · obtain ⟨⟨_, hselects⟩, hothers⟩ := hwritten hkind hbefore hfirst
    by_cases hbefore' : current.store.object? ⟨other, ns, name⟩ = none
    · obtain ⟨⟨_, hselects'⟩, -⟩ := hwritten hother hbefore' hsecond
      exact hselects.kind_unique hselects'
    · exact Classical.byContradiction fun hne => hbefore' (hothers other hother (Ne.symm hne))
  · by_cases hbefore' : current.store.object? ⟨other, ns, name⟩ = none
    · obtain ⟨-, hothers⟩ := hwritten hother hbefore' hsecond
      exact Classical.byContradiction fun hne => hbefore (hothers kind hkind hne)
    · exact h kind other hkind hother hbefore hbefore'

/-- Nothing that is permitted makes a second workload. -/
theorem OneWorkload.after (h : current.OneWorkload ns name) (wellFormed : current.store.WellFormed)
    {occurrence : Occurrence} (hspares : occurrence.SparesWorkload ns name) :
    (current.after occurrence).OneWorkload ns name := by
  have hkept {next : Simulation}
      (hsame : ∀ kind : Kind, kind.isWorkload = true →
        next.store.object? ⟨kind, ns, name⟩ = current.store.object? ⟨kind, ns, name⟩) :
      next.OneWorkload ns name := by
    intro kind other hkind hother
    rw [hsame kind hkind, hsame other hother]
    exact h kind other hkind hother
  have hcluster {request : StoreCall} (hrequest : ∃ cluster : Interconnect,
      request.target? = some ⟨.interconnect, cluster.space, cluster.name⟩) :
      (current.call request).2.OneWorkload ns name := by
    obtain ⟨cluster, htarget⟩ := hrequest
    refine hkept fun kind hkind => object?_call_of_ne current ?_
    rw [htarget]
    intro hsame
    cases hsame
    cases hkind
  cases occurrence with
  | insert kind object =>
      refine hkept fun other hother => MemoryStore.object?_put_of_ne ?_ _ _
      intro hsame
      cases hsame
      exact hspares hother rfl
  | editCluster cluster => exact hcluster ⟨cluster, rfl⟩
  | editStatus cluster => exact hcluster ⟨cluster, rfl⟩
  | plant failure => exact h
  | arm after failure => exact h
  | pass snapshot settings now limits => exact h.pass wellFormed.fits snapshot settings now limits

/-- Nothing that happens removes an object. -/
theorem object?_after_ne_none {key : ObjectKey} (occurrence : Occurrence)
    (h : current.store.object? key ≠ none) :
    (current.after occurrence).store.object? key ≠ none := by
  cases occurrence with
  | insert kind object => exact MemoryStore.object?_put_ne_none current.store _ _ h
  | editCluster cluster => exact object?_call_ne_none _ h
  | editStatus cluster => exact object?_call_ne_none _ h
  | plant failure => exact h
  | arm after failure => exact h
  | pass snapshot settings now limits => exact object?_pass_ne_none settings now limits snapshot h

theorem History.oneWorkload
    (history : History start (fun _ occurrence => occurrence.SparesWorkload ns name) past current)
    (wellFormed : start.store.WellFormed)
    (none_yet : ∀ kind : Kind, kind.isWorkload = true →
      start.store.object? ⟨kind, ns, name⟩ = none) : current.OneWorkload ns name := by
  induction history with
  | start =>
      intro kind other hkind hother hpresent
      exact absurd (none_yet kind hkind) hpresent
  | step history permitted read ih => exact ih.after (history.wellFormed wellFormed) permitted

/-- What was there at some time of a history is still there. -/
theorem History.object?_ne_none {permits : Simulation → Occurrence → Prop} {key : ObjectKey}
    (history : History start permits past current) {earlier : Simulation}
    (hearlier : earlier ∈ past.map Prod.fst) (h : earlier.store.object? key ≠ none) :
    current.store.object? key ≠ none := by
  induction history with
  | start => cases hearlier
  | @step past current occurrence history permitted read ih =>
      refine object?_after_ne_none occurrence ?_
      rw [List.map_append, List.mem_append] at hearlier
      rcases hearlier with hbefore | hnow
      · exact ih hbefore
      · obtain rfl : earlier = current := by simpa using hnow
        exact h

/-- Whatever has happened since a store had no workload of a name, it has at most one by now, unless
others put one in place, and a workload that it has had is still there. While it has one of a kind,
no pass writes one of the other kind, and a pass that selects the other kind leaves it as it is. -/
theorem at_most_one_workload (wellFormed : start.store.WellFormed)
    (none_yet : ∀ kind : Kind, kind.isWorkload = true →
      start.store.object? ⟨kind, ns, name⟩ = none)
    (history :
      History start (fun _ occurrence => occurrence.SparesWorkload ns name) past current) :
    current.OneWorkload ns name ∧
    (∀ kind : Kind, kind.isWorkload = true → ∀ earlier ∈ past.map Prod.fst,
      earlier.store.object? ⟨kind, ns, name⟩ ≠ none →
        current.store.object? ⟨kind, ns, name⟩ ≠ none) ∧
    ∀ kind other : Kind, kind.isWorkload = true → other.isWorkload = true → kind ≠ other →
      current.store.object? ⟨kind, ns, name⟩ ≠ none →
        ∀ (snapshot : Interconnect) (settings : Settings) (now : Timestamp) (limits : PassLimits),
          (∀ entry ∈ (reconcile settings now snapshot).trace runner (current.started limits),
            entry.2.target? ≠ some ⟨other, ns, name⟩) ∧
          ((∃ desired, snapshot.Selects settings.routerImage other desired) →
            (∀ entry ∈ (reconcile settings now snapshot).trace runner (current.started limits),
              entry.2.target? ≠ some ⟨kind, ns, name⟩) ∧
            (current.pass settings now limits snapshot).2.store.object? ⟨kind, ns, name⟩ =
              current.store.object? ⟨kind, ns, name⟩) := by
  refine ⟨history.oneWorkload wellFormed none_yet, fun kind _ earlier hearlier =>
    history.object?_ne_none hearlier, ?_⟩
  intro kind other hkind hother hne hpresent snapshot settings now limits
  have hplaced := (history.wellFormed wellFormed).fits
  refine ⟨fun entry hentry htarget => ?_, fun ⟨desired, hselects⟩ => ?_⟩
  · obtain ⟨-, hothers⟩ := workload_of_target hplaced hother ⟨entry, hentry, htarget⟩
    exact hpresent (hothers kind hkind hne)
  · have hspared : ¬ ∃ entry ∈ (reconcile settings now snapshot).trace runner
        (current.started limits), entry.2.target? = some ⟨kind, ns, name⟩ := by
      intro hwritten
      obtain ⟨⟨_, hselects'⟩, -⟩ := workload_of_target hplaced hkind hwritten
      exact hne (hselects'.kind_unique hselects)
    refine ⟨fun entry hentry htarget => hspared ⟨entry, hentry, htarget⟩, ?_⟩
    exact Classical.byContradiction fun hchanged => hspared (exists_target_of_pass hchanged)

/-- The cluster of `undeployed` once its routers are asked for on every node. -/
def everywhereCluster : Interconnect :=
  { undeployedCluster with
    spec := { undeployedCluster.spec with
      deploymentPlan :=
        { undeployedCluster.spec.deploymentPlan with placement := some .every } } }

/-- The run in which its workload is deployed before that is asked for. -/
def replacedPlacement : Simulation :=
  (undeployed.after (.pass undeployedCluster {} default {})).after
    (.editCluster (everywhereCluster.under none))

theorem placement_change_keeps_deployment :
    undeployed.store.WellFormed ∧
      (∀ kind : Kind, kind.isWorkload = true →
        undeployed.store.object? ⟨kind, "msg", "amq"⟩ = none) ∧
      (∃ past, History undeployed (fun _ occurrence => occurrence.SparesWorkload "msg" "amq") past
        replacedPlacement) ∧
      replacedPlacement.store.object? ⟨.deployment, "msg", "amq"⟩ ≠ none ∧
      everywhereCluster.Selects defaultRouterImage .daemonSet
        (everywhereCluster.daemonSet defaultRouterImage) ∧
      (∀ entry ∈ (reconcile {} default everywhereCluster).trace runner
          (replacedPlacement.started {}),
        entry.2.target? ≠ some ⟨.daemonSet, "msg", "amq"⟩ ∧
          entry.2.target? ≠ some ⟨.deployment, "msg", "amq"⟩) ∧
      (replacedPlacement.pass {} default {} everywhereCluster).2.store.object?
          ⟨.deployment, "msg", "amq"⟩ =
        replacedPlacement.store.object? ⟨.deployment, "msg", "amq"⟩ := by
  have wellFormed := run_undeployed.sound.wellFormed
  have none_yet (kind : Kind) (hkind : kind.isWorkload = true) :
      undeployed.store.object? ⟨kind, "msg", "amq"⟩ = none := by
    cases kind with
    | deployment | daemonSet => rfl
    | _ => cases hkind
  have stored : WasStored [] undeployed undeployedCluster :=
    ⟨undeployed, List.mem_singleton_self _, "msg", "amq", rfl⟩
  have deployed : History undeployed (fun _ occurrence => occurrence.SparesWorkload "msg" "amq")
      [(undeployed, .pass undeployedCluster {} default {})]
      (undeployed.after (.pass undeployedCluster {} default {})) :=
    History.start.step trivial (by simpa [Occurrence.snapshot?] using stored)
  have history : History undeployed (fun _ occurrence => occurrence.SparesWorkload "msg" "amq")
      _ replacedPlacement := deployed.step trivial (by simp [Occurrence.snapshot?])
  have hdeployed : replacedPlacement.store.object? ⟨.deployment, "msg", "amq"⟩ ≠ none := by
    refine object?_after_ne_none _ ?_
    rw [after, pass_undeployedCluster rfl (.refl _)]
    exact Option.some_ne_none _
  have hselects : everywhereCluster.Selects defaultRouterImage .daemonSet
      (everywhereCluster.daemonSet defaultRouterImage) := .daemonSet rfl
  obtain ⟨-, -, hpasses⟩ := at_most_one_workload wellFormed none_yet history
  obtain ⟨hother, hselected⟩ := hpasses .deployment .daemonSet rfl rfl (by decide) hdeployed
    everywhereCluster {} default {}
  obtain ⟨hspared, hkept⟩ := hselected ⟨_, hselects⟩
  exact ⟨wellFormed, none_yet, ⟨_, history⟩, hdeployed, hselects,
    fun entry hentry => ⟨hother entry hentry, hspared entry hentry⟩, hkept⟩

end Simulation

end RouterOperator
