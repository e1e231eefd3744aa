import DeltaFunnel.QueryEngine.Instrumentation

/-! The spans of an instrumented plan and its operator profile name the same nodes by the same
ids, and every Delta scan of the profile has its own snapshot. -/

namespace DeltaFunnel
open Graph

variable {ScanMetrics MetricsSet Snapshot ε : Type}

/-- `wrapper` is an isomorphism from the nodes below the root to the wrappers of the heap. -/
structure WrapsEachOnce (plan : PhysicalPlan ScanMetrics MetricsSet)
    (heap : PlanHeap ScanMetrics MetricsSet) (root : ℕ) (wrapper : ℕ → ℕ) : Prop where
  root : wrapper plan.root = root
  injective : ∀ a ∈ plan.listing.map Prod.fst, ∀ b ∈ plan.listing.map Prod.fst,
    wrapper a = wrapper b → a = b
  wraps : ∀ entry ∈ plan.listing,
    WrapsNode plan heap (fun a w => wrapper a = w) entry (wrapper entry.1)
  only : ∀ wrapped exec, heap[wrapped]? = some (.profiled exec) →
    ∃ a ∈ plan.listing.map Prod.fst, wrapper a = wrapped

section Wrappers
variable {plan : PhysicalPlan ScanMetrics MetricsSet}
  {withNewChildren : PlanHeap ScanMetrics MetricsSet → ℕ → List ℕ →
    Except ε (PlanHeap ScanMetrics MetricsSet × ℕ)}

theorem instrumentNode_of_children {fuel address wrapped : ℕ} {parentNodeId : Option ℕ}
    {state later : Instrumentation ScanMetrics MetricsSet}
    (h : instrumentChildren withNewChildren fuel parentNodeId [address] ([], state) =
      pure ([wrapped], later)) :
    instrumentQueryExecutionNode withNewChildren fuel address parentNodeId state =
      pure (wrapped, later) := by
  unfold instrumentChildren at h
  simp only [List.foldlM_cons, List.foldlM_nil, bind_pure, instrumentChild] at h
  rcases hnode : instrumentQueryExecutionNode withNewChildren fuel address parentNodeId state
    with _ | error | ⟨found, state'⟩
  · rw [hnode] at h
    cases h
  · rw [hnode] at h
    cases h
  · rw [hnode] at h
    obtain ⟨hfound, hlater⟩ := Prod.mk.inj (Except.ok.inj (Option.some.inj h))
    rw [List.nil_append, List.singleton_inj] at hfound
    have hlater' : state' = later := hlater
    rw [← hfound, ← hlater']
    rfl

theorem Instrumenting.initial : Instrumenting plan [] [] ⟨plan.heap, 0, []⟩ where
  heap := List.prefix_refl _
  next := rfl
  keys address := by simp
  wraps _ _ h := by cases h
  injective _ _ _ h := by cases h
  only _ _ h := absurd h PhysicalPlan.not_profiled

theorem instrumentQueryExecutionPlan_wraps (plan : PhysicalPlan ScanMetrics MetricsSet)
    (hrebuilds : RebuildsNodes withNewChildren) :
    ∃ bound heap root wrapper,
      (∀ fuel ≥ bound, instrumentQueryExecutionPlan withNewChildren fuel plan.heap plan.root =
        pure (heap, root)) ∧
        plan.heap <+: heap ∧ WrapsEachOnce plan heap root wrapper := by
  obtain ⟨hvisits, -⟩ := plan.listing_spec
  obtain ⟨bound, wrappers, later, hrun, hlater, -, hwrappers⟩ :=
    instrument_visits hrebuilds hvisits (List.prefix_refl _) [plan.root] none []
      ⟨plan.heap, 0, []⟩ [] rfl .initial fun _ _ above habove => absurd habove List.not_mem_nil
  obtain ⟨root, rest, hroot, hrest, rfl⟩ := List.forall₂_cons_left_iff.1 hwrappers
  obtain rfl := List.forall₂_nil_left_iff.1 hrest
  -- the nodes that are listed are those that have a wrapper now
  have hwrapped : ∀ a ∈ plan.listing.map Prod.fst,
      later.instrumented.lookup a = some ((later.instrumented.lookup a).getD 0) := by
    intro a ha
    obtain ⟨wrapped, hlookup⟩ := (hlater.keys a).2 ⟨ha, List.not_mem_nil⟩
    rw [hlookup, Option.getD_some]
  refine ⟨bound, later.heap, root, fun a => (later.instrumented.lookup a).getD 0,
    fun fuel hfuel => ?_, hlater.heap, ?_, ?_, ?_, ?_⟩
  · have hroot := instrumentNode_of_children (hrun fuel hfuel)
    rw [Option.map_none] at hroot
    unfold instrumentQueryExecutionPlan
    rw [hroot, pure_bind]
  · rw [hroot, Option.getD_some]
  · intro a ha b hb heq
    have hlookup := hwrapped b hb
    rw [← heq] at hlookup
    exact hlater.injective a b _ (hwrapped a ha) hlookup
  · intro entry hentry
    have hlisted : entry.1 ∈ plan.listing.map Prod.fst := List.mem_map_of_mem hentry
    obtain ⟨parent, hparent, hwraps⟩ := hlater.wraps entry.1 _ (hwrapped entry.1 hlisted)
    have hsame : (entry.1, parent) = entry :=
      List.inj_on_of_nodup_map plan.listing_nodup hparent hentry rfl
    rw [hsame] at hwraps
    refine hwraps.mono (List.prefix_refl _) ?_
    intro a w hlookup
    rw [hlookup, Option.getD_some]
  · intro wrapped exec hexec
    obtain ⟨a, hlookup⟩ := hlater.only wrapped exec hexec
    refine ⟨a, ((hlater.keys a).1 ⟨wrapped, hlookup⟩).1, ?_⟩
    rw [hlookup, Option.getD_some]

theorem WrapsEachOnce.visits {heap : PlanHeap ScanMetrics MetricsSet} {root : ℕ}
    {wrapper : ℕ → ℕ} (h : WrapsEachOnce plan heap root wrapper) :
    FirstVisits heap.children [(root, none)] []
      (plan.listing.map (Prod.map wrapper (Option.map wrapper))) := by
  have hroot : plan.root ∈ plan.listing.map Prod.fst := (plan.listing_spec.2 plan.root).2 .refl
  have hmap : FirstVisits heap.children
      ([(plan.root, none)].map (Prod.map wrapper (Option.map wrapper)))
      ([].map (Prod.map wrapper (Option.map wrapper)))
      (plan.listing.map (Prod.map wrapper (Option.map wrapper))) :=
    plan.listing_spec.1.map (R := fun a => a ∈ plan.listing.map Prod.fst)
    (fun a b ha hb => h.injective a ha b hb)
    (by
      intro a ha
      obtain ⟨entry, hentry, rfl⟩ := List.mem_map.1 ha
      refine ⟨?_, fun c hc => PhysicalPlan.listing_closed ha hc⟩
      obtain ⟨operator, rebuilt, inner, hnode, hwrapped, hinner, -, hchildren, -⟩ :=
        h.wraps entry hentry
      rw [PlanHeap.children_profiled hwrapped hinner,
        PlanHeap.children_operator (PhysicalPlan.heap_eq_some.2 hnode)]
      exact (List.forall₂_eq_eq_eq ▸ List.forall₂_map_left_iff.2 hchildren :
        operator.children.map wrapper = rebuilt.children).symm)
    (by
      intro entry hentry
      rw [List.mem_singleton.1 hentry]
      exact hroot)
    (List.forall_mem_nil _)
  rw [List.map_singleton, List.map_nil] at hmap
  rw [← h.root]
  exact hmap

end Wrappers

section Snapshots
variable (plan : PhysicalPlan ScanMetrics MetricsSet)

def PhysicalPlan.scanHandles : List (DeltaProviderReadStatsHandle ScanMetrics) :=
  plan.listing.filterMap fun entry => deltaDatafusionMetricsForPlan plan.heap entry.1

variable {plan} {reader : ScanMetricsReader ScanMetrics Snapshot}
  {taken : DeltaProviderReadStatsHandle ScanMetrics → Snapshot}

theorem collectDeltaProviderReadStatsHandles_eq (plan : PhysicalPlan ScanMetrics MetricsSet) :
    ∃ bound, ∀ fuel ≥ bound,
      collectDeltaProviderReadStatsHandles fuel plan.heap plan.root = some plan.scanHandles := by
  obtain ⟨bound, hbound⟩ := collectHandles_visits PhysicalPlan.unprofiled
    (fun _ _ h => PhysicalPlan.own_handle h) plan.listing_spec.1
  refine ⟨bound, fun fuel hfuel => ?_⟩
  have hrun := hbound fuel hfuel
  have hroot : collectHandles plan.heap fuel plan.root ([], []) =
      some (collectedHandles plan.heap plan.listing) := by
    rw [← hrun]
    exact (bind_pure _).symm
  unfold collectDeltaProviderReadStatsHandles
  rw [hroot]
  rfl

theorem PhysicalPlan.scanHandles_nodup :
    (plan.scanHandles.map (·.planIdentity)).Nodup := by
  have hsub : ∀ order : List (ℕ × Option ℕ),
      ((order.filterMap fun entry => deltaDatafusionMetricsForPlan plan.heap entry.1).map
        (·.planIdentity)).Sublist (order.map Prod.fst) := by
    intro order
    induction order with
    | nil => exact List.Sublist.refl _
    | cons entry order ih =>
      rcases hhandle : deltaDatafusionMetricsForPlan plan.heap entry.1 with _ | handle
      · simp only [List.filterMap_cons, hhandle, List.map_cons]
        exact ih.cons _
      · simp only [List.filterMap_cons, hhandle, List.map_cons, PhysicalPlan.own_handle hhandle]
        exact ih.cons_cons _
  exact (hsub plan.listing).nodup plan.listing_nodup

theorem snapshotSet_of_nodup {handles : List (DeltaProviderReadStatsHandle ScanMetrics)}
    (hnodup : (handles.map (·.planIdentity)).Nodup) :
    deltaProviderReadStatsSnapshotSet reader.stats handles (handles.map taken) =
      handles.map fun handle => (handle, taken handle) := by
  have hfold : ∀ (rest : List (DeltaProviderReadStatsHandle ScanMetrics))
      (done : List (DeltaProviderReadStatsHandle ScanMetrics × Snapshot)),
      (rest.map (·.planIdentity)).Nodup →
      (∀ pair ∈ done, ∀ handle ∈ rest, pair.1.planIdentity ≠ handle.planIdentity) →
      (rest.zip (rest.map taken)).foldl (fun unique pair =>
        if unique.any fun existing => reader.stats.sameInstance existing.1 pair.1 then unique
        else unique ++ [pair]) done = done ++ rest.map fun handle => (handle, taken handle) := by
    intro rest
    induction rest with
    | nil => exact fun done _ _ => (List.append_nil done).symm
    | cons handle rest ih =>
      intro done hnodup hdone
      rw [List.map_cons, List.nodup_cons] at hnodup
      have hany : (done.any fun existing =>
          reader.stats.sameInstance existing.1 handle) = false := by
        rw [List.any_eq_false]
        intro pair hpair hsame
        exact hdone pair hpair handle (List.mem_cons_self ..) (beq_iff_eq.1 hsame)
      rw [List.map_cons, List.zip_cons_cons, List.foldl_cons]
      simp only [hany, Bool.false_eq_true, if_false]
      rw [ih _ hnodup.2, List.append_assoc, List.map_cons, List.singleton_append]
      intro pair hpair other hother
      rcases List.mem_append.1 hpair with hpair | hpair
      · exact hdone pair hpair other (List.mem_cons_of_mem _ hother)
      · rw [List.mem_singleton.1 hpair]
        intro heq
        exact hnodup.1 (heq ▸ List.mem_map_of_mem hother)
  have hrun := hfold handles [] hnodup (List.forall_mem_nil _)
  rw [List.nil_append] at hrun
  exact hrun

def PhysicalPlan.terminalSnapshots (plan : PhysicalPlan ScanMetrics MetricsSet)
    (reader : ScanMetricsReader ScanMetrics Snapshot)
    (taken : DeltaProviderReadStatsHandle ScanMetrics → Snapshot) :
    DeltaDataFusionMetricsSnapshotSet ScanMetrics Snapshot :=
  deltaProviderReadStatsSnapshotSet reader.stats plan.scanHandles (plan.scanHandles.map taken)

theorem find_terminalSnapshots {entry : ℕ × Option ℕ} (hentry : entry ∈ plan.listing)
    {handle : DeltaProviderReadStatsHandle ScanMetrics}
    (hhandle : deltaDatafusionMetricsForPlan plan.heap entry.1 = some handle) :
    (plan.terminalSnapshots reader taken).find? (·.1.sameInstance handle) =
      some (handle, taken handle) := by
  have hmem : handle ∈ plan.scanHandles := List.mem_filterMap.2 ⟨entry, hentry, hhandle⟩
  rw [PhysicalPlan.terminalSnapshots, snapshotSet_of_nodup plan.scanHandles_nodup]
  rcases hfind : (plan.scanHandles.map fun handle => (handle, taken handle)).find?
      (·.1.sameInstance handle) with _ | pair
  · have hnone := List.find?_eq_none.1 hfind (handle, taken handle) (List.mem_map_of_mem hmem)
    exact absurd (beq_self_eq_true _) hnone
  · obtain ⟨other, hother, rfl⟩ := List.mem_map.1 (List.mem_of_find?_eq_some hfind)
    have hfound : other.sameInstance handle = true := by simpa using List.find?_some hfind
    have hsame : other.planIdentity = handle.planIdentity := beq_iff_eq.1 hfound
    rw [hfind, List.inj_on_of_nodup_map plan.scanHandles_nodup hother hmem hsame]

theorem providerSnapshot_terminal {heap : PlanHeap ScanMetrics MetricsSet} {address : ℕ}
    {entry : ℕ × Option ℕ} (hentry : entry ∈ plan.listing)
    (hsame : deltaDatafusionMetricsForPlan heap (heap.unprofiledExecutionPlan address) =
      deltaDatafusionMetricsForPlan plan.heap entry.1) :
    (providerSnapshot reader heap address (some (plan.terminalSnapshots reader taken)) []).1 =
      (deltaDatafusionMetricsForPlan plan.heap entry.1).map fun handle =>
        (reader.registrationName handle.metrics, taken handle) := by
  unfold providerSnapshot
  rw [hsame]
  rcases hhandle : deltaDatafusionMetricsForPlan plan.heap entry.1 with _ | handle
  · rfl
  · dsimp only
    rw [find_terminalSnapshots hentry hhandle]
    rfl

end Snapshots

/-- What names an operator in a profile, with the read statistics attached to it. -/
def QueryExecutionOperatorProfile.identity
    (profile : QueryExecutionOperatorProfile MetricsSet Snapshot) :
    ℕ × Option ℕ × String × Option String × Option Snapshot :=
  (profile.nodeId, profile.parentNodeId, profile.operatorName, profile.deltaProviderSourceName,
    profile.deltaProviderReadStats)

section Agreement
variable (plan : PhysicalPlan ScanMetrics MetricsSet)
  (reader : ScanMetricsReader ScanMetrics Snapshot)
  (taken : DeltaProviderReadStatsHandle ScanMetrics → Snapshot)

/-- The ids and the name of a listed node, and the snapshot of its own handle. -/
def PhysicalPlan.identityOf (entry : ℕ × Option ℕ) :
    ℕ × Option ℕ × String × Option String × Option Snapshot :=
  let handle := deltaDatafusionMetricsForPlan plan.heap entry.1
  (nodeIdIn plan.listing entry.1, entry.2.map (nodeIdIn plan.listing), plan.heap.name entry.1,
    handle.bind fun handle => reader.registrationName handle.metrics, handle.map taken)

variable {plan reader taken}

theorem identity_operatorProfile {heap : PlanHeap ScanMetrics MetricsSet} {address : ℕ}
    {parent : Option ℕ} {final : List (ℕ × Option ℕ)} {entry : ℕ × Option ℕ}
    (hentry : entry ∈ plan.listing) (hid : nodeIdIn final address = nodeIdIn plan.listing entry.1)
    (hparent : parent.map (nodeIdIn final) = entry.2.map (nodeIdIn plan.listing))
    (hname : heap.name address = plan.heap.name entry.1)
    (hsame : deltaDatafusionMetricsForPlan heap (heap.unprofiledExecutionPlan address) =
      deltaDatafusionMetricsForPlan plan.heap entry.1) :
    (operatorProfile reader heap (plan.terminalSnapshots reader taken) final
      (address, parent)).identity = plan.identityOf reader taken entry := by
  unfold operatorProfile QueryExecutionOperatorProfile.identity PhysicalPlan.identityOf
  dsimp only
  rw [providerSnapshot_terminal hentry hsame, hid, hparent, hname]
  rcases deltaDatafusionMetricsForPlan plan.heap entry.1 with _ | handle <;> rfl

theorem WrapsEachOnce.identity {heap : PlanHeap ScanMetrics MetricsSet} {root : ℕ}
    {wrapper : ℕ → ℕ} (h : WrapsEachOnce plan heap root wrapper) (hheap : plan.heap <+: heap)
    {entry : ℕ × Option ℕ} (hentry : entry ∈ plan.listing) :
    (operatorProfile reader heap (plan.terminalSnapshots reader taken)
      (plan.listing.map (Prod.map wrapper (Option.map wrapper)))
      (Prod.map wrapper (Option.map wrapper) entry)).identity =
        plan.identityOf reader taken entry := by
  obtain ⟨operator, rebuilt, inner, hnode, hwrapped, hinner, -, hchildren, hleaf⟩ :=
    h.wraps entry hentry
  have hids : ∀ a ∈ plan.listing.map Prod.fst,
      nodeIdIn (plan.listing.map (Prod.map wrapper (Option.map wrapper))) (wrapper a) =
        nodeIdIn plan.listing a :=
    fun a ha => nodeIdIn_map fun other hother => h.injective other hother a ha
  apply identity_operatorProfile hentry
  · exact hids entry.1 (List.mem_map_of_mem hentry)
  · show (entry.2.map wrapper).map _ = _
    rcases hparent : entry.2 with _ | parent
    · rfl
    · rw [Option.map_some, Option.map_some, Option.map_some,
        hids parent (plan.listing_parents entry hentry parent hparent).1]
  · show heap.name (wrapper entry.1) = _
    rw [PlanHeap.name_profiled hwrapped,
      PlanHeap.name_operator (PhysicalPlan.heap_eq_some.2 hnode)]
  · show deltaDatafusionMetricsForPlan heap (heap.unprofiledExecutionPlan (wrapper entry.1)) = _
    rw [PlanHeap.unprofiled_profiled hwrapped]
    exact metricsForPlan_inner hheap hnode hinner hchildren.length_eq.symm hleaf

theorem collectQueryExecutionProfile_operators {heap : PlanHeap ScanMetrics MetricsSet}
    {root : ℕ} {order : List (ℕ × Option ℕ)}
    (h : FirstVisits heap.children [(root, none)] [] order)
    (reader : ScanMetricsReader ScanMetrics Snapshot)
    (supplied : DeltaDataFusionMetricsSnapshotSet ScanMetrics Snapshot)
    (scope : QueryExecutionScope) (outcome : QueryExecutionOutcome) (rowLimit : ℕ) :
    ∃ bound profile, (∀ fuel ≥ bound,
      collectQueryExecutionProfile reader fuel heap root scope outcome rowLimit (some supplied) =
        some profile) ∧
      profile.operators = order.map (operatorProfile reader heap supplied order) := by
  obtain ⟨bound, hbound⟩ := collectOperators_eq h
  refine ⟨bound, ⟨scope, outcome, if scope = .preview then some rowLimit else none,
    order.map (operatorProfile reader heap supplied order)⟩, fun fuel hfuel => ?_, rfl⟩
  unfold collectQueryExecutionProfile
  rw [hbound fuel hfuel]
  cases scope <;> rfl

variable (plan reader taken)

/-- The instrumented plan has one wrapper for each node below the root, numbered in first-visit
preorder with its first-visit parent. The profiles of the plan and of the instrumented plan list
each node once, in this order, with the ids of its wrapper, and attach to exactly the Delta scans
the snapshot of their own handle. -/
theorem instrumented_profile_agrees
    {withNewChildren : PlanHeap ScanMetrics MetricsSet → ℕ → List ℕ →
      Except ε (PlanHeap ScanMetrics MetricsSet × ℕ)}
    (hrebuilds : RebuildsNodes withNewChildren) (scope : QueryExecutionScope)
    (outcome : QueryExecutionOutcome) (rowLimit : ℕ) :
    (plan.listing.map Prod.fst).Nodup ∧
      (∀ address, address ∈ plan.listing.map Prod.fst ↔
        Relation.ReflTransGen (ChildIn plan.nodes) plan.root address) ∧
      ∃ bound heap root wrapper handles profile original,
        (∀ fuel ≥ bound,
          instrumentQueryExecutionPlan withNewChildren fuel plan.heap plan.root =
              pure (heap, root) ∧
            collectDeltaProviderReadStatsHandles fuel plan.heap plan.root = some handles ∧
            collectQueryExecutionProfile reader fuel heap root scope outcome rowLimit
              (some (deltaProviderReadStatsSnapshotSet reader.stats handles
                (handles.map taken))) = some profile ∧
            collectQueryExecutionProfile reader fuel plan.heap plan.root scope outcome rowLimit
              (some (deltaProviderReadStatsSnapshotSet reader.stats handles
                (handles.map taken))) = some original) ∧
          WrapsEachOnce plan heap root wrapper ∧
          handles = plan.listing.filterMap
            (fun entry => deltaDatafusionMetricsForPlan plan.heap entry.1) ∧
          profile.operators.map (·.identity) = plan.listing.map (plan.identityOf reader taken) ∧
          original.operators.map (·.identity) = profile.operators.map (·.identity) := by
  obtain ⟨bound₁, heap, root, wrapper, hrun, hheap, hwraps⟩ :=
    instrumentQueryExecutionPlan_wraps plan hrebuilds
  obtain ⟨bound₂, hhandles⟩ := collectDeltaProviderReadStatsHandles_eq plan
  obtain ⟨bound₃, profile, hprofile, hoperators⟩ := collectQueryExecutionProfile_operators
    hwraps.visits reader (plan.terminalSnapshots reader taken) scope outcome rowLimit
  obtain ⟨bound₄, original, horiginal, hoperators'⟩ := collectQueryExecutionProfile_operators
    plan.listing_spec.1 reader (plan.terminalSnapshots reader taken) scope outcome rowLimit
  -- each wrapper reports the identity of the node it wraps
  have hinstrumented : profile.operators.map (·.identity) =
      plan.listing.map (plan.identityOf reader taken) := by
    rw [hoperators, List.map_map, List.map_map]
    exact List.map_congr_left fun entry hentry => hwraps.identity hheap hentry
  have hplain : original.operators.map (·.identity) =
      plan.listing.map (plan.identityOf reader taken) := by
    rw [hoperators', List.map_map]
    apply List.map_congr_left
    intro entry hentry
    apply identity_operatorProfile hentry rfl rfl rfl
    rw [PhysicalPlan.unprofiled]
  refine ⟨plan.listing_nodup, plan.listing_spec.2, bound₁ + bound₂ + bound₃ + bound₄, heap, root,
    wrapper, plan.scanHandles, profile, original, fun fuel hfuel => ?_, hwraps, rfl,
    hinstrumented, hplain.trans hinstrumented.symm⟩
  exact ⟨hrun fuel (by omega), hhandles fuel (by omega), hprofile fuel (by omega),
    horiginal fuel (by omega)⟩

end Agreement

/-- Puts the children into a copy of the operator, unless it has none. -/
def rebuildOperator (heap : PlanHeap ScanMetrics MetricsSet) (node : ℕ) (children : List ℕ) :
    Except String (PlanHeap ScanMetrics MetricsSet × ℕ) :=
  match heap[node]? with
  | some (.operator operator) =>
    if children.isEmpty then .ok (heap, node)
    else .ok (heap ++ [.operator { operator with children }], heap.length)
  | some (.profiled _) => .error "wrapped"
  | none => .error "dangling"

theorem rebuildOperator_rebuilds :
    RebuildsNodes (rebuildOperator : PlanHeap ScanMetrics MetricsSet → ℕ → List ℕ → _) := by
  intro heap node operator children hnode hlength _
  rcases hempty : children with _ | ⟨child, rest⟩
  · have hleaf : operator.children = [] := by
      rw [hempty] at hlength
      exact List.length_eq_zero_iff.1 hlength.symm
    refine ⟨[], node, operator, ?_, ?_, rfl, hleaf, fun _ => rfl⟩
    · simp [rebuildOperator, hnode]
    · simpa using hnode
  · refine ⟨[{ operator with children := child :: rest }], heap.length,
      { operator with children := child :: rest }, ?_, ?_, rfl, rfl, by simp⟩
    · simp [rebuildOperator, hnode]
    · simp

theorem acyclic_of_ascending {nodes : List (ExecutionPlanOperator ScanMetrics MetricsSet)}
    (h : ∀ i (hi : i < nodes.length), ∀ child ∈ nodes[i].children, i < child) (a : ℕ) :
    ¬ Relation.TransGen (ChildIn nodes) a a := by
  intro hcycle
  have hstep : ∀ x y, ChildIn nodes x y → x < y := by
    rintro x y ⟨operator, hnode, hchild⟩
    obtain ⟨hlt, rfl⟩ := List.getElem?_eq_some_iff.1 hnode
    exact h x hlt y hchild
  have hless : ∀ x y, Relation.TransGen (ChildIn nodes) x y → x < y := by
    intro x y hbelow
    induction hbelow with
    | single hedge => exact hstep _ _ hedge
    | tail _ hedge ih => exact ih.trans (hstep _ _ hedge)
  exact lt_irrefl a (hless a a hcycle)

def joinNodes : List (ExecutionPlanOperator ℕ Unit) :=
  [⟨"HashJoinExec", [1, 2], 1, none, []⟩, ⟨"FilterExec", [3], 1, none, []⟩,
    ⟨"UnionExec", [3, 4], 1, none, []⟩, ⟨"DeltaScanExec", [], 1, none, [7]⟩,
    ⟨"DeltaScanExec", [], 1, none, [8]⟩]

/-- A join of a filter with a union over the same scan. -/
def joinOfSharedScan : PhysicalPlan ℕ Unit where
  nodes := joinNodes
  root := 0
  root_lt := by decide
  children_lt := by decide
  acyclic := acyclic_of_ascending (by decide)

def rowsReader : ScanMetricsReader ℕ ℕ := ⟨id, fun metrics => some s!"orders {metrics}"⟩

theorem joinOfSharedScan_agrees :
    ∃ bound heap root profile, ∀ fuel ≥ bound,
      instrumentQueryExecutionPlan rebuildOperator fuel joinOfSharedScan.heap 0 =
          pure (heap, root) ∧
        collectQueryExecutionProfile rowsReader fuel heap root .preview .success 20
          (some [(⟨7, 3⟩, 70), (⟨8, 4⟩, 80)]) = some profile ∧
        profile.operators.map (·.identity) =
          [(0, none, "HashJoinExec", none, none), (1, some 0, "FilterExec", none, none),
            (2, some 1, "DeltaScanExec", some "orders 7", some 70),
            (3, some 0, "UnionExec", none, none),
            (4, some 3, "DeltaScanExec", some "orders 8", some 80)] := by
  obtain ⟨-, -, bound, heap, root, wrapper, handles, profile, original, hrun, -, rfl, hprofile, -⟩ :=
    instrumented_profile_agrees joinOfSharedScan rowsReader (fun handle => 10 * handle.metrics)
      rebuildOperator_rebuilds .preview .success 20
  refine ⟨bound, heap, root, profile, fun fuel hfuel => ?_⟩
  obtain ⟨hinstrument, -, hcollect, -⟩ := hrun fuel hfuel
  exact ⟨hinstrument, hcollect, hprofile.trans (by decide)⟩

end DeltaFunnel
