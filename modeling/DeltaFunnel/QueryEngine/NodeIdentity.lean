import DeltaFunnel.Graph.FirstVisit
import DeltaFunnel.QueryEngine.PhysicalPlan

/-! The instrumentation, the operator profile and the scan handles of a plan follow one
depth-first order, so that a node has the same id in the spans and in the profile. -/

namespace DeltaFunnel
open Graph

variable {ScanMetrics MetricsSet Snapshot ε : Type}

def ExecutionPlanOperator.scanHandle (operator : ExecutionPlanOperator ScanMetrics MetricsSet)
    (address : ℕ) : Option (DeltaProviderReadStatsHandle ScanMetrics) :=
  match operator.children, operator.scanMetrics with
  | [], [metrics] => some ⟨metrics, address⟩
  | _, _ => none

namespace PlanHeap
variable {heap : PlanHeap ScanMetrics MetricsSet} {plan : ℕ}
  {operator : ExecutionPlanOperator ScanMetrics MetricsSet} {exec : ProfiledOperatorExec}

theorem unprofiled_operator (h : heap[plan]? = some (.operator operator)) :
    heap.unprofiledExecutionPlan plan = plan := by
  simp only [unprofiledExecutionPlan, h]

theorem operatorAt_operator (h : heap[plan]? = some (.operator operator)) :
    heap.operatorAt plan = some operator := by
  simp only [operatorAt, unprofiled_operator h, h]

theorem children_operator (h : heap[plan]? = some (.operator operator)) :
    heap.children plan = operator.children := by
  simp only [children, operatorAt_operator h, Option.elim_some]

theorem name_operator (h : heap[plan]? = some (.operator operator)) :
    heap.name plan = operator.name := by
  simp only [name, h]

theorem unprofiled_profiled (h : heap[plan]? = some (.profiled exec)) :
    heap.unprofiledExecutionPlan plan = exec.inner := by
  simp only [unprofiledExecutionPlan, h]

theorem operatorAt_profiled (h : heap[plan]? = some (.profiled exec))
    (hinner : heap[exec.inner]? = some (.operator operator)) :
    heap.operatorAt plan = some operator := by
  simp only [operatorAt, unprofiled_profiled h, hinner]

theorem children_profiled (h : heap[plan]? = some (.profiled exec))
    (hinner : heap[exec.inner]? = some (.operator operator)) :
    heap.children plan = operator.children := by
  simp only [children, operatorAt_profiled h hinner, Option.elim_some]

theorem name_profiled (h : heap[plan]? = some (.profiled exec)) :
    heap.name plan = exec.operatorName := by
  simp only [name, h]

theorem metricsForPlan_operator (h : heap[plan]? = some (.operator operator)) :
    deltaDatafusionMetricsForPlan heap plan = operator.scanHandle plan := by
  unfold deltaDatafusionMetricsForPlan ExecutionPlanOperator.scanHandle
  simp only [unprofiled_operator h, children_operator h, operatorAt_operator h, Option.elim_some]
  rcases operator.children with _ | ⟨child, children⟩
  · rw [List.isEmpty_nil, if_pos rfl]
    rcases operator.scanMetrics with _ | ⟨metrics, _ | ⟨other, rest⟩⟩ <;> rfl
  · rw [List.isEmpty_cons, if_neg Bool.false_ne_true]

end PlanHeap

theorem ExecutionPlanOperator.planIdentity_scanHandle
    {operator : ExecutionPlanOperator ScanMetrics MetricsSet} {address : ℕ}
    {handle : DeltaProviderReadStatsHandle ScanMetrics}
    (h : operator.scanHandle address = some handle) : handle.planIdentity = address := by
  unfold scanHandle at h
  split at h
  · rw [← Option.some.inj h]
  · cases h

def nodeIdIn (order : List (ℕ × Option ℕ)) (plan : ℕ) : ℕ :=
  usizeToU64Saturating ((order.map Prod.fst).idxOf plan)

theorem nodeIdIn_final {order final : List (ℕ × Option ℕ)} {plan : ℕ} {parent : Option ℕ}
    (hfinal : order ++ [(plan, parent)] <+: final) (hnew : plan ∉ order.map Prod.fst) :
    nodeIdIn final plan = usizeToU64Saturating order.length := by
  obtain ⟨rest, rfl⟩ := hfinal
  have hkeys : ((order ++ [(plan, parent)] ++ rest).map Prod.fst).idxOf plan = order.length := by
    rw [List.append_assoc, List.map_append, List.idxOf_append_of_notMem hnew, List.length_map]
    simp
  rw [nodeIdIn, hkeys]

theorem nodeIdIn_map {f : ℕ → ℕ} {order : List (ℕ × Option ℕ)} {plan : ℕ}
    (hinj : ∀ other ∈ order.map Prod.fst, f other = f plan → other = plan) :
    nodeIdIn (order.map (Prod.map f (Option.map f))) (f plan) = nodeIdIn order plan := by
  have hkeys : ∀ keys : List ℕ, (∀ other ∈ keys, f other = f plan → other = plan) →
      (keys.map f).idxOf (f plan) = keys.idxOf plan := by
    intro keys hkeys
    induction keys with
    | nil => rfl
    | cons key keys ih =>
      rw [List.map_cons, List.idxOf_cons, List.idxOf_cons,
        ih fun other hother => hkeys other (List.mem_cons_of_mem _ hother)]
      have hiff : (f key == f plan) = (key == plan) := by
        rw [Bool.eq_iff_iff, beq_iff_eq, beq_iff_eq]
        exact ⟨hkeys key (List.mem_cons_self ..), fun h => congrArg f h⟩
      rw [hiff]
  have hfst : (order.map (Prod.map f (Option.map f))).map Prod.fst =
      (order.map Prod.fst).map f := by
    simp [Function.comp_def]
  rw [nodeIdIn, hfst, hkeys _ hinj, nodeIdIn]

section Profile
variable (reader : ScanMetricsReader ScanMetrics Snapshot)
  (heap : PlanHeap ScanMetrics MetricsSet)
  (supplied : DeltaDataFusionMetricsSnapshotSet ScanMetrics Snapshot)
  (final : List (ℕ × Option ℕ))

/-- The profile of a node that was first entered from the given parent. -/
def operatorProfile (entry : ℕ × Option ℕ) : QueryExecutionOperatorProfile MetricsSet Snapshot :=
  let operator := heap.operatorAt entry.1
  let provider := (providerSnapshot reader heap entry.1 (some supplied) []).1
  { nodeId := nodeIdIn final entry.1
    parentNodeId := entry.2.map (nodeIdIn final)
    operatorName := heap.name entry.1
    outputPartitionCount := usizeToU64Saturating (operator.elim 0 (·.outputPartitionCount))
    metrics := operator.bind (·.metrics)
    deltaProviderSourceName := provider.bind (·.1)
    deltaProviderReadStats := provider.map (·.2) }

def collectedProfiles (order : List (ℕ × Option ℕ)) :
    ProfileCollection ScanMetrics MetricsSet Snapshot :=
  ⟨(order.map Prod.fst).reverse, [], order.map (operatorProfile reader heap supplied final)⟩

variable {reader heap supplied final}

theorem providerSnapshot_supplied (plan : ℕ) :
    providerSnapshot reader heap plan (some supplied) [] =
      ((providerSnapshot reader heap plan (some supplied) []).1, []) := by
  unfold providerSnapshot
  split <;> rfl

theorem collectOperators_skip {fuel plan : ℕ} {parent : Option ℕ} {stack : List (ℕ × Option ℕ)}
    {order : List (ℕ × Option ℕ)} (hseen : plan ∈ order.map Prod.fst) :
    collectOperators reader heap (some supplied) (fuel + 1) ((plan, parent) :: stack)
        (collectedProfiles reader heap supplied final order) =
      collectOperators reader heap (some supplied) fuel stack
        (collectedProfiles reader heap supplied final order) := by
  rw [collectOperators]
  have hmem : plan ∈ (collectedProfiles reader heap supplied final order).seen :=
    List.mem_reverse.2 hseen
  rw [if_pos hmem]

theorem collectOperators_enter {fuel plan : ℕ} {parent : Option ℕ} {stack : List (ℕ × Option ℕ)}
    {order : List (ℕ × Option ℕ)} (hnew : plan ∉ order.map Prod.fst)
    (hfinal : order ++ [(plan, parent)] <+: final) :
    collectOperators reader heap (some supplied) (fuel + 1)
        ((plan, parent.map (nodeIdIn final)) :: stack)
        (collectedProfiles reader heap supplied final order) =
      collectOperators reader heap (some supplied) fuel
        ((heap.children plan).map (·, some (nodeIdIn final plan)) ++ stack)
        (collectedProfiles reader heap supplied final (order ++ [(plan, parent)])) := by
  have hmem : plan ∉ (collectedProfiles reader heap supplied final order).seen :=
    fun h => hnew (List.mem_reverse.1 h)
  have hid : usizeToU64Saturating
      (collectedProfiles reader heap supplied final order).operators.length =
        nodeIdIn final plan := by
    rw [nodeIdIn_final hfinal hnew]
    show usizeToU64Saturating (order.map _).length = _
    rw [List.length_map]
  have hstep : collectedProfiles reader heap supplied final (order ++ [(plan, parent)]) =
      { seen := plan :: (order.map Prod.fst).reverse
        fallback := []
        operators := order.map (operatorProfile reader heap supplied final) ++
          [operatorProfile reader heap supplied final (plan, parent)] } := by
    simp [collectedProfiles]
  have hfallback : (collectedProfiles reader heap supplied final order).fallback = [] := rfl
  rw [collectOperators, if_neg hmem, hid, hstep, hfallback, providerSnapshot_supplied]
  rfl

theorem collectOperators_visits {es order order' : List (ℕ × Option ℕ)}
    (h : FirstVisits heap.children es order order') (hfinal : order' <+: final) :
    ∃ steps, ∀ fuel rest,
      collectOperators reader heap (some supplied) (steps + fuel)
          (es.map (Prod.map id (Option.map (nodeIdIn final))) ++ rest)
          (collectedProfiles reader heap supplied final order) =
        collectOperators reader heap (some supplied) fuel rest
          (collectedProfiles reader heap supplied final order') := by
  induction h with
  | nil order => exact ⟨0, fun fuel rest => by rw [Nat.zero_add, List.map_nil, List.nil_append]⟩
  | skip hseen hrest ih =>
    obtain ⟨steps, hsteps⟩ := ih hfinal
    refine ⟨steps + 1, fun fuel rest => ?_⟩
    rw [List.map_cons, List.cons_append, Nat.add_right_comm]
    rw [← hsteps fuel rest]
    exact collectOperators_skip hseen
  | @descend k p es order inner order' hnew hinner hrest ihInner ihRest =>
    have hinnerFinal : inner <+: final := hrest.prefix_order.trans hfinal
    obtain ⟨steps₁, hsteps₁⟩ := ihInner hinnerFinal
    obtain ⟨steps₂, hsteps₂⟩ := ihRest hfinal
    refine ⟨steps₁ + steps₂ + 1, fun fuel rest => ?_⟩
    have hbehind : ((heap.children k).map (·, some k)).map
        (Prod.map id (Option.map (nodeIdIn final))) =
          (heap.children k).map (·, some (nodeIdIn final k)) := by
      simp [Function.comp_def]
    rw [← hsteps₂ fuel rest, ← hsteps₁ (steps₂ + fuel), hbehind]
    have hfuel : steps₁ + steps₂ + 1 + fuel = steps₁ + (steps₂ + fuel) + 1 := by omega
    rw [hfuel, List.map_cons, List.cons_append]
    exact collectOperators_enter hnew (hinner.prefix_order.trans hinnerFinal)

theorem collectOperators_eq {root : ℕ} {order : List (ℕ × Option ℕ)}
    (h : FirstVisits heap.children [(root, none)] [] order) :
    ∃ bound, ∀ fuel ≥ bound,
      collectOperators reader heap (some supplied) fuel [(root, none)] ⟨[], [], []⟩ =
        some (order.map (operatorProfile reader heap supplied order)) := by
  obtain ⟨steps, hsteps⟩ : ∃ steps, ∀ fuel rest,
      collectOperators reader heap (some supplied) (steps + fuel)
          ([(root, none)].map (Prod.map id (Option.map (nodeIdIn order))) ++ rest)
          (collectedProfiles reader heap supplied order []) =
        collectOperators reader heap (some supplied) fuel rest
          (collectedProfiles reader heap supplied order order) :=
    collectOperators_visits h (List.prefix_refl order)
  refine ⟨steps + 1, fun fuel hfuel => ?_⟩
  obtain ⟨more, rfl⟩ := Nat.exists_eq_add_of_le hfuel
  have hrun := hsteps (more + 1) []
  rw [List.append_nil] at hrun
  have hsplit : steps + 1 + more = steps + (more + 1) := by omega
  rw [hsplit]
  exact hrun

end Profile

/-- What the recursion has collected after the nodes of an order. -/
def collectedHandles (heap : PlanHeap ScanMetrics MetricsSet) (order : List (ℕ × Option ℕ)) :
    List ℕ × List (DeltaProviderReadStatsHandle ScanMetrics) :=
  ((order.map Prod.fst).reverse,
    order.filterMap fun entry => deltaDatafusionMetricsForPlan heap entry.1)

section Handles
variable {heap : PlanHeap ScanMetrics MetricsSet}

theorem collectHandles_enter (hplain : ∀ plan, heap.unprofiledExecutionPlan plan = plan)
    (hown : ∀ plan handle, deltaDatafusionMetricsForPlan heap plan = some handle →
      handle.planIdentity = plan)
    {fuel plan : ℕ} (parent : Option ℕ) {order : List (ℕ × Option ℕ)}
    (hnew : plan ∉ order.map Prod.fst) :
    collectHandles heap (fuel + 1) plan (collectedHandles heap order) =
      (heap.children plan).foldlM (fun state child => collectHandles heap fuel child state)
        (collectedHandles heap (order ++ [(plan, parent)])) := by
  have hmem : plan ∉ (order.map Prod.fst).reverse := fun h => hnew (List.mem_reverse.1 h)
  unfold collectedHandles
  rw [collectHandles]
  simp only [hplain, if_neg hmem, List.map_append, List.filterMap_append, List.reverse_append]
  rcases hhandle : deltaDatafusionMetricsForPlan heap plan with _ | handle
  · simp [hhandle]
  · have hnone : (order.filterMap fun entry => deltaDatafusionMetricsForPlan heap entry.1).any
        (·.sameInstance handle) = false := by
      rw [List.any_eq_false]
      intro other hother hsame
      obtain ⟨entry, hentry, hfound⟩ := List.mem_filterMap.1 hother
      have hsame : other.planIdentity = handle.planIdentity := by
        simpa [DeltaProviderReadStatsHandle.sameInstance] using hsame
      rw [hown _ _ hfound, hown _ _ hhandle] at hsame
      exact hnew (hsame ▸ List.mem_map_of_mem hentry)
    simp [hhandle, hnone]

theorem collectHandles_visits (hplain : ∀ plan, heap.unprofiledExecutionPlan plan = plan)
    (hown : ∀ plan handle, deltaDatafusionMetricsForPlan heap plan = some handle →
      handle.planIdentity = plan)
    {es order order' : List (ℕ × Option ℕ)} (h : FirstVisits heap.children es order order') :
    ∃ bound, ∀ fuel ≥ bound,
      (es.map Prod.fst).foldlM (fun state child => collectHandles heap fuel child state)
        (collectedHandles heap order) = some (collectedHandles heap order') := by
  induction h with
  | nil order => exact ⟨0, fun _ _ => rfl⟩
  | @skip k p es order order' hseen hrest ih =>
    obtain ⟨bound, hbound⟩ := ih
    refine ⟨bound + 1, fun fuel hfuel => ?_⟩
    obtain ⟨fuel, rfl⟩ := Nat.exists_eq_add_of_le' (Nat.le_of_add_left_le hfuel)
    have hstep : collectHandles heap (fuel + 1) k (collectedHandles heap order) =
        some (collectedHandles heap order) := by
      have hmem : k ∈ (order.map Prod.fst).reverse := List.mem_reverse.2 hseen
      unfold collectedHandles
      rw [collectHandles]
      simp only [hplain, if_pos hmem]
    rw [List.map_cons, List.foldlM_cons, hstep]
    exact hbound (fuel + 1) (by omega)
  | @descend k p es order inner order' hnew hinner hrest ihInner ihRest =>
    obtain ⟨bound₁, hbound₁⟩ := ihInner
    obtain ⟨bound₂, hbound₂⟩ := ihRest
    refine ⟨bound₁ + bound₂ + 1, fun fuel hfuel => ?_⟩
    obtain ⟨fuel, rfl⟩ := Nat.exists_eq_add_of_le' (Nat.le_of_add_left_le hfuel)
    have hchildren := hbound₁ fuel (by omega)
    rw [List.map_map] at hchildren
    have hstep : collectHandles heap (fuel + 1) k (collectedHandles heap order) =
        some (collectedHandles heap inner) := by
      rw [collectHandles_enter hplain hown p hnew, ← hchildren]
      simp [Function.comp_def]
    rw [List.map_cons, List.foldlM_cons, hstep]
    exact hbound₂ (fuel + 1) (by omega)

end Handles
end DeltaFunnel
