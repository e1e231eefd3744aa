import DeltaFunnel.QueryEngine.NodeIdentity

/-! The wrappers of an instrumented plan: one for each node, sharing their children as the
nodes do, with the ids of the first-visit preorder. -/

namespace DeltaFunnel
open Graph

variable {ScanMetrics MetricsSet Snapshot ε : Type}

/-- What the instrumentation relies on: `with_new_children` of an operator yields an operator
with the given children and the same name, for a leaf the leaf itself, and builds no wrapper. -/
def RebuildsNodes (withNewChildren : PlanHeap ScanMetrics MetricsSet → ℕ → List ℕ →
    Except ε (PlanHeap ScanMetrics MetricsSet × ℕ)) : Prop :=
  ∀ (heap : PlanHeap ScanMetrics MetricsSet) node operator children,
    heap[node]? = some (.operator operator) → children.length = operator.children.length →
    (∀ child ∈ children, child < heap.length) →
    ∃ (added : List (ExecutionPlanOperator ScanMetrics MetricsSet)) (inner : ℕ)
      (rebuilt : ExecutionPlanOperator ScanMetrics MetricsSet),
      withNewChildren heap node children =
          .ok (heap ++ added.map ExecutionPlan.operator, inner) ∧
        (heap ++ added.map ExecutionPlan.operator)[inner]? = some (.operator rebuilt) ∧
        rebuilt.name = operator.name ∧ rebuilt.children = children ∧
        (children = [] → inner = node)

namespace PhysicalPlan
variable (plan : PhysicalPlan ScanMetrics MetricsSet)

/-- The nodes below the root in first-visit preorder, with their first-visit parents. -/
def listing : List (ℕ × Option ℕ) :=
  firstVisits plan.heap.children plan.nodes.length plan.root

variable {plan}

theorem heap_eq_some {address : ℕ} {operator : ExecutionPlanOperator ScanMetrics MetricsSet} :
    plan.heap[address]? = some (.operator operator) ↔ plan.nodes[address]? = some operator := by
  rw [heap, List.getElem?_map, Option.map_eq_some_iff]
  constructor
  · rintro ⟨other, hother, heq⟩
    rw [hother, ExecutionPlan.operator.inj heq]
  · exact fun h => ⟨operator, h, rfl⟩

theorem exists_operator {address : ℕ} (h : address < plan.nodes.length) :
    ∃ operator, plan.nodes[address]? = some operator :=
  ⟨plan.nodes[address], List.getElem?_eq_getElem h⟩

theorem not_profiled {address : ℕ} {exec : ProfiledOperatorExec} :
    plan.heap[address]? ≠ some (.profiled exec) := by
  intro h
  rw [heap, List.getElem?_map, Option.map_eq_some_iff] at h
  obtain ⟨operator, -, heq⟩ := h
  cases heq

theorem unprofiled (address : ℕ) : plan.heap.unprofiledExecutionPlan address = address := by
  unfold PlanHeap.unprofiledExecutionPlan
  split
  · next exec hexec => exact absurd hexec not_profiled
  · rfl

theorem mem_children {a b : ℕ} : b ∈ plan.heap.children a ↔ ChildIn plan.nodes a b := by
  constructor
  · intro hb
    rcases hnode : plan.nodes[a]? with _ | operator
    · rw [PlanHeap.children, PlanHeap.operatorAt, unprofiled, heap, List.getElem?_map, hnode] at hb
      cases hb
    · rw [PlanHeap.children_operator (heap_eq_some.2 hnode)] at hb
      exact ⟨operator, hnode, hb⟩
  · rintro ⟨operator, hnode, hb⟩
    rw [PlanHeap.children_operator (heap_eq_some.2 hnode)]
    exact hb

theorem child_lt {a b : ℕ} (h : ChildIn plan.nodes a b) : b < plan.nodes.length := by
  obtain ⟨operator, hnode, hb⟩ := h
  exact plan.children_lt operator (List.mem_of_getElem? hnode) b hb

theorem own_handle {address : ℕ} {handle : DeltaProviderReadStatsHandle ScanMetrics}
    (h : deltaDatafusionMetricsForPlan plan.heap address = some handle) :
    handle.planIdentity = address := by
  rcases hnode : plan.nodes[address]? with _ | operator
  · have hnone : plan.heap.operatorAt address = none := by
      rw [PlanHeap.operatorAt, unprofiled, heap, List.getElem?_map, hnode]
      rfl
    unfold deltaDatafusionMetricsForPlan PlanHeap.children at h
    simp only [unprofiled, hnone, Option.elim_none] at h
    cases h
  · rw [PlanHeap.metricsForPlan_operator (heap_eq_some.2 hnode)] at h
    exact ExecutionPlanOperator.planIdentity_scanHandle h

theorem listing_spec :
    FirstVisits plan.heap.children [(plan.root, none)] [] plan.listing ∧
      ∀ address, address ∈ plan.listing.map Prod.fst ↔
        Relation.ReflTransGen (ChildIn plan.nodes) plan.root address := by
  have hknown : ∀ a ∈ Finset.range plan.nodes.length, ∀ b ∈ plan.heap.children a,
      b ∈ Finset.range plan.nodes.length :=
    fun a _ b hb => Finset.mem_range.2 (child_lt (mem_children.1 hb))
  obtain ⟨hvisits, hmem⟩ := firstVisits_spec (by rw [Finset.card_range])
    (Finset.mem_range.2 plan.root_lt) hknown
  have hedge : (fun a b => b ∈ plan.heap.children a) = ChildIn plan.nodes := by
    funext a b
    exact propext mem_children
  rw [hedge] at hmem
  exact ⟨hvisits, hmem⟩

theorem listing_nodup : (plan.listing.map Prod.fst).Nodup :=
  listing_spec.1.nodup List.nodup_nil

theorem listing_lt : ∀ entry ∈ plan.listing, entry.1 < plan.nodes.length := by
  refine listing_spec.1.forall_mem (R := fun address => address < plan.nodes.length)
    (fun a _ b hb => child_lt (mem_children.1 hb)) ?_ (List.forall_mem_nil _)
  intro entry hentry
  rw [List.mem_singleton.1 hentry]
  exact plan.root_lt

theorem listing_closed {a b : ℕ} (ha : a ∈ plan.listing.map Prod.fst)
    (hb : b ∈ plan.heap.children a) : b ∈ plan.listing.map Prod.fst :=
  (listing_spec.2 b).2 (.tail ((listing_spec.2 a).1 ha) (mem_children.1 hb))

theorem listing_parents : ∀ entry ∈ plan.listing, ∀ parent, entry.2 = some parent →
    parent ∈ plan.listing.map Prod.fst ∧ entry.1 ∈ plan.heap.children parent := by
  refine listing_spec.1.parents ?_ (List.forall_mem_nil _)
  intro entry hentry parent hparent
  rw [List.mem_singleton.1 hentry] at hparent
  cases hparent

end PhysicalPlan

section Wrapping
variable (plan : PhysicalPlan ScanMetrics MetricsSet)

/-- `wrapped` is the wrapper of the node `entry.1`, and wraps it with the wrappers of its
children. -/
def WrapsNode (heap : PlanHeap ScanMetrics MetricsSet) (wrapperOf : ℕ → ℕ → Prop)
    (entry : ℕ × Option ℕ) (wrapped : ℕ) : Prop :=
  ∃ operator rebuilt inner,
    plan.nodes[entry.1]? = some operator ∧
      heap[wrapped]? = some (.profiled
        { inner
          operatorName := operator.name
          nodeId := nodeIdIn plan.listing entry.1
          parentNodeId := entry.2.map (nodeIdIn plan.listing)
          recordsDeltaScanOutputWait :=
            (deltaDatafusionMetricsForPlan plan.heap entry.1).isSome }) ∧
      heap[inner]? = some (.operator rebuilt) ∧ rebuilt.name = operator.name ∧
      List.Forall₂ wrapperOf operator.children rebuilt.children ∧
      (operator.children = [] → inner = entry.1)

variable {plan}

theorem WrapsNode.mono {heap heap' : PlanHeap ScanMetrics MetricsSet}
    {wrapperOf wrapperOf' : ℕ → ℕ → Prop} {entry : ℕ × Option ℕ} {wrapped : ℕ}
    (h : WrapsNode plan heap wrapperOf entry wrapped) (hheap : heap <+: heap')
    (hwrapper : ∀ a w, wrapperOf a w → wrapperOf' a w) :
    WrapsNode plan heap' wrapperOf' entry wrapped := by
  have hread : ∀ (address : ℕ) (node : ExecutionPlan ScanMetrics MetricsSet),
      heap[address]? = some node → heap'[address]? = some node := by
    intro address node hnode
    obtain ⟨rest, rfl⟩ := hheap
    exact List.getElem?_append_left (List.getElem?_eq_some_iff.1 hnode).1 ▸ hnode
  obtain ⟨operator, rebuilt, inner, hnode, hwrapped, hinner, hname, hchildren, hleaf⟩ := h
  exact ⟨operator, rebuilt, inner, hnode, hread _ _ hwrapped, hread _ _ hinner, hname,
    hchildren.imp hwrapper, hleaf⟩

theorem metricsForPlan_inner {heap : PlanHeap ScanMetrics MetricsSet} (hheap : plan.heap <+: heap)
    {address inner : ℕ} {operator rebuilt : ExecutionPlanOperator ScanMetrics MetricsSet}
    (hnode : plan.nodes[address]? = some operator)
    (hinner : heap[inner]? = some (.operator rebuilt))
    (hlength : rebuilt.children.length = operator.children.length)
    (hleaf : operator.children = [] → inner = address) :
    deltaDatafusionMetricsForPlan heap inner =
      deltaDatafusionMetricsForPlan plan.heap address := by
  have hstored := PhysicalPlan.heap_eq_some.2 hnode
  rw [PlanHeap.metricsForPlan_operator hinner, PlanHeap.metricsForPlan_operator hstored]
  rcases hempty : operator.children with _ | ⟨child, rest⟩
  · have hsame : heap[address]? = some (.operator operator) := by
      obtain ⟨more, rfl⟩ := hheap
      rw [List.getElem?_append_left (List.getElem?_eq_some_iff.1 hstored).1, hstored]
    rw [hleaf hempty, hsame] at hinner
    rw [hleaf hempty, ExecutionPlan.operator.inj (Option.some.inj hinner)]
  · rw [hempty] at hlength
    obtain ⟨wrapped, wrappers, hwrapped⟩ := List.exists_cons_of_length_eq_add_one hlength
    unfold ExecutionPlanOperator.scanHandle
    rw [hwrapped, hempty]

/-- What holds after the nodes of an order were entered, while those on the path from the root
wait for their children. -/
structure Instrumenting (plan : PhysicalPlan ScanMetrics MetricsSet)
    (order : List (ℕ × Option ℕ)) (path : List ℕ)
    (state : Instrumentation ScanMetrics MetricsSet) : Prop where
  heap : plan.heap <+: state.heap
  next : state.nextNodeId = usizeToU64Saturating order.length
  keys : ∀ address, (∃ wrapped, state.instrumented.lookup address = some wrapped) ↔
    address ∈ order.map Prod.fst ∧ address ∉ path
  wraps : ∀ address wrapped, state.instrumented.lookup address = some wrapped →
    ∃ parent, (address, parent) ∈ plan.listing ∧
      WrapsNode plan state.heap (fun a w => state.instrumented.lookup a = some w)
        (address, parent) wrapped
  injective : ∀ a b wrapped, state.instrumented.lookup a = some wrapped →
    state.instrumented.lookup b = some wrapped → a = b
  only : ∀ wrapped exec, state.heap[wrapped]? = some (.profiled exec) →
    ∃ address, state.instrumented.lookup address = some wrapped

/-- The later state has all nodes and wrappers of the earlier one. -/
def Instrumentation.Extends (state later : Instrumentation ScanMetrics MetricsSet) : Prop :=
  state.heap <+: later.heap ∧
    ∀ address wrapped, state.instrumented.lookup address = some wrapped →
      later.instrumented.lookup address = some wrapped

theorem Instrumenting.lt_length {order : List (ℕ × Option ℕ)} {path : List ℕ}
    {state : Instrumentation ScanMetrics MetricsSet} (h : Instrumenting plan order path state)
    {address wrapped : ℕ} (hlookup : state.instrumented.lookup address = some wrapped) :
    wrapped < state.heap.length := by
  obtain ⟨parent, -, operator, rebuilt, inner, -, hwrapped, -⟩ := h.wraps address wrapped hlookup
  exact (List.getElem?_eq_some_iff.1 hwrapped).1

theorem Instrumenting.enter {order : List (ℕ × Option ℕ)} {path : List ℕ}
    {state : Instrumentation ScanMetrics MetricsSet} (h : Instrumenting plan order path state)
    {address : ℕ} (parent : Option ℕ) (hnew : address ∉ order.map Prod.fst) :
    Instrumenting plan (order ++ [(address, parent)]) (address :: path)
      { state with nextNodeId := saturatingAdd state.nextNodeId 1 } where
  heap := h.heap
  next := by
    show saturatingAdd state.nextNodeId 1 = _
    have hone : (1 : ℕ) = min 1 u64Max := by decide
    rw [h.next, hone, usizeToU64Saturating, saturatingAdd_min, List.length_append]
    rfl
  keys := by
    intro other
    rw [h.keys other, List.map_append, List.mem_append, List.mem_cons]
    constructor
    · rintro ⟨hmem, hpath⟩
      refine ⟨.inl hmem, ?_⟩
      rintro (rfl | hin)
      · exact hnew hmem
      · exact hpath hin
    · rintro ⟨hmem, hpath⟩
      rw [not_or] at hpath
      refine ⟨hmem.resolve_right fun hsame => hpath.1 (by simpa using hsame), hpath.2⟩
  wraps := h.wraps
  injective := h.injective
  only := h.only

/-- The state with a wrapper for the node at `address`. -/
def Instrumentation.wrapping (state : Instrumentation ScanMetrics MetricsSet)
    (heap : PlanHeap ScanMetrics MetricsSet) (address : ℕ) (exec : ProfiledOperatorExec) :
    Instrumentation ScanMetrics MetricsSet :=
  { state with
    heap := heap ++ [.profiled exec]
    instrumented := (address, heap.length) :: state.instrumented }

section Wrapped
variable {order : List (ℕ × Option ℕ)} {path : List ℕ}
  {state : Instrumentation ScanMetrics MetricsSet} {address : ℕ}
  {heap : PlanHeap ScanMetrics MetricsSet} {exec : ProfiledOperatorExec}
  {added : List (ExecutionPlanOperator ScanMetrics MetricsSet)}

theorem lookup_wrapping_self :
    (state.wrapping heap address exec).instrumented.lookup address = some heap.length :=
  List.lookup_cons_self

theorem lookup_wrapping_other {other : ℕ} (hne : other ≠ address) :
    (state.wrapping heap address exec).instrumented.lookup other =
      state.instrumented.lookup other := by
  unfold Instrumentation.wrapping
  rw [List.lookup_cons, beq_false_of_ne hne]

namespace Instrumenting
variable (h : Instrumenting plan order (address :: path) state)
include h

theorem wrapping_extends (hheap : heap = state.heap ++ added.map ExecutionPlan.operator) :
    state.Extends (state.wrapping heap address exec) := by
  constructor
  · rw [hheap]
    exact (List.prefix_append _ _).trans (List.prefix_append _ _)
  · intro other wrapped hlookup
    by_cases hne : other = address
    · rw [hne] at hlookup
      exact absurd (List.mem_cons_self ..) ((h.keys address).1 ⟨wrapped, hlookup⟩).2
    · rw [lookup_wrapping_other hne, hlookup]

theorem wrapping_keys (hmem : address ∈ order.map Prod.fst) (hpath : address ∉ path) (other : ℕ) :
    (∃ wrapped, (state.wrapping heap address exec).instrumented.lookup other = some wrapped) ↔
      other ∈ order.map Prod.fst ∧ other ∉ path := by
  by_cases hne : other = address
  · rw [hne]
    exact ⟨fun _ => ⟨hmem, hpath⟩, fun _ => ⟨_, lookup_wrapping_self⟩⟩
  · rw [lookup_wrapping_other hne, h.keys other, List.mem_cons]
    simp [hne]

theorem wrapping_injective (hheap : heap = state.heap ++ added.map ExecutionPlan.operator)
    {a b wrapped : ℕ}
    (ha : (state.wrapping heap address exec).instrumented.lookup a = some wrapped)
    (hb : (state.wrapping heap address exec).instrumented.lookup b = some wrapped) : a = b := by
  have hfresh : ∀ other, (state.wrapping heap address exec).instrumented.lookup other =
      some heap.length → other = address := by
    intro other hlookup
    by_contra hne
    rw [lookup_wrapping_other hne] at hlookup
    have hlt := h.lt_length hlookup
    rw [hheap, List.length_append] at hlt
    omega
  by_cases hne : a = address
  · rw [hne, lookup_wrapping_self] at ha
    rw [← Option.some.inj ha] at hb
    rw [hne, hfresh b hb]
  · by_cases hne' : b = address
    · rw [hne', lookup_wrapping_self] at hb
      rw [← Option.some.inj hb] at ha
      rw [hne', hfresh a ha]
    · rw [lookup_wrapping_other hne] at ha
      rw [lookup_wrapping_other hne'] at hb
      exact h.injective a b wrapped ha hb

theorem wrapping_only (hheap : heap = state.heap ++ added.map ExecutionPlan.operator)
    {wrapped : ℕ} {found : ProfiledOperatorExec}
    (hfound : (state.wrapping heap address exec).heap[wrapped]? = some (.profiled found)) :
    ∃ other, (state.wrapping heap address exec).instrumented.lookup other = some wrapped := by
  by_cases hlast : wrapped < heap.length
  · have hin : heap[wrapped]? = some (.profiled found) :=
      (List.getElem?_append_left hlast).symm.trans hfound
    by_cases hold : wrapped < state.heap.length
    · rw [hheap, List.getElem?_append_left hold] at hin
      obtain ⟨other, hlookup⟩ := h.only wrapped found hin
      exact ⟨other, (h.wrapping_extends hheap).2 other wrapped hlookup⟩
    · rw [hheap, List.getElem?_append_right (Nat.le_of_not_lt hold), List.getElem?_map,
        Option.map_eq_some_iff] at hin
      obtain ⟨node, -, hnode⟩ := hin
      cases hnode
  · have hlt : wrapped < (heap ++ [ExecutionPlan.profiled exec]).length :=
      (List.getElem?_eq_some_iff.1 hfound).1
    have heq : wrapped = heap.length := by
      rw [List.length_append, List.length_singleton] at hlt
      omega
    exact ⟨address, heq ▸ lookup_wrapping_self⟩

theorem wrap (hmem : address ∈ order.map Prod.fst) (hpath : address ∉ path)
    {parent : Option ℕ} (hlisted : (address, parent) ∈ plan.listing)
    {operator rebuilt : ExecutionPlanOperator ScanMetrics MetricsSet} {inner : ℕ}
    (hheap : heap = state.heap ++ added.map ExecutionPlan.operator)
    (hnode : plan.nodes[address]? = some operator)
    (hinner : heap[inner]? = some (.operator rebuilt)) (hname : rebuilt.name = operator.name)
    (hchildren : List.Forall₂ (fun a w => state.instrumented.lookup a = some w)
      operator.children rebuilt.children)
    (hleaf : operator.children = [] → inner = address)
    (hexec : exec = profiledOperatorExec heap inner (nodeIdIn plan.listing address)
      (parent.map (nodeIdIn plan.listing))) :
    Instrumenting plan order path (state.wrapping heap address exec) ∧
      state.Extends (state.wrapping heap address exec) ∧
      (state.wrapping heap address exec).instrumented.lookup address = some heap.length := by
  have hextends : state.Extends (state.wrapping heap address exec) := h.wrapping_extends hheap
  refine ⟨⟨h.heap.trans hextends.1, h.next, h.wrapping_keys hmem hpath, ?_,
    fun _ _ _ => h.wrapping_injective hheap, fun _ _ => h.wrapping_only hheap⟩, hextends,
    lookup_wrapping_self⟩
  · intro other wrapped hlookup
    by_cases hne : other = address
    · rw [hne, lookup_wrapping_self] at hlookup
      rw [hne, ← Option.some.inj hlookup]
      have hread : (state.wrapping heap address exec).heap[inner]? = some (.operator rebuilt) :=
        (List.getElem?_append_left (List.getElem?_eq_some_iff.1 hinner).1).trans hinner
      have hscan : deltaDatafusionMetricsForPlan heap inner =
          deltaDatafusionMetricsForPlan plan.heap address :=
        metricsForPlan_inner (h.heap.trans (hheap ▸ List.prefix_append _ _)) hnode hinner
          hchildren.length_eq.symm hleaf
      refine ⟨parent, hlisted, operator, rebuilt, inner, hnode, ?_, hread, hname,
        hchildren.imp hextends.2, hleaf⟩
      show (heap ++ [ExecutionPlan.profiled exec])[heap.length]? = _
      rw [List.getElem?_append_right (Nat.le_refl _), Nat.sub_self, hexec, profiledOperatorExec,
        PlanHeap.name_operator hinner, hname, hscan]
      rfl
    · rw [lookup_wrapping_other hne] at hlookup
      obtain ⟨other', hlisted', hwraps⟩ := h.wraps other wrapped hlookup
      exact ⟨other', hlisted', hwraps.mono hextends.1 hextends.2⟩

end Instrumenting
end Wrapped

section Runs
variable {withNewChildren : PlanHeap ScanMetrics MetricsSet → ℕ → List ℕ →
  Except ε (PlanHeap ScanMetrics MetricsSet × ℕ)}

theorem Instrumentation.Extends.trans {state later last : Instrumentation ScanMetrics MetricsSet}
    (h : state.Extends later) (h' : later.Extends last) : state.Extends last :=
  ⟨h.1.trans h'.1, fun a w hlookup => h'.2 a w (h.2 a w hlookup)⟩

/-- The run over some children, all with one parent. -/
def instrumentChildren (withNewChildren : PlanHeap ScanMetrics MetricsSet → ℕ → List ℕ →
      Except ε (PlanHeap ScanMetrics MetricsSet × ℕ))
    (fuel : ℕ) (parentNodeId : Option ℕ) (children : List ℕ)
    (found : List ℕ × Instrumentation ScanMetrics MetricsSet) :
    ExceptT ε Option (List ℕ × Instrumentation ScanMetrics MetricsSet) :=
  children.foldlM (instrumentChild fun child =>
    instrumentQueryExecutionNode withNewChildren fuel child parentNodeId) found

theorem instrumentChildren_cons {fuel : ℕ} {parentNodeId : Option ℕ} {child wrapped : ℕ}
    {children done : List ℕ} {state later : Instrumentation ScanMetrics MetricsSet}
    (h : instrumentQueryExecutionNode withNewChildren fuel child parentNodeId state =
      pure (wrapped, later)) :
    instrumentChildren withNewChildren fuel parentNodeId (child :: children) (done, state) =
      instrumentChildren withNewChildren fuel parentNodeId children (done ++ [wrapped], later) := by
  have hchild : instrumentChild (fun child =>
      instrumentQueryExecutionNode withNewChildren fuel child parentNodeId) (done, state) child =
        pure (done ++ [wrapped], later) := by
    unfold instrumentChild
    dsimp only
    rw [h, pure_bind]
  unfold instrumentChildren
  rw [List.foldlM_cons, hchild, pure_bind]

theorem instrumentNode_known {fuel : ℕ} {parentNodeId : Option ℕ} {address wrapped : ℕ}
    {state : Instrumentation ScanMetrics MetricsSet}
    (h : state.instrumented.lookup address = some wrapped) :
    instrumentQueryExecutionNode withNewChildren (fuel + 1) address parentNodeId state =
      pure (wrapped, state) := by
  rw [instrumentQueryExecutionNode, h]

theorem instrumentNode_wrap {fuel : ℕ} {parentNodeId : Option ℕ} {address inner : ℕ}
    {wrappers : List ℕ} {state later : Instrumentation ScanMetrics MetricsSet}
    {heap : PlanHeap ScanMetrics MetricsSet}
    (hnew : state.instrumented.lookup address = none)
    (hchildren : instrumentChildren withNewChildren fuel (some state.nextNodeId)
      (state.heap.children address)
      ([], { state with nextNodeId := saturatingAdd state.nextNodeId 1 }) = pure (wrappers, later))
    (hrebuilt : withNewChildren later.heap address wrappers = .ok (heap, inner)) :
    instrumentQueryExecutionNode withNewChildren (fuel + 1) address parentNodeId state =
      pure (heap.length, later.wrapping heap address
        (profiledOperatorExec heap inner state.nextNodeId parentNodeId)) := by
  unfold instrumentChildren at hchildren
  rw [instrumentQueryExecutionNode, hnew]
  dsimp only
  rw [hchildren, pure_bind]
  dsimp only
  rw [hrebuilt]
  rfl

/-- The recursion enters the nodes in first-visit preorder and wraps each behind its children. -/
theorem instrument_visits (hrebuilds : RebuildsNodes withNewChildren)
    {es order order' : List (ℕ × Option ℕ)} (h : FirstVisits plan.heap.children es order order')
    (hlisting : order' <+: plan.listing) :
    ∀ (children : List ℕ) (parent : Option ℕ) (path : List ℕ)
      (state : Instrumentation ScanMetrics MetricsSet) (done : List ℕ),
      es = children.map (·, parent) → Instrumenting plan order path state →
      (∀ child ∈ children, ∀ above ∈ path,
        ¬ Relation.ReflTransGen (ChildIn plan.nodes) child above) →
      ∃ bound wrappers later,
        (∀ fuel ≥ bound, instrumentChildren withNewChildren fuel
          (parent.map (nodeIdIn plan.listing)) children (done, state) =
            pure (done ++ wrappers, later)) ∧
          Instrumenting plan order' path later ∧ state.Extends later ∧
          List.Forall₂ (fun a w => later.instrumented.lookup a = some w) children wrappers := by
  induction h with
  | nil order =>
    intro children parent path state done hes hstate _
    obtain rfl := List.map_eq_nil_iff.1 hes.symm
    refine ⟨0, [], state, fun fuel _ => ?_, hstate, ⟨List.prefix_refl _, fun _ _ h => h⟩, .nil⟩
    rw [List.append_nil]
    rfl
  | @skip k p es order order' hseen hrest ih =>
    intro children parent path state done hes hstate habove
    obtain ⟨child, rest, rfl, hchild, hrestEdges⟩ := List.map_eq_cons_iff.1 hes.symm
    obtain ⟨rfl, rfl⟩ := Prod.mk.inj hchild
    have hpath : child ∉ path := fun hin => habove child (List.mem_cons_self ..) child hin .refl
    obtain ⟨wrapped, hwrapped⟩ := (hstate.keys child).2 ⟨hseen, hpath⟩
    obtain ⟨bound, wrappers, later, hrun, hlater, hext, hwrappers⟩ :=
      ih hlisting rest parent path state (done ++ [wrapped]) hrestEdges.symm hstate
        fun other hother => habove other (List.mem_cons_of_mem _ hother)
    refine ⟨bound + 1, wrapped :: wrappers, later, fun fuel hfuel => ?_, hlater, hext,
      .cons (hext.2 child wrapped hwrapped) hwrappers⟩
    obtain ⟨fuel, rfl⟩ := Nat.exists_eq_add_of_le' (Nat.le_of_add_left_le hfuel)
    rw [instrumentChildren_cons (instrumentNode_known hwrapped), hrun (fuel + 1) (by omega),
      List.append_assoc, List.singleton_append]
  | @descend k p es order inner order' hnew hinner hrest ihInner ihRest =>
    intro children parent path state done hes hstate habove
    obtain ⟨child, rest, rfl, hchild, hrestEdges⟩ := List.map_eq_cons_iff.1 hes.symm
    obtain ⟨rfl, rfl⟩ := Prod.mk.inj hchild
    have hinnerListing : inner <+: plan.listing := hrest.prefix_order.trans hlisting
    have hentered : order ++ [(child, parent)] <+: plan.listing :=
      hinner.prefix_order.trans hinnerListing
    have hlisted : (child, parent) ∈ plan.listing := hentered.subset (by simp)
    have hpath : child ∉ path := fun hin => habove child (List.mem_cons_self ..) child hin .refl
    have hunset : state.instrumented.lookup child = none := by
      rcases hlookup : state.instrumented.lookup child with _ | wrapped
      · rfl
      · exact absurd ((hstate.keys child).1 ⟨wrapped, hlookup⟩).1 hnew
    obtain ⟨operator, hnode⟩ := plan.exists_operator (PhysicalPlan.listing_lt _ hlisted)
    have hstored := PhysicalPlan.heap_eq_some.2 hnode
    have hbehind : plan.heap.children child = operator.children :=
      PlanHeap.children_operator hstored
    -- no node on the path is below a child, since no node is below itself
    have hbelow : ∀ other ∈ plan.heap.children child, ∀ above ∈ child :: path,
        ¬ Relation.ReflTransGen (ChildIn plan.nodes) other above := by
      intro other hother above habove' hreach
      have hedge := PhysicalPlan.mem_children.1 hother
      rcases List.mem_cons.1 habove' with rfl | hin
      · exact plan.acyclic _ (.head' hedge hreach)
      · exact habove child (List.mem_cons_self ..) above hin (.head hedge hreach)
    obtain ⟨bound₁, wrappers, later, hrun₁, hlater, hext₁, hwrappers⟩ :=
      ihInner hinnerListing (plan.heap.children child) (some child) (child :: path) _ [] rfl
        (hstate.enter parent hnew) hbelow
    have hread : ∀ (heap : PlanHeap ScanMetrics MetricsSet), plan.heap <+: heap →
        heap[child]? = some (.operator operator) := by
      rintro heap ⟨more, rfl⟩
      rw [List.getElem?_append_left (List.getElem?_eq_some_iff.1 hstored).1, hstored]
    rw [hbehind] at hwrappers
    obtain ⟨added, wrapped, rebuilt, hrebuilt, hat, hname, hsame, hleaf⟩ :=
      hrebuilds later.heap child operator wrappers (hread _ hlater.heap)
        hwrappers.length_eq.symm
        (by
          intro wrapper hwrapper
          obtain ⟨i, hi, rfl⟩ := List.mem_iff_getElem.1 hwrapper
          have hi' : i < operator.children.length := hwrappers.length_eq ▸ hi
          exact hlater.lt_length (hwrappers.get hi' hi))
    have hmem : child ∈ inner.map Prod.fst := hinner.keys_subset (by simp)
    have hid : state.nextNodeId = nodeIdIn plan.listing child := by
      rw [nodeIdIn_final hentered hnew, hstate.next]
    obtain ⟨hwrapped, hext₂, hlookup⟩ := hlater.wrap hmem hpath hlisted rfl hnode hat hname
      (hsame.symm ▸ hwrappers)
      (fun hnone => hleaf (List.length_eq_zero_iff.1 (by
        rw [← hwrappers.length_eq, hnone, List.length_nil]))) rfl
    obtain ⟨bound₂, wrappers', last, hrun₂, hlast, hext₃, hwrappers'⟩ :=
      ihRest hlisting rest parent path _
        (done ++ [(later.heap ++ added.map ExecutionPlan.operator).length]) hrestEdges.symm hwrapped
        fun other hother => habove other (List.mem_cons_of_mem _ hother)
    refine ⟨bound₁ + bound₂ + 1, _ :: wrappers', last, fun fuel hfuel => ?_, hlast,
      (show state.Extends later from hext₁).trans (hext₂.trans hext₃),
      .cons (hext₃.2 _ _ hlookup) hwrappers'⟩
    obtain ⟨fuel, rfl⟩ := Nat.exists_eq_add_of_le' (Nat.le_of_add_left_le hfuel)
    have hchildren := hrun₁ fuel (by omega)
    rw [Option.map_some, ← hid, List.nil_append, hbehind,
      ← PlanHeap.children_operator (hread _ hstate.heap)] at hchildren
    rw [instrumentChildren_cons (instrumentNode_wrap hunset hchildren hrebuilt), hid,
      hrun₂ (fuel + 1) (by omega), List.append_assoc, List.singleton_append]

end Runs

end Wrapping
end DeltaFunnel
