import DeltaFunnel.Session.QueryCompletion
import DeltaFunnel.Support
import Mathlib.Logic.Relation

/-! Physical plans as nodes of a heap that may share their children, the wrappers that
instrument them, and the handles and operator profiles collected from a root. -/

namespace DeltaFunnel

variable {ScanMetrics MetricsSet Snapshot ε : Type}

/-- An operator of the query engine, with the addresses of its children. -/
structure ExecutionPlanOperator (ScanMetrics MetricsSet : Type) where
  name : String
  children : List ℕ
  outputPartitionCount : ℕ
  metrics : Option MetricsSet
  /-- What `collect_scan_metrics` finds there. -/
  scanMetrics : List ScanMetrics
  deriving DecidableEq

structure ProfiledOperatorExec where
  inner : ℕ
  operatorName : String
  nodeId : ℕ
  parentNodeId : Option ℕ
  recordsDeltaScanOutputWait : Bool
  deriving DecidableEq

inductive ExecutionPlan (ScanMetrics MetricsSet : Type) where
  | operator (operator : ExecutionPlanOperator ScanMetrics MetricsSet)
  | profiled (exec : ProfiledOperatorExec)
  deriving DecidableEq

/-- The nodes at their addresses. A node stays where it is once it is allocated. -/
abbrev PlanHeap (ScanMetrics MetricsSet : Type) := List (ExecutionPlan ScanMetrics MetricsSet)

def ChildIn (nodes : List (ExecutionPlanOperator ScanMetrics MetricsSet)) (a b : ℕ) : Prop :=
  ∃ operator, nodes[a]? = some operator ∧ b ∈ operator.children

/-- A plan as the query engine built it: nothing is wrapped, and no node is below itself. -/
structure PhysicalPlan (ScanMetrics MetricsSet : Type) where
  nodes : List (ExecutionPlanOperator ScanMetrics MetricsSet)
  root : ℕ
  root_lt : root < nodes.length
  children_lt : ∀ node ∈ nodes, ∀ child ∈ node.children, child < nodes.length
  acyclic : ∀ a, ¬ Relation.TransGen (ChildIn nodes) a a

def PhysicalPlan.heap (plan : PhysicalPlan ScanMetrics MetricsSet) :
    PlanHeap ScanMetrics MetricsSet := plan.nodes.map .operator

namespace PlanHeap

def unprofiledExecutionPlan (heap : PlanHeap ScanMetrics MetricsSet) (plan : ℕ) : ℕ :=
  match heap[plan]? with
  | some (.profiled exec) => exec.inner
  | _ => plan

/-- The operator that answers for a node: a wrapper passes on to its inner one. -/
def operatorAt (heap : PlanHeap ScanMetrics MetricsSet) (plan : ℕ) :
    Option (ExecutionPlanOperator ScanMetrics MetricsSet) :=
  match heap[unprofiledExecutionPlan heap plan]? with
  | some (.operator operator) => some operator
  | _ => none

def name (heap : PlanHeap ScanMetrics MetricsSet) (plan : ℕ) : String :=
  match heap[plan]? with
  | some (.operator operator) => operator.name
  | some (.profiled exec) => exec.operatorName
  | none => ""

def children (heap : PlanHeap ScanMetrics MetricsSet) (plan : ℕ) : List ℕ :=
  (heap.operatorAt plan).elim [] (·.children)

end PlanHeap

structure DeltaProviderReadStatsHandle (ScanMetrics : Type) where
  metrics : ScanMetrics
  planIdentity : ℕ
  deriving DecidableEq

def DeltaProviderReadStatsHandle.sameInstance
    (handle other : DeltaProviderReadStatsHandle ScanMetrics) : Bool :=
  handle.planIdentity == other.planIdentity

structure ScanMetricsReader (ScanMetrics Snapshot : Type) where
  snapshot : ScanMetrics → Snapshot
  registrationName : ScanMetrics → Option String

def ScanMetricsReader.stats (reader : ScanMetricsReader ScanMetrics Snapshot) :
    DeltaProviderReadStats (DeltaProviderReadStatsHandle ScanMetrics) Snapshot where
  snapshot handle := reader.snapshot handle.metrics
  sourceName handle := reader.registrationName handle.metrics
  sameInstance := DeltaProviderReadStatsHandle.sameInstance

/-- Only a leaf with the metrics of one scan has a handle. -/
def deltaDatafusionMetricsForPlan (heap : PlanHeap ScanMetrics MetricsSet) (plan : ℕ) :
    Option (DeltaProviderReadStatsHandle ScanMetrics) :=
  let plan := heap.unprofiledExecutionPlan plan
  if (heap.children plan).isEmpty then
    match (heap.operatorAt plan).elim [] (·.scanMetrics) with
    | [metrics] => some ⟨metrics, plan⟩
    | _ => none
  else none

/-- The nested `collect`; `none` once more than `fuel` calls are nested. -/
def collectHandles (heap : PlanHeap ScanMetrics MetricsSet) : ℕ → ℕ →
    List ℕ × List (DeltaProviderReadStatsHandle ScanMetrics) →
      Option (List ℕ × List (DeltaProviderReadStatsHandle ScanMetrics))
  | 0, _, _ => none
  | fuel + 1, plan, (seen, found) =>
    let plan := heap.unprofiledExecutionPlan plan
    if plan ∈ seen then some (seen, found)
    else
      let found := match deltaDatafusionMetricsForPlan heap plan with
        | some handle =>
          if found.any (·.sameInstance handle) then found else found ++ [handle]
        | none => found
      (heap.children plan).foldlM (fun state child => collectHandles heap fuel child state)
        (plan :: seen, found)

def collectDeltaProviderReadStatsHandles (fuel : ℕ) (heap : PlanHeap ScanMetrics MetricsSet)
    (plan : ℕ) : Option (List (DeltaProviderReadStatsHandle ScanMetrics)) :=
  (collectHandles heap fuel plan ([], [])).map Prod.snd

inductive QueryExecutionScope where
  | preview
  | mssqlOutput
  | writeAllCacheAlias
  deriving DecidableEq

inductive QueryExecutionOutcome where
  | success
  | error
  | cancelled
  deriving DecidableEq

structure QueryExecutionOperatorProfile (MetricsSet Snapshot : Type) where
  nodeId : ℕ
  parentNodeId : Option ℕ
  operatorName : String
  outputPartitionCount : ℕ
  metrics : Option MetricsSet
  deltaProviderSourceName : Option String
  deltaProviderReadStats : Option Snapshot
  deriving DecidableEq

structure QueryExecutionProfile (MetricsSet Snapshot : Type) where
  scope : QueryExecutionScope
  outcome : QueryExecutionOutcome
  deltaFunnelRowLimit : Option ℕ
  operators : List (QueryExecutionOperatorProfile MetricsSet Snapshot)
  deriving DecidableEq

/-- The snapshots of a profile: those supplied for its handles, or those taken on the way. -/
abbrev DeltaDataFusionMetricsSnapshotSet (ScanMetrics Snapshot : Type) :=
  List (DeltaProviderReadStatsHandle ScanMetrics × Snapshot)

section Profile
variable (reader : ScanMetricsReader ScanMetrics Snapshot)

/-- Also the fallback snapshots from there on. -/
def providerSnapshot (heap : PlanHeap ScanMetrics MetricsSet) (plan : ℕ)
    (supplied : Option (DeltaDataFusionMetricsSnapshotSet ScanMetrics Snapshot))
    (fallback : DeltaDataFusionMetricsSnapshotSet ScanMetrics Snapshot) :
    Option (Option String × Snapshot) × DeltaDataFusionMetricsSnapshotSet ScanMetrics Snapshot :=
  match deltaDatafusionMetricsForPlan heap (heap.unprofiledExecutionPlan plan) with
  | none => (none, fallback)
  | some handle =>
    let sourceName := reader.registrationName handle.metrics
    match supplied with
    | some supplied =>
      ((supplied.find? (·.1.sameInstance handle)).map fun known => (sourceName, known.2), fallback)
    | none =>
      match fallback.find? (·.1.sameInstance handle) with
      | some known => (some (sourceName, known.2), fallback)
      | none =>
        let snapshot := reader.snapshot handle.metrics
        (some (sourceName, snapshot), fallback ++ [(handle, snapshot)])

structure ProfileCollection (ScanMetrics MetricsSet Snapshot : Type) where
  seen : List ℕ
  fallback : DeltaDataFusionMetricsSnapshotSet ScanMetrics Snapshot
  operators : List (QueryExecutionOperatorProfile MetricsSet Snapshot)

/-- The loop over the stack, whose top is the head of the list. -/
def collectOperators (heap : PlanHeap ScanMetrics MetricsSet)
    (supplied : Option (DeltaDataFusionMetricsSnapshotSet ScanMetrics Snapshot)) : ℕ →
    List (ℕ × Option ℕ) → ProfileCollection ScanMetrics MetricsSet Snapshot →
      Option (List (QueryExecutionOperatorProfile MetricsSet Snapshot))
  | 0, _, _ => none
  | _ + 1, [], found => some found.operators
  | fuel + 1, (plan, parentNodeId) :: stack, found =>
    if plan ∈ found.seen then collectOperators heap supplied fuel stack found
    else
      let nodeId := usizeToU64Saturating found.operators.length
      let operator := heap.operatorAt plan
      let (provider, fallback) := providerSnapshot reader heap plan supplied found.fallback
      collectOperators heap supplied fuel
        ((heap.children plan).map (·, some nodeId) ++ stack)
        { seen := plan :: found.seen
          fallback
          operators := found.operators ++
            [{ nodeId
               parentNodeId
               operatorName := heap.name plan
               outputPartitionCount :=
                usizeToU64Saturating (operator.elim 0 (·.outputPartitionCount))
               metrics := operator.bind (·.metrics)
               deltaProviderSourceName := provider.bind (·.1)
               deltaProviderReadStats := provider.map (·.2) }] }

def collectQueryExecutionProfile (fuel : ℕ) (heap : PlanHeap ScanMetrics MetricsSet) (root : ℕ)
    (scope : QueryExecutionScope) (outcome : QueryExecutionOutcome) (deltaFunnelRowLimit : ℕ)
    (terminalProviderSnapshots : Option (DeltaDataFusionMetricsSnapshotSet ScanMetrics Snapshot)) :
    Option (QueryExecutionProfile MetricsSet Snapshot) := do
  let operators ← collectOperators reader heap terminalProviderSnapshots fuel [(root, none)]
    ⟨[], [], []⟩
  match scope with
  | .preview => some ⟨.preview, outcome, some deltaFunnelRowLimit, operators⟩
  | .mssqlOutput => some ⟨.mssqlOutput, outcome, none, operators⟩
  | .writeAllCacheAlias => some ⟨.writeAllCacheAlias, outcome, none, operators⟩

end Profile

/-- The nodes, the next node id, and the wrapper of each node wrapped so far. -/
structure Instrumentation (ScanMetrics MetricsSet : Type) where
  heap : PlanHeap ScanMetrics MetricsSet
  nextNodeId : ℕ
  instrumented : List (ℕ × ℕ)

section Instrumentation

-- The engine's `with_new_children`: the heap afterwards and the address of the result.
variable (withNewChildren : PlanHeap ScanMetrics MetricsSet → ℕ → List ℕ →
  Except ε (PlanHeap ScanMetrics MetricsSet × ℕ))

def instrumentChild
    (instrument : ℕ → Instrumentation ScanMetrics MetricsSet →
      ExceptT ε Option (ℕ × Instrumentation ScanMetrics MetricsSet))
    (found : List ℕ × Instrumentation ScanMetrics MetricsSet) (child : ℕ) :
    ExceptT ε Option (List ℕ × Instrumentation ScanMetrics MetricsSet) := do
  let (child, state) ← instrument child found.2
  pure (found.1 ++ [child], state)

def profiledOperatorExec (heap : PlanHeap ScanMetrics MetricsSet) (inner nodeId : ℕ)
    (parentNodeId : Option ℕ) : ProfiledOperatorExec where
  inner
  operatorName := heap.name inner
  nodeId
  parentNodeId
  recordsDeltaScanOutputWait := (deltaDatafusionMetricsForPlan heap inner).isSome

/-- Out of fuel is `none` below the error. -/
def instrumentQueryExecutionNode : ℕ → ℕ → Option ℕ → Instrumentation ScanMetrics MetricsSet →
    ExceptT ε Option (ℕ × Instrumentation ScanMetrics MetricsSet)
  | 0, _, _, _ => ExceptT.mk none
  | fuel + 1, plan, parentNodeId, state =>
    match state.instrumented.lookup plan with
    | some wrapped => pure (wrapped, state)
    | none => do
      let nodeId := state.nextNodeId
      let (children, state) ← (state.heap.children plan).foldlM
        (instrumentChild fun child => instrumentQueryExecutionNode fuel child (some nodeId))
        ([], { state with nextNodeId := saturatingAdd nodeId 1 })
      let (heap, inner) ← ExceptT.mk (some (withNewChildren state.heap plan children))
      let wrapped := heap.length
      pure (wrapped,
        { state with
          heap := heap ++ [.profiled (profiledOperatorExec heap inner nodeId parentNodeId)]
          instrumented := (plan, wrapped) :: state.instrumented })

def instrumentQueryExecutionPlan (fuel : ℕ) (heap : PlanHeap ScanMetrics MetricsSet) (root : ℕ) :
    ExceptT ε Option (PlanHeap ScanMetrics MetricsSet × ℕ) := do
  let (root, state) ← instrumentQueryExecutionNode withNewChildren fuel root none ⟨heap, 0, []⟩
  pure (state.heap, root)

end Instrumentation
end DeltaFunnel
