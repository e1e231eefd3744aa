import DeltaFunnel.Support
import Mathlib.Logic.Function.Basic

/-! The tracing layer of a profile, from span callbacks to Perfetto track events. -/

namespace DeltaFunnel

structure SemanticTrack where
  name : String
  uuid : ℕ
  parentUuid : ℕ
  siblingOrderRank : ℕ
  deriving DecidableEq, Repr

/-- The track identifiers that the Perfetto SDK gives out. -/
structure PerfettoTracks where
  processTrackUuid : ℕ
  namedTrackUuid : String → ℕ → ℕ → ℕ

/-- `{id:020}`. -/
def paddedId (id : ℕ) : String := String.ofList (List.leftpad 20 '0' (toString id).toList)

def operationToken (id : ℕ) : String := "op-" ++ paddedId id
def queryToken (id : ℕ) : String := "q-" ++ paddedId id
def workerToken (id : ℕ) : String := "w-" ++ paddedId id
def streamToken (id : ℕ) : String := "s-" ++ paddedId id
def ownerToken (id : ℕ) : String := "o-" ++ paddedId id

def deltaScanOutputSiblingOrderBase : ℕ := 1000000

namespace PerfettoTracks
variable (tracks : PerfettoTracks)

def semanticTrack (name : String) (id parentUuid siblingOrderRank : ℕ) : SemanticTrack :=
  { name
    uuid := tracks.namedTrackUuid name id parentUuid
    parentUuid
    siblingOrderRank }

def diagnosticsTrack (processUuid : ℕ) : SemanticTrack :=
  tracks.semanticTrack "Delta Funnel diagnostics" 0 processUuid 10

def operationTrack (operationId diagnosticsUuid : ℕ) : SemanticTrack :=
  tracks.semanticTrack ("Operation [" ++ operationToken operationId ++ "]") operationId
    diagnosticsUuid operationId

def phaseTrack (operationId operationUuid : ℕ) : SemanticTrack :=
  tracks.semanticTrack ("Operation [" ++ operationToken operationId ++ "] / phases") 0
    operationUuid 10

def planningTrack (operationId queryExecutionId phasesUuid : ℕ) : SemanticTrack :=
  tracks.semanticTrack
    ("Operation [" ++ operationToken operationId ++ "] / query [" ++
      queryToken queryExecutionId ++ "] / planning")
    queryExecutionId phasesUuid (saturatingAdd 20 queryExecutionId)

def ownerTrack (operationId ownerId operationUuid : ℕ) : SemanticTrack :=
  tracks.semanticTrack
    ("Operation [" ++ operationToken operationId ++ "] / owner [" ++ ownerToken ownerId ++ "]")
    ownerId operationUuid (saturatingAdd 30 ownerId)

def queryTrack (operationId queryExecutionId operationUuid : ℕ) : SemanticTrack :=
  tracks.semanticTrack
    ("Operation [" ++ operationToken operationId ++ "] / query [" ++
      queryToken queryExecutionId ++ "]")
    queryExecutionId operationUuid (saturatingAdd 20 queryExecutionId)

def workerTrack (operationId queryExecutionId workerLaneId queryUuid siblingOrderRank : ℕ) :
    SemanticTrack :=
  tracks.semanticTrack
    ("Operation [" ++ operationToken operationId ++ "] / query [" ++
      queryToken queryExecutionId ++ "] / worker [" ++ workerToken workerLaneId ++ "]")
    workerLaneId queryUuid siblingOrderRank

def deltaScanOutputTrack (operationId queryExecutionId executionStreamId queryUuid : ℕ) :
    SemanticTrack :=
  tracks.semanticTrack
    ("Operation [" ++ operationToken operationId ++ "] / query [" ++
      queryToken queryExecutionId ++ "] / Delta scan output [" ++
      streamToken executionStreamId ++ "]")
    executionStreamId queryUuid
    (saturatingAdd deltaScanOutputSiblingOrderBase executionStreamId)

end PerfettoTracks

def profileTarget : String := "delta_funnel::profile"
def tiberiusProfileTarget : String := "tiberius_raw_bulk::protocol"
def deltaArrowReaderProfileTarget : String := "delta_arrow_reader::profile"

def deltaArrowReaderSpans : List String :=
  ["Delta scan planning", "Delta projection planning", "Delta filter planning",
    "Delta Kernel scan construction", "Delta scan metadata expansion",
    "Delta file task partitioning", "Delta partition target selection",
    "Delta scan execution setup", "Delta partition task", "Object store transport"]

def dependencySpanLabel (target name : String) : Option String :=
  if target = tiberiusProfileTarget then
    if name = "protocol.bulk_load.finalize.prepare" then some "Prepare final bulk packet"
    else if name = "protocol.bulk_load.finalize.write" then some "Write final bulk packet"
    else if name = "protocol.bulk_load.finalize.flush" then some "Flush SQL Server connection"
    else if name = "protocol.bulk_load.finalize.result" then some "Await SQL Server result"
    else none
  else if target = deltaArrowReaderProfileTarget ∧ name ∈ deltaArrowReaderSpans then some name
  else none

/-- A value recorded on a span; all that is neither a `u64` nor a text arrives as `debug`. -/
inductive FieldValue where
  | u64 (value : ℕ)
  | str (value : String)
  | debug

structure ProfileFields where
  operationId : Option ℕ := none
  captureScopeId : Option ℕ := none
  queryExecutionId : Option ℕ := none
  queryScope : Option String := none
  queryOwner : Option String := none
  workerLaneId : Option ℕ := none
  workerKind : Option String := none
  nodeId : Option ℕ := none
  parentNodeId : Option ℕ := none
  operatorPartition : Option ℕ := none
  executionStreamId : Option ℕ := none
  activity : Option String := none
  planningActivityName : Option String := none
  executionActivityName : Option String := none
  maximumSpans : Option ℕ := none
  operatorName : Option String := none
  phase : Option String := none
  operationKind : Option String := none
  stageName : Option String := none
  stageCategory : Option String := none
  stageOwnerId : Option ℕ := none
  result : Option String := none
  timeSemantics : Option String := none
  deriving DecidableEq

namespace ProfileFields

def recordU64 (fields : ProfileFields) (name : String) (value : ℕ) : ProfileFields :=
  match name with
  | "operation_id" => { fields with operationId := some value }
  | "capture_scope_id" => { fields with captureScopeId := if value = 0 then none else some value }
  | "query_execution_id" => { fields with queryExecutionId := some value }
  | "worker_lane_id" => { fields with workerLaneId := some value }
  | "node_id" => { fields with nodeId := some value }
  | "parent_node_id" => { fields with parentNodeId := some value }
  | "operator_partition" => { fields with operatorPartition := some value }
  | "execution_stream_id" => { fields with executionStreamId := some value }
  | "maximum_spans" => { fields with maximumSpans := some value }
  | "stage_owner_id" => { fields with stageOwnerId := some value }
  | _ => fields

def recordStr (fields : ProfileFields) (name value : String) : ProfileFields :=
  match name with
  | "query_scope" => { fields with queryScope := some value }
  | "query_owner" => { fields with queryOwner := some value }
  | "worker_kind" => { fields with workerKind := some value }
  | "activity" => { fields with activity := some value }
  | "planning_activity_name" => { fields with planningActivityName := some value }
  | "execution_activity_name" => { fields with executionActivityName := some value }
  | "operator_name" => { fields with operatorName := some value }
  | "phase" => { fields with phase := some value }
  | "operation_kind" => { fields with operationKind := some value }
  | "stage_name" => { fields with stageName := some value }
  | "stage_category" => { fields with stageCategory := some value }
  | "result" => { fields with result := some value }
  | "time_semantics" => { fields with timeSemantics := some value }
  | _ => fields

def visit (fields : ProfileFields) : String × FieldValue → ProfileFields
  | (name, .u64 value) => fields.recordU64 name value
  | (name, .str value) => fields.recordStr name value
  | (_, .debug) => fields

def ofValues (values : List (String × FieldValue)) : ProfileFields :=
  values.foldl visit {}

end ProfileFields

inductive OperationKind where
  | preview | mssqlWrite | writeAll
  deriving DecidableEq

def OperationKind.name : OperationKind → String
  | .preview => "Delta Funnel preview"
  | .mssqlWrite => "Delta Funnel SQL Server write"
  | .writeAll => "Delta Funnel SQL Server write_all"

def OperationKind.fromStr (value : String) : Option OperationKind :=
  match value with
  | "preview" => some .preview
  | "mssql_write" => some .mssqlWrite
  | "write_all" => some .writeAll
  | _ => none

inductive OperationPhaseKind where
  | planning | execution | finalization
  deriving DecidableEq

def OperationPhaseKind.name : OperationPhaseKind → String
  | .planning => "Planning"
  | .execution => "Execution"
  | .finalization => "Finalization"

def OperationPhaseKind.fromStr (value : String) : Option OperationPhaseKind :=
  match value with
  | "planning" => some .planning
  | "execution" => some .execution
  | "finalization" => some .finalization
  | _ => none

inductive ProfileEvent where
  | operation (kind : OperationKind) (diagnostics operation : SemanticTrack)
  | planning (planning query : SemanticTrack)
  | planningActivity (name : String) (planning : SemanticTrack)
  | executionActivity (name : String) (output : SemanticTrack)
  | phase (kind : OperationPhaseKind) (phases : SemanticTrack)
  | stage (name : String) (track : SemanticTrack)
  | detail (name : String) (track : SemanticTrack)
  | operator (name : String) (worker : SemanticTrack)
  | taskContext (name : String)

namespace ProfileEvent

def name : ProfileEvent → String
  | .operation kind _ _ => kind.name
  | .planning _ _ => "DataFusion query planning"
  | .planningActivity name _ | .executionActivity name _ | .stage name _ | .detail name _
  | .operator name _ | .taskContext name => name
  | .phase kind _ => kind.name

def isOperation : ProfileEvent → Bool
  | .operation _ _ _ => true
  | _ => false

def isTaskContext : ProfileEvent → Bool
  | .taskContext _ => true
  | _ => false

def isPlanningActivity : ProfileEvent → Bool
  | .planningActivity _ _ => true
  | _ => false

end ProfileEvent

structure ActiveProfileSpan where
  event : ProfileEvent
  fields : ProfileFields
  profileContextId : Option ℕ
  profileContextIdentityDirty : Bool

inductive DebugArg where
  | uint64 (value : ℕ)
  | string (value : String)
  deriving DecidableEq

/-- What a callback hands to Perfetto. The begin and end events name the span of their
callback, those of the context category also its thread. -/
inductive TraceEvent (T : Type) where
  | instant (name : String) (track : SemanticTrack) (args : List (String × DebugArg))
  | profileBegin (span : ℕ) (name : String) (track : SemanticTrack)
      (args : List (String × DebugArg))
  | profileEnd (span : ℕ) (track : SemanticTrack) (args : List (String × DebugArg))
      (flush : Bool)
  | contextBegin (thread : T) (span : ℕ) (name : String) (args : List (String × DebugArg))
  | contextEnd (thread : T) (span : ℕ)
  deriving DecidableEq

inductive LayerPanic where
  /-- `ExtensionsMut::insert` found a value. -/
  | extensionOccupied
  /-- A task context does not own a semantic track. -/
  | taskContextTrack
  deriving DecidableEq

namespace ActiveProfileSpan

/-- The event of a canonical span; `none` when a field is missing or the name is not known. -/
def profileEvent (tracks : PerfettoTracks) (name : String) (fields : ProfileFields)
    (operationId : ℕ) : Option ProfileEvent := do
  let diagnostics := tracks.diagnosticsTrack tracks.processTrackUuid
  let operation := tracks.operationTrack operationId diagnostics.uuid
  match name with
  | "Delta Funnel preview" => return .operation .preview diagnostics operation
  | "Delta Funnel SQL Server write" => return .operation .mssqlWrite diagnostics operation
  | "Delta Funnel SQL Server write_all" => return .operation .writeAll diagnostics operation
  | "DataFusion query planning" =>
    let queryExecutionId ← fields.queryExecutionId
    let phases := tracks.phaseTrack operationId operation.uuid
    return .planning (tracks.planningTrack operationId queryExecutionId phases.uuid)
      (tracks.queryTrack operationId queryExecutionId operation.uuid)
  | "DataFusion planning activity" =>
    let queryExecutionId ← fields.queryExecutionId
    let name ← fields.planningActivityName
    guard ((← fields.activity) ≠ "")
    let phases := tracks.phaseTrack operationId operation.uuid
    return .planningActivity name (tracks.planningTrack operationId queryExecutionId phases.uuid)
  | "DataFusion execution activity" =>
    let queryExecutionId ← fields.queryExecutionId
    let executionStreamId ← fields.executionStreamId
    let name ← fields.executionActivityName
    guard ((← fields.activity) ≠ "")
    let query := tracks.queryTrack operationId queryExecutionId operation.uuid
    return .executionActivity name
      (tracks.deltaScanOutputTrack operationId queryExecutionId executionStreamId query.uuid)
  | "Delta Funnel operation phase" =>
    return .phase (← OperationPhaseKind.fromStr (← fields.phase))
      (tracks.phaseTrack operationId operation.uuid)
  | "Delta Funnel operation stage" =>
    let _ ← OperationKind.fromStr (← fields.operationKind)
    let name ← fields.stageName
    guard ((← fields.stageCategory) ≠ "")
    match fields.stageOwnerId.filter (· ≠ 0) with
    | none => return .stage name (tracks.phaseTrack operationId operation.uuid)
    | some ownerId => return .stage name (tracks.ownerTrack operationId ownerId operation.uuid)
  | "DataFusion operator activity" =>
    let queryExecutionId ← fields.queryExecutionId
    let workerLaneId ← fields.workerLaneId
    let query := tracks.queryTrack operationId queryExecutionId operation.uuid
    return .operator (← fields.operatorName)
      (tracks.workerTrack operationId queryExecutionId workerLaneId query.uuid workerLaneId)
  | "DataFusion task context" => return .taskContext (← fields.operatorName)
  | _ => none

def fromFields (tracks : PerfettoTracks) (name : String) (fields : ProfileFields) :
    Option ActiveProfileSpan := do
  let operationId ← fields.operationId
  let event ← profileEvent tracks name fields operationId
  return { event, fields
           profileContextId := none
           profileContextIdentityDirty := event.isTaskContext }

/-- The worker track a task context stands on once its identifiers are recorded. -/
def taskTrack (tracks : PerfettoTracks) (active : ActiveProfileSpan) : Option SemanticTrack := do
  let operationId ← active.fields.operationId
  let queryExecutionId ← active.fields.queryExecutionId
  let workerLaneId ← active.fields.workerLaneId
  let diagnostics := tracks.diagnosticsTrack tracks.processTrackUuid
  let operation := tracks.operationTrack operationId diagnostics.uuid
  let query := tracks.queryTrack operationId queryExecutionId operation.uuid
  return tracks.workerTrack operationId queryExecutionId workerLaneId query.uuid workerLaneId

def track (active : ActiveProfileSpan) : Except LayerPanic SemanticTrack :=
  match active.event with
  | .operation _ _ operation => .ok operation
  | .planning planning _ | .planningActivity _ planning => .ok planning
  | .executionActivity _ output => .ok output
  | .phase _ phases => .ok phases
  | .stage _ track | .detail _ track => .ok track
  | .operator _ worker => .ok worker
  | .taskContext _ => .error .taskContextTrack

/-- The state of a dependency span that stands under this one. -/
def inherit (tracks : PerfettoTracks) (active : ActiveProfileSpan) (name : String) :
    Except LayerPanic (Option ActiveProfileSpan) := do
  let track ← match active.event with
    | .taskContext _ => pure (active.taskTrack tracks)
    | _ => some <$> active.track
  return track.map fun track =>
    { event := .detail name track
      fields := active.fields
      profileContextId := none
      profileContextIdentityDirty := false }

def record (active : ActiveProfileSpan) (values : ProfileFields) : ActiveProfileSpan :=
  let isTask := active.event.isTaskContext
  let fields := { active.fields with
    workerLaneId :=
      if isTask then values.workerLaneId.or active.fields.workerLaneId
      else active.fields.workerLaneId
    workerKind :=
      if isTask then values.workerKind.or active.fields.workerKind else active.fields.workerKind
    queryOwner :=
      if active.event.isPlanningActivity then active.fields.queryOwner
      else values.queryOwner.or active.fields.queryOwner
    parentNodeId := values.parentNodeId.or active.fields.parentNodeId
    result := values.result.or active.fields.result }
  { active with
    fields
    profileContextIdentityDirty := active.profileContextIdentityDirty ||
      (isTask && (fields.workerLaneId != active.fields.workerLaneId ||
        fields.parentNodeId != active.fields.parentNodeId)) }

def addProfileArgs (fields : ProfileFields) : List (String × DebugArg) :=
  [("operation_id", fields.operationId.map DebugArg.uint64),
    ("capture_scope_id", fields.captureScopeId.map DebugArg.uint64),
    ("query_execution_id", fields.queryExecutionId.map DebugArg.uint64),
    ("query_scope", fields.queryScope.map DebugArg.string),
    ("query_owner", fields.queryOwner.map DebugArg.string),
    ("worker_lane_id", fields.workerLaneId.map DebugArg.uint64),
    ("worker_kind", fields.workerKind.map DebugArg.string),
    ("node_id", fields.nodeId.map DebugArg.uint64),
    ("parent_node_id", fields.parentNodeId.map DebugArg.uint64),
    ("operator_partition", fields.operatorPartition.map DebugArg.uint64),
    ("execution_stream_id", fields.executionStreamId.map DebugArg.uint64),
    ("activity", fields.activity.map DebugArg.string),
    ("planning_activity_name", fields.planningActivityName.map DebugArg.string),
    ("execution_activity_name", fields.executionActivityName.map DebugArg.string),
    ("operation_kind", fields.operationKind.map DebugArg.string),
    ("stage_name", fields.stageName.map DebugArg.string),
    ("stage_category", fields.stageCategory.map DebugArg.string),
    ("stage_owner_id", fields.stageOwnerId.map DebugArg.uint64),
    ("time_semantics", fields.timeSemantics.map DebugArg.string)].filterMap
      fun (key, arg) => arg.map fun value => (key, value)

def addCompletionArgs (fields : ProfileFields) : List (String × DebugArg) :=
  [("query_owner", fields.queryOwner.map DebugArg.string),
    ("parent_node_id", fields.parentNodeId.map DebugArg.uint64),
    ("result", fields.result.map DebugArg.string)].filterMap
      fun (key, arg) => arg.map fun value => (key, value)

/-- A name with a NUL has no `CString`, and the event then takes the fixed name. -/
def sliceName (name fixed : String) : String :=
  if Char.ofNat 0 ∈ name.toList then fixed else name

variable {T : Type}

def emitBegin (active : ActiveProfileSpan) (span : ℕ) : List (TraceEvent T) :=
  let args := addProfileArgs active.fields
  match active.event with
  | .operation kind diagnostics operation =>
    [.instant "Delta Funnel diagnostic group" diagnostics [],
      .profileBegin span kind.name operation args]
  | .planning planning query =>
    [.instant "DataFusion query" query args,
      .profileBegin span "DataFusion query planning" planning args]
  | .planningActivity name planning =>
    [.profileBegin span (sliceName name "DataFusion planning activity") planning args]
  | .executionActivity name output =>
    [.profileBegin span (sliceName name "DataFusion execution activity") output args]
  | .phase kind phases => [.profileBegin span kind.name phases args]
  | .stage name track =>
    [.profileBegin span (sliceName name "Delta Funnel operation stage") track args]
  | .detail name track => [.profileBegin span (sliceName name "Instrumented detail") track args]
  | .operator name worker =>
    [.profileBegin span (sliceName name "DataFusion operator") worker args]
  | .taskContext _ => []

def emitEnd (active : ActiveProfileSpan) (span : ℕ) :
    Except LayerPanic (List (TraceEvent T)) :=
  match active.event with
  | .taskContext _ => .ok []
  | _ => do
    let track ← active.track
    return [.profileEnd span track (addCompletionArgs active.fields) active.event.isOperation]

/-- `allocate_id` on the counter, which is zero once the identifiers are used up. -/
def allocateId (counter : ℕ) : Option ℕ × ℕ :=
  if counter = 0 then (none, 0)
  else (some counter, if counter + 1 ≤ u64Max then counter + 1 else 0)

/-- The span, whether its identity changed, and the counter. -/
def refreshProfileContextIdentity (active : ActiveProfileSpan) (counter : ℕ) :
    ActiveProfileSpan × Bool × ℕ :=
  if active.profileContextIdentityDirty then
    let (profileContextId, next) := allocateId counter
    ({ active with profileContextId, profileContextIdentityDirty := false }, true, next)
  else (active, false, counter)

def emitContextEnter (active : ActiveProfileSpan) (thread : T) (span counter : ℕ) :
    ActiveProfileSpan × ℕ × List (TraceEvent T) :=
  match active.event with
  | .taskContext name =>
    let (active, identityChanged, next) := active.refreshProfileContextIdentity counter
    let events := match active.profileContextId with
      | none => []
      | some profileContextId =>
        [TraceEvent.contextBegin thread span "Delta Funnel execution context"
          (("profile_context_id", .uint64 profileContextId) ::
            if identityChanged then
              ("context_name", .string name) :: addProfileArgs active.fields
            else [])]
    (active, next, events)
  | event =>
    (active, counter,
      [.contextBegin thread span (sliceName event.name "Delta Funnel execution context")
        (addProfileArgs active.fields)])

def contextEventEnabled (active : ActiveProfileSpan) : Bool :=
  !active.event.isTaskContext || active.profileContextId.isSome

end ActiveProfileSpan

structure SpanData where
  target : String
  name : String
  parent : Option ℕ
  /-- The extension that the layer keeps on the span. -/
  active : Option ActiveProfileSpan := none
  closed : Bool := false

/-- The spans of the registry in the order of their creation, the spans each thread has entered
with the innermost first, the counter of context identifiers, and what was emitted. -/
structure LayerState (T : Type) where
  spans : List SpanData := []
  entered : T → List ℕ := fun _ => []
  nextProfileContextId : ℕ := 1
  events : List (TraceEvent T) := []

inductive Callback (T : Type) where
  | newSpan (target name : String) (parent : Option ℕ) (values : List (String × FieldValue))
  | record (id : ℕ) (values : List (String × FieldValue))
  | followsFrom (id follows : ℕ)
  | enter (thread : T) (id : ℕ)
  | exit (thread : T) (id : ℕ)
  | close (id : ℕ)
  | event (name : String) (values : List (String × FieldValue))

namespace LayerState
variable {T : Type}

/-- `Context::span`: a closed span is gone from the registry. -/
def span (s : LayerState T) (id : ℕ) : Option SpanData := s.spans[id]?.filter (!·.closed)

/-- `extensions().get::<ActiveProfileSpan>()` of a span. -/
def active (s : LayerState T) (id : ℕ) : Option ActiveProfileSpan :=
  (s.span id).bind (·.active)

def emit (s : LayerState T) (events : List (TraceEvent T)) : LayerState T :=
  { s with events := s.events ++ events }

def modifySpan (s : LayerState T) (id : ℕ) (f : SpanData → SpanData) : LayerState T :=
  { s with spans := s.spans.modify id f }

def setActive (s : LayerState T) (id : ℕ) (active : ActiveProfileSpan) : LayerState T :=
  s.modifySpan id fun data => { data with active := some active }

def createSpan (s : LayerState T) (target name : String) (parent : Option ℕ) : LayerState T :=
  { s with spans := s.spans ++ [{ target, name, parent }] }

/-- `emit_begin` and then `ExtensionsMut::insert`, which panics on a second value. -/
def beginSpan (s : LayerState T) (id : ℕ) (active : ActiveProfileSpan) :
    Except LayerPanic (LayerState T) :=
  let s := s.emit (active.emitBegin id)
  if (s.active id).isSome then .error .extensionOccupied
  else .ok (s.setActive id active)

/-- The state a dependency span takes from its nearest ancestor that has one to give. -/
def inheritFromAncestors (tracks : PerfettoTracks) (s : LayerState T) (name : String) :
    ℕ → Option ℕ → Except LayerPanic (Option ActiveProfileSpan)
  | 0, _ => return none
  | fuel + 1, ancestor =>
    match ancestor.bind s.span with
    | none => return none
    | some parent => do
      let inherited ← match parent.active with
        | none => pure none
        | some active => active.inherit tracks name
      match inherited with
      | some inherited => return some inherited
      | none => inheritFromAncestors tracks s name fuel parent.parent

def onNewSpan (tracks : PerfettoTracks) (s : LayerState T) (target name : String)
    (parent : Option ℕ) (values : List (String × FieldValue)) :
    Except LayerPanic (LayerState T) := do
  let id := s.spans.length
  let s := s.createSpan target name parent
  let active ←
    if target = profileTarget then
      pure (ActiveProfileSpan.fromFields tracks name (.ofValues values))
    else match dependencySpanLabel target name with
      | none => pure none
      | some label => s.inheritFromAncestors tracks label s.spans.length parent
  match active with
  | none => return s
  | some active => s.beginSpan id active

def onRecord (s : LayerState T) (id : ℕ) (values : List (String × FieldValue)) :
    LayerState T :=
  match s.active id with
  | none => s
  | some active => s.setActive id (active.record (.ofValues values))

/-- The state that `follows` gives to the span when it is a dependency span. -/
def followedState (tracks : PerfettoTracks) (s : LayerState T) (id follows : ℕ) :
    Except LayerPanic (Option ActiveProfileSpan) :=
  match (s.span id).bind fun data => dependencySpanLabel data.target data.name with
  | none => return none
  | some name =>
    match s.active follows with
    | none => return none
    | some parent => parent.inherit tracks name

def onFollowsFrom (tracks : PerfettoTracks) (s : LayerState T) (id follows : ℕ) :
    Except LayerPanic (LayerState T) := do
  match ← s.followedState tracks id follows with
  | none => return s
  | some active => s.beginSpan id active

def onEnter (s : LayerState T) (thread : T) (id : ℕ) : LayerState T :=
  match s.active id with
  | none => s
  | some active =>
    let (active, next, events) := active.emitContextEnter thread id s.nextProfileContextId
    { (s.setActive id active).emit events with nextProfileContextId := next }

def onExit (s : LayerState T) (thread : T) (id : ℕ) : LayerState T :=
  match s.active id with
  | none => s
  | some active =>
    if active.contextEventEnabled then s.emit [.contextEnd thread id] else s

def onClose (s : LayerState T) (id : ℕ) : Except LayerPanic (LayerState T) := do
  match s.active id with
  | none => return s
  | some active =>
    let events ← active.emitEnd id
    return (s.modifySpan id fun data => { data with active := none }).emit events

def onEvent (tracks : PerfettoTracks) (s : LayerState T) (name : String)
    (values : List (String × FieldValue)) : LayerState T :=
  if name = "Operator activity trace truncated" then
    let fields := ProfileFields.ofValues values
    match fields.operationId, fields.maximumSpans with
    | some operationId, some maximumSpans =>
      let diagnostics := tracks.diagnosticsTrack tracks.processTrackUuid
      let operation := tracks.operationTrack operationId diagnostics.uuid
      s.emit [.instant name operation [("maximum_spans", .uint64 maximumSpans)]]
    | _, _ => s
  else s

variable [DecidableEq T]

/-- One callback, with what the registry itself does before it (it enters or leaves the span)
or after it (it drops a closed span). -/
def step (tracks : PerfettoTracks) (s : LayerState T) :
    Callback T → Except LayerPanic (LayerState T)
  | .newSpan target name parent values => s.onNewSpan tracks target name parent values
  | .record id values => return s.onRecord id values
  | .followsFrom id follows => s.onFollowsFrom tracks id follows
  | .enter thread id =>
    let entered := Function.update s.entered thread (id :: s.entered thread)
    return { s with entered }.onEnter thread id
  | .exit thread id =>
    let entered := Function.update s.entered thread ((s.entered thread).erase id)
    return { s with entered }.onExit thread id
  | .close id => do
    let s ← s.onClose id
    return s.modifySpan id fun data => { data with closed := true }
  | .event name values => return s.onEvent tracks name values

def run (tracks : PerfettoTracks) (callbacks : List (Callback T)) :
    Except LayerPanic (LayerState T) :=
  callbacks.foldlM (step tracks) {}

end LayerState

end DeltaFunnel
