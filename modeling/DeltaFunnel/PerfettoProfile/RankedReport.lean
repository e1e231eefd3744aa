import DeltaFunnel.PerfettoProfile.InclusiveFold

/-! The ranked profile document and its validation. -/

namespace DeltaFunnel
open Collections

def maxRecordsPerCollection : ℕ := 500000
def rankedProfileSchemaVersion : ℕ := 3
def maxDisplayStringChars : ℕ := 512

/-- The maps that building and validating a document iterates. -/
inductive ReportMap where
  | semanticFold
  | frames
  | frameFold
  | functions
  | functionFold
  | semanticCheck
  | functionCheck
  deriving DecidableEq, Repr

structure RankedProfileMetadata where
  captureComplete : Bool
  semanticComplete : Bool
  finalizationObserved : Bool
  incompleteOperationRootCount : ℤ
  truncationMarkerCount : ℤ
  missingIdentityFieldCount : ℤ
  missingTerminalResultCount : ℤ
  crossingWorkerSliceCount : ℤ
  crossingPlanningActivitySliceCount : ℤ
  crossingExecutionActivitySliceCount : ℤ
  invalidPlanningActivityHierarchyCount : ℤ
  invalidExecutionActivityHierarchyCount : ℤ
  perfSampleWithoutCallsiteCount : ℤ
  perfSamplesSkipped : ℤ
  bufferLossCount : ℤ
  dataSourceLossCount : ℤ
  flushFailureCount : ℤ
  schemaVersion : ℕ
  sampleFrequencyHz : ℕ
  sampledCpuCount : ℕ
  exactTimeUnit : String
  sampleUnit : String
  eligibleSampleCount : ℤ
  directSampleCount : ℤ
  ambiguousSampleCount : ℤ
  unattributedSampleCount : ℤ
  resolvedFunctionSampleCount : ℤ
  unresolvedFunctionSampleCount : ℤ
  unwindErrorSampleCount : ℤ
  missingCallstackSampleCount : ℤ
  traceProfilerDroppedSampleCount : ℤ
  deriving DecidableEq, Repr

structure RankedSemantic where
  semanticId : ℤ
  parentSemanticId : Option ℤ
  operationId : ℤ
  name : String
  semanticKind : String
  operationKind : Option String
  stageCategory : Option String
  stageName : Option String
  activity : Option String
  startNs : ℤ
  endNs : Option ℤ
  durationNs : Option ℤ
  timeSemantics : String
  result : Option String
  isComplete : Bool
  queryExecutionId : Option ℤ
  queryScope : Option String
  queryOwner : Option String
  workerLaneId : Option ℤ
  workerKind : Option String
  nodeId : Option ℤ
  parentNodeId : Option ℤ
  operatorPartition : Option ℤ
  executionStreamId : Option ℤ
  stageOwnerId : Option ℤ
  directSampleCount : ℤ
  inclusiveSampleCount : ℤ
  resolvedFunctionSampleCount : ℤ
  unresolvedFunctionSampleCount : ℤ
  unwindErrorSampleCount : ℤ
  missingCallstackSampleCount : ℤ
  deriving DecidableEq, Repr

structure RankedFunction where
  semanticId : ℤ
  functionId : ℤ
  parentFunctionId : Option ℤ
  name : String
  moduleName : Option String
  sourceFile : Option String
  lineNumber : Option ℤ
  selfSampleCount : ℤ
  inclusiveSampleCount : ℤ
  deriving DecidableEq, Repr

structure RankedProfileDocument where
  metadata : RankedProfileMetadata
  semantics : List RankedSemantic
  functions : List RankedFunction
  deriving DecidableEq, Repr

inductive RankedProfileValidationError where
  | tooManyRecords (recordKind : String) (count limit : ℕ)
  | displayStringTooLong (recordKind : String) (recordId : ℤ) (field : String)
      (charCount limit : ℕ)
  | unsafeFunctionMetadata (semanticId functionId : ℤ) (field : String)
  | unsupportedSchemaVersion (schemaVersion : ℕ)
  | invalidSampleFrequency
  | invalidUnit (field expected : String)
  | inconsistentCaptureHealth (reason : String)
  | invalidSemanticTimeSemantics (semanticId : ℤ)
  | invalidSemanticInterval (semanticId : ℤ) (reason : String)
  | missingSemanticNodes
  | duplicateSemanticId (semanticId : ℤ)
  | missingSemanticParent (semanticId parentSemanticId : ℤ)
  | crossOperationSemanticParent (semanticId parentSemanticId : ℤ)
  | semanticCycle (semanticId : ℤ)
  | invalidOperationRootCount (operationId : ℤ) (rootCount : ℕ)
  | invalidOperationRootKind (operationId semanticId : ℤ)
  | missingFunctionOwner (semanticId functionId : ℤ)
  | duplicateFunctionId (semanticId functionId : ℤ)
  | missingFunctionParent (semanticId functionId parentFunctionId : ℤ)
  | crossSemanticFunctionParent (semanticId functionId parentFunctionId : ℤ)
  | functionCycle (semanticId functionId : ℤ)
  | negativeSampleCount (recordKind : String) (recordId : ℤ) (field : String) (value : ℤ)
  | sampleCountOverflow (scope : String)
  | coverageMismatch (eligibleSampleCount classifiedSampleCount : ℤ)
  | directSampleMismatch (declaredSampleCount semanticSampleCount : ℤ)
  | functionCoverageMismatch (semanticId : Option ℤ)
      (directSampleCount classifiedSampleCount : ℤ)
  | functionCoverageSummaryMismatch (field : String)
      (declaredSampleCount semanticSampleCount : ℤ)
  | semanticInclusiveMismatch (semanticId declaredSampleCount computedSampleCount : ℤ)
  | functionSelfMismatch (semanticId capturedSampleCount functionSampleCount : ℤ)
  | functionInclusiveMismatch
      (semanticId functionId declaredSampleCount computedSampleCount : ℤ)
  deriving DecidableEq, Repr

abbrev Validation (α : Type) : Type := Except RankedProfileValidationError α

def rejectIf (condition : Prop) [Decidable condition] (error : RankedProfileValidationError) :
    Validation Unit := if condition then .error error else .ok ()

@[simp] theorem rejectIf_eq_ok {condition : Prop} [Decidable condition]
    {error : RankedProfileValidationError} : rejectIf condition error = .ok () ↔ ¬condition := by
  unfold rejectIf
  split
  · next h => exact iff_of_false nofun (not_not.2 h)
  · next h => exact iff_of_true rfl h

def semanticRequiresTerminalResult (semanticKind : String) : Bool :=
  semanticKind ∈ ["operation", "phase", "query_planning", "activity"]

def isPathSeparator (c : Char) : Bool := c = '/' ∨ c = '\\'

/-- `split(['/', '\\'])`. -/
def pathSegments : List Char → List (List Char)
  | [] => [[]]
  | c :: rest =>
    if isPathSeparator c then [] :: pathSegments rest
    else
      match pathSegments rest with
      | segment :: segments => (c :: segment) :: segments
      | [] => [[c]]

def startsWithDrive : List Char → Bool
  | drive :: ':' :: _ => isAsciiAlphabetic drive
  | _ => false

def isSafePathSegment (segment : List Char) : Bool :=
  !(segment.isEmpty || segment = ['.'] || segment = ['.', '.'] || segment.head? = some '~') &&
    !startsWithDrive segment

def isAbsolutePath : List Char → Bool
  | drive :: ':' :: separator :: _ =>
    isPathSeparator drive || isAsciiAlphabetic drive && isPathSeparator separator
  | c :: _ => isPathSeparator c
  | [] => false

def safeBasename (value : List Char) : Option (List Char) :=
  ((pathSegments value).reverse.find? fun segment => !segment.isEmpty && segment ≠ ['.']).filter
    isSafePathSegment

def normalizeModuleName (value : String) : Option String :=
  (safeBasename value.toList).map String.ofList

def sourceRoots : List (List Char) :=
  ["benches", "crates", "examples", "src", "tests", "xtask"].map String.toList

/-- `rposition`. -/
def lastIndexOf (p : List Char → Bool) (segments : List (List Char)) : Option ℕ :=
  (segments.reverse.findIdx? p).map fun index => segments.length - 1 - index

def normalizeSourceFile (value : String) : Option String :=
  let segments := (pathSegments value.toList).filter fun segment =>
    !segment.isEmpty && segment ≠ ['.']
  (segments.getLast?.filter isSafePathSegment).map fun basename =>
    if ['.', '.'] ∈ segments then String.ofList basename
    else
      let start :=
        if isAbsolutePath value.toList then lastIndexOf (· ∈ sourceRoots) segments
        else if segments.head?.any (· ∈ sourceRoots) then some 0
        else lastIndexOf (· = "src".toList) segments
      match start with
      | none => String.ofList basename
      | some start =>
        let safeSegments := segments.drop start
        if safeSegments.any fun segment => !isSafePathSegment segment then String.ofList basename
        else String.ofList (['/'].intercalate safeSegments)

def requireCollectionBound (recordKind : String) (count : ℕ) : Validation Unit :=
  rejectIf (count > maxRecordsPerCollection)
    (.tooManyRecords recordKind count maxRecordsPerCollection)

def requireDisplayString (recordKind : String) (recordId : ℤ) (field : String)
    (value : Option String) : Validation Unit :=
  match value with
  | none => .ok ()
  | some value =>
    rejectIf (value.length > maxDisplayStringChars)
      (.displayStringTooLong recordKind recordId field value.length maxDisplayStringChars)

def requireNonnegative (recordKind : String) (recordId : ℤ) (field : String) (value : ℤ) :
    Validation Unit := rejectIf (value < 0) (.negativeSampleCount recordKind recordId field value)

def requireNormalized (function : RankedFunction) (field : String)
    (value normalized : Option String) : Validation Unit :=
  rejectIf (value.isSome ∧ normalized ≠ value)
    (.unsafeFunctionMetadata function.semanticId function.functionId field)

/-- `checked_add` with the overflow reported under a scope. -/
def addWithin (scope : String) (a b : ℤ) : Validation ℤ :=
  match checkedAdd a b with
  | some sum => .ok sum
  | none => .error (.sampleCountOverflow scope)

def validateFunctionCoverage (semanticId : Option ℤ) (directSampleCount resolvedSampleCount
    unresolvedSampleCount unwindErrorSampleCount missingCallstackSampleCount : ℤ) :
    Validation Unit := do
  let count ← addWithin "native stack coverage" resolvedSampleCount unresolvedSampleCount
  let count ← addWithin "native stack coverage" count unwindErrorSampleCount
  let classified ← addWithin "native stack coverage" count missingCallstackSampleCount
  rejectIf (classified ≠ directSampleCount)
    (.functionCoverageMismatch semanticId directSampleCount classified)

namespace RankedProfileDocument

def validateSemanticStrings (semantic : RankedSemantic) : Validation Unit :=
  [("name", some semantic.name), ("semantic_kind", some semantic.semanticKind),
    ("operation_kind", semantic.operationKind), ("stage_category", semantic.stageCategory),
    ("stage_name", semantic.stageName), ("activity", semantic.activity),
    ("time_semantics", some semantic.timeSemantics), ("result", semantic.result),
    ("query_scope", semantic.queryScope), ("query_owner", semantic.queryOwner),
    ("worker_kind", semantic.workerKind)].forM fun field =>
      requireDisplayString "semantic" semantic.semanticId field.1 field.2

def validateFunctionStrings (function : RankedFunction) : Validation Unit := do
  requireDisplayString "function" function.functionId "module_name" function.moduleName
  requireDisplayString "function" function.functionId "source_file" function.sourceFile
  requireNormalized function "module_name" function.moduleName
    (function.moduleName.bind normalizeModuleName)
  requireNormalized function "source_file" function.sourceFile
    (function.sourceFile.bind normalizeSourceFile)

def validateBounds (document : RankedProfileDocument) : Validation Unit := do
  requireCollectionBound "semantic" document.semantics.length
  requireCollectionBound "function" document.functions.length
  document.semantics.forM validateSemanticStrings
  document.functions.forM validateFunctionStrings

def requireHealth (degraded : Bool) (reason : String) : Validation Unit :=
  rejectIf (degraded = true) (.inconsistentCaptureHealth reason)

def requireUnit (field actual expected : String) : Validation Unit :=
  rejectIf (actual ≠ expected) (.invalidUnit field expected)

def validateInterval (semantic : RankedSemantic) : Validation Unit :=
  let invalid (reason : String) : Validation Unit :=
    .error (.invalidSemanticInterval semantic.semanticId reason)
  if ¬(semantic.timeSemantics = "wall_clock" ∨ semantic.timeSemantics = "lifecycle") then
    .error (.invalidSemanticTimeSemantics semantic.semanticId)
  else
    match semantic.isComplete, semantic.endNs, semantic.durationNs with
    | false, none, none =>
      if semantic.result.isNone then .ok ()
      else invalid "incomplete interval has a terminal result"
    | false, _, _ => invalid "incomplete interval has an end or duration"
    | true, some endNs, some durationNs =>
      if durationNs < 0 ∨ checkedSub endNs semantic.startNs ≠ some durationNs then
        invalid "complete interval has inconsistent bounds"
      else if semanticRequiresTerminalResult semantic.semanticKind ∧ semantic.result.isNone then
        invalid "complete interval is missing a terminal result"
      else .ok ()
    | true, _, _ => invalid "complete interval is missing an end or duration"

def retainedIncompleteOperationRootCount (document : RankedProfileDocument) : ℤ :=
  (document.semantics.filter fun semantic =>
    semantic.semanticKind = "operation" ∧ semantic.isComplete = false).length

def retainedMissingTerminalResultCount (document : RankedProfileDocument) : ℤ :=
  (document.semantics.filter fun semantic =>
    semantic.result.isNone ∧ semanticRequiresTerminalResult semantic.semanticKind).length

def validateMetadataAndIntervals (document : RankedProfileDocument) : Validation Unit := do
  let metadata := document.metadata
  rejectIf (metadata.schemaVersion ≠ rankedProfileSchemaVersion)
    (.unsupportedSchemaVersion metadata.schemaVersion)
  rejectIf (metadata.sampleFrequencyHz = 0) .invalidSampleFrequency
  requireUnit "exact_time_unit" metadata.exactTimeUnit "nanoseconds"
  requireUnit "sample_unit" metadata.sampleUnit "samples"
  requireHealth
    (metadata.incompleteOperationRootCount ≠ document.retainedIncompleteOperationRootCount ∨
      metadata.missingTerminalResultCount ≠ document.retainedMissingTerminalResultCount)
    "semantic health counts do not match retained records"
  requireHealth (metadata.missingIdentityFieldCount > 0) "ownership identity is incomplete"
  requireHealth
    ([metadata.crossingWorkerSliceCount, metadata.crossingPlanningActivitySliceCount,
      metadata.crossingExecutionActivitySliceCount,
      metadata.invalidPlanningActivityHierarchyCount,
      metadata.invalidExecutionActivityHierarchyCount].any (· > 0))
    "semantic hierarchy is invalid"
  let semanticDegraded := [metadata.incompleteOperationRootCount, metadata.truncationMarkerCount,
    metadata.missingTerminalResultCount].any (· > 0)
  requireHealth (metadata.semanticComplete && semanticDegraded)
    "semantic data is complete despite semantic degradation"
  let captureDegraded := !metadata.semanticComplete || !metadata.finalizationObserved ||
    metadata.bufferLossCount > 0 || metadata.dataSourceLossCount > 0 ||
    metadata.flushFailureCount > 0 || metadata.traceProfilerDroppedSampleCount > 0
  requireHealth (metadata.captureComplete && captureDegraded)
    "capture is complete despite capture degradation"
  document.semantics.forM validateInterval

/-- The semantics by their id, which must be new each time. -/
def insertSemantic (found : HashMap ℤ RankedSemantic) (semantic : RankedSemantic) :
    Validation (HashMap ℤ RankedSemantic) :=
  if found.contains semantic.semanticId then .error (.duplicateSemanticId semantic.semanticId)
  else .ok (found.insert semantic.semanticId semantic)

def semanticParents (semantics : List RankedSemantic) : HashMap ℤ (Option ℤ) :=
  .collect (semantics.map fun semantic => (semantic.semanticId, semantic.parentSemanticId))

def validateSemanticParent (semantics : HashMap ℤ RankedSemantic) (semantic : RankedSemantic) :
    Validation Unit :=
  match semantic.parentSemanticId with
  | none => .ok ()
  | some parentId =>
    match semantics.get? parentId with
    | none => .error (.missingSemanticParent semantic.semanticId parentId)
    | some parent =>
      rejectIf (parent.operationId ≠ semantic.operationId)
        (.crossOperationSemanticParent semantic.semanticId parentId)

structure OperationRootState where
  rootCount : ℕ := 0
  firstRootId : Option ℤ := none
  firstRootIsOperation : Bool := false
  firstNonRootOperationId : Option ℤ := none
  deriving DecidableEq, Repr

def OperationRootState.add (state : OperationRootState) (semantic : RankedSemantic) :
    OperationRootState :=
  if semantic.parentSemanticId.isNone then
    if state.firstRootId.isNone then
      { state with
        rootCount := state.rootCount + 1
        firstRootId := some semantic.semanticId
        firstRootIsOperation := semantic.semanticKind = "operation" }
    else { state with rootCount := state.rootCount + 1 }
  else if semantic.semanticKind = "operation" ∧ state.firstNonRootOperationId.isNone then
    { state with firstNonRootOperationId := some semantic.semanticId }
  else state

/-- The operations in the order of their first semantic, with what was seen of each. -/
def addToOperation (operations : HashMap ℤ OperationRootState) (semantic : RankedSemantic) :
    HashMap ℤ OperationRootState :=
  operations.insert semantic.operationId
    (((operations.get? semantic.operationId).getD {}).add semantic)

/-- `first_non_root_operation_id.or(first_root_id).expect(..)`: an operation with one root has a
root id, so the default is never taken. -/
def validateOperationRoot (operationId : ℤ) (state : OperationRootState) : Validation Unit := do
  rejectIf (state.rootCount ≠ 1) (.invalidOperationRootCount operationId state.rootCount)
  rejectIf (state.firstRootIsOperation = false ∨ state.firstNonRootOperationId.isSome)
    (.invalidOperationRootKind operationId
      ((state.firstNonRootOperationId.or state.firstRootId).getD 0))

/-- The functions by their identity, and the semantics that own each function id. -/
structure FunctionIndex where
  functions : HashMap (ℤ × ℤ) RankedFunction
  owners : HashMap ℤ (List ℤ)

def insertFunction (semantics : HashMap ℤ RankedSemantic) (found : FunctionIndex)
    (function : RankedFunction) : Validation FunctionIndex :=
  if !semantics.contains function.semanticId then
    .error (.missingFunctionOwner function.semanticId function.functionId)
  else if found.functions.contains (function.semanticId, function.functionId) then
    .error (.duplicateFunctionId function.semanticId function.functionId)
  else
    .ok ⟨found.functions.insert (function.semanticId, function.functionId) function,
      found.owners.insert function.functionId
        (function.semanticId :: (found.owners.get? function.functionId).getD [])⟩

def functionParents (functions : List RankedFunction) : HashMap (ℤ × ℤ) (Option (ℤ × ℤ)) :=
  .collect (functions.map fun function =>
    ((function.semanticId, function.functionId),
      function.parentFunctionId.map fun parentId => (function.semanticId, parentId)))

def validateFunctionParent (index : FunctionIndex) (function : RankedFunction) :
    Validation Unit :=
  match function.parentFunctionId with
  | none => .ok ()
  | some parentFunctionId =>
    if index.functions.contains (function.semanticId, parentFunctionId) then .ok ()
    else if (index.owners.get? parentFunctionId).any fun owners => !owners.isEmpty then
      .error (.crossSemanticFunctionParent function.semanticId function.functionId
        parentFunctionId)
    else
      .error (.missingFunctionParent function.semanticId function.functionId parentFunctionId)

def requireAcyclic {Id : Type} (cycle : Option Id)
    (error : Id → RankedProfileValidationError) : Validation Unit :=
  match cycle with
  | some id => .error (error id)
  | none => .ok ()

def validateSemanticStructure (document : RankedProfileDocument) :
    Validation (HashMap ℤ RankedSemantic) := do
  rejectIf (document.semantics.isEmpty = true) .missingSemanticNodes
  let semantics ← document.semantics.foldlM insertSemantic .empty
  document.semantics.forM (validateSemanticParent semantics)
  requireAcyclic (firstCycle (semanticParents document.semantics)
    (document.semantics.map (·.semanticId))) .semanticCycle
  (document.semantics.foldl addToOperation .empty).entries.forM fun operation =>
    validateOperationRoot operation.1 operation.2
  return semantics

def validateFunctionStructure (document : RankedProfileDocument)
    (semantics : HashMap ℤ RankedSemantic) : Validation Unit := do
  let index ← document.functions.foldlM (insertFunction semantics) ⟨.empty, .empty⟩
  document.functions.forM (validateFunctionParent index)
  requireAcyclic (firstCycle (functionParents document.functions)
    (document.functions.map fun function => (function.semanticId, function.functionId)))
    fun id => .functionCycle id.1 id.2

def validateStructure (document : RankedProfileDocument) : Validation Unit := do
  let semantics ← document.validateSemanticStructure
  document.validateFunctionStructure semantics

def validateMetadataCounts (metadata : RankedProfileMetadata) : Validation Unit := do
  [("incomplete_operation_root_count", metadata.incompleteOperationRootCount),
    ("truncation_marker_count", metadata.truncationMarkerCount),
    ("missing_identity_field_count", metadata.missingIdentityFieldCount),
    ("missing_terminal_result_count", metadata.missingTerminalResultCount),
    ("crossing_worker_slice_count", metadata.crossingWorkerSliceCount),
    ("crossing_planning_activity_slice_count", metadata.crossingPlanningActivitySliceCount),
    ("crossing_execution_activity_slice_count", metadata.crossingExecutionActivitySliceCount),
    ("invalid_planning_activity_hierarchy_count",
      metadata.invalidPlanningActivityHierarchyCount),
    ("invalid_execution_activity_hierarchy_count",
      metadata.invalidExecutionActivityHierarchyCount),
    ("perf_sample_without_callsite_count", metadata.perfSampleWithoutCallsiteCount),
    ("perf_samples_skipped", metadata.perfSamplesSkipped),
    ("buffer_loss_count", metadata.bufferLossCount),
    ("data_source_loss_count", metadata.dataSourceLossCount),
    ("flush_failure_count", metadata.flushFailureCount),
    ("eligible_sample_count", metadata.eligibleSampleCount),
    ("direct_sample_count", metadata.directSampleCount),
    ("ambiguous_sample_count", metadata.ambiguousSampleCount),
    ("unattributed_sample_count", metadata.unattributedSampleCount),
    ("resolved_function_sample_count", metadata.resolvedFunctionSampleCount),
    ("unresolved_function_sample_count", metadata.unresolvedFunctionSampleCount),
    ("unwind_error_sample_count", metadata.unwindErrorSampleCount),
    ("missing_callstack_sample_count", metadata.missingCallstackSampleCount),
    ("trace_profiler_dropped_sample_count", metadata.traceProfilerDroppedSampleCount)].forM
      fun field => requireNonnegative "profile" 0 field.1 field.2
  let count ← addWithin "coverage" metadata.directSampleCount metadata.ambiguousSampleCount
  let classified ← addWithin "coverage" count metadata.unattributedSampleCount
  rejectIf (classified ≠ metadata.eligibleSampleCount)
    (.coverageMismatch metadata.eligibleSampleCount classified)
  validateFunctionCoverage none metadata.directSampleCount metadata.resolvedFunctionSampleCount
    metadata.unresolvedFunctionSampleCount metadata.unwindErrorSampleCount
    metadata.missingCallstackSampleCount

/-- The sums over the semantics, and their direct counts by id. -/
structure SemanticTotals where
  direct : HashMap ℤ ℤ
  directTotal : ℤ
  resolved : ℤ
  unresolved : ℤ
  unwindError : ℤ
  missingCallstack : ℤ

def SemanticTotals.zero : SemanticTotals := ⟨.empty, 0, 0, 0, 0, 0⟩

def addSemanticCounts (totals : SemanticTotals) (semantic : RankedSemantic) :
    Validation SemanticTotals := do
  requireNonnegative "semantic" semantic.semanticId "direct_sample_count"
    semantic.directSampleCount
  requireNonnegative "semantic" semantic.semanticId "inclusive_sample_count"
    semantic.inclusiveSampleCount
  requireNonnegative "semantic" semantic.semanticId "resolved_function_sample_count"
    semantic.resolvedFunctionSampleCount
  requireNonnegative "semantic" semantic.semanticId "unresolved_function_sample_count"
    semantic.unresolvedFunctionSampleCount
  requireNonnegative "semantic" semantic.semanticId "unwind_error_sample_count"
    semantic.unwindErrorSampleCount
  requireNonnegative "semantic" semantic.semanticId "missing_callstack_sample_count"
    semantic.missingCallstackSampleCount
  validateFunctionCoverage (some semantic.semanticId) semantic.directSampleCount
    semantic.resolvedFunctionSampleCount semantic.unresolvedFunctionSampleCount
    semantic.unwindErrorSampleCount semantic.missingCallstackSampleCount
  let directTotal ← addWithin "semantic direct" totals.directTotal semantic.directSampleCount
  let resolved ← addWithin "semantic function coverage" totals.resolved
    semantic.resolvedFunctionSampleCount
  let unresolved ← addWithin "semantic function coverage" totals.unresolved
    semantic.unresolvedFunctionSampleCount
  let unwindError ← addWithin "semantic function coverage" totals.unwindError
    semantic.unwindErrorSampleCount
  let missingCallstack ← addWithin "semantic function coverage" totals.missingCallstack
    semantic.missingCallstackSampleCount
  return ⟨totals.direct.insert semantic.semanticId semantic.directSampleCount, directTotal,
    resolved, unresolved, unwindError, missingCallstack⟩

def requireDeclared (field : String) (declared counted : ℤ) : Validation Unit :=
  rejectIf (declared ≠ counted) (.functionCoverageSummaryMismatch field declared counted)

def requireTotals (metadata : RankedProfileMetadata) (totals : SemanticTotals) :
    Validation Unit := do
  rejectIf (totals.directTotal ≠ metadata.directSampleCount)
    (.directSampleMismatch metadata.directSampleCount totals.directTotal)
  requireDeclared "resolved_function_sample_count" metadata.resolvedFunctionSampleCount
    totals.resolved
  requireDeclared "unresolved_function_sample_count" metadata.unresolvedFunctionSampleCount
    totals.unresolved
  requireDeclared "unwind_error_sample_count" metadata.unwindErrorSampleCount totals.unwindError
  requireDeclared "missing_callstack_sample_count" metadata.missingCallstackSampleCount
    totals.missingCallstack

def requireSemanticInclusive (inclusive : HashMap ℤ ℤ) (semantic : RankedSemantic) :
    Validation Unit :=
  match inclusive.get? semantic.semanticId with
  | none => .error (.sampleCountOverflow "semantic inclusive")
  | some computed =>
    rejectIf (semantic.inclusiveSampleCount ≠ computed)
      (.semanticInclusiveMismatch semantic.semanticId semantic.inclusiveSampleCount computed)

/-- The self counts of the functions by identity, and their sums by semantic. -/
structure FunctionTotals where
  selfCounts : HashMap (ℤ × ℤ) ℤ
  bySemantic : HashMap ℤ ℤ

def addFunctionCounts (totals : FunctionTotals) (function : RankedFunction) :
    Validation FunctionTotals := do
  requireNonnegative "function" function.functionId "self_sample_count" function.selfSampleCount
  requireNonnegative "function" function.functionId "inclusive_sample_count"
    function.inclusiveSampleCount
  let total ← addWithin "function self" ((totals.bySemantic.get? function.semanticId).getD 0)
    function.selfSampleCount
  return ⟨totals.selfCounts.insert (function.semanticId, function.functionId)
      function.selfSampleCount,
    totals.bySemantic.insert function.semanticId total⟩

def requireFunctionSelf (bySemantic : HashMap ℤ ℤ) (semantic : RankedSemantic) :
    Validation Unit := do
  let functionSampleCount := (bySemantic.get? semantic.semanticId).getD 0
  let captured ← addWithin "captured native stacks" semantic.resolvedFunctionSampleCount
    semantic.unresolvedFunctionSampleCount
  rejectIf (captured ≠ functionSampleCount)
    (.functionSelfMismatch semantic.semanticId captured functionSampleCount)

def requireFunctionInclusive (inclusive : HashMap (ℤ × ℤ) ℤ) (function : RankedFunction) :
    Validation Unit :=
  match inclusive.get? (function.semanticId, function.functionId) with
  | none => .error (.sampleCountOverflow "function inclusive")
  | some computed =>
    rejectIf (function.inclusiveSampleCount ≠ computed)
      (.functionInclusiveMismatch function.semanticId function.functionId
        function.inclusiveSampleCount computed)

/-- A fold that finds no counts is reported as an overflow. -/
def foldWithin {Id : Type} [DecidableEq Id] (order : IterationOrder ReportMap) (site : ReportMap)
    (scope : String) (parents : HashMap Id (Option Id)) (selfCounts : HashMap Id ℤ) :
    Validation (HashMap Id ℤ) :=
  match foldInclusiveCounts order site parents selfCounts with
  | some inclusive => .ok inclusive
  | none => .error (.sampleCountOverflow scope)

def validateSemanticCounts (order : IterationOrder ReportMap) (document : RankedProfileDocument) :
    Validation Unit := do
  let totals ← document.semantics.foldlM addSemanticCounts .zero
  requireTotals document.metadata totals
  let inclusive ← foldWithin order .semanticCheck "semantic inclusive"
    (semanticParents document.semantics) totals.direct
  document.semantics.forM (requireSemanticInclusive inclusive)

def validateFunctionCounts (order : IterationOrder ReportMap) (document : RankedProfileDocument) :
    Validation Unit := do
  let totals ← document.functions.foldlM addFunctionCounts ⟨.empty, .empty⟩
  document.semantics.forM (requireFunctionSelf totals.bySemantic)
  let inclusive ← foldWithin order .functionCheck "function inclusive"
    (functionParents document.functions) totals.selfCounts
  document.functions.forM (requireFunctionInclusive inclusive)

def validateSampleCounts (order : IterationOrder ReportMap) (document : RankedProfileDocument) :
    Validation Unit := do
  validateMetadataCounts document.metadata
  validateSemanticCounts order document
  validateFunctionCounts order document

def validate (order : IterationOrder ReportMap) (document : RankedProfileDocument) :
    Validation Unit := do
  document.validateBounds
  document.validateMetadataAndIntervals
  document.validateStructure
  document.validateSampleCounts order

end RankedProfileDocument
end DeltaFunnel
