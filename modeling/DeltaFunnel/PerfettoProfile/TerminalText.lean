import DeltaFunnel.Encoding.Decimal
import DeltaFunnel.PerfettoProfile.TerminalRows

/-! The text of a terminal view. -/

namespace DeltaFunnel
open Collections

def isUnsafeTerminalCharacter (c : Char) : Bool :=
  let n := c.toNat
  -- the control characters first
  (n ≤ 0x1f || 0x7f ≤ n && n ≤ 0x9f) ||
    (n = 0x61c || 0x200b ≤ n && n ≤ 0x200f || 0x2028 ≤ n && n ≤ 0x2029 ||
      0x202a ≤ n && n ≤ 0x202e || 0x2060 ≤ n && n ≤ 0x2069 || n = 0xfeff)

def terminalChar (c : Char) : List Char :=
  if c = '\\' then ['\\', '\\']
  else if c = '"' then ['\\', '"']
  else if isUnsafeTerminalCharacter c then
    ['\\', 'u', '\x7b'] ++ (hexDigits 6 c.toNat).map Char.toUpper ++ ['\x7d']
  else [c]

def terminalText (value : String) : String := String.ofList (value.toList.flatMap terminalChar)

def quotedTerminalText (value : String) : String := "\"" ++ terminalText value ++ "\""

def filterLabel (filter : Option String) : String :=
  match filter with
  | none => "none"
  | some filter => quotedTerminalText filter

def optionalText (text : Option String) : String :=
  match text with
  | none => "null"
  | some text => quotedTerminalText text

def boolText (value : Bool) : String := if value then "true" else "false"

/-- Two's complement addition of the sample counts. -/
def wrappingAdd (a b : ℤ) : ℤ := (a + b).bmod (2 ^ 64)

def samplePercent (sampleCount contextSampleCount : ℤ) : String :=
  if contextSampleCount > 0 then
    String.ofList (Decimal.formatPercent sampleCount contextSampleCount) ++ "%"
  else "n/a"

def functionRow (depth : ℕ) (index : TerminalProfileIndex) (function : RankedFunction)
    (contextSampleCount : ℤ) : String :=
  let line := match function.lineNumber with
    | none => "null"
    | some line => toString line
  "function depth=" ++ toString depth ++ " id=function:" ++ toString function.semanticId ++ ":" ++
    toString function.functionId ++ " symbol=" ++
    quotedTerminalText (index.functionName function) ++ " module=" ++
    optionalText function.moduleName ++ " source=" ++ optionalText function.sourceFile ++
    " line=" ++ line ++ " inclusive_cpu_samples=" ++ toString function.inclusiveSampleCount ++
    " inclusive_context_percent=" ++
    samplePercent function.inclusiveSampleCount contextSampleCount ++ " self_cpu_samples=" ++
    toString function.selfSampleCount ++ " self_context_percent=" ++
    samplePercent function.selfSampleCount contextSampleCount

def semanticRow (depth : ℕ) (semantic : RankedSemantic) (operationDurationNs : Option ℤ) :
    String :=
  let duration := match semantic.durationNs with
    | none => "n/a"
    | some value => toString value
  let wallPercent := match semantic.durationNs, operationDurationNs with
    | some duration, some operationDuration => samplePercent duration operationDuration
    | _, _ => "n/a"
  let capturedFunctionSamples :=
    wrappingAdd semantic.resolvedFunctionSampleCount semantic.unresolvedFunctionSampleCount
  "semantic depth=" ++ toString depth ++ " id=semantic:" ++ toString semantic.semanticId ++
    " name=" ++ quotedTerminalText semantic.displayName ++ " kind=" ++
    quotedTerminalText semantic.semanticKind ++ " duration_ns=" ++ duration ++
    " time_basis=exact:" ++ terminalText semantic.timeSemantics ++ " operation_wall_percent=" ++
    wallPercent ++ " complete=" ++ boolText semantic.isComplete ++ " result=" ++
    optionalText semantic.result ++ " direct_cpu_samples=" ++
    toString semantic.directSampleCount ++ " inclusive_cpu_samples=" ++
    toString semantic.inclusiveSampleCount ++ " native_stack_samples_captured=" ++
    toString capturedFunctionSamples ++ " native_leaf_symbols_resolved=" ++
    toString semantic.resolvedFunctionSampleCount ++ " native_leaf_symbols_unresolved=" ++
    toString semantic.unresolvedFunctionSampleCount ++ " native_unwind_failures=" ++
    toString semantic.unwindErrorSampleCount ++ " native_callstacks_missing=" ++
    toString semantic.missingCallstackSampleCount

def captureHealthy (metadata : RankedProfileMetadata) : Bool :=
  metadata.captureComplete && metadata.semanticComplete && metadata.finalizationObserved &&
    [metadata.incompleteOperationRootCount, metadata.truncationMarkerCount,
      metadata.missingIdentityFieldCount, metadata.missingTerminalResultCount,
      metadata.crossingWorkerSliceCount, metadata.crossingPlanningActivitySliceCount,
      metadata.crossingExecutionActivitySliceCount,
      metadata.invalidPlanningActivityHierarchyCount,
      metadata.invalidExecutionActivityHierarchyCount, metadata.bufferLossCount,
      metadata.dataSourceLossCount, metadata.flushFailureCount].all (· = 0)

def captureHealthHeader (metadata : RankedProfileMetadata) : List String :=
  if captureHealthy metadata then []
  else
    ["capture_complete: " ++ boolText metadata.captureComplete,
      "semantic_complete: " ++ boolText metadata.semanticComplete,
      "finalization_observed: " ++ boolText metadata.finalizationObserved,
      "incomplete_operation_root_count: " ++ toString metadata.incompleteOperationRootCount,
      "truncation_marker_count: " ++ toString metadata.truncationMarkerCount,
      "missing_identity_field_count: " ++ toString metadata.missingIdentityFieldCount,
      "missing_terminal_result_count: " ++ toString metadata.missingTerminalResultCount,
      "crossing_worker_slice_count: " ++ toString metadata.crossingWorkerSliceCount,
      "crossing_planning_activity_slice_count: " ++
        toString metadata.crossingPlanningActivitySliceCount,
      "crossing_execution_activity_slice_count: " ++
        toString metadata.crossingExecutionActivitySliceCount,
      "invalid_planning_activity_hierarchy_count: " ++
        toString metadata.invalidPlanningActivityHierarchyCount,
      "invalid_execution_activity_hierarchy_count: " ++
        toString metadata.invalidExecutionActivityHierarchyCount,
      "perf_sample_without_callsite_count: " ++ toString metadata.perfSampleWithoutCallsiteCount,
      "perf_samples_skipped: " ++ toString metadata.perfSamplesSkipped,
      "buffer_loss_count: " ++ toString metadata.bufferLossCount,
      "data_source_loss_count: " ++ toString metadata.dataSourceLossCount,
      "flush_failure_count: " ++ toString metadata.flushFailureCount]

namespace TerminalProfileIndex

def sampleHeader (index : TerminalProfileIndex) : List String :=
  let metadata := index.document.metadata
  ["symbol_format: " ++ (if index.fullSymbols then "full" else "compact"),
    "frame_view: " ++ (if index.allFrames then "all" else "compact"),
    "sampled_cpu_count: " ++ toString metadata.sampledCpuCount,
    "native_stack_samples_captured: " ++ toString
      (wrappingAdd metadata.resolvedFunctionSampleCount metadata.unresolvedFunctionSampleCount),
    "native_leaf_symbols_resolved: " ++ toString metadata.resolvedFunctionSampleCount,
    "native_leaf_symbols_unresolved: " ++ toString metadata.unresolvedFunctionSampleCount,
    "native_unwind_failures: " ++ toString metadata.unwindErrorSampleCount,
    "native_callstacks_missing: " ++ toString metadata.missingCallstackSampleCount,
    "trace_profiler_samples_dropped: " ++ toString metadata.traceProfilerDroppedSampleCount]

def semanticHeader (index : TerminalProfileIndex) (selected : Option ℤ) (sort : InspectSort)
    (filter : Option String) (maxDepth : ℕ) (view : SemanticView) : List String :=
  let metadata := index.document.metadata
  let context := match selected with
    | none => "operation-roots"
    | some semanticId => "semantic:" ++ toString semanticId
  ["view: ranked-profile", "context: " ++ context] ++ captureHealthHeader metadata ++
    ["sort: " ++ sort.asStr, "filter: " ++ filterLabel filter, "depth: " ++ toString maxDepth,
      "showing: " ++ toString view.shown ++ " of " ++ toString view.total ++ "; truncated: " ++
        boolText view.truncated,
      "time_unit: " ++ terminalText metadata.exactTimeUnit,
      "sample_unit: " ++ terminalText metadata.sampleUnit] ++ index.sampleHeader

def transitionLine (semantic : RankedSemantic) (sort : InspectSort) (view : SemanticView) :
    String :=
  "transition: semantic:" ++ toString semantic.semanticId ++ " -> function-roots; sort: " ++
    sort.forFunctions.asStr ++ "; showing: " ++ toString view.functionRows.length ++ " of " ++
    toString view.functionTotal ++ "; truncated: " ++
    boolText (view.functionRows.length < view.functionTotal) ++ "; sample_basis: sampled-cpu"

def functionHeader (index : TerminalProfileIndex) (semanticId functionId : ℤ)
    (sort : InspectSort) (filter : Option String) (maxDepth : ℕ) (view : FunctionView) :
    List String :=
  let metadata := index.document.metadata
  ["view: ranked-profile",
    "context: function:" ++ toString semanticId ++ ":" ++ toString functionId] ++
    captureHealthHeader metadata ++
    ["sort: " ++ sort.asStr, "filter: " ++ filterLabel filter, "depth: " ++ toString maxDepth,
      "showing: " ++ toString view.rows.length ++ " of " ++ toString view.total ++
        "; truncated: " ++ boolText view.truncated,
      "sample_unit: " ++ terminalText metadata.sampleUnit] ++ index.sampleHeader ++
    ["metric_basis: sampled-cpu; exact_wall_time: not-applicable"]

def writeLines (lines : List String) : String := String.join (lines.map (· ++ "\n"))

def semanticLines (index : TerminalProfileIndex) (selected : Option ℤ) (sort : InspectSort)
    (filter : Option String) (maxDepth : ℕ) (view : SemanticView) : List String :=
  index.semanticHeader selected sort filter maxDepth view ++
    view.semanticRows.map (fun row => semanticRow row.1 row.2
      (index.operationDurations.get? row.2.operationId).join) ++
    match view.selected with
    | none => []
    | some semantic =>
      transitionLine semantic sort view :: view.functionRows.map fun function =>
        functionRow 1 index function semantic.directSampleCount

def functionLines (index : TerminalProfileIndex) (semanticId functionId : ℤ)
    (sort : InspectSort) (filter : Option String) (maxDepth : ℕ) (view : FunctionView) :
    List String :=
  index.functionHeader semanticId functionId sort filter maxDepth view ++
    view.rows.map fun row => functionRow row.1 index row.2 view.selected.inclusiveSampleCount

def renderSemanticView (fuel : ℕ) (index : TerminalProfileIndex) (selected : Option ℤ)
    (sort : InspectSort) (filter : Option String) (limit maxDepth : ℕ) :
    Option (Except TerminalInspectError String) :=
  (index.semanticView fuel selected sort filter limit maxDepth).map fun view => do
    return writeLines (index.semanticLines selected sort filter maxDepth (← view))

def renderFunctionView (fuel : ℕ) (index : TerminalProfileIndex) (semanticId functionId : ℤ)
    (sort : InspectSort) (filter : Option String) (limit maxDepth : ℕ) :
    Option (Except TerminalInspectError String) :=
  (index.functionView fuel semanticId functionId sort filter limit maxDepth).map fun view => do
    return writeLines (index.functionLines semanticId functionId sort filter maxDepth (← view))

/-- `none` when `fuel` does not suffice. -/
def render (fuel : ℕ) (index : TerminalProfileIndex) (selection : InspectSelection)
    (sort : InspectSort) (filter : Option String) (limit maxDepth : ℕ) :
    Option (Except TerminalInspectError String) :=
  match selection with
  | .root => index.renderSemanticView fuel none sort filter limit maxDepth
  | .semantic semanticId => index.renderSemanticView fuel (some semanticId) sort filter limit maxDepth
  | .function semanticId functionId =>
    index.renderFunctionView fuel semanticId functionId sort filter limit maxDepth

end TerminalProfileIndex

end DeltaFunnel
