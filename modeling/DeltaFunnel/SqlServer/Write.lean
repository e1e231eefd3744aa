import DeltaFunnel.SqlServer.Connection

/-! The batch write loop of one output: poll, validate the schema, write, count, finalize. -/

namespace DeltaFunnel
open Interaction Program

/-- The four counters and two flags of the loop, and the counters of accepted batches. -/
structure WriteLoopState where
  rowsWritten : ℕ
  batchesWritten : ℕ
  inputRows : ℕ
  inputBatches : ℕ
  shapedRows : ℕ
  shapedBatches : ℕ
  validationAttempted : Bool
  writeAttempted : Bool
  deriving DecidableEq, Repr

namespace WriteLoopState

def start : WriteLoopState := ⟨0, 0, 0, 0, 0, 0, false, false⟩

variable (state : WriteLoopState)

def validateBatchSchemaCompletedOrNotStarted : PhaseTimingReport :=
  if state.validationAttempted then .completed "validate_batch_schema"
  else .notStarted "validate_batch_schema" .notExecuted

def writeBatchCompletedOrNotStarted : PhaseTimingReport :=
  if state.writeAttempted then .completed "write_batch" else .notStarted "write_batch" .notExecuted

def completed : List PhaseTimingReport :=
  [.completed "poll_batch_stream", state.validateBatchSchemaCompletedOrNotStarted,
    state.writeBatchCompletedOrNotStarted, .completed "finalize",
    .notStarted "validation" .notExecuted]

def pollBatchStreamFailed : List PhaseTimingReport :=
  [.failed "poll_batch_stream", state.validateBatchSchemaCompletedOrNotStarted,
    state.writeBatchCompletedOrNotStarted, .notStarted "finalize" .notExecuted,
    .notStarted "validation" .failureBeforeValidation]

def validateBatchSchemaFailed : List PhaseTimingReport :=
  [.completed "poll_batch_stream", .failed "validate_batch_schema",
    state.writeBatchCompletedOrNotStarted, .notStarted "finalize" .notExecuted,
    .notStarted "validation" .failureBeforeValidation]

def writeBatchFailed : List PhaseTimingReport :=
  [.completed "poll_batch_stream", state.validateBatchSchemaCompletedOrNotStarted,
    .failed "write_batch", .notStarted "finalize" .notExecuted,
    .notStarted "validation" .failureBeforeValidation]

def finalizeFailed : List PhaseTimingReport :=
  [.completed "poll_batch_stream", state.validateBatchSchemaCompletedOrNotStarted,
    state.writeBatchCompletedOrNotStarted, .failed "finalize",
    .notStarted "validation" .failureBeforeValidation]

def countInput (rowCount : ℕ) : WriteLoopState :=
  { state with
    inputRows := saturatingAdd state.inputRows rowCount
    inputBatches := saturatingAdd state.inputBatches 1 }

def countWritten (rowCount : ℕ) : WriteLoopState :=
  { state with
    rowsWritten := saturatingAdd state.rowsWritten rowCount
    batchesWritten := saturatingAdd state.batchesWritten 1
    shapedRows := saturatingAdd state.shapedRows rowCount
    shapedBatches := saturatingAdd state.shapedBatches 1 }

def failedShaping : MssqlBatchShapingReport :=
  .failed state.inputBatches state.inputRows state.shapedBatches state.shapedRows

def completedShaping : MssqlBatchShapingReport :=
  .completed state.inputBatches state.inputRows state.shapedBatches state.shapedRows

end WriteLoopState

def arrowSqlServerSafeErrorMessage (source : ArrowError) : String :=
  match source.safePhase with
  | some phase =>
    "arrow-sql-server " ++ phase ++ " failed: " ++ source.safeSummary ++ " (" ++ source.safeKind ++
      ")"
  | none => "arrow-sql-server error: " ++ source.safeSummary ++ " (" ++ source.safeKind ++ ")"

/-- Diagnostics of a schema validation failure; other error classes carry none. -/
def batchValidationDiagnostics (source : ArrowError) : List MssqlWriteDiagnostic :=
  match source.errorClass with
  | .valueConversion => source.diagnostics
  | _ => []

variable [ArrowSqlServer]

def partialWritePossible (plan : MssqlTargetOutputPlan) (rowsWritten batchesWritten : ℕ) : Bool :=
  plan.loadMode = .appendExisting ∧ (rowsWritten > 0 ∨ batchesWritten > 0)

/-- Metrics of a failure inside the loop, before any target validation. -/
def writeFailureReportMetrics (plan : MssqlTargetOutputPlan) (outputRowCount : RowCount)
    (batchShaping : MssqlBatchShapingReport) (state : WriteLoopState) :
    MssqlWriteReportMetrics :=
  (MssqlWriteReportMetrics.new outputRowCount batchShaping state.rowsWritten state.batchesWritten
    (partialWritePossible plan state.rowsWritten state.batchesWritten)
    .notApplicable).withTargetValidation .unavailable (.skipped .failureBeforeValidation)

def mssqlWritePhaseError (plan : MssqlTargetOutputPlan) (phase : MssqlWritePhase)
    (metrics : MssqlWriteReportMetrics) (message : String) : DeltaFunnelError :=
  .mssqlWritePhase (.fromOutputPlanWithMetrics plan phase metrics) message

def mssqlArrowSqlServerWritePhaseError (plan : MssqlTargetOutputPlan) (phase : MssqlWritePhase)
    (metrics : MssqlWriteReportMetrics) (source : ArrowError) : DeltaFunnelError :=
  .mssqlWritePhase
    ((MssqlWriteFailureContext.fromOutputPlanWithMetrics plan phase metrics).withDiagnostics
      source.diagnostics)
    (arrowSqlServerSafeErrorMessage source)

def mssqlBatchSchemaValidationError (plan : MssqlTargetOutputPlan) (source : ArrowError)
    (metrics : MssqlWriteReportMetrics) : DeltaFunnelError :=
  .mssqlBatchSchemaValidation
    ((MssqlWriteFailureContext.fromOutputPlanWithMetrics plan .validateBatchSchema
      metrics).withDiagnostics (batchValidationDiagnostics source))
    source

def mssqlWriterInitializationMetrics (cleanup : MssqlTargetCleanupStatus) :
    MssqlWriteReportMetrics :=
  .new .unavailable (.notStarted .notExecuted) 0 0 false cleanup

def mssqlWriterInitializationError (plan : MssqlTargetOutputPlan)
    (preparedAction : MssqlPreparedTargetAction) (cleanup : MssqlTargetCleanupStatus)
    (message : String) : DeltaFunnelError :=
  mssqlWritePhaseError plan .initializeWriter (mssqlWriterInitializationMetrics cleanup)
    ("prepared target action " ++ preparedAction.debug ++ ": " ++ message)

def mssqlArrowSqlServerWriterInitializationError (plan : MssqlTargetOutputPlan)
    (preparedAction : MssqlPreparedTargetAction) (cleanup : MssqlTargetCleanupStatus)
    (source : ArrowError) : DeltaFunnelError :=
  .mssqlWritePhase
    ((MssqlWriteFailureContext.fromOutputPlanWithMetrics plan .initializeWriter
      (mssqlWriterInitializationMetrics cleanup)).withDiagnostics source.diagnostics)
    ("prepared target action " ++ preparedAction.debug ++ ": " ++
      arrowSqlServerSafeErrorMessage source)

/-- The writer's own check of the prepared target, made before the driver is called. -/
def ensurePreparedTargetAllowsWriter (plan : MssqlTargetOutputPlan)
    (target : MssqlPreparedTarget) : Except DeltaFunnelError Unit :=
  if !preparedTargetMatchesOutputPlan plan target then
    .error (mssqlWriterInitializationError plan target.report.action target.report.cleanup
      "prepared target does not match output plan")
  else if .bulkWriterConstruction ∉ plan.lifecyclePlan.executionGuardrails then
    .error (mssqlWriterInitializationError plan target.report.action target.report.cleanup
      "target lifecycle plan does not allow BulkWriterConstruction")
  else .ok ()

section Loop
variable {Batch : Type} [RecordBatch Batch]

def batchRowCount (batch : Batch) : ℕ := usizeToU64Saturating (RecordBatch.numRows batch)

/-- One pass for each item of the stream. It stops at the first poll, schema or write error. -/
def writeLoop (plan : MssqlTargetOutputPlan) (writer : MssqlBulkLoadWriter) :
    WriteLoopState → List (Except DeltaFunnelError Batch) →
      Program (SinkSig Batch) (Except DeltaFunnelError WriteLoopState)
  | state, [] => do
    sinkCall (.nextBatch none)
    return .ok state
  | state, .error source :: _ => do
    sinkCall (.nextBatch (some (.error source)))
    return .error (mssqlWritePhaseError plan .pollBatchStream
      ((writeFailureReportMetrics plan (.partialCount state.inputRows) state.failedShaping
        state).withPhaseTimings state.pollBatchStreamFailed)
      source.display)
  | state, .ok batch :: rest => do
    sinkCall (.nextBatch (some (.ok batch)))
    let rowCount := batchRowCount batch
    let counted := state.countInput rowCount
    let validated := { counted with validationAttempted := true }
    match RecordBatch.validateSchemaAgainstMappings batch plan.schemaMappings with
    | .error source =>
      return .error (mssqlBatchSchemaValidationError plan source
        ((writeFailureReportMetrics plan (.partialCount validated.inputRows)
          validated.failedShaping validated).withPhaseTimings validated.validateBatchSchemaFailed))
    | .ok () =>
      let attempted := { validated with writeAttempted := true }
      match ← sinkCall (.writeBatch writer batch) with
      | .error source =>
        return .error (mssqlArrowSqlServerWritePhaseError plan .writeBatch
          ((writeFailureReportMetrics plan (.partialCount attempted.inputRows)
            attempted.failedShaping attempted).withPhaseTimings attempted.writeBatchFailed)
          source)
      | .ok () => writeLoop plan writer (attempted.countWritten rowCount) rest

def writeMssqlBatchesWithWriter (plan : MssqlTargetOutputPlan)
    (batches : List (Except DeltaFunnelError Batch)) (writer : MssqlBulkLoadWriter) :
    Program (SinkSig Batch) (Except DeltaFunnelError MssqlWriteReport) := do
  match ← writeLoop plan writer .start batches with
  | .error error => return .error error
  | .ok state =>
    match ← sinkCall (.finish writer) with
    | .error source =>
      return .error (mssqlArrowSqlServerWritePhaseError plan .finalize
        ((writeFailureReportMetrics plan (.exact state.inputRows) state.completedShaping
          state).withPhaseTimings state.finalizeFailed)
        source)
    | .ok () =>
      return .ok (.fromOutputPlanWithMetrics plan
        ((MssqlWriteReportMetrics.new (.exact state.inputRows) state.completedShaping
          state.rowsWritten state.batchesWritten false .notApplicable).withPhaseTimings
          state.completed))

end Loop
end DeltaFunnel
