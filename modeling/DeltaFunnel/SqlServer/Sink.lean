import DeltaFunnel.SqlServer.Write

/-! One-output sink orchestration: prepare, lock, count, write, validate, unlock, swap, and
cleanup after a failure. -/

namespace DeltaFunnel
open Interaction Program

variable [ArrowSqlServer]

/-- Rebuilds a failure context under a new cleanup status; the cleanup error is dropped. -/
def contextWithCleanup (plan : MssqlTargetOutputPlan) (context : MssqlWriteFailureContext)
    (cleanup : MssqlTargetCleanupStatus) : MssqlWriteFailureContext :=
  let report := context.report
  (MssqlWriteFailureContext.fromOutputPlanWithMetrics plan context.phase
    (((MssqlWriteReportMetrics.new report.outputRowCount report.batchShaping
      report.stats.rowsWritten report.stats.batchesWritten report.partialWritePossible
      cleanup).withTargetDeltaValidation report.targetRowCountBeforeWrite report.targetRowCount
      report.validationStatus).withPhaseTimings report.phaseTimings)).withDiagnostics
    context.diagnostics

def errorWithCleanup (plan : MssqlTargetOutputPlan) (error : DeltaFunnelError)
    (cleanup : MssqlTargetCleanupStatus) : DeltaFunnelError :=
  match error with
  | .mssqlWritePhase context message =>
    .mssqlWritePhase (contextWithCleanup plan context cleanup) message
  | .mssqlBatchSchemaValidation context source =>
    .mssqlBatchSchemaValidation (contextWithCleanup plan context cleanup) source
  | other => other

def errorWithPhaseTimings (error : DeltaFunnelError) (phaseTimings : List PhaseTimingReport) :
    DeltaFunnelError :=
  match error with
  | .mssqlWritePhase context message =>
    .mssqlWritePhase (context.withPhaseTimings phaseTimings) message
  | .mssqlBatchSchemaValidation context source =>
    .mssqlBatchSchemaValidation (context.withPhaseTimings phaseTimings) source
  | other => other

def errorWithAppendedPhaseTimings (error : DeltaFunnelError)
    (phaseTimings : List PhaseTimingReport) : DeltaFunnelError :=
  match error with
  | .mssqlWritePhase context message =>
    .mssqlWritePhase (context.withAppendedPhaseTimings phaseTimings) message
  | .mssqlBatchSchemaValidation context source =>
    .mssqlBatchSchemaValidation (context.withAppendedPhaseTimings phaseTimings) source
  | other => other

def errorWithCleanupFailure (plan : MssqlTargetOutputPlan) (error cleanupError : DeltaFunnelError) :
    DeltaFunnelError :=
  let cleanupMessage := cleanupError.display
  match error with
  | .mssqlWritePhase context message =>
    .mssqlWritePhase ((contextWithCleanup plan context .failed).withCleanupError cleanupMessage)
      (message ++ "; cleanup failed: " ++ cleanupMessage)
  | .mssqlBatchSchemaValidation context source =>
    .mssqlBatchSchemaValidation
      ((contextWithCleanup plan context .failed).withCleanupError cleanupMessage) source
  | other => other

def reportMetricsFromReport (report : MssqlWriteReport) (partialWritePossible : Bool) :
    MssqlWriteReportMetrics :=
  ((MssqlWriteReportMetrics.new report.outputRowCount report.batchShaping report.stats.rowsWritten
    report.stats.batchesWritten partialWritePossible report.cleanup).withTargetDeltaValidation
    report.targetRowCountBeforeWrite report.targetRowCount
    report.validationStatus).withPhaseTimings report.phaseTimings

def errorWithReportMetrics (plan : MssqlTargetOutputPlan) (error : DeltaFunnelError)
    (phase : MssqlWritePhase) (report : MssqlWriteReport) : DeltaFunnelError :=
  let (message, partialWritePossible) := match error with
    | .mssqlWritePhase context message => (message, context.report.partialWritePossible)
    | other => (other.display, true)
  .mssqlWritePhase
    (.fromOutputPlanWithMetrics plan phase (reportMetricsFromReport report partialWritePossible))
    message

def validationError (plan : MssqlTargetOutputPlan) (report : MssqlWriteReport) (message : String) :
    DeltaFunnelError :=
  .mssqlWritePhase
    (.fromOutputPlanWithMetrics plan .validation
      (reportMetricsFromReport report report.partialWritePossible))
    message

inductive TargetRowCountBeforeWrite where
  | notRequired
  | exact (rows : ℕ)
  | unavailable (reason : ReportReasonCode) (message : String)
  deriving DecidableEq, Repr

def unavailableOrRequiredStatus (validationRequired : Bool) (reason : ReportReasonCode) :
    ValidationStatus :=
  if validationRequired then .requiredButFailed reason else .unavailable reason

def validationUnavailableOrRequiredFailure (plan : MssqlTargetOutputPlan)
    (report : MssqlWriteReport) (reason : ReportReasonCode) (validationRequired : Bool)
    (message : String) : Except DeltaFunnelError MssqlWriteReport :=
  let report := report.withTargetValidation .unavailable
    (unavailableOrRequiredStatus validationRequired reason) (.unavailable "validation" reason)
  if validationRequired ∨ plan.loadMode = .replace then .error (validationError plan report message)
  else .ok report

/-- Unlike `validationUnavailableOrRequiredFailure`, this one has no replace branch. -/
def targetDeltaValidationUnavailableOrRequiredFailure (plan : MssqlTargetOutputPlan)
    (report : MssqlWriteReport) (reason : ReportReasonCode) (validationRequired : Bool)
    (message : String) (targetRowCountBeforeWrite : RowCount) :
    Except DeltaFunnelError MssqlWriteReport :=
  let report := report.withTargetDeltaValidation targetRowCountBeforeWrite .unavailable
    (unavailableOrRequiredStatus validationRequired reason) (.unavailable "validation" reason)
  if validationRequired then .error (validationError plan report message) else .ok report

def missingExactOutputRowsValidation (plan : MssqlTargetOutputPlan) (report : MssqlWriteReport)
    (validationRequired : Bool) (targetRowCountBeforeWrite : TargetRowCountBeforeWrite) :
    Except DeltaFunnelError MssqlWriteReport :=
  match plan.loadMode, targetRowCountBeforeWrite with
  | .appendExisting, .exact targetRowsBefore =>
    targetDeltaValidationUnavailableOrRequiredFailure plan report .missingExactOutputRows
      validationRequired "target row-count validation requires exact output rows"
      (.exact targetRowsBefore)
  | _, _ =>
    validationUnavailableOrRequiredFailure plan report .missingExactOutputRows validationRequired
      "target row-count validation requires exact output rows"

def preWriteRequiredValidationError (plan : MssqlTargetOutputPlan)
    (preparedTarget : MssqlPreparedTarget) (reason : ReportReasonCode) (message : String) :
    DeltaFunnelError :=
  let report := MssqlWriteReport.fromOutputPlanWithMetrics plan
    (((MssqlWriteReportMetrics.new .unavailable (.notStarted .notExecuted) 0 0 false
      preparedTarget.report.cleanup).withTargetDeltaValidation .unavailable .unavailable
      (.requiredButFailed reason)).withPhaseTimings [.unavailable "validation" reason])
  validationError plan report message

section Run
variable {Batch : Type}

def targetRowCountBeforeAppendWrite (plan : MssqlTargetOutputPlan)
    (preparedTarget : MssqlPreparedTarget) (validationOptions : ValidationOptions) :
    Program (SinkSig Batch) (Except DeltaFunnelError TargetRowCountBeforeWrite) :=
  if validationOptions.targetValidationMode = .disabled ∨ plan.loadMode ≠ .appendExisting then
    return .ok .notRequired
  else do
    match ← sinkCall (.targetRowCount plan preparedTarget) with
    | .ok targetRows => return .ok (.exact targetRows)
    | .error failure =>
      if validationOptions.targetValidationMode = .require then
        return .error (preWriteRequiredValidationError plan preparedTarget failure.reason
          failure.message)
      else
        return .ok (.unavailable failure.reason failure.message)

def validateAppendExistingTargetDelta (plan : MssqlTargetOutputPlan)
    (preparedTarget : MssqlPreparedTarget) (report : MssqlWriteReport) (validationRequired : Bool)
    (targetRowCountBeforeWrite : TargetRowCountBeforeWrite) (outputRows : ℕ) :
    Program (SinkSig Batch) (Except DeltaFunnelError MssqlWriteReport) :=
  match targetRowCountBeforeWrite with
  | .unavailable reason message =>
    return validationUnavailableOrRequiredFailure plan report reason validationRequired message
  | .notRequired =>
    return validationUnavailableOrRequiredFailure plan report .missingTargetAccess
      validationRequired "target row-count validation requires target rows before append write"
  | .exact targetRowsBefore => do
    match ← sinkCall (.targetRowCount plan preparedTarget) with
    | .error failure =>
      return targetDeltaValidationUnavailableOrRequiredFailure plan report failure.reason
        validationRequired failure.message (.exact targetRowsBefore)
    | .ok targetRowsAfter =>
      -- `checked_sub` answers `None` on a shrunken target, which never equals the output rows.
      if targetRowsBefore ≤ targetRowsAfter ∧ targetRowsAfter - targetRowsBefore = outputRows then
        return .ok (report.withTargetDeltaValidation (.exact targetRowsBefore)
          (.exact targetRowsAfter) .passed (.completed "validation"))
      else
        return .error (validationError plan
          (report.withTargetDeltaValidation (.exact targetRowsBefore) (.exact targetRowsAfter)
            .failed (.failed "validation"))
          "target row-count delta did not match exact output rows")

/-- The create-and-load and replace branch: the target was empty before the write. -/
def validateCreatedTargetRows (plan : MssqlTargetOutputPlan) (preparedTarget : MssqlPreparedTarget)
    (report : MssqlWriteReport) (validationRequired : Bool) (outputRows : ℕ) :
    Program (SinkSig Batch) (Except DeltaFunnelError MssqlWriteReport) := do
  match ← sinkCall (.targetRowCount plan preparedTarget) with
  | .error failure =>
    return validationUnavailableOrRequiredFailure plan report failure.reason validationRequired
      failure.message
  | .ok targetRows =>
    if targetRows = outputRows then
      return .ok (report.withTargetValidation (.exact targetRows) .passed (.completed "validation"))
    else
      return .error (validationError plan
        (report.withTargetValidation (.exact targetRows) .failed (.failed "validation"))
        "target row count did not match exact output rows")

def validateWrittenTarget (plan : MssqlTargetOutputPlan) (preparedTarget : MssqlPreparedTarget)
    (report : MssqlWriteReport) (validationOptions : ValidationOptions)
    (targetRowCountBeforeWrite : TargetRowCountBeforeWrite) :
    Program (SinkSig Batch) (Except DeltaFunnelError MssqlWriteReport) :=
  if validationOptions.targetValidationMode = .disabled then
    let report := report.withTargetValidation .unavailable (.disabled .validationDisabled)
      (.skipped "validation" .validationDisabled)
    if plan.loadMode = .replace then
      return .error (validationError plan report "replace target swap requires target validation")
    else return .ok report
  else
    let validationRequired : Bool := validationOptions.targetValidationMode = .require
    match report.outputRowCount.exactValue with
    | none =>
      return missingExactOutputRowsValidation plan report validationRequired
        targetRowCountBeforeWrite
    | some outputRows =>
      -- The third guard of the source, `unsupported_target_validation`, has no load mode left.
      match plan.loadMode with
      | .appendExisting =>
        validateAppendExistingTargetDelta plan preparedTarget report validationRequired
          targetRowCountBeforeWrite outputRows
      | .createAndLoad | .replace =>
        validateCreatedTargetRows plan preparedTarget report validationRequired outputRows

def swapFailure (plan : MssqlTargetOutputPlan) (report : MssqlWriteReport)
    (error : DeltaFunnelError) : DeltaFunnelError :=
  errorWithAppendedPhaseTimings (errorWithReportMetrics plan error .swapTarget report)
    [.failed "swap_target"]

def swapStagedTarget (plan : MssqlTargetOutputPlan) (preparedTarget : MssqlPreparedTarget)
    (report : MssqlWriteReport) :
    Program (SinkSig Batch) (Except DeltaFunnelError MssqlWriteReport) := do
  match ← sinkCall (.swapPreparedReplaceTarget plan preparedTarget) with
  | .ok () => return .ok (report.withAppendedPhaseTimings [.completed "swap_target"])
  | .error error => return .error (swapFailure plan report error)

def swapReplaceTargetAfterValidation (plan : MssqlTargetOutputPlan)
    (preparedTarget : MssqlPreparedTarget) (report : MssqlWriteReport)
    (bulkLoadTableLockEnabled : Bool) :
    Program (SinkSig Batch) (Except DeltaFunnelError MssqlWriteReport) :=
  if plan.loadMode ≠ .replace then return .ok report
  else if report.validationStatus ≠ .passed then
    return .error (validationError plan report
      "replace target swap requires passed staging validation")
  else if bulkLoadTableLockEnabled then do
    match ← sinkCall (.disableBulkLoadTableLock plan preparedTarget) with
    | .error error => return .error (swapFailure plan report error)
    | .ok () => swapStagedTarget plan preparedTarget report
  else swapStagedTarget plan preparedTarget report

def cleanupAfterPreparedTargetFailure (plan : MssqlTargetOutputPlan)
    (preparedTarget : MssqlPreparedTarget) (originalError : DeltaFunnelError) :
    Program (SinkSig Batch) DeltaFunnelError := do
  match ← sinkCall (.cleanupPreparedTarget plan (some preparedTarget)) with
  | .ok cleanup =>
    return errorWithAppendedPhaseTimings (errorWithCleanup plan originalError cleanup)
      [.completed "cleanup"]
  | .error cleanupError =>
    return errorWithAppendedPhaseTimings
      (errorWithCleanupFailure plan originalError cleanupError) [.failed "cleanup"]

/-- Every failure after a successful preparation leaves through here. -/
def failAfterPreparation {α : Type} (plan : MssqlTargetOutputPlan)
    (preparedTarget : MssqlPreparedTarget) (error : DeltaFunnelError) :
    Program (SinkSig Batch) (Except DeltaFunnelError α) := do
  return .error (← cleanupAfterPreparedTargetFailure plan preparedTarget error)

variable [RecordBatch Batch]

def writePreparedBatches (plan : MssqlTargetOutputPlan) (preparedTarget : MssqlPreparedTarget)
    (batches : List (Except DeltaFunnelError Batch)) (options : MssqlWriteBackend) :
    Program (SinkSig Batch) (Except DeltaFunnelError MssqlWriteReport) := do
  match ← sinkCall (.initializeWriter plan preparedTarget options) with
  | .error error => return .error (errorWithPhaseTimings error [.failed "initialize_writer"])
  | .ok writer =>
    match ← writeMssqlBatchesWithWriter plan batches writer with
    | .ok report => return .ok (report.withPhaseTimings [.completed "initialize_writer"])
    | .error error => return .error (errorWithPhaseTimings error [.completed "initialize_writer"])

/-- The bulk-load lock is taken for replace targets only. -/
def enableReplaceTableLock (plan : MssqlTargetOutputPlan) (preparedTarget : MssqlPreparedTarget) :
    Program (SinkSig Batch) (Except DeltaFunnelError Bool) :=
  if plan.loadMode = .replace then sinkCall (.enableBulkLoadTableLock plan preparedTarget)
  else return .ok false

/-- The part of the run after the writer has succeeded. -/
def publishWrittenTarget (plan : MssqlTargetOutputPlan) (preparedTarget : MssqlPreparedTarget)
    (validationOptions : ValidationOptions) (bulkLoadTableLockEnabled : Bool)
    (targetRowCountBeforeWrite : TargetRowCountBeforeWrite) (report : MssqlWriteReport) :
    Program (SinkSig Batch) (Except DeltaFunnelError MssqlWriteReport) := do
  match ← validateWrittenTarget plan preparedTarget report validationOptions
      targetRowCountBeforeWrite with
  | .error error => failAfterPreparation plan preparedTarget error
  | .ok report =>
    match ← swapReplaceTargetAfterValidation plan preparedTarget report
        bulkLoadTableLockEnabled with
    | .error error => failAfterPreparation plan preparedTarget error
    | .ok report => return .ok report

def runMssqlOutputBatchesOnConnection (plan : MssqlTargetOutputPlan)
    (batches : List (Except DeltaFunnelError Batch)) (options : MssqlWriteBackend)
    (validationOptions : ValidationOptions) (phaseTimings : List PhaseTimingReport) :
    Program (SinkSig Batch) (Except DeltaFunnelError MssqlWriteReport) := do
  let prepareFailed := phaseTimings ++ [.failed "prepare_target_lifecycle"]
  let prepared := phaseTimings ++ [.completed "prepare_target_lifecycle"]
  match ← sinkCall (.prepareTargetLifecycle plan) with
  | .error error => return .error (errorWithPhaseTimings error prepareFailed)
  | .ok preparedTarget =>
    match ← enableReplaceTableLock plan preparedTarget with
    | .error error =>
      failAfterPreparation plan preparedTarget (errorWithPhaseTimings error prepareFailed)
    | .ok bulkLoadTableLockEnabled =>
      match ← targetRowCountBeforeAppendWrite plan preparedTarget validationOptions with
      | .error error =>
        failAfterPreparation plan preparedTarget (errorWithPhaseTimings error prepared)
      | .ok targetRowCountBeforeWrite =>
        match ← writePreparedBatches plan preparedTarget batches options with
        | .error error =>
          failAfterPreparation plan preparedTarget (errorWithPhaseTimings error prepared)
        | .ok report =>
          publishWrittenTarget plan preparedTarget validationOptions bulkLoadTableLockEnabled
            targetRowCountBeforeWrite
            ((report.withCleanup preparedTarget.report.cleanup).withPhaseTimings prepared)

end Run
end DeltaFunnel
