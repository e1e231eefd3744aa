import DeltaFunnel.SqlServer.Target

/-! Per-output write reports, failure contexts, and the statuses of a multi-output workflow. -/

namespace DeltaFunnel

inductive MssqlWritePhase where
  | queryDataFramePlanning
  | queryPhysicalPlanning
  | queryStreamSetup
  | connect
  | prepareTargetLifecycle
  | initializeWriter
  | pollBatchStream
  | validateBatchSchema
  | writeBatch
  | finalize
  | validation
  | swapTarget
  | cleanup
  deriving DecidableEq, Repr

def MssqlWritePhase.display : MssqlWritePhase → String
  | .queryDataFramePlanning => "query_dataframe_planning"
  | .queryPhysicalPlanning => "query_physical_planning"
  | .queryStreamSetup => "query_stream_setup"
  | .connect => "connect"
  | .prepareTargetLifecycle => "prepare target lifecycle"
  | .initializeWriter => "initialize writer"
  | .pollBatchStream => "poll batch stream"
  | .validateBatchSchema => "validate batch schema"
  | .writeBatch => "write batch"
  | .finalize => "finalize"
  | .validation => "validation"
  | .swapTarget => "swap target"
  | .cleanup => "cleanup"

inductive MssqlTargetCleanupStatus where
  | notApplicable
  | notAttempted
  | succeeded
  | failed
  deriving DecidableEq, Repr

structure MssqlWriteStats where
  outputName : String
  rowsWritten : ℕ
  batchesWritten : ℕ
  deriving DecidableEq, Repr

structure MssqlOutputFieldReport where
  index : ℕ
  name : String
  arrowType : String
  nullable : Bool
  deriving DecidableEq, Repr

def MssqlOutputFieldReport.fromMapping (mapping : SchemaMapping) : MssqlOutputFieldReport :=
  { index := usizeToU64Saturating mapping.index
    name := mapping.name
    arrowType := mapping.arrowType
    nullable := mapping.nullable }

structure MssqlBatchShapingReport where
  status : PhaseStatus
  inputBatches : ℕ
  inputRows : ℕ
  outputBatches : ℕ
  outputRows : ℕ
  deriving DecidableEq, Repr

namespace MssqlBatchShapingReport

def completed (inputBatches inputRows outputBatches outputRows : ℕ) : MssqlBatchShapingReport :=
  ⟨.completed, inputBatches, inputRows, outputBatches, outputRows⟩

def failed (inputBatches inputRows outputBatches outputRows : ℕ) : MssqlBatchShapingReport :=
  ⟨.failed, inputBatches, inputRows, outputBatches, outputRows⟩

def notStarted (reason : ReportReasonCode) : MssqlBatchShapingReport :=
  ⟨.notStarted reason, 0, 0, 0, 0⟩

def skipped (reason : ReportReasonCode) : MssqlBatchShapingReport := ⟨.skipped reason, 0, 0, 0, 0⟩

end MssqlBatchShapingReport

structure MssqlWriteReportMetrics where
  outputRowCount : RowCount
  targetRowCountBeforeWrite : RowCount
  targetRowCount : RowCount
  validationStatus : ValidationStatus
  batchShaping : MssqlBatchShapingReport
  phaseTimings : List PhaseTimingReport
  rowsWritten : ℕ
  batchesWritten : ℕ
  partialWritePossible : Bool
  cleanup : MssqlTargetCleanupStatus
  deriving DecidableEq, Repr

namespace MssqlWriteReportMetrics

def new (outputRowCount : RowCount) (batchShaping : MssqlBatchShapingReport)
    (rowsWritten batchesWritten : ℕ) (partialWritePossible : Bool)
    (cleanup : MssqlTargetCleanupStatus) : MssqlWriteReportMetrics :=
  { outputRowCount
    targetRowCountBeforeWrite := .unavailable
    targetRowCount := .unavailable
    validationStatus := .skipped .notExecuted
    batchShaping
    phaseTimings := []
    rowsWritten
    batchesWritten
    partialWritePossible
    cleanup }

def withPhaseTimings (metrics : MssqlWriteReportMetrics) (phaseTimings : List PhaseTimingReport) :
    MssqlWriteReportMetrics := { metrics with phaseTimings }

def withTargetValidation (metrics : MssqlWriteReportMetrics) (targetRowCount : RowCount)
    (validationStatus : ValidationStatus) : MssqlWriteReportMetrics :=
  { metrics with targetRowCount, validationStatus }

def withTargetDeltaValidation (metrics : MssqlWriteReportMetrics)
    (targetRowCountBeforeWrite targetRowCountAfterWrite : RowCount)
    (validationStatus : ValidationStatus) : MssqlWriteReportMetrics :=
  { metrics with
    targetRowCountBeforeWrite
    targetRowCount := targetRowCountAfterWrite
    validationStatus }

end MssqlWriteReportMetrics

structure MssqlWriteReport where
  outputName : String
  targetTable : MssqlTargetTable
  loadMode : LoadMode
  connectionSource : MssqlConnectionSource
  connection : MssqlConnectionSummary
  outputSchema : List MssqlOutputFieldReport
  outputRowCount : RowCount
  targetRowCountBeforeWrite : RowCount
  targetRowCount : RowCount
  validationStatus : ValidationStatus
  batchShaping : MssqlBatchShapingReport
  phaseTimings : List PhaseTimingReport
  stats : MssqlWriteStats
  partialWritePossible : Bool
  cleanup : MssqlTargetCleanupStatus
  deriving DecidableEq, Repr

namespace MssqlWriteReport

/-- New timings go before the ones the report already has. -/
def withPhaseTimings (report : MssqlWriteReport) (phaseTimings : List PhaseTimingReport) :
    MssqlWriteReport := { report with phaseTimings := phaseTimings ++ report.phaseTimings }

def withAppendedPhaseTimings (report : MssqlWriteReport) (phaseTimings : List PhaseTimingReport) :
    MssqlWriteReport := { report with phaseTimings := report.phaseTimings ++ phaseTimings }

def withCleanup (report : MssqlWriteReport) (cleanup : MssqlTargetCleanupStatus) :
    MssqlWriteReport := { report with cleanup }

def withTargetValidation (report : MssqlWriteReport) (targetRowCount : RowCount)
    (validationStatus : ValidationStatus) (validationTiming : PhaseTimingReport) :
    MssqlWriteReport :=
  { report with
    targetRowCount
    validationStatus
    phaseTimings := replacePhaseTiming validationTiming report.phaseTimings }

def withTargetDeltaValidation (report : MssqlWriteReport)
    (targetRowCountBeforeWrite targetRowCountAfterWrite : RowCount)
    (validationStatus : ValidationStatus) (validationTiming : PhaseTimingReport) :
    MssqlWriteReport :=
  { report with
    targetRowCountBeforeWrite
    targetRowCount := targetRowCountAfterWrite
    validationStatus
    phaseTimings := replacePhaseTiming validationTiming report.phaseTimings }

variable (report : MssqlWriteReport)

@[simp] theorem withPhaseTimings_outputRowCount (timings : List PhaseTimingReport) :
    (report.withPhaseTimings timings).outputRowCount = report.outputRowCount := rfl

@[simp] theorem withCleanup_outputRowCount (cleanup : MssqlTargetCleanupStatus) :
    (report.withCleanup cleanup).outputRowCount = report.outputRowCount := rfl

@[simp] theorem withTargetValidation_validationStatus (count : RowCount)
    (status : ValidationStatus) (timing : PhaseTimingReport) :
    (report.withTargetValidation count status timing).validationStatus = status := rfl

end MssqlWriteReport

structure MssqlWriteFailureContext where
  phase : MssqlWritePhase
  report : MssqlWriteReport
  diagnostics : List MssqlWriteDiagnostic
  cleanupError : Option String
  deriving DecidableEq, Repr

namespace MssqlWriteFailureContext

def withDiagnostics (context : MssqlWriteFailureContext)
    (diagnostics : List MssqlWriteDiagnostic) : MssqlWriteFailureContext :=
  { context with diagnostics }

def withCleanupError (context : MssqlWriteFailureContext) (cleanupError : String) :
    MssqlWriteFailureContext :=
  { context with cleanupError := some (sanitizeTextForDisplay cleanupError) }

def withPhaseTimings (context : MssqlWriteFailureContext)
    (phaseTimings : List PhaseTimingReport) : MssqlWriteFailureContext :=
  { context with report := context.report.withPhaseTimings phaseTimings }

def withAppendedPhaseTimings (context : MssqlWriteFailureContext)
    (phaseTimings : List PhaseTimingReport) : MssqlWriteFailureContext :=
  { context with report := context.report.withAppendedPhaseTimings phaseTimings }

end MssqlWriteFailureContext

structure MssqlWriteFailureReport where
  target : MssqlTargetSummary
  error : String
  context : Option MssqlWriteFailureContext
  outputRowCount : RowCount
  targetRowCount : RowCount
  validationStatus : ValidationStatus
  batchShaping : MssqlBatchShapingReport
  phaseTimings : List PhaseTimingReport
  deriving DecidableEq, Repr

inductive MssqlWriteSkippedReason where
  | previousOutputFailed (failedOutputName : String)
  deriving DecidableEq, Repr

structure MssqlWriteSkippedReport where
  target : MssqlTargetSummary
  reason : MssqlWriteSkippedReason
  outputRowCount : RowCount
  targetRowCount : RowCount
  validationStatus : ValidationStatus
  batchShaping : MssqlBatchShapingReport
  phaseTimings : List PhaseTimingReport
  deriving DecidableEq, Repr

inductive MssqlOutputWriteStatus where
  | succeeded (report : MssqlWriteReport)
  | failed (report : MssqlWriteFailureReport)
  | skipped (report : MssqlWriteSkippedReport)
  deriving DecidableEq, Repr

namespace MssqlOutputWriteStatus

def isSucceeded : MssqlOutputWriteStatus → Bool
  | .succeeded _ => true
  | _ => false

def isFailed : MssqlOutputWriteStatus → Bool
  | .failed _ => true
  | _ => false

def isSkipped : MssqlOutputWriteStatus → Bool
  | .skipped _ => true
  | _ => false

end MssqlOutputWriteStatus

structure MssqlWorkflowWriteReport where
  outputs : List MssqlOutputWriteStatus
  deriving DecidableEq, Repr

namespace MssqlWorkflowWriteReport
variable (report : MssqlWorkflowWriteReport)

def allSucceeded : Bool := report.outputs.all (·.isSucceeded)

def succeededCount : ℕ := (report.outputs.filter (·.isSucceeded)).length

def failedCount : ℕ := (report.outputs.filter (·.isFailed)).length

def skippedCount : ℕ := (report.outputs.filter (·.isSkipped)).length

end MssqlWorkflowWriteReport

end DeltaFunnel
