import DeltaFunnel.Support

/-! Status vocabulary of the reports. Wall-clock durations are not part of the model. -/

namespace DeltaFunnel

inductive ReportReasonCode where
  | validationDisabled
  | dryRun
  | capabilityUnavailable
  | permissionUnavailable
  | priorFailure
  | unsupportedLoadMode
  | missingTargetAccess
  | missingExactOutputRows
  | costAvoidance
  | notExecuted
  | failureBeforeValidation
  deriving DecidableEq, Repr

inductive RowCount where
  | exact (value : ℕ)
  | estimated (value : ℕ)
  | partialCount (value : ℕ)
  | unavailable
  deriving DecidableEq, Repr

def RowCount.exactValue : RowCount → Option ℕ
  | .exact value => some value
  | .estimated _ | .partialCount _ | .unavailable => none

@[simp] theorem RowCount.exactValue_exact (value : ℕ) : (RowCount.exact value).exactValue = some value :=
  rfl

inductive ValidationStatus where
  | disabled (reason : ReportReasonCode)
  | passed
  | failed
  | skipped (reason : ReportReasonCode)
  | unavailable (reason : ReportReasonCode)
  | requiredButFailed (reason : ReportReasonCode)
  deriving DecidableEq, Repr

inductive PhaseStatus where
  | completed
  | failed
  | skipped (reason : ReportReasonCode)
  | notStarted (reason : ReportReasonCode)
  | unavailable (reason : ReportReasonCode)
  deriving DecidableEq, Repr

structure PhaseTimingReport where
  phaseName : String
  status : PhaseStatus
  deriving DecidableEq, Repr

namespace PhaseTimingReport

def completed (phaseName : String) : PhaseTimingReport := ⟨phaseName, .completed⟩

def failed (phaseName : String) : PhaseTimingReport := ⟨phaseName, .failed⟩

def skipped (phaseName : String) (reason : ReportReasonCode) : PhaseTimingReport :=
  ⟨phaseName, .skipped reason⟩

def notStarted (phaseName : String) (reason : ReportReasonCode) : PhaseTimingReport :=
  ⟨phaseName, .notStarted reason⟩

def unavailable (phaseName : String) (reason : ReportReasonCode) : PhaseTimingReport :=
  ⟨phaseName, .unavailable reason⟩

end PhaseTimingReport

/-- Overwrites the first timing of the same phase, or appends. -/
def replacePhaseTiming (timing : PhaseTimingReport) :
    List PhaseTimingReport → List PhaseTimingReport
  | [] => [timing]
  | existing :: rest =>
    if existing.phaseName = timing.phaseName then timing :: rest
    else existing :: replacePhaseTiming timing rest

inductive TargetValidationMode where
  | disabled
  | validateIfPossible
  | require
  deriving DecidableEq, Repr

inductive DryRunScanSummaryMode where
  | metadataOnly
  | exhaustScanMetadata
  deriving DecidableEq, Repr

structure ValidationOptions where
  targetValidationMode : TargetValidationMode := .validateIfPossible
  dryRunScanSummaryMode : DryRunScanSummaryMode := .metadataOnly
  requireSuccessfulPlanning : Bool := true
  deriving DecidableEq, Repr

end DeltaFunnel
