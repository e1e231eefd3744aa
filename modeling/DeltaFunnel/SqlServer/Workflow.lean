import DeltaFunnel.Error
import DeltaFunnel.Interaction.Protocol

/-! The sequential multi-output workflow: jobs run in order, the first failure skips the rest.
What a job's query factory and the writer do is a program over any environment. -/

namespace DeltaFunnel
open Interaction

def outputStreamSetupPhase : String := "output_stream_setup"
def sqlWritePhase : String := "sql_write"
def workflowValidationPhase : String := "validation"

/-- The callback of a query that is profiled sees the writer's result before it is reported. -/
structure MssqlOutputQueryExecution (Stream : Type) where
  stream : Stream
  queryPhaseTimings : List PhaseTimingReport
  attachProfileToResult : Option (Except DeltaFunnelError MssqlWriteReport →
    Except DeltaFunnelError MssqlWriteReport)

def MssqlOutputQueryExecution.attachProfile {Stream : Type}
    (execution : MssqlOutputQueryExecution Stream)
    (writeResult : Except DeltaFunnelError MssqlWriteReport) :
    Except DeltaFunnelError MssqlWriteReport :=
  match execution.attachProfileToResult with
  | some attachProfile => attachProfile writeResult
  | none => writeResult

structure MssqlOutputQueryError where
  error : DeltaFunnelError
  queryPhaseTimings : List PhaseTimingReport
  deriving DecidableEq, Repr

structure MssqlOutputWriteJob (σ : Signature) (Schema Stream : Type) where
  outputSchema : Schema
  target : MssqlTargetSummary
  createQueryExecution :
    Program σ (Except MssqlOutputQueryError (MssqlOutputQueryExecution Stream))
  phaseTimings : List PhaseTimingReport

structure MssqlWorkflowOutputWriter (σ : Signature) (Schema Stream : Type) where
  reportsSqlWritePhase : Bool
  writeOutput : Schema → MssqlTargetSummary → Stream →
    Program σ (Except DeltaFunnelError MssqlWriteReport)

structure MssqlWorkflowWriteOptions where
  maxParallelOutputs : ℕ := 1
  deriving DecidableEq, Repr

def MssqlWorkflowWriteOptions.validate (options : MssqlWorkflowWriteOptions) :
    Except DeltaFunnelError Unit :=
  match options.maxParallelOutputs with
  | 1 => .ok ()
  | 0 => .error (.mssqlWorkflowPlanning "max_parallel_outputs must be at least 1")
  | requested =>
    .error (.mssqlWorkflowPlanning ("parallel MSSQL output writers are not supported; requested " ++
      toString requested))

def failureContext : DeltaFunnelError → Option MssqlWriteFailureContext
  | .mssqlWritePhase context _ => some context
  | .mssqlQueryPhase context _ => some context
  | .mssqlBatchSchemaValidation context _ => some context
  | _ => none

/-- Timings of the failure context replace planned ones of the same phase. -/
def mergedFailurePhaseTimings (phaseTimings : List PhaseTimingReport)
    (context : Option MssqlWriteFailureContext) : List PhaseTimingReport :=
  match context with
  | none => phaseTimings
  | some context =>
    context.report.phaseTimings.foldl (fun timings timing => replacePhaseTiming timing timings)
      phaseTimings

def MssqlWriteFailureReport.fromError (target : MssqlTargetSummary) (error : DeltaFunnelError)
    (phaseTimings : List PhaseTimingReport) : MssqlWriteFailureReport :=
  let context := failureContext error
  { target
    error := sanitizeTextForDisplay error.display
    context
    outputRowCount := (context.map (·.report.outputRowCount)).getD .unavailable
    targetRowCount := (context.map (·.report.targetRowCount)).getD .unavailable
    validationStatus :=
      (context.map (·.report.validationStatus)).getD (.skipped .failureBeforeValidation)
    batchShaping := (context.map (·.report.batchShaping)).getD (.notStarted .notExecuted)
    phaseTimings := mergedFailurePhaseTimings phaseTimings context }

/-- The timing of the write, which a writer may leave to others to report. -/
def sqlWriteTiming (reportsSqlWritePhase : Bool)
    (written : Except DeltaFunnelError MssqlWriteReport) : PhaseTimingReport :=
  if !reportsSqlWritePhase then .notStarted sqlWritePhase .notExecuted
  else match written with
    | .ok _ => .completed sqlWritePhase
    | .error _ => .failed sqlWritePhase

def outputWritePhaseTimings (phaseTimings : List PhaseTimingReport)
    (streamSetupTiming writeTiming : PhaseTimingReport) : List PhaseTimingReport :=
  phaseTimings ++ [streamSetupTiming, writeTiming]

def outputWriteFailurePhaseTimings (phaseTimings : List PhaseTimingReport)
    (streamSetupTiming writeTiming : PhaseTimingReport) : List PhaseTimingReport :=
  phaseTimings ++ [streamSetupTiming, writeTiming,
    .notStarted workflowValidationPhase .failureBeforeValidation]

def streamSetupFailurePhaseTimings (phaseTimings : List PhaseTimingReport)
    (streamSetupTiming : PhaseTimingReport) : List PhaseTimingReport :=
  phaseTimings ++ [streamSetupTiming, .notStarted sqlWritePhase .notExecuted,
    .notStarted workflowValidationPhase .failureBeforeValidation]

def skippedAfterPriorFailurePhaseTimings (phaseTimings : List PhaseTimingReport) :
    List PhaseTimingReport :=
  phaseTimings ++ [.skipped outputStreamSetupPhase .priorFailure,
    .skipped sqlWritePhase .priorFailure, .skipped workflowValidationPhase .priorFailure]

def MssqlWriteSkippedReport.previousOutputFailed (target : MssqlTargetSummary)
    (failedOutputName : String) (phaseTimings : List PhaseTimingReport) :
    MssqlWriteSkippedReport :=
  { target
    reason := .previousOutputFailed failedOutputName
    outputRowCount := .unavailable
    targetRowCount := .unavailable
    validationStatus := .skipped .priorFailure
    batchShaping := .skipped .priorFailure
    phaseTimings := skippedAfterPriorFailurePhaseTimings phaseTimings }

section Execution
variable {σ : Signature} {Schema Stream : Type}

def writeMssqlOutputJob (writer : MssqlWorkflowOutputWriter σ Schema Stream)
    (job : MssqlOutputWriteJob σ Schema Stream) : Program σ MssqlOutputWriteStatus := do
  match ← job.createQueryExecution with
  | .error failure =>
    return .failed (.fromError job.target failure.error (streamSetupFailurePhaseTimings
      (job.phaseTimings ++ failure.queryPhaseTimings) (.failed outputStreamSetupPhase)))
  | .ok execution =>
    let timings := job.phaseTimings ++ execution.queryPhaseTimings
    let streamSetupTiming := PhaseTimingReport.completed outputStreamSetupPhase
    let writeResult ← writer.writeOutput job.outputSchema job.target execution.stream
    let written := execution.attachProfile writeResult
    let writeTiming := sqlWriteTiming writer.reportsSqlWritePhase written
    match written with
    | .ok report =>
      return .succeeded (report.withPhaseTimings
        (outputWritePhaseTimings timings streamSetupTiming writeTiming))
    | .error error =>
      return .failed (.fromError job.target error
        (outputWriteFailurePhaseTimings timings streamSetupTiming writeTiming))

/-- The jobs after a failure, named by `failedOutputName`, are skipped without being started. -/
def writeJobs (writer : MssqlWorkflowOutputWriter σ Schema Stream) :
    Option String → List (MssqlOutputWriteJob σ Schema Stream) →
      Program σ (List MssqlOutputWriteStatus)
  | _, [] => return []
  | some failedOutputName, job :: jobs => do
    let rest ← writeJobs writer (some failedOutputName) jobs
    return .skipped (.previousOutputFailed job.target failedOutputName job.phaseTimings) :: rest
  | none, job :: jobs => do
    let status ← writeMssqlOutputJob writer job
    let failedOutputName := match status with
      | .failed failure => some failure.target.outputName
      | _ => none
    let rest ← writeJobs writer failedOutputName jobs
    return status :: rest

def writeMssqlOutputsWithWriter (jobs : List (MssqlOutputWriteJob σ Schema Stream))
    (options : MssqlWorkflowWriteOptions) (writer : MssqlWorkflowOutputWriter σ Schema Stream) :
    Program σ (Except DeltaFunnelError MssqlWorkflowWriteReport) :=
  match options.validate with
  | .error error => return .error error
  | .ok () => do
    let statuses ← writeJobs writer none jobs
    return .ok ⟨statuses⟩

end Execution

/-- The job keeps the invariant, and its query answers streams in `Streams` only. -/
structure KeepsInvariant {σ : Signature} {Schema Stream S : Type} (A : Protocol σ S)
    (I : S → Prop) (writer : MssqlWorkflowOutputWriter σ Schema Stream)
    (Streams : Stream → Prop) (job : MssqlOutputWriteJob σ Schema Stream) : Prop where
  query : ∀ s, I s → A.Meets job.createQueryExecution s fun result s' =>
    I s' ∧ ∀ execution, result = .ok execution → Streams execution.stream
  write : ∀ s stream, I s → Streams stream →
    A.Meets (writer.writeOutput job.outputSchema job.target stream) s fun _ s' => I s'

section Invariants
variable {σ : Signature} {Schema Stream S : Type} {A : Protocol σ S} {I : S → Prop}
  {writer : MssqlWorkflowOutputWriter σ Schema Stream} {s : S}

theorem writeMssqlOutputJob_meets {Streams : Stream → Prop}
    {job : MssqlOutputWriteJob σ Schema Stream} (hjob : KeepsInvariant A I writer Streams job)
    (hs : I s) : A.Meets (writeMssqlOutputJob writer job) s fun _ s' => I s' := by
  refine (hjob.query s hs).bind ?_
  rintro result s₁ ⟨hs₁, hstream⟩
  rcases result with failure | execution
  · exact hs₁
  · refine (hjob.write s₁ execution.stream hs₁ (hstream execution rfl)).bind ?_
    intro writeResult s₂ hs₂
    dsimp only
    split
    · exact hs₂
    · exact hs₂

theorem writeJobs_meets {jobs : List (MssqlOutputWriteJob σ Schema Stream)}
    (hjobs : ∀ job ∈ jobs, ∃ Streams, KeepsInvariant A I writer Streams job)
    {failedOutputName : Option String} (hs : I s) :
    A.Meets (writeJobs writer failedOutputName jobs) s fun _ s' => I s' := by
  induction jobs generalizing s failedOutputName with
  | nil =>
    rcases failedOutputName with _ | failedOutputName
    · exact hs
    · exact hs
  | cons job jobs ih =>
    have htail : ∀ job ∈ jobs, ∃ Streams, KeepsInvariant A I writer Streams job :=
      fun other hother => hjobs other (List.mem_cons_of_mem _ hother)
    rcases failedOutputName with _ | failedOutputName
    · obtain ⟨Streams, hjob⟩ := hjobs job (List.mem_cons_self ..)
      refine (writeMssqlOutputJob_meets hjob hs).bind ?_
      intro status s₁ hs₁
      exact (ih htail hs₁).bind fun rest s₂ hs₂ => hs₂
    · exact (ih htail hs).bind fun rest s₁ hs₁ => hs₁

theorem writeMssqlOutputsWithWriter_meets {jobs : List (MssqlOutputWriteJob σ Schema Stream)}
    {options : MssqlWorkflowWriteOptions}
    (hjobs : ∀ job ∈ jobs, ∃ Streams, KeepsInvariant A I writer Streams job) (hs : I s) :
    A.Meets (writeMssqlOutputsWithWriter jobs options writer) s fun _ s' => I s' := by
  unfold writeMssqlOutputsWithWriter
  split
  · exact hs
  · exact (writeJobs_meets hjobs hs).bind fun statuses s₁ hs₁ => hs₁

end Invariants
end DeltaFunnel
