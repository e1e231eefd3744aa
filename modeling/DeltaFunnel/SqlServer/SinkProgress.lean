import DeltaFunnel.Progress.FileProgressStream
import DeltaFunnel.SqlServer.Sink

/-! The sink with a progress reporter: its work is the one without, every operation is done under
the phase that was announced for it, and progress is announced for accepted batches only. -/

namespace DeltaFunnel
open Interaction Program Narrated

/-- A stream with the counters of its scans as they are whenever an item is ready. -/
structure TrackedStream (Batch : Type) where
  items : List (Except DeltaFunnelError Batch × List DeltaDataFusionMetricsSnapshot)
  atEnd : List DeltaDataFusionMetricsSnapshot

def TrackedStream.batches {Batch : Type} (stream : TrackedStream Batch) :
    List (Except DeltaFunnelError Batch) := stream.items.map Prod.fst

variable [ArrowSqlServer] {Batch : Type}

abbrev ToldSink (Batch α : Type) :=
  Narrated ProgressEvent (SinkSig Batch) α

def FileTracker.sample (tracker : FileTracker) (snapshots : List DeltaDataFusionMetricsSnapshot) :
    ToldSink Batch FileTracker :=
  match tracker.sampler.emitIfChanged snapshots with
  | (some event, sampler) => do
    tracker.reporter.emit event
    return { tracker with sampler }
  | (none, sampler) => return { tracker with sampler }

/-- The counters are sampled once an item, or the end of the stream, is ready. -/
def pollBatchStream (tracker : Option FileTracker) (item : Option (Except DeltaFunnelError Batch))
    (snapshots : List DeltaDataFusionMetricsSnapshot) : ToldSink Batch (Option FileTracker) := do
  acting (sinkCall (.nextBatch item))
  match tracker with
  | none => return none
  | some tracker => do
    let tracker ← tracker.sample snapshots
    return some tracker

section Run
variable [RecordBatch Batch] (reporter : Option ProgressReporter)

def emitProgressPhase (phase : ProgressPhase) (outputName : String) : ToldSink Batch Unit :=
  emitOptional reporter (.enteredPhase phase (some outputName))

def emitProgressPhaseIf (condition : Prop) [Decidable condition] (phase : ProgressPhase)
    (outputName : String) : ToldSink Batch Unit :=
  if condition then emitProgressPhase reporter phase outputName else pure ()

/-- `writeLoop`, with progress after every accepted batch. -/
def writeLoopWithReporter (plan : MssqlTargetOutputPlan) (writer : MssqlBulkLoadWriter)
    (atEnd : List DeltaDataFusionMetricsSnapshot) :
    WriteLoopState → Option FileTracker →
      List (Except DeltaFunnelError Batch × List DeltaDataFusionMetricsSnapshot) →
      ToldSink Batch (Except DeltaFunnelError WriteLoopState)
  | state, tracker, [] => do
    let _ ← pollBatchStream tracker none atEnd
    return .ok state
  | state, tracker, (.error source, snapshots) :: _ => do
    let _ ← pollBatchStream tracker (some (.error source)) snapshots
    return .error (mssqlWritePhaseError plan .pollBatchStream
      ((writeFailureReportMetrics plan (.partialCount state.inputRows) state.failedShaping
        state).withPhaseTimings state.pollBatchStreamFailed)
      source.display)
  | state, tracker, (.ok batch, snapshots) :: rest => do
    let tracker ← pollBatchStream tracker (some (.ok batch)) snapshots
    let rowCount := batchRowCount batch
    let counted := state.countInput rowCount
    let validated := { counted with validationAttempted := true }
    match RecordBatch.validateSchemaAgainstMappings batch plan.schemaMappings with
    | .error source =>
      return .error (mssqlBatchSchemaValidationError plan source
        ((writeFailureReportMetrics plan (.partialCount validated.inputRows)
          validated.failedShaping validated).withPhaseTimings validated.validateBatchSchemaFailed))
    | .ok () =>
      let attempted := { validated with writeAttempted := true }
      match ← acting (sinkCall (.writeBatch writer batch)) with
      | .error source =>
        return .error (mssqlArrowSqlServerWritePhaseError plan .writeBatch
          ((writeFailureReportMetrics plan (.partialCount attempted.inputRows)
            attempted.failedShaping attempted).withPhaseTimings attempted.writeBatchFailed)
          source)
      | .ok () => do
        let written := attempted.countWritten rowCount
        emitOptional reporter (.acceptedBatches .writing (some plan.outputName)
          written.rowsWritten written.batchesWritten)
        writeLoopWithReporter plan writer atEnd written tracker rest

def writeMssqlBatchesWithReporter (plan : MssqlTargetOutputPlan) (stream : TrackedStream Batch)
    (tracker : Option FileTracker) (writer : MssqlBulkLoadWriter) :
    ToldSink Batch (Except DeltaFunnelError MssqlWriteReport) := do
  match ← writeLoopWithReporter reporter plan writer stream.atEnd .start tracker stream.items with
  | .error error => return .error error
  | .ok state =>
    match ← acting (sinkCall (.finish writer)) with
    | .error source =>
      return .error (mssqlArrowSqlServerWritePhaseError plan .finalize
        ((writeFailureReportMetrics plan (.exact state.inputRows) state.completedShaping
          state).withPhaseTimings state.finalizeFailed)
        source)
    | .ok () =>
      return .ok (.fromOutputPlanWithMetrics plan
        ((MssqlWriteReportMetrics.new (.exact state.inputRows) state.completedShaping
          state.rowsWritten state.batchesWritten false .notApplicable).withPhaseTimings
          state.completed))

def writePreparedBatchesWithReporter (plan : MssqlTargetOutputPlan)
    (preparedTarget : MssqlPreparedTarget) (stream : TrackedStream Batch)
    (tracker : Option FileTracker) (options : MssqlWriteBackend) :
    ToldSink Batch (Except DeltaFunnelError MssqlWriteReport) := do
  match ← acting (sinkCall (.initializeWriter plan preparedTarget options)) with
  | .error error => return .error (errorWithPhaseTimings error [.failed "initialize_writer"])
  | .ok writer =>
    match ← writeMssqlBatchesWithReporter reporter plan stream tracker writer with
    | .ok report => return .ok (report.withPhaseTimings [.completed "initialize_writer"])
    | .error error => return .error (errorWithPhaseTimings error [.completed "initialize_writer"])

/-- A target that needs no cleanup is not announced to be cleaned up. -/
def failAfterPreparationWithReporter {α : Type} (plan : MssqlTargetOutputPlan)
    (preparedTarget : MssqlPreparedTarget) (error : DeltaFunnelError) :
    ToldSink Batch (Except DeltaFunnelError α) := do
  emitProgressPhaseIf reporter (preparedTarget.report.cleanup ≠ .notApplicable) .cleaningUp
    plan.outputName
  acting (failAfterPreparation plan preparedTarget error)

def swapTargetWithReporter (plan : MssqlTargetOutputPlan) (preparedTarget : MssqlPreparedTarget)
    (bulkLoadTableLockEnabled : Bool) (report : MssqlWriteReport) :
    ToldSink Batch (Except DeltaFunnelError MssqlWriteReport) := do
  emitProgressPhaseIf reporter (plan.loadMode = .replace) .swappingTarget plan.outputName
  match ← acting (swapReplaceTargetAfterValidation plan preparedTarget report
      bulkLoadTableLockEnabled) with
  | .error error => failAfterPreparationWithReporter reporter plan preparedTarget error
  | .ok report => return .ok report

def publishWrittenTargetWithReporter (plan : MssqlTargetOutputPlan)
    (preparedTarget : MssqlPreparedTarget) (validationOptions : ValidationOptions)
    (bulkLoadTableLockEnabled : Bool) (targetRowCountBeforeWrite : TargetRowCountBeforeWrite)
    (report : MssqlWriteReport) : ToldSink Batch (Except DeltaFunnelError MssqlWriteReport) := do
  emitProgressPhaseIf reporter
    (validationOptions.targetValidationMode ≠ .disabled ∨ plan.loadMode = .replace) .validating
    plan.outputName
  match ← acting (validateWrittenTarget plan preparedTarget report validationOptions
      targetRowCountBeforeWrite) with
  | .error error => failAfterPreparationWithReporter reporter plan preparedTarget error
  | .ok report =>
    swapTargetWithReporter reporter plan preparedTarget bulkLoadTableLockEnabled report

/-- `run_mssql_output_batches_on_connection` with its reporter. -/
def runMssqlOutputBatchesWithReporter (plan : MssqlTargetOutputPlan) (stream : TrackedStream Batch)
    (tracker : Option FileTracker) (options : MssqlWriteBackend)
    (validationOptions : ValidationOptions) (phaseTimings : List PhaseTimingReport) :
    ToldSink Batch (Except DeltaFunnelError MssqlWriteReport) := do
  emitProgressPhase reporter .preparingTarget plan.outputName
  let prepareFailed := phaseTimings ++ [.failed "prepare_target_lifecycle"]
  let prepared := phaseTimings ++ [.completed "prepare_target_lifecycle"]
  match ← acting (sinkCall (.prepareTargetLifecycle plan)) with
  | .error error => return .error (errorWithPhaseTimings error prepareFailed)
  | .ok preparedTarget =>
    match ← acting (enableReplaceTableLock plan preparedTarget) with
    | .error error =>
      failAfterPreparationWithReporter reporter plan preparedTarget
        (errorWithPhaseTimings error prepareFailed)
    | .ok bulkLoadTableLockEnabled =>
      match ← acting (targetRowCountBeforeAppendWrite plan preparedTarget validationOptions) with
      | .error error =>
        failAfterPreparationWithReporter reporter plan preparedTarget
          (errorWithPhaseTimings error prepared)
      | .ok targetRowCountBeforeWrite => do
        emitProgressPhase reporter .writing plan.outputName
        match ← writePreparedBatchesWithReporter reporter plan preparedTarget stream tracker
            options with
        | .error error =>
          failAfterPreparationWithReporter reporter plan preparedTarget
            (errorWithPhaseTimings error prepared)
        | .ok report =>
          publishWrittenTargetWithReporter reporter plan preparedTarget validationOptions
            bulkLoadTableLockEnabled targetRowCountBeforeWrite
            ((report.withCleanup preparedTarget.report.cleanup).withPhaseTimings prepared)

end Run

section Silent
variable {reporter : Option ProgressReporter} {plan : MssqlTargetOutputPlan}

def FileTracker.sampled (tracker : FileTracker) (snapshots : List DeltaDataFusionMetricsSnapshot) :
    FileTracker := { tracker with sampler := (tracker.sampler.emitIfChanged snapshots).2 }

theorem silent_sample (tracker : FileTracker) (snapshots : List DeltaDataFusionMetricsSnapshot) :
    silent (tracker.sample snapshots : ToldSink Batch FileTracker) =
      pure (tracker.sampled snapshots) := by
  unfold FileTracker.sample FileTracker.sampled
  rcases tracker.sampler.emitIfChanged snapshots with ⟨_ | event, sampler⟩
  · rfl
  · dsimp only
    unfold ProgressReporter.emit
    cases tracker.reporter.forwarded event <;> rfl

theorem silent_pollBatchStream (tracker : Option FileTracker)
    (item : Option (Except DeltaFunnelError Batch))
    (snapshots : List DeltaDataFusionMetricsSnapshot) :
    silent (pollBatchStream tracker item snapshots) =
      sinkCall (.nextBatch item) >>= fun _ => pure (tracker.map (·.sampled snapshots)) := by
  unfold pollBatchStream
  rw [silent_bind, silent_acting]
  congr 1
  funext _
  cases tracker with
  | none => rfl
  | some tracker =>
    dsimp only
    rw [silent_bind, silent_sample]
    rfl

theorem silent_emitProgressPhase_bind {α : Type} (phase : ProgressPhase) (outputName : String)
    (next : Unit → ToldSink Batch α) :
    silent (emitProgressPhase reporter phase outputName >>= next) = silent (next ()) :=
  silent_emitOptional_bind reporter _ next

theorem silent_emitProgressPhaseIf_bind {α : Type} (condition : Prop) [Decidable condition]
    (phase : ProgressPhase) (outputName : String) (next : Unit → ToldSink Batch α) :
    silent (emitProgressPhaseIf reporter condition phase outputName >>= next) =
      silent (next ()) := by
  unfold emitProgressPhaseIf
  split_ifs
  · exact silent_emitProgressPhase_bind phase outputName next
  · rfl

theorem silent_failAfterPreparation {α : Type} (preparedTarget : MssqlPreparedTarget)
    (error : DeltaFunnelError) :
    silent (failAfterPreparationWithReporter reporter plan preparedTarget error :
      ToldSink Batch (Except DeltaFunnelError α)) =
      failAfterPreparation plan preparedTarget error := by
  unfold failAfterPreparationWithReporter
  rw [silent_emitProgressPhaseIf_bind, silent_acting]

theorem silent_publishWrittenTarget (preparedTarget : MssqlPreparedTarget)
    (validationOptions : ValidationOptions) (locked : Bool)
    (targetRowCountBeforeWrite : TargetRowCountBeforeWrite) (report : MssqlWriteReport) :
    silent (publishWrittenTargetWithReporter reporter plan preparedTarget validationOptions locked
        targetRowCountBeforeWrite report :
      ToldSink Batch (Except DeltaFunnelError MssqlWriteReport)) =
      publishWrittenTarget plan preparedTarget validationOptions locked targetRowCountBeforeWrite
        report := by
  unfold publishWrittenTargetWithReporter publishWrittenTarget
  rw [silent_emitProgressPhaseIf_bind, silent_bind, silent_acting]
  congr 1
  funext validated
  cases validated with
  | error error => exact silent_failAfterPreparation preparedTarget error
  | ok report =>
    dsimp only
    unfold swapTargetWithReporter
    rw [silent_emitProgressPhaseIf_bind, silent_bind, silent_acting]
    congr 1
    funext swapped
    cases swapped with
    | error error => exact silent_failAfterPreparation preparedTarget error
    | ok report => rfl

variable [RecordBatch Batch]

theorem silent_writeLoop (writer : MssqlBulkLoadWriter)
    (atEnd : List DeltaDataFusionMetricsSnapshot) (state : WriteLoopState)
    (tracker : Option FileTracker)
    (items : List (Except DeltaFunnelError Batch × List DeltaDataFusionMetricsSnapshot)) :
    silent (writeLoopWithReporter reporter plan writer atEnd state tracker items) =
      writeLoop plan writer state (items.map Prod.fst) := by
  induction items generalizing state tracker with
  | nil =>
    unfold writeLoopWithReporter
    rw [silent_bind, silent_pollBatchStream, bind_bind]
    rfl
  | cons entry items ih =>
    obtain ⟨item, snapshots⟩ := entry
    cases item with
    | error source =>
      unfold writeLoopWithReporter
      rw [silent_bind, silent_pollBatchStream, bind_bind]
      rfl
    | ok batch =>
      unfold writeLoopWithReporter
      rw [silent_bind, silent_pollBatchStream, bind_bind, List.map_cons]
      unfold writeLoop
      congr 1
      funext _
      dsimp only
      rcases RecordBatch.validateSchemaAgainstMappings batch plan.schemaMappings with source | ⟨⟩
      · rfl
      · dsimp only
        show silent (acting (sinkCall (.writeBatch writer batch)) >>= _) = _
        rw [silent_bind, silent_acting]
        congr 1
        funext reply
        cases reply with
        | error source => rfl
        | ok _ =>
          dsimp only
          rw [silent_emitOptional_bind]
          exact ih _ _

theorem silent_writePreparedBatches (preparedTarget : MssqlPreparedTarget)
    (stream : TrackedStream Batch) (tracker : Option FileTracker) (options : MssqlWriteBackend) :
    silent (writePreparedBatchesWithReporter reporter plan preparedTarget stream tracker options) =
      writePreparedBatches plan preparedTarget stream.batches options := by
  unfold writePreparedBatchesWithReporter writePreparedBatches
  rw [silent_bind, silent_acting]
  congr 1
  funext reply
  cases reply with
  | error error => rfl
  | ok writer =>
    dsimp only
    unfold writeMssqlBatchesWithReporter writeMssqlBatchesWithWriter
    rw [silent_bind, silent_bind, silent_writeLoop]
    congr 1
    · congr 1
      funext result
      cases result with
      | error error => rfl
      | ok state =>
        dsimp only
        rw [silent_bind, silent_acting]
        congr 1
        funext finished
        cases finished <;> rfl
    · funext result
      cases result <;> rfl

theorem silent_runMssqlOutputBatches (stream : TrackedStream Batch) (tracker : Option FileTracker)
    (options : MssqlWriteBackend) (validationOptions : ValidationOptions)
    (phaseTimings : List PhaseTimingReport) :
    silent (runMssqlOutputBatchesWithReporter reporter plan stream tracker options
      validationOptions phaseTimings) =
      runMssqlOutputBatchesOnConnection plan stream.batches options validationOptions
        phaseTimings := by
  unfold runMssqlOutputBatchesWithReporter runMssqlOutputBatchesOnConnection
  rw [silent_emitProgressPhase_bind, silent_bind, silent_acting]
  congr 1
  funext prepared
  cases prepared with
  | error error => rfl
  | ok preparedTarget =>
    dsimp only
    rw [silent_bind, silent_acting]
    congr 1
    funext locked
    cases locked with
    | error error => exact silent_failAfterPreparation preparedTarget _
    | ok locked =>
      dsimp only
      rw [silent_bind, silent_acting]
      congr 1
      funext counted
      cases counted with
      | error error => exact silent_failAfterPreparation preparedTarget _
      | ok targetRowCountBeforeWrite =>
        dsimp only
        rw [silent_emitProgressPhase_bind, silent_bind, silent_writePreparedBatches]
        congr 1
        funext written
        cases written with
        | error error => exact silent_failAfterPreparation preparedTarget _
        | ok report => exact silent_publishWrittenTarget preparedTarget _ locked _ _

end Silent

def sinkPhases : List ProgressPhase :=
  [.preparingTarget, .writing, .validating, .swappingTarget, .cleaningUp]

/-- The phases announced so far, the rows and batches accepted so far, and whether the last of
these is still to be announced. -/
structure SinkNarration where
  phases : List ProgressPhase
  accepted : ProgressMetrics
  unannounced : Bool
  deriving DecidableEq, Repr

def SinkNarration.start : SinkNarration := ⟨[], ⟨0, 0⟩, false⟩

/-- The phase an operation belongs to. Rows are counted before a write and after it. -/
def doneUnder (phase : Option ProgressPhase) : SinkOp Batch → Prop
  | .prepareTargetLifecycle _ => phase = some .preparingTarget
  | .enableBulkLoadTableLock _ _ => phase = some .preparingTarget
  | .initializeWriter _ _ _ => phase = some .writing
  | .nextBatch _ => phase = some .writing
  | .writeBatch _ _ => phase = some .writing
  | .finish _ => phase = some .writing
  | .targetRowCount _ _ => phase = some .preparingTarget ∨ phase = some .validating
  | .disableBulkLoadTableLock _ _ => phase = some .swappingTarget
  | .swapPreparedReplaceTarget _ _ => phase = some .swappingTarget
  | .cleanupPreparedTarget _ none => False
  | .cleanupPreparedTarget _ (some target) =>
    phase = some .cleaningUp ↔ target.report.cleanup ≠ .notApplicable

def addBatch [RecordBatch Batch] (accepted : ProgressMetrics) (batch : Batch) : ProgressMetrics :=
  ⟨saturatingAdd accepted.rows (batchRowCount batch), saturatingAdd accepted.batches 1⟩

/-- Phases go forward, operations are done under their phase, and after every accepted batch the
totals are announced. Starts and ends are never announced. -/
def sinkNarration [RecordBatch Batch] (plan : MssqlTargetOutputPlan)
    (position : Option ProgressOutputPosition) :
    Protocol (narrated ProgressEvent (SinkSig Batch)) SinkNarration where
  allowed s
    | .say (.phaseChanged snapshot) => s.unannounced = false ∧
        (s.phases ++ [snapshot.phase]).Sublist sinkPhases ∧
        snapshot = (ProgressSnapshot.new snapshot.phase (some plan.outputName)).placed position
    | .say (.progress snapshot) => s.phases.getLast? = some .writing ∧
        ({ snapshot with fileProgress := none, metrics := none } =
          (ProgressSnapshot.new .writing (some plan.outputName)).placed position) ∧
        ((s.unannounced = false ∧ snapshot.fileProgress.isSome ∧ snapshot.metrics = none) ∨
          (s.unannounced = true ∧ snapshot.fileProgress = none ∧
            snapshot.metrics = some s.accepted))
    | .say _ => False
    | .act op => s.unannounced = false ∧ doneUnder s.phases.getLast? op
  possible _ _ _ := True
  next s
    | .say (.phaseChanged snapshot) => fun _ => { s with phases := s.phases ++ [snapshot.phase] }
    | .say (.progress snapshot) => fun _ =>
      if snapshot.metrics.isSome = true then { s with unannounced := false } else s
    | .say _ => fun _ => s
    | .act (.writeBatch _ batch) => fun (reply : Except ArrowError Unit) =>
      match reply with
      | .ok _ => { s with accepted := addBatch s.accepted batch, unannounced := true }
      | .error _ => s
    | .act _ => fun _ => s

section Meets
variable [RecordBatch Batch] {plan : MssqlTargetOutputPlan}
  {position : Option ProgressOutputPosition} {s : SinkNarration} {α : Type}
  {Q : α → SinkNarration → Prop}

theorem meets_emitProgressPhase {phase : ProgressPhase} {next : Unit → ToldSink Batch α}
    (hannounced : s.unannounced = false) (hphase : (s.phases ++ [phase]).Sublist sinkPhases)
    (hrest : (sinkNarration plan position).Meets (next ())
      { s with phases := s.phases ++ [phase] } Q) :
    (sinkNarration plan position).Meets
      (emitProgressPhase (some ⟨true, position⟩) phase plan.outputName >>= next) s Q := by
  unfold emitProgressPhase emitOptional ProgressEvent.enteredPhase
  dsimp only
  rw [emit_phaseChanged position rfl]
  exact Protocol.meets_say ⟨hannounced, hphase, rfl⟩ hrest

theorem meets_actingUnder {p : Program (SinkSig Batch) α} {P : SinkOp Batch → Prop}
    (hdoes : p.Does P fun a => Q a s) (hannounced : s.unannounced = false)
    (hunder : ∀ op, P op → doneUnder s.phases.getLast? op ∧
      ∀ writer batch, op ≠ .writeBatch writer batch) :
    (sinkNarration plan position).Meets (acting p) s Q := by
  apply Protocol.meets_acting hdoes
  · intro op hop
    exact ⟨hannounced, (hunder op hop).1⟩
  · intro op reply hop
    have hkept := (hunder op hop).2
    cases op with
    | writeBatch writer batch => exact absurd rfl (hkept writer batch)
    | _ => rfl

/-- Whose file progress is announced as that of the written output. -/
def TracksWriting (plan : MssqlTargetOutputPlan) (position : Option ProgressOutputPosition)
    (tracker : Option FileTracker) : Prop :=
  ∀ files ∈ tracker, files.reporter = ⟨true, position⟩ ∧ files.sampler.phase = .writing ∧
    files.sampler.outputName = some plan.outputName

theorem tracksWriting_fileTracker (readStatsHandles : Bool) :
    TracksWriting plan position
      (fileTracker readStatsHandles (some (⟨true, position⟩, plan.outputName))) := by
  intro files hfiles
  obtain ⟨progress, hprogress, rfl⟩ := Option.map_eq_some_iff.1 hfiles
  obtain ⟨hsome, -⟩ := Option.filter_eq_some_iff.1 hprogress
  obtain rfl := Option.some.inj hsome
  exact ⟨rfl, rfl, rfl⟩

theorem sample_meets {files : FileTracker} {snapshots : List DeltaDataFusionMetricsSnapshot}
    (htracks : TracksWriting plan position (some files))
    (hphase : s.phases.getLast? = some .writing) (hannounced : s.unannounced = false) :
    (sinkNarration plan position).Meets (files.sample snapshots : ToldSink Batch FileTracker) s
      fun files' s' => TracksWriting plan position (some files') ∧ s' = s := by
  obtain ⟨hreporter, hwriting, hname⟩ := htracks files rfl
  obtain ⟨reporter, sampler⟩ := files
  dsimp only at hreporter hwriting hname
  subst hreporter
  have hkeeps : ∀ sampler' : DeltaFileProgressSampler, sampler'.phase = .writing →
      sampler'.outputName = some plan.outputName →
      TracksWriting plan position (some ⟨⟨true, position⟩, sampler'⟩) := by
    intro sampler' hwriting' hname' files hfiles
    obtain rfl := Option.some.inj hfiles
    exact ⟨rfl, hwriting', hname'⟩
  unfold FileTracker.sample
  obtain ⟨heq, -⟩ | ⟨progress, -, -, heq⟩ := sampler.emitIfChanged_cases snapshots
  · rw [heq]
    exact ⟨hkeeps sampler hwriting hname, rfl⟩
  · rw [heq]
    dsimp only
    unfold DeltaFileProgressSampler.eventFor
    rw [emit_progress position rfl]
    apply Protocol.meets_say
    · refine ⟨hphase, ?_, .inl ⟨hannounced, rfl, rfl⟩⟩
      rw [hwriting, hname]
      rfl
    · exact ⟨hkeeps _ hwriting hname, rfl⟩

theorem pollBatchStream_meets {tracker : Option FileTracker}
    {item : Option (Except DeltaFunnelError Batch)}
    {snapshots : List DeltaDataFusionMetricsSnapshot}
    (htracks : TracksWriting plan position tracker)
    (hphase : s.phases.getLast? = some .writing) (hannounced : s.unannounced = false) :
    (sinkNarration plan position).Meets (pollBatchStream tracker item snapshots) s
      fun tracker' s' => TracksWriting plan position tracker' ∧ s' = s := by
  unfold pollBatchStream
  refine Protocol.meets_bind.2 ⟨⟨hannounced, hphase⟩, fun _ _ => ?_⟩
  cases tracker with
  | none => exact ⟨htracks, rfl⟩
  | some files =>
    refine (sample_meets htracks hphase hannounced).bind ?_
    intro files' s' hfiles'
    exact hfiles'

structure Writing (s : SinkNarration) (state : WriteLoopState) : Prop where
  phases : s.phases = [.preparingTarget, .writing]
  accepted : s.accepted = ⟨state.rowsWritten, state.batchesWritten⟩
  announced : s.unannounced = false

omit [ArrowSqlServer] in
theorem Writing.phase {state : WriteLoopState} (h : Writing s state) :
    s.phases.getLast? = some .writing := by
  rw [h.phases]
  rfl

theorem writeLoopWithReporter_meets {writer : MssqlBulkLoadWriter}
    {atEnd : List DeltaDataFusionMetricsSnapshot} {state : WriteLoopState}
    {tracker : Option FileTracker}
    {items : List (Except DeltaFunnelError Batch × List DeltaDataFusionMetricsSnapshot)}
    (htracks : TracksWriting plan position tracker) (h : Writing s state) :
    (sinkNarration plan position).Meets
      (writeLoopWithReporter (some ⟨true, position⟩) plan writer atEnd state tracker items) s
      fun result s' => ∃ final, Writing s' final ∧ ∀ ended, result = .ok ended → ended = final := by
  induction items generalizing s state tracker with
  | nil =>
    unfold writeLoopWithReporter
    refine (pollBatchStream_meets htracks h.phase h.announced).bind ?_
    intro _ s' hs'
    obtain ⟨-, rfl⟩ := hs'
    exact ⟨state, h, fun ended hended => (Except.ok.inj hended).symm⟩
  | cons entry items ih =>
    obtain ⟨item, snapshots⟩ := entry
    cases item with
    | error source =>
      unfold writeLoopWithReporter
      refine (pollBatchStream_meets htracks h.phase h.announced).bind ?_
      intro _ s' hs'
      obtain ⟨-, rfl⟩ := hs'
      exact ⟨state, h, fun ended hended => by cases hended⟩
    | ok batch =>
      unfold writeLoopWithReporter
      refine (pollBatchStream_meets htracks h.phase h.announced).bind ?_
      intro tracker' s' hs'
      obtain ⟨htracks', rfl⟩ := hs'
      dsimp only
      rcases RecordBatch.validateSchemaAgainstMappings batch plan.schemaMappings with source | ⟨⟩
      · exact ⟨state, h, fun ended hended => by cases hended⟩
      · dsimp only
        refine Protocol.meets_bind.2 ⟨⟨h.announced, h.phase⟩, ?_⟩
        intro reply _
        cases reply with
        | error source => exact ⟨state, h, fun ended hended => by cases hended⟩
        | ok _ =>
          -- the batch is accepted, and its totals are announced next
          have hadded : addBatch s'.accepted batch =
              ⟨saturatingAdd state.rowsWritten (batchRowCount batch),
                saturatingAdd state.batchesWritten 1⟩ := by
            unfold addBatch
            rw [h.accepted]
          dsimp only
          unfold emitOptional ProgressEvent.acceptedBatches
          dsimp only
          rw [emit_progress position rfl]
          apply Protocol.meets_say
          · exact ⟨h.phase, rfl, .inr ⟨rfl, rfl, congrArg some hadded.symm⟩⟩
          · exact ih htracks' ⟨h.phases, hadded, rfl⟩

end Meets

section Stages
variable {plan : MssqlTargetOutputPlan} {target : MssqlPreparedTarget}

theorem failAfterPreparation_does {α : Type} (error : DeltaFunnelError) :
    (failAfterPreparation plan target error :
      Program (SinkSig Batch) (Except DeltaFunnelError α)).Does
      (fun op : SinkOp Batch => op = .cleanupPreparedTarget plan (some target))
      fun result => ∃ failed, result = .error failed := by
  refine ⟨rfl, fun reply => ?_⟩
  cases reply <;> exact ⟨_, rfl⟩

theorem enableReplaceTableLock_does :
    (enableReplaceTableLock plan target).Does
      (fun op : SinkOp Batch => op = .enableBulkLoadTableLock plan target) fun _ => True := by
  unfold enableReplaceTableLock
  split_ifs
  · exact ⟨rfl, fun _ => trivial⟩
  · trivial

theorem targetRowCountBeforeAppendWrite_does (validationOptions : ValidationOptions) :
    (targetRowCountBeforeAppendWrite plan target validationOptions).Does
      (fun op : SinkOp Batch => op = .targetRowCount plan target) fun _ => True := by
  unfold targetRowCountBeforeAppendWrite
  split_ifs with hskipped
  · trivial
  all_goals
    refine ⟨rfl, fun reply => ?_⟩
    cases reply <;> trivial

def KeepsStats (report : MssqlWriteReport) (result : Except DeltaFunnelError MssqlWriteReport) :
    Prop := ∀ kept, result = .ok kept → kept.stats = report.stats

omit [ArrowSqlServer] in
theorem keepsStats_error (report : MssqlWriteReport) (error : DeltaFunnelError) :
    KeepsStats report (.error error) := fun _ hkept => by cases hkept

theorem keepsStats_unavailable (report : MssqlWriteReport) (reason : ReportReasonCode)
    (required : Bool) (message : String) :
    KeepsStats report
      (validationUnavailableOrRequiredFailure plan report reason required message) := by
  unfold validationUnavailableOrRequiredFailure
  intro kept hkept
  split_ifs at hkept
  rw [← Except.ok.inj hkept]
  rfl

theorem keepsStats_deltaUnavailable (report : MssqlWriteReport) (reason : ReportReasonCode)
    (required : Bool) (message : String) (before : RowCount) :
    KeepsStats report (targetDeltaValidationUnavailableOrRequiredFailure plan report reason
      required message before) := by
  unfold targetDeltaValidationUnavailableOrRequiredFailure
  intro kept hkept
  split_ifs at hkept
  rw [← Except.ok.inj hkept]
  rfl

section Validation
variable (report : MssqlWriteReport) (validationOptions : ValidationOptions)

/-- Rows are counted after a write only if they are to be validated. -/
def CountsRows (validationOptions : ValidationOptions) (plan : MssqlTargetOutputPlan)
    (target : MssqlPreparedTarget) (op : SinkOp Batch) : Prop :=
  validationOptions.targetValidationMode ≠ .disabled ∧ op = .targetRowCount plan target

variable {report validationOptions}

theorem validateCreatedTargetRows_does
    (henabled : validationOptions.targetValidationMode ≠ .disabled) (required : Bool) (rows : ℕ) :
    (validateCreatedTargetRows plan target report required rows : Program (SinkSig Batch) _).Does
      (CountsRows validationOptions plan target) (KeepsStats report) := by
  unfold validateCreatedTargetRows
  rw [sinkCall_bind]
  refine ⟨⟨henabled, rfl⟩, fun reply => ?_⟩
  cases reply with
  | error failure => exact keepsStats_unavailable report _ _ _
  | ok counted =>
    dsimp only
    split_ifs
    · intro kept hkept
      rw [← Except.ok.inj hkept]
      rfl
    · exact keepsStats_error report _

theorem validateAppendExistingTargetDelta_does
    (henabled : validationOptions.targetValidationMode ≠ .disabled) (required : Bool)
    (before : TargetRowCountBeforeWrite) (rows : ℕ) :
    (validateAppendExistingTargetDelta plan target report required before rows :
      Program (SinkSig Batch) _).Does
      (CountsRows validationOptions plan target) (KeepsStats report) := by
  unfold validateAppendExistingTargetDelta
  cases before with
  | unavailable reason message => exact keepsStats_unavailable report _ _ _
  | notRequired => exact keepsStats_unavailable report _ _ _
  | exact counted =>
    dsimp only
    rw [sinkCall_bind]
    refine ⟨⟨henabled, rfl⟩, fun reply => ?_⟩
    cases reply with
    | error failure => exact keepsStats_deltaUnavailable report _ _ _ _
    | ok rowsAfter =>
      dsimp only
      split_ifs
      · intro kept hkept
        rw [← Except.ok.inj hkept]
        rfl
      · exact keepsStats_error report _

theorem validateWrittenTarget_does (before : TargetRowCountBeforeWrite) :
    (validateWrittenTarget plan target report validationOptions before :
      Program (SinkSig Batch) _).Does
      (CountsRows validationOptions plan target) (KeepsStats report) := by
  unfold validateWrittenTarget
  split_ifs with hdisabled
  · exact keepsStats_error report _
  · intro kept hkept
    rw [← Except.ok.inj hkept]
    rfl
  · dsimp only
    cases report.outputRowCount.exactValue with
    | none =>
      show KeepsStats report (missingExactOutputRowsValidation plan report _ before)
      unfold missingExactOutputRowsValidation
      split
      · exact keepsStats_deltaUnavailable report _ _ _ _
      · exact keepsStats_unavailable report _ _ _
    | some rows =>
      dsimp only
      cases plan.loadMode with
      | appendExisting => exact validateAppendExistingTargetDelta_does hdisabled _ before rows
      | createAndLoad => exact validateCreatedTargetRows_does hdisabled _ rows
      | replace => exact validateCreatedTargetRows_does hdisabled _ rows

def Swaps (plan : MssqlTargetOutputPlan) (target : MssqlPreparedTarget) (op : SinkOp Batch) :
    Prop :=
  plan.loadMode = .replace ∧
    (op = .disableBulkLoadTableLock plan target ∨ op = .swapPreparedReplaceTarget plan target)

theorem swapStagedTarget_does (hmode : plan.loadMode = .replace) :
    (swapStagedTarget plan target report : Program (SinkSig Batch) _).Does
      (Swaps plan target) (KeepsStats report) := by
  unfold swapStagedTarget
  rw [sinkCall_bind]
  refine ⟨⟨hmode, .inr rfl⟩, fun reply => ?_⟩
  cases reply with
  | error error => exact keepsStats_error report _
  | ok _ =>
    intro kept hkept
    rw [← Except.ok.inj hkept]
    rfl

theorem swapReplaceTargetAfterValidation_does (locked : Bool) :
    (swapReplaceTargetAfterValidation plan target report locked : Program (SinkSig Batch) _).Does
      (Swaps plan target) (KeepsStats report) := by
  unfold swapReplaceTargetAfterValidation
  split_ifs with hmode hpassed hlocked
  · intro kept hkept
    rw [← Except.ok.inj hkept]
  · exact keepsStats_error report _
  · rw [sinkCall_bind]
    refine ⟨⟨not_not.1 hmode, .inl rfl⟩, fun reply => ?_⟩
    cases reply with
    | error error => exact keepsStats_error report _
    | ok _ => exact swapStagedTarget_does (not_not.1 hmode)
  · exact swapStagedTarget_does (not_not.1 hmode)

end Validation

end Stages

/-- How a run ends: everything accepted was announced, and a report counts it. -/
def Ended (result : Except DeltaFunnelError MssqlWriteReport) (s : SinkNarration) : Prop :=
  s.unannounced = false ∧ ∀ report, result = .ok report →
    s.accepted = ⟨report.stats.rowsWritten, report.stats.batchesWritten⟩

section Whole
variable {plan : MssqlTargetOutputPlan} {target : MssqlPreparedTarget}
  {position : Option ProgressOutputPosition} {s : SinkNarration}

theorem meets_emitProgressPhaseIf {α : Type} {Q : α → SinkNarration → Prop} [RecordBatch Batch]
    {condition : Prop} [Decidable condition] {phase : ProgressPhase}
    {next : Unit → ToldSink Batch α}
    (hannounced : s.unannounced = false) (hphase : (s.phases ++ [phase]).Sublist sinkPhases)
    (hrest : (sinkNarration plan position).Meets (next ())
      { s with phases := s.phases ++ if condition then [phase] else [] } Q) :
    (sinkNarration plan position).Meets
      (emitProgressPhaseIf (some ⟨true, position⟩) condition phase plan.outputName >>= next) s
      Q := by
  unfold emitProgressPhaseIf
  by_cases hcondition : condition
  · rw [if_pos hcondition] at hrest ⊢
    exact meets_emitProgressPhase hannounced hphase hrest
  · rw [if_neg hcondition, List.append_nil] at hrest
    rw [if_neg hcondition]
    exact hrest

def workPhases : List ProgressPhase := [.preparingTarget, .writing, .validating, .swappingTarget]

variable [RecordBatch Batch]

theorem failAfterPreparation_meets {error : DeltaFunnelError}
    (hannounced : s.unannounced = false) (hphases : s.phases.Sublist workPhases) :
    (sinkNarration plan position).Meets
      (failAfterPreparationWithReporter (some ⟨true, position⟩) plan target error :
        ToldSink Batch (Except DeltaFunnelError MssqlWriteReport)) s Ended := by
  have hcleaning : (s.phases ++ [ProgressPhase.cleaningUp]).Sublist sinkPhases :=
    hphases.append (List.Sublist.refl _)
  unfold failAfterPreparationWithReporter
  apply meets_emitProgressPhaseIf hannounced hcleaning
  apply meets_actingUnder (P := fun op => op = .cleanupPreparedTarget plan (some target))
  · apply (failAfterPreparation_does error).mono
    intro result hresult
    obtain ⟨failed, rfl⟩ := hresult
    exact ⟨hannounced, fun report hreport => by cases hreport⟩
  · exact hannounced
  · rintro op rfl
    refine ⟨?_, fun writer batch heq => by cases heq⟩
    show _ = some ProgressPhase.cleaningUp ↔ _
    by_cases hcleanup : target.report.cleanup ≠ .notApplicable
    · dsimp only
      rw [if_pos hcleanup, List.getLast?_append]
      exact iff_of_true rfl hcleanup
    · dsimp only
      rw [if_neg hcleanup, List.append_nil]
      refine iff_of_false ?_ hcleanup
      intro hlast
      have hmem := hphases.subset (List.mem_of_getLast? hlast)
      exact absurd hmem (by decide)

theorem swapTarget_meets {locked : Bool} {report : MssqlWriteReport}
    (hannounced : s.unannounced = false)
    (hphases : s.phases.Sublist [.preparingTarget, .writing, .validating])
    (haccepted : s.accepted = ⟨report.stats.rowsWritten, report.stats.batchesWritten⟩) :
    (sinkNarration plan position).Meets
      (swapTargetWithReporter (some ⟨true, position⟩) plan target locked report : ToldSink Batch _)
      s Ended := by
  have hswapping : (s.phases ++ [ProgressPhase.swappingTarget]).Sublist workPhases :=
    hphases.append (List.Sublist.refl _)
  have hwork : (s.phases ++ if plan.loadMode = .replace then [ProgressPhase.swappingTarget]
      else []).Sublist workPhases := by
    split_ifs
    · exact hswapping
    · rw [List.append_nil]
      exact hphases.trans (by decide)
  unfold swapTargetWithReporter
  apply meets_emitProgressPhaseIf hannounced (hswapping.trans (by decide))
  refine Protocol.meets_bind.2 ?_
  apply meets_actingUnder (P := Swaps plan target)
  · apply (swapReplaceTargetAfterValidation_does locked).mono
    intro swapped hkept
    cases swapped with
    | error error => exact failAfterPreparation_meets hannounced hwork
    | ok swappedReport =>
      refine ⟨hannounced, fun final hfinal => ?_⟩
      obtain rfl := Except.ok.inj hfinal
      rw [hkept swappedReport rfl]
      exact haccepted
  · exact hannounced
  · intro op hop
    obtain ⟨hreplace, hop⟩ := hop
    dsimp only
    rw [if_pos hreplace, List.getLast?_append]
    rcases hop with rfl | rfl
    · exact ⟨rfl, fun writer batch heq => by cases heq⟩
    · exact ⟨rfl, fun writer batch heq => by cases heq⟩

theorem publishWrittenTarget_meets {validationOptions : ValidationOptions} {locked : Bool}
    {before : TargetRowCountBeforeWrite} {report : MssqlWriteReport}
    (hannounced : s.unannounced = false) (hphases : s.phases = [.preparingTarget, .writing])
    (haccepted : s.accepted = ⟨report.stats.rowsWritten, report.stats.batchesWritten⟩) :
    (sinkNarration plan position).Meets
      (publishWrittenTargetWithReporter (some ⟨true, position⟩) plan target validationOptions
        locked before report : ToldSink Batch _) s Ended := by
  have hvalidating : (s.phases ++ [ProgressPhase.validating]).Sublist sinkPhases := by
    rw [hphases]
    decide
  have hvalidated : (s.phases ++ if validationOptions.targetValidationMode ≠ .disabled ∨
      plan.loadMode = .replace then [ProgressPhase.validating] else []).Sublist
      [.preparingTarget, .writing, .validating] := by
    rw [hphases]
    split_ifs <;> decide
  unfold publishWrittenTargetWithReporter
  apply meets_emitProgressPhaseIf hannounced hvalidating
  refine Protocol.meets_bind.2 ?_
  apply meets_actingUnder (P := CountsRows validationOptions plan target)
  · apply (validateWrittenTarget_does before).mono
    intro validated hkeeps
    cases validated with
    | error error =>
      exact failAfterPreparation_meets hannounced (hvalidated.trans (by decide))
    | ok validatedReport =>
      apply swapTarget_meets
      · exact hannounced
      · exact hvalidated
      · rw [hkeeps validatedReport rfl]
        exact haccepted
  · exact hannounced
  · intro op hop
    obtain ⟨henabled, rfl⟩ := hop
    dsimp only
    rw [if_pos (.inl henabled), List.getLast?_append]
    exact ⟨.inr rfl, fun writer batch heq => by cases heq⟩

theorem writePreparedBatchesWithReporter_meets {stream : TrackedStream Batch}
    {tracker : Option FileTracker} {options : MssqlWriteBackend}
    (htracks : TracksWriting plan position tracker) (h : Writing s .start) :
    (sinkNarration plan position).Meets
      (writePreparedBatchesWithReporter (some ⟨true, position⟩) plan target stream tracker options)
      s fun result s' => s'.phases = [.preparingTarget, .writing] ∧ Ended result s' := by
  unfold writePreparedBatchesWithReporter
  refine Protocol.meets_bind.2 ⟨⟨h.announced, h.phase⟩, fun reply _ => ?_⟩
  cases reply with
  | error error => exact ⟨h.phases, h.announced, fun report hreport => by cases hreport⟩
  | ok writer =>
    dsimp only
    unfold writeMssqlBatchesWithReporter
    refine Protocol.meets_bind.2 (Protocol.meets_bind.2 ?_)
    apply (writeLoopWithReporter_meets htracks h).mono
    intro looped s' hlooped
    obtain ⟨final, hwriting, hfinal⟩ := hlooped
    cases looped with
    | error error =>
      exact ⟨hwriting.phases, hwriting.announced, fun report hreport => by cases hreport⟩
    | ok ended =>
      obtain rfl : ended = final := hfinal ended rfl
      dsimp only
      refine Protocol.meets_bind.2 ⟨⟨hwriting.announced, hwriting.phase⟩, fun finished _ => ?_⟩
      cases finished with
      | error source =>
        exact ⟨hwriting.phases, hwriting.announced, fun report hreport => by cases hreport⟩
      | ok _ =>
        refine ⟨hwriting.phases, hwriting.announced, fun report hreport => ?_⟩
        rw [← Except.ok.inj hreport]
        exact hwriting.accepted

theorem runMssqlOutputBatches_meets {stream : TrackedStream Batch} {tracker : Option FileTracker}
    {options : MssqlWriteBackend} {validationOptions : ValidationOptions}
    {phaseTimings : List PhaseTimingReport} (htracks : TracksWriting plan position tracker) :
    (sinkNarration plan position).Meets
      (runMssqlOutputBatchesWithReporter (some ⟨true, position⟩) plan stream tracker options
        validationOptions phaseTimings) .start Ended := by
  -- preparing is announced first; up to the writing there are no totals
  have hpreparing : ([] ++ [ProgressPhase.preparingTarget]).Sublist sinkPhases := by decide
  have hprepared : [ProgressPhase.preparingTarget].Sublist workPhases := by decide
  unfold runMssqlOutputBatchesWithReporter
  apply meets_emitProgressPhase rfl hpreparing
  refine Protocol.meets_bind.2 ⟨⟨rfl, rfl⟩, fun reply _ => ?_⟩
  cases reply with
  | error error => exact ⟨rfl, fun report hreport => by cases hreport⟩
  | ok target =>
    refine Protocol.meets_bind.2 ?_
    apply meets_actingUnder (P := fun op => op = .enableBulkLoadTableLock plan target)
    · apply enableReplaceTableLock_does.mono
      intro locked _
      cases locked with
      | error error => exact failAfterPreparation_meets rfl hprepared
      | ok locked =>
        refine Protocol.meets_bind.2 ?_
        apply meets_actingUnder (P := fun op => op = .targetRowCount plan target)
        · apply (targetRowCountBeforeAppendWrite_does validationOptions).mono
          intro counted _
          cases counted with
          | error error => exact failAfterPreparation_meets rfl hprepared
          | ok before =>
            have hwriting : ([ProgressPhase.preparingTarget] ++
                [ProgressPhase.writing]).Sublist sinkPhases := by
              decide
            apply meets_emitProgressPhase rfl hwriting
            have hstart : Writing ⟨[.preparingTarget, .writing], ⟨0, 0⟩, false⟩ .start :=
              ⟨rfl, rfl, rfl⟩
            refine (writePreparedBatchesWithReporter_meets htracks hstart).bind ?_
            intro written s' hwritten
            obtain ⟨hphases, hannounced, haccepted⟩ := hwritten
            cases written with
            | error error =>
              apply failAfterPreparation_meets hannounced
              rw [hphases]
              decide
            | ok report =>
              exact publishWrittenTarget_meets hannounced hphases (haccepted report rfl)
        · rfl
        · rintro op rfl
          exact ⟨.inl rfl, fun writer batch heq => by cases heq⟩
    · rfl
    · rintro op rfl
      exact ⟨rfl, fun writer batch heq => by cases heq⟩

end Whole

def phasesTold (told : List ProgressEvent) : List ProgressPhase :=
  told.filterMap fun event => if event.kind = .phaseChanged then event.phase else none

def metricsTold (told : List ProgressEvent) : List ProgressMetrics :=
  told.filterMap ProgressEvent.metrics

def batchAccepted : Event (SinkSig Batch) → Option Batch
  | ⟨.writeBatch _ batch, reply⟩ =>
    match (reply : Except ArrowError Unit) with
    | .ok _ => some batch
    | .error _ => none
  | _ => none

def batchesAccepted (trace : List (Event (SinkSig Batch))) : List Batch :=
  trace.filterMap batchAccepted

def runningTotals [RecordBatch Batch] : ProgressMetrics → List Batch → List ProgressMetrics
  | _, [] => []
  | accepted, batch :: batches =>
    addBatch accepted batch :: runningTotals (addBatch accepted batch) batches

def SinkNarration.pending (s : SinkNarration) : List ProgressMetrics :=
  if s.unannounced = true then [s.accepted] else []

section Told
variable [RecordBatch Batch] {plan : MssqlTargetOutputPlan}
  {position : Option ProgressOutputPosition} {s : SinkNarration}
  {trace : List (Event (narrated ProgressEvent (SinkSig Batch)))}

theorem next_act {op : SinkOp Batch} {reply : (SinkSig Batch).Reply op}
    (hrefused : batchAccepted ⟨op, reply⟩ = none) :
    (sinkNarration plan position).next s (.act op) reply = s := by
  cases op with
  | writeBatch writer batch =>
    cases (reply : Except ArrowError Unit) with
    | ok _ => cases hrefused
    | error source => rfl
  | _ => rfl

theorem respects_phases (hphases : s.phases.Sublist sinkPhases)
    (h : (sinkNarration plan position).Respects s trace) :
    ((sinkNarration plan position).after s trace).phases = s.phases ++ phasesTold (sayings trace) ∧
      (s.phases ++ phasesTold (sayings trace)).Sublist sinkPhases := by
  -- over the trace; only an announced phase extends the list, and the rules keep it in order
  induction trace generalizing s with
  | nil =>
    rw [show phasesTold (sayings []) = [] from rfl, List.append_nil]
    exact ⟨rfl, hphases⟩
  | cons event trace ih =>
    obtain ⟨hallowed, hrest⟩ := h
    obtain ⟨op, reply⟩ := event
    cases op with
    | act op =>
      have hsame : ((sinkNarration plan position).next s (.act op) reply).phases = s.phases := by
        cases haccepted : batchAccepted ⟨op, reply⟩ with
        | none => rw [next_act haccepted]
        | some batch =>
          cases op with
          | writeBatch writer batch => cases (reply : Except ArrowError Unit) <;> rfl
          | _ => cases haccepted
      have hnext := ih (by rw [hsame]; exact hphases) hrest
      rw [hsame] at hnext
      exact hnext
    | say told =>
      cases told with
      | phaseChanged snapshot =>
        have hnext := ih hallowed.2.1 hrest
        have htold : phasesTold (sayings (⟨NarratedOp.say (.phaseChanged snapshot), reply⟩ ::
            trace)) = snapshot.phase :: phasesTold (sayings trace) := rfl
        rw [htold, List.append_cons]
        exact hnext
      | progress snapshot =>
        have hsame : ((sinkNarration plan position).next s (.say (.progress snapshot))
            reply).phases = s.phases := by
          show (if snapshot.metrics.isSome = true then { s with unannounced := false }
            else s).phases = s.phases
          split_ifs <;> rfl
        have hnext := ih (by rw [hsame]; exact hphases) hrest
        rw [hsame] at hnext
        exact hnext
      | _ => exact hallowed.elim

/-- The announced totals are those of the accepted batches, the last of which may be pending. -/
theorem respects_totals (h : (sinkNarration plan position).Respects s trace) :
    s.pending ++ runningTotals s.accepted (batchesAccepted (actions trace)) =
      metricsTold (sayings trace) ++ ((sinkNarration plan position).after s trace).pending := by
  -- over the trace: an accepted batch makes its total pending, the next one announced takes it
  induction trace generalizing s with
  | nil => exact List.append_nil _
  | cons event trace ih =>
    obtain ⟨hallowed, hrest⟩ := h
    obtain ⟨op, reply⟩ := event
    have hnext := ih hrest
    cases op with
    | act op =>
      cases haccepted : batchAccepted ⟨op, reply⟩ with
      | none =>
        have hbatches : batchesAccepted (actions (⟨NarratedOp.act op, reply⟩ :: trace)) =
            batchesAccepted (actions trace) := List.filterMap_cons_none haccepted
        rw [hbatches]
        rw [next_act haccepted] at hnext
        rw [Protocol.after_cons, next_act haccepted]
        exact hnext
      | some batch =>
        have hbatches : batchesAccepted (actions (⟨NarratedOp.act op, reply⟩ :: trace)) =
            batch :: batchesAccepted (actions trace) := List.filterMap_cons_some haccepted
        have hpending : s.pending = [] := if_neg (by rw [hallowed.1]; exact Bool.false_ne_true)
        rw [hbatches, hpending]
        cases op with
        | writeBatch writer batch' =>
          cases (reply : Except ArrowError Unit) with
          | error source => cases haccepted
          | ok _ =>
            obtain rfl := Option.some.inj haccepted
            exact hnext
        | _ => cases haccepted
    | say told =>
      cases told with
      | phaseChanged snapshot =>
        have hmetrics : snapshot.metrics = none := by
          rw [hallowed.2.2]
          rfl
        have htold : metricsTold (sayings (⟨NarratedOp.say (.phaseChanged snapshot), reply⟩ ::
            trace)) = metricsTold (sayings trace) := List.filterMap_cons_none hmetrics
        rw [htold]
        exact hnext
      | progress snapshot =>
        obtain ⟨-, -, ⟨hannounced, -, hmetrics⟩ | ⟨hpending, -, hmetrics⟩⟩ := hallowed
        -- an update of file counts alone carries no totals
        · have hsame : (sinkNarration plan position).next s (.say (.progress snapshot)) reply =
              s := if_neg (by rw [hmetrics]; exact Bool.false_ne_true)
          have htold : metricsTold (sayings (⟨NarratedOp.say (.progress snapshot), reply⟩ ::
              trace)) = metricsTold (sayings trace) := List.filterMap_cons_none hmetrics
          rw [hsame] at hnext
          rw [htold, Protocol.after_cons, hsame]
          exact hnext
        · have htold : metricsTold (sayings (⟨NarratedOp.say (.progress snapshot), reply⟩ ::
              trace)) = s.accepted :: metricsTold (sayings trace) :=
            List.filterMap_cons_some hmetrics
          have hafter : (sinkNarration plan position).next s (.say (.progress snapshot)) reply =
              { s with unannounced := false } := if_pos (by rw [hmetrics]; rfl)
          rw [hafter] at hnext
          have hwas : s.pending = [s.accepted] := if_pos hpending
          have hacted : actions (⟨NarratedOp.say (.progress snapshot), reply⟩ :: trace) =
              actions trace := rfl
          rw [htold, hacted, Protocol.after_cons, hafter, hwas]
          exact congrArg (s.accepted :: ·) hnext
      | _ => exact hallowed.elim

theorem after_accepted : ((sinkNarration plan position).after s trace).accepted =
    (batchesAccepted (actions trace)).foldl addBatch s.accepted := by
  induction trace generalizing s with
  | nil => rfl
  | cons event trace ih =>
    obtain ⟨op, reply⟩ := event
    rw [Protocol.after_cons, ih]
    cases op with
    | act op =>
      cases haccepted : batchAccepted ⟨op, reply⟩ with
      | none =>
        have hbatches : batchesAccepted (actions (⟨NarratedOp.act op, reply⟩ :: trace)) =
            batchesAccepted (actions trace) := List.filterMap_cons_none haccepted
        rw [hbatches, next_act haccepted]
      | some batch =>
        have hbatches : batchesAccepted (actions (⟨NarratedOp.act op, reply⟩ :: trace)) =
            batch :: batchesAccepted (actions trace) := List.filterMap_cons_some haccepted
        rw [hbatches, List.foldl_cons]
        cases op with
        | writeBatch writer batch' =>
          cases (reply : Except ArrowError Unit) with
          | error source => cases haccepted
          | ok _ =>
            obtain rfl := Option.some.inj haccepted
            rfl
        | _ => cases haccepted
    | say told =>
      have hsame : ((sinkNarration plan position).next s (.say told) reply).accepted =
          s.accepted := by
        cases told with
        | progress snapshot =>
          show (if snapshot.metrics.isSome = true then { s with unannounced := false }
            else s).accepted = s.accepted
          split_ifs <;> rfl
        | _ => rfl
      have hacted : actions (⟨NarratedOp.say told, reply⟩ :: trace) = actions trace := rfl
      rw [hsame, hacted]

end Told

section Result
variable [RecordBatch Batch]

omit [ArrowSqlServer] in
theorem getLast?_runningTotals (accepted : ProgressMetrics) (batches : List Batch) :
    (runningTotals accepted batches).getLast?.getD accepted =
      batches.foldl addBatch accepted := by
  induction batches generalizing accepted with
  | nil => rfl
  | cons batch batches ih =>
    unfold runningTotals
    rw [List.getLast?_cons, List.foldl_cons, ← ih (addBatch accepted batch)]
    rfl

theorem sinkNarration_follows {plan : MssqlTargetOutputPlan}
    {position : Option ProgressOutputPosition} (s : SinkNarration)
    (trace : List (Event (narrated ProgressEvent (SinkSig Batch)))) :
    (sinkNarration plan position).Follows s trace := by
  induction trace generalizing s with
  | nil => trivial
  | cons event trace ih => exact ⟨trivial, ih _⟩

theorem respects_of_append {plan : MssqlTargetOutputPlan}
    {position : Option ProgressOutputPosition} {s : SinkNarration}
    {before after : List (Event (narrated ProgressEvent (SinkSig Batch)))}
    (h : (sinkNarration plan position).Respects s (before ++ after)) :
    (sinkNarration plan position).Respects s before := by
  induction before generalizing s with
  | nil => trivial
  | cons event before ih => exact ⟨h.1, ih h.2⟩

/-- Progress is reported along with the work and changes nothing in it: each operation is done
under the phase announced last, phases are announced in order, and the totals announced at any time
are those of the batches accepted so far, except for a last one that is announced next. -/
theorem sink_progress_is_the_work (plan : MssqlTargetOutputPlan)
    (position : Option ProgressOutputPosition) (readStatsHandles : Bool)
    (stream : TrackedStream Batch) (options : MssqlWriteBackend)
    (validationOptions : ValidationOptions) (phaseTimings : List PhaseTimingReport) :
    let reporter : ProgressReporter := ⟨true, position⟩
    let told := runMssqlOutputBatchesWithReporter (some reporter) plan stream
      (fileTracker readStatsHandles (some (reporter, plan.outputName))) options validationOptions
      phaseTimings
    let work := runMssqlOutputBatchesOnConnection plan stream.batches options validationOptions
      phaseTimings
    (∀ plain result, Runs work plain result → ∃ trace, Runs told trace result ∧
      actions trace = plain ∧ ∀ trace' result', Runs told trace' result' →
        actions trace' = plain → trace' = trace) ∧
    ∀ trace result, Runs told trace result →
      Runs work (actions trace) result ∧
      (sinkNarration plan position).Respects .start trace ∧
      (phasesTold (sayings trace)).Sublist sinkPhases ∧
      (∀ before after, trace = before ++ after → ∃ pending : List ProgressMetrics,
        metricsTold (sayings before) ++ pending =
          runningTotals ⟨0, 0⟩ (batchesAccepted (actions before)) ∧
        pending.length ≤ 1 ∧ (after = [] → pending = [])) ∧
      ∀ report, result = .ok report →
        (⟨report.stats.rowsWritten, report.stats.batchesWritten⟩ : ProgressMetrics) =
          (metricsTold (sayings trace)).getLast?.getD ⟨0, 0⟩ := by
  intro reporter told work
  -- without its announcements the reporter run is the plain one
  have hsilent : silent told = work := silent_runMssqlOutputBatches _ _ _ _ _
  refine ⟨?_, ?_⟩
  · intro plain result hrun
    rw [← hsilent] at hrun
    exact hrun.narrated
  · intro trace result hrun
    have htracks : TracksWriting plan position
        (fileTracker readStatsHandles (some (reporter, plan.outputName))) :=
      tracksWriting_fileTracker readStatsHandles
    have hmeets : (sinkNarration plan position).Meets told .start Ended :=
      runMssqlOutputBatches_meets htracks
    obtain ⟨hrespects, hannounced, hreport⟩ := hmeets.sound hrun (sinkNarration_follows _ _)
    refine ⟨?_, hrespects, ?_, ?_, ?_⟩
    · rw [← hsilent]
      exact hrun.silent
    · exact (respects_phases (List.nil_sublist _) hrespects).2
    · intro before after htrace
      subst htrace
      have htotals := respects_totals (respects_of_append hrespects)
      refine ⟨_, htotals.symm, ?_, ?_⟩
      · unfold SinkNarration.pending
        split_ifs
        · exact Nat.le_refl 1
        · exact Nat.zero_le 1
      · intro hended
        rw [hended, List.append_nil] at hannounced
        exact if_neg (by rw [hannounced]; exact Bool.false_ne_true)
    · intro report hresult
      have htotals := respects_totals hrespects
      -- the run has ended, so no total is left to announce
      have hpending : ((sinkNarration plan position).after .start trace).pending = [] :=
        if_neg (by rw [hannounced]; exact Bool.false_ne_true)
      rw [hpending, List.append_nil] at htotals
      rw [← htotals, ← hreport report hresult, after_accepted]
      exact (getLast?_runningTotals _ _).symm

end Result

end DeltaFunnel
