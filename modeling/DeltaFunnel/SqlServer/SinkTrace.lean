import DeltaFunnel.SqlServer.Sink

/-! What each stage of the sink leaves in the trace of connection operations. -/

namespace DeltaFunnel
open Interaction Program

variable [ArrowSqlServer] {Batch : Type}

abbrev SinkEvent (Batch : Type) := Event (SinkSig Batch)

namespace SinkOp

def isSwap : SinkOp Batch → Bool
  | .swapPreparedReplaceTarget _ _ => true
  | _ => false

/-- Operations that change neither which tables exist nor how they are named. -/
def keepsTables : SinkOp Batch → Bool
  | .prepareTargetLifecycle _ => false
  | .cleanupPreparedTarget _ _ => false
  | .swapPreparedReplaceTarget _ _ => false
  | _ => true

end SinkOp

def KeepsTables (trace : List (SinkEvent Batch)) : Prop := ∀ e ∈ trace, SinkOp.keepsTables e.op

@[simp] theorem keepsTables_nil : KeepsTables ([] : List (SinkEvent Batch)) := by
  simp [KeepsTables]

@[simp] theorem keepsTables_cons {e : SinkEvent Batch} {trace : List (SinkEvent Batch)} :
    KeepsTables (e :: trace) ↔ SinkOp.keepsTables e.op ∧ KeepsTables trace := by
  simp [KeepsTables]

@[simp] theorem keepsTables_append {first second : List (SinkEvent Batch)} :
    KeepsTables (first ++ second) ↔ KeepsTables first ∧ KeepsTables second := by
  simp [KeepsTables, or_imp, forall_and]

theorem KeepsTables.not_isSwap {trace : List (SinkEvent Batch)} (h : KeepsTables trace) :
    ∀ e ∈ trace, ¬SinkOp.isSwap e.op := by
  intro e he hswap
  have hkeeps := h e he
  rcases hop : e.op <;> simp_all [SinkOp.isSwap, SinkOp.keepsTables]

section Loop
variable [RecordBatch Batch]

/-- The stretch of a trace in which a whole stream is polled and accepted. -/
def acceptedTrace (writer : MssqlBulkLoadWriter) : List Batch → List (SinkEvent Batch)
  | [] => [⟨.nextBatch none, ()⟩]
  | batch :: batches =>
    ⟨.nextBatch (some (.ok batch)), ()⟩ :: ⟨.writeBatch writer batch, .ok ()⟩ ::
      acceptedTrace writer batches

def rowSum : List Batch → ℕ
  | [] => 0
  | batch :: batches => RecordBatch.numRows batch + rowSum batches

/-- Rows of all batches as a `u64` holds them. -/
def saturatingRowSum (batches : List Batch) : ℕ := min (rowSum batches) u64Max

/-- A batch whose schema the driver accepts for the plan. -/
def SchemaValid (plan : MssqlTargetOutputPlan) (batch : Batch) : Prop :=
  RecordBatch.validateSchemaAgainstMappings batch plan.schemaMappings = .ok ()

theorem writeLoop_ok (plan : MssqlTargetOutputPlan) (writer : MssqlBulkLoadWriter)
    (state : WriteLoopState) {batch : Batch} (rest : List (Except DeltaFunnelError Batch)) (hvalid : SchemaValid plan batch) :
    ∃ counted : WriteLoopState, ∃ failed : ArrowError → DeltaFunnelError,
      counted.inputRows = saturatingAdd state.inputRows (batchRowCount batch) ∧
      writeLoop plan writer state (.ok batch :: rest) =
        .call (.nextBatch (some (.ok batch))) fun _ => .call (.writeBatch writer batch) fun
          | .error source => .ret (.error (failed source))
          | .ok () => writeLoop plan writer counted rest := by
  have hvalid' : RecordBatch.validateSchemaAgainstMappings batch plan.schemaMappings = .ok () :=
    hvalid
  simp only [writeLoop, hvalid']
  exact ⟨_, _, rfl, rfl⟩

theorem writeLoop_runs (plan : MssqlTargetOutputPlan) {writer : MssqlBulkLoadWriter}
    {state : WriteLoopState}
    {stream : List (Except DeltaFunnelError Batch)} {trace : List (SinkEvent Batch)}
    {result : Except DeltaFunnelError WriteLoopState} {rows : ℕ}
    (h : Runs (writeLoop plan writer state stream) trace result)
    (hrows : state.inputRows = min rows u64Max) :
    KeepsTables trace ∧ ∀ final, result = .ok final → ∃ batches : List Batch,
      stream = batches.map .ok ∧ (∀ batch ∈ batches, SchemaValid plan batch) ∧
      trace = acceptedTrace writer batches ∧
      final.inputRows = min (rows + rowSum batches) u64Max := by
  -- over the stream, with the rows counted before it
  induction stream generalizing state trace rows with
  | nil =>
    obtain ⟨_, rest, rfl, hrest⟩ := runs_call.1 h
    obtain ⟨rfl, rfl⟩ := runs_ret.1 hrest
    refine ⟨by simp [SinkOp.keepsTables], ?_⟩
    rintro final ⟨⟩
    exact ⟨[], rfl, by simp, rfl, by simpa [rowSum] using hrows⟩
  | cons item stream ih =>
    cases item with
    | error source =>
      obtain ⟨_, rest, rfl, hrest⟩ := runs_call.1 h
      obtain ⟨rfl, rfl⟩ := runs_ret.1 hrest
      exact ⟨by simp [SinkOp.keepsTables], fun final hfinal => by cases hfinal⟩
    | ok batch =>
      rcases hvalid : RecordBatch.validateSchemaAgainstMappings batch plan.schemaMappings with
        source | ⟨⟩
      · simp only [writeLoop, hvalid] at h
        obtain ⟨_, rest, rfl, hrest⟩ := runs_call.1 h
        obtain ⟨rfl, rfl⟩ := runs_ret.1 hrest
        exact ⟨by simp [SinkOp.keepsTables], fun final hfinal => by cases hfinal⟩
      · obtain ⟨counted, failed, hcounted, heq⟩ := writeLoop_ok plan writer state stream hvalid
        rw [heq] at h
        obtain ⟨_, rest, rfl, hrest⟩ := runs_call.1 h
        obtain ⟨reply, tail, rfl, htail⟩ := runs_call.1 hrest
        cases reply with
        | error source =>
          obtain ⟨rfl, rfl⟩ := runs_ret.1 htail
          exact ⟨by simp [SinkOp.keepsTables], fun final hfinal => by cases hfinal⟩
        | ok _ =>
          have hnext : counted.inputRows = min (rows + RecordBatch.numRows batch) u64Max := by
            rw [hcounted, hrows]
            exact saturatingAdd_min _ _
          obtain ⟨hkeeps, hok⟩ := ih htail hnext
          refine ⟨by simpa [SinkOp.keepsTables] using hkeeps, ?_⟩
          intro final hfinal
          obtain ⟨batches, rfl, hall, rfl, hsum⟩ := hok final hfinal
          refine ⟨batch :: batches, rfl, ?_, rfl, ?_⟩
          · simpa using ⟨hvalid, hall⟩
          · rw [hsum, rowSum, Nat.add_assoc]

/-- The trace of a writer that accepted and finalized every batch. -/
def writtenTrace (plan : MssqlTargetOutputPlan) (target : MssqlPreparedTarget)
    (options : MssqlWriteBackend) (writer : MssqlBulkLoadWriter) (batches : List Batch) :
    List (SinkEvent Batch) :=
  ⟨.initializeWriter plan target options, .ok writer⟩ :: acceptedTrace writer batches ++
    [⟨.finish writer, .ok ()⟩]

theorem writeMssqlBatchesWithWriter_runs {plan : MssqlTargetOutputPlan}
    {writer : MssqlBulkLoadWriter} {stream : List (Except DeltaFunnelError Batch)} {trace : List (SinkEvent Batch)}
    {result : Except DeltaFunnelError MssqlWriteReport}
    (h : Runs (writeMssqlBatchesWithWriter plan stream writer) trace result) :
    KeepsTables trace ∧ ∀ report, result = .ok report → ∃ batches : List Batch,
      stream = batches.map .ok ∧ (∀ batch ∈ batches, SchemaValid plan batch) ∧
      trace = acceptedTrace writer batches ++ [⟨.finish writer, .ok ()⟩] ∧
      report.outputRowCount = .exact (saturatingRowSum batches) := by
  obtain ⟨first, looped, second, rfl, hloop, hrest⟩ := runs_bind.1 h
  have hstart : WriteLoopState.start.inputRows = min 0 u64Max := rfl
  have hspec := writeLoop_runs plan hloop hstart
  cases looped with
  | error error =>
    obtain ⟨rfl, rfl⟩ := runs_ret.1 hrest
    exact ⟨by simpa using hspec.1, fun report hreport => by cases hreport⟩
  | ok state =>
    obtain ⟨reply, tail, rfl, htail⟩ := runs_sinkCall.1 hrest
    cases reply with
    | error source =>
      obtain ⟨rfl, rfl⟩ := runs_ret.1 htail
      exact ⟨by simpa [SinkOp.keepsTables] using hspec.1, fun report hreport => by cases hreport⟩
    | ok _ =>
      obtain ⟨rfl, rfl⟩ := runs_ret.1 htail
      refine ⟨by simpa [SinkOp.keepsTables] using hspec.1, ?_⟩
      rintro report ⟨⟩
      obtain ⟨batches, rfl, hall, rfl, hsum⟩ := hspec.2 state rfl
      refine ⟨batches, rfl, hall, rfl, ?_⟩
      rw [Nat.zero_add] at hsum
      exact congrArg RowCount.exact hsum

theorem writePreparedBatches_runs {plan : MssqlTargetOutputPlan} {target : MssqlPreparedTarget}
    {stream : List (Except DeltaFunnelError Batch)} {options : MssqlWriteBackend}
    {trace : List (SinkEvent Batch)} {result : Except DeltaFunnelError MssqlWriteReport}
    (h : Runs (writePreparedBatches plan target stream options) trace result) :
    KeepsTables trace ∧ ∀ report, result = .ok report → ∃ writer, ∃ batches : List Batch,
      stream = batches.map .ok ∧ (∀ batch ∈ batches, SchemaValid plan batch) ∧
      trace = writtenTrace plan target options writer batches ∧
      report.outputRowCount = .exact (saturatingRowSum batches) := by
  obtain ⟨reply, rest, rfl, hrest⟩ := runs_sinkCall.1 h
  cases reply with
  | error error =>
    obtain ⟨rfl, rfl⟩ := runs_ret.1 hrest
    exact ⟨by simp [SinkOp.keepsTables], fun report hreport => by cases hreport⟩
  | ok writer =>
    obtain ⟨first, written, second, rfl, hwrite, htail⟩ := runs_bind.1 hrest
    obtain ⟨hkeeps, hok⟩ := writeMssqlBatchesWithWriter_runs hwrite
    cases written with
    | error error =>
      obtain ⟨rfl, rfl⟩ := runs_ret.1 htail
      exact ⟨by simpa [SinkOp.keepsTables] using hkeeps, fun report hreport => by cases hreport⟩
    | ok written =>
      obtain ⟨rfl, rfl⟩ := runs_ret.1 htail
      refine ⟨by simpa [SinkOp.keepsTables] using hkeeps, ?_⟩
      rintro report ⟨⟩
      obtain ⟨batches, rfl, hall, rfl, hrows⟩ := hok written rfl
      exact ⟨writer, batches, rfl, hall, by simp [writtenTrace], hrows⟩

end Loop

theorem targetRowCountBeforeAppendWrite_runs {plan : MssqlTargetOutputPlan}
    {target : MssqlPreparedTarget} {validationOptions : ValidationOptions}
    {trace : List (SinkEvent Batch)} {result : Except DeltaFunnelError TargetRowCountBeforeWrite}
    (h : Runs (targetRowCountBeforeAppendWrite plan target validationOptions) trace result) :
    KeepsTables trace ∧ (plan.loadMode = .replace → trace = []) := by
  unfold targetRowCountBeforeAppendWrite at h
  by_cases hskip : validationOptions.targetValidationMode = .disabled ∨
      plan.loadMode ≠ .appendExisting
  · rw [if_pos hskip] at h
    obtain ⟨rfl, -⟩ := runs_ret.1 h
    simp
  · rw [if_neg hskip] at h
    obtain ⟨reply, rest, rfl, hrest⟩ := runs_sinkCall.1 h
    have happend : plan.loadMode = .appendExisting := by
      by_contra hmode
      exact hskip (.inr hmode)
    have hnil : rest = [] := by
      rcases reply with failure | rows
      · dsimp only at hrest
        split_ifs at hrest <;> exact (runs_ret.1 hrest).1
      · exact (runs_ret.1 hrest).1
    subst hnil
    exact ⟨by simp [SinkOp.keepsTables], fun hmode => by simp [happend] at hmode⟩

theorem enableReplaceTableLock_runs {plan : MssqlTargetOutputPlan} {target : MssqlPreparedTarget}
    {trace : List (SinkEvent Batch)} {result : Except DeltaFunnelError Bool}
    (h : Runs (enableReplaceTableLock plan target) trace result) :
    KeepsTables trace ∧
      (plan.loadMode = .replace → trace = [⟨.enableBulkLoadTableLock plan target, result⟩]) := by
  unfold enableReplaceTableLock at h
  by_cases hmode : plan.loadMode = .replace
  · rw [if_pos hmode] at h
    obtain ⟨reply, rest, rfl, hrest⟩ := runs_call.1 h
    obtain ⟨rfl, rfl⟩ := runs_ret.1 hrest
    exact ⟨by simp [SinkOp.keepsTables], fun _ => rfl⟩
  · rw [if_neg hmode] at h
    obtain ⟨rfl, -⟩ := runs_ret.1 h
    exact ⟨by simp, fun hreplace => absurd hreplace hmode⟩

theorem validateAppendExistingTargetDelta_keepsTables {plan : MssqlTargetOutputPlan}
    {target : MssqlPreparedTarget} {report : MssqlWriteReport} {required : Bool}
    {before : TargetRowCountBeforeWrite} {rows : ℕ} {trace : List (SinkEvent Batch)}
    {result : Except DeltaFunnelError MssqlWriteReport}
    (h : Runs (validateAppendExistingTargetDelta plan target report required before rows) trace
      result) : KeepsTables trace := by
  cases before with
  | notRequired => rw [(runs_ret.1 h).1]; simp
  | unavailable reason message => rw [(runs_ret.1 h).1]; simp
  | exact rowsBefore =>
    obtain ⟨reply, rest, rfl, hrest⟩ := runs_sinkCall.1 h
    have hnil : rest = [] := by
      rcases reply with failure | rowsAfter
      · exact (runs_ret.1 hrest).1
      · dsimp only at hrest
        split_ifs at hrest <;> exact (runs_ret.1 hrest).1
    subst hnil
    simp [SinkOp.keepsTables]

theorem validateCreatedTargetRows_runs {plan : MssqlTargetOutputPlan}
    {target : MssqlPreparedTarget} {report : MssqlWriteReport} {required : Bool} {rows : ℕ}
    {trace : List (SinkEvent Batch)} {result : Except DeltaFunnelError MssqlWriteReport}
    (h : Runs (validateCreatedTargetRows plan target report required rows) trace result) :
    KeepsTables trace ∧ (plan.loadMode = .replace → ∀ validated, result = .ok validated →
      validated.validationStatus = .passed ∧
        trace = [⟨.targetRowCount plan target, .ok rows⟩]) := by
  obtain ⟨reply, rest, rfl, hrest⟩ := runs_sinkCall.1 h
  rcases reply with failure | targetRows
  · obtain ⟨rfl, rfl⟩ := runs_ret.1 hrest
    refine ⟨by simp [SinkOp.keepsTables], fun hmode validated hvalidated => ?_⟩
    simp [validationUnavailableOrRequiredFailure, hmode] at hvalidated
  · dsimp only at hrest
    split_ifs at hrest with hrows
    · obtain ⟨rfl, rfl⟩ := runs_ret.1 hrest
      subst hrows
      refine ⟨by simp [SinkOp.keepsTables], ?_⟩
      rintro - validated ⟨⟩
      exact ⟨rfl, rfl⟩
    · obtain ⟨rfl, rfl⟩ := runs_ret.1 hrest
      exact ⟨by simp [SinkOp.keepsTables], fun _ validated hvalidated => by cases hvalidated⟩

theorem validateWrittenTarget_runs {plan : MssqlTargetOutputPlan} {target : MssqlPreparedTarget}
    {report : MssqlWriteReport} {validationOptions : ValidationOptions}
    {before : TargetRowCountBeforeWrite} {trace : List (SinkEvent Batch)}
    {result : Except DeltaFunnelError MssqlWriteReport}
    (h : Runs (validateWrittenTarget plan target report validationOptions before) trace result) :
    KeepsTables trace ∧ (plan.loadMode = .replace → ∀ validated, result = .ok validated →
      validationOptions.targetValidationMode ≠ .disabled ∧ validated.validationStatus = .passed ∧
        ∃ rows, report.outputRowCount.exactValue = some rows ∧
          trace = [⟨.targetRowCount plan target, .ok rows⟩]) := by
  unfold validateWrittenTarget at h
  by_cases hdisabled : validationOptions.targetValidationMode = .disabled
  · rw [if_pos hdisabled] at h
    by_cases hmode : plan.loadMode = .replace
    · rw [if_pos hmode] at h
      obtain ⟨rfl, rfl⟩ := runs_ret.1 h
      exact ⟨by simp, fun _ validated hvalidated => by cases hvalidated⟩
    · rw [if_neg hmode] at h
      obtain ⟨rfl, -⟩ := runs_ret.1 h
      exact ⟨by simp, fun hreplace => absurd hreplace hmode⟩
  · rw [if_neg hdisabled] at h
    rcases hrows : report.outputRowCount.exactValue with _ | rows
    · simp only [hrows] at h
      obtain ⟨rfl, rfl⟩ := runs_ret.1 h
      refine ⟨by simp, fun hmode validated hvalidated => ?_⟩
      simp [missingExactOutputRowsValidation, validationUnavailableOrRequiredFailure, hmode]
        at hvalidated
    · simp only [hrows] at h
      rcases hmode : plan.loadMode
      · simp only [hmode] at h
        exact ⟨validateAppendExistingTargetDelta_keepsTables h, fun hreplace => by cases hreplace⟩
      all_goals
        simp only [hmode] at h
        obtain ⟨hkeeps, hok⟩ := validateCreatedTargetRows_runs h
        refine ⟨hkeeps, fun hreplace validated hvalidated => ?_⟩
        rw [hmode] at hok
        obtain ⟨hpassed, htrace⟩ := hok hreplace validated hvalidated
        exact ⟨hdisabled, hpassed, rows, rfl, htrace⟩

theorem swapStagedTarget_runs {plan : MssqlTargetOutputPlan} {target : MssqlPreparedTarget}
    {report : MssqlWriteReport} {trace : List (SinkEvent Batch)}
    {result : Except DeltaFunnelError MssqlWriteReport}
    (h : Runs (swapStagedTarget plan target report) trace result) :
    ∃ reply, trace = [⟨.swapPreparedReplaceTarget plan target, reply⟩] ∧
      ((∃ error failed, reply = .error error ∧ result = .error failed) ∨
        reply = .ok () ∧
          result = .ok (report.withAppendedPhaseTimings [.completed "swap_target"])) := by
  obtain ⟨reply, rest, rfl, hrest⟩ := runs_sinkCall.1 h
  rcases reply with error | _
  · obtain ⟨rfl, rfl⟩ := runs_ret.1 hrest
    exact ⟨_, rfl, .inl ⟨_, _, rfl, rfl⟩⟩
  · obtain ⟨rfl, rfl⟩ := runs_ret.1 hrest
    exact ⟨_, rfl, .inr ⟨rfl, rfl⟩⟩

def unlockTrace (plan : MssqlTargetOutputPlan) (target : MssqlPreparedTarget) (locked : Bool) :
    List (SinkEvent Batch) :=
  if locked then [⟨.disableBulkLoadTableLock plan target, .ok ()⟩] else []

/-- The swap stage ends before the swap, or with it. A replace target that does not reach the
swap fails. -/
theorem swapReplaceTargetAfterValidation_runs {plan : MssqlTargetOutputPlan}
    {target : MssqlPreparedTarget} {report : MssqlWriteReport} {locked : Bool}
    {trace : List (SinkEvent Batch)} {result : Except DeltaFunnelError MssqlWriteReport}
    (h : Runs (swapReplaceTargetAfterValidation plan target report locked) trace result) :
    (KeepsTables trace ∧ (plan.loadMode = .replace → ∃ error, result = .error error)) ∨
      ∃ reply, plan.loadMode = .replace ∧
        trace = unlockTrace plan target locked ++
          [⟨.swapPreparedReplaceTarget plan target, reply⟩] ∧
        ((∃ error failed, reply = .error error ∧ result = .error failed) ∨
          reply = .ok () ∧
            result = .ok (report.withAppendedPhaseTimings [.completed "swap_target"])) := by
  unfold swapReplaceTargetAfterValidation at h
  by_cases hmode : plan.loadMode = .replace
  · rw [if_neg (not_not.2 hmode)] at h
    by_cases hpassed : report.validationStatus = .passed
    · rw [if_neg (not_not.2 hpassed)] at h
      cases locked with
      | false =>
        obtain ⟨reply, rfl, hreply⟩ := swapStagedTarget_runs h
        exact .inr ⟨reply, hmode, rfl, hreply⟩
      | true =>
        obtain ⟨unlocked, rest, rfl, hrest⟩ := runs_sinkCall.1 h
        rcases unlocked with error | _
        · obtain ⟨rfl, rfl⟩ := runs_ret.1 hrest
          exact .inl ⟨by simp [SinkOp.keepsTables], fun _ => ⟨_, rfl⟩⟩
        · obtain ⟨reply, rfl, hreply⟩ := swapStagedTarget_runs hrest
          exact .inr ⟨reply, hmode, rfl, hreply⟩
    · rw [if_pos hpassed] at h
      obtain ⟨rfl, rfl⟩ := runs_ret.1 h
      exact .inl ⟨by simp, fun _ => ⟨_, rfl⟩⟩
  · rw [if_pos hmode] at h
    obtain ⟨rfl, -⟩ := runs_ret.1 h
    exact .inl ⟨by simp, fun hreplace => absurd hreplace hmode⟩

theorem failAfterPreparation_runs {α : Type} {plan : MssqlTargetOutputPlan}
    {target : MssqlPreparedTarget} {error : DeltaFunnelError} {trace : List (SinkEvent Batch)}
    {result : Except DeltaFunnelError α}
    (h : Runs (failAfterPreparation plan target error) trace result) :
    ∃ reply failed, trace = [⟨.cleanupPreparedTarget plan (some target), reply⟩] ∧
      result = .error failed := by
  obtain ⟨first, failed, second, rfl, hcleanup, hrest⟩ := runs_bind.1 h
  obtain ⟨rfl, rfl⟩ := runs_ret.1 hrest
  obtain ⟨reply, rest, rfl, hreply⟩ := runs_sinkCall.1 hcleanup
  have hnil : rest = [] := by
    rcases reply with cleanupError | cleanup <;> exact (runs_ret.1 hreply).1
  subst hnil
  exact ⟨reply, failed, rfl, rfl⟩

end DeltaFunnel
