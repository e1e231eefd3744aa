import DeltaFunnel.SqlServer.AppendFailures

/-! The accounts of the write loop: which batches reach the writer, where the loop stops, and
what the counters of its report or of its error add up to. -/

namespace DeltaFunnel
open Interaction Program

variable [ArrowSqlServer] {Batch : Type}

def attemptedBatches (trace : List (SinkEvent Batch)) : List Batch :=
  trace.filterMap fun
    | ⟨.writeBatch _ batch, _⟩ => some batch
    | _ => none

def finishCalls (trace : List (SinkEvent Batch)) : ℕ :=
  trace.countP fun
    | ⟨.finish _, _⟩ => true
    | _ => false

def streamEnded (trace : List (SinkEvent Batch)) : Bool :=
  trace.any fun
    | ⟨.nextBatch none, _⟩ => true
    | _ => false

def okBatches (stream : List (Except DeltaFunnelError Batch)) : List Batch :=
  stream.filterMap Except.toOption

section Append
variable {first second : List (SinkEvent Batch)}

theorem attemptedBatches_append :
    attemptedBatches (first ++ second) = attemptedBatches first ++ attemptedBatches second :=
  List.filterMap_append

theorem finishCalls_append :
    finishCalls (first ++ second) = finishCalls first + finishCalls second :=
  List.countP_append

theorem streamEnded_append :
    streamEnded (first ++ second) = (streamEnded first || streamEnded second) :=
  List.any_append

end Append

variable [RecordBatch Batch]

/-- An event at which the loop fails; a poll fails too if the schema of its batch is rejected. -/
def FailsAt (plan : MssqlTargetOutputPlan) : SinkEvent Batch → Prop
  | ⟨.nextBatch (some (.error _)), _⟩ => True
  | ⟨.nextBatch (some (.ok batch)), _⟩ => ¬SchemaValid plan batch
  | ⟨.writeBatch _ _, .error _⟩ => True
  | ⟨.finish _, .error _⟩ => True
  | _ => False

def saturatingCount (batches : List Batch) : ℕ := min batches.length u64Max

/-- Batch shaping after the batches `taken` from the stream, of which `accepted` were written. -/
def shapingTotals (status : PhaseStatus) (taken accepted : List Batch) : MssqlBatchShapingReport :=
  ⟨status, saturatingCount taken, saturatingRowSum taken, saturatingCount accepted,
    saturatingRowSum accepted⟩

/-- The report of a stream that was written as a whole. -/
structure CompletedTotals (batches : List Batch) (report : MssqlWriteReport) : Prop where
  rows : report.stats.rowsWritten = saturatingRowSum batches
  count : report.stats.batchesWritten = saturatingCount batches
  output : report.outputRowCount = .exact (saturatingRowSum batches)
  shaping : report.batchShaping = shapingTotals .completed batches batches

/-- The report in the context of a failure after `accepted`; `failing` is the batch it rejected,
if it rejected one. -/
structure FailureTotals (plan : MssqlTargetOutputPlan) (accepted failing : List Batch)
    (context : MssqlWriteFailureContext) : Prop where
  rows : context.report.stats.rowsWritten = saturatingRowSum accepted
  count : context.report.stats.batchesWritten = saturatingCount accepted
  output : context.report.outputRowCount =
    if context.phase = .finalize then .exact (saturatingRowSum (accepted ++ failing))
    else .partialCount (saturatingRowSum (accepted ++ failing))
  shaping : context.report.batchShaping =
    shapingTotals (if context.phase = .finalize then .completed else .failed)
      (accepted ++ failing) accepted
  partialWrite : context.report.partialWritePossible =
    decide (plan.loadMode = .appendExisting ∧ accepted ≠ [])

/-- What happens after the accepted batches up to the step that failed, the phase of that step,
and the batch it rejected. -/
inductive WriteFailure (plan : MssqlTargetOutputPlan) (writer : MssqlBulkLoadWriter)
    (stream : List (Except DeltaFunnelError Batch)) (accepted : List Batch) :
    List (SinkEvent Batch) → MssqlWritePhase → List Batch → Prop
  | poll {source : DeltaFunnelError} {rest : List (Except DeltaFunnelError Batch)}
      (hstream : stream = accepted.map .ok ++ .error source :: rest) :
      WriteFailure plan writer stream accepted [⟨.nextBatch (some (.error source)), ()⟩]
        .pollBatchStream []
  | schema {batch : Batch} {rest : List (Except DeltaFunnelError Batch)}
      (hstream : stream = accepted.map .ok ++ .ok batch :: rest)
      (hinvalid : ¬SchemaValid plan batch) :
      WriteFailure plan writer stream accepted [⟨.nextBatch (some (.ok batch)), ()⟩]
        .validateBatchSchema [batch]
  | write {batch : Batch} {source : ArrowError} {rest : List (Except DeltaFunnelError Batch)}
      (hstream : stream = accepted.map .ok ++ .ok batch :: rest)
      (hvalid : SchemaValid plan batch) :
      WriteFailure plan writer stream accepted
        [⟨.nextBatch (some (.ok batch)), ()⟩, ⟨.writeBatch writer batch, .error source⟩]
        .writeBatch [batch]
  | finalize {source : ArrowError} (hstream : stream = accepted.map .ok) :
      WriteFailure plan writer stream accepted
        [⟨.nextBatch none, ()⟩, ⟨.finish writer, .error source⟩] .finalize []

/-- The six counters while `accepted` was written and `taken` was taken from the stream. -/
structure CountsTotals (state : WriteLoopState) (taken accepted : List Batch) : Prop where
  written : CountsAccepted state accepted
  inputRows : state.inputRows = saturatingRowSum taken
  inputBatches : state.inputBatches = saturatingCount taken
  shapedRows : state.shapedRows = saturatingRowSum accepted
  shapedBatches : state.shapedBatches = saturatingCount accepted

section Counters
omit [ArrowSqlServer]

theorem saturatingRowSum_concat (batches : List Batch) (batch : Batch) :
    saturatingAdd (saturatingRowSum batches) (batchRowCount batch) =
      saturatingRowSum (batches ++ [batch]) := by
  show saturatingAdd (min _ u64Max) (min (RecordBatch.numRows batch) u64Max) = min _ u64Max
  rw [saturatingAdd_min, rowSum_append]
  rfl

omit [RecordBatch Batch] in
theorem saturatingCount_concat (batches : List Batch) (batch : Batch) :
    saturatingAdd (saturatingCount batches) 1 = saturatingCount (batches ++ [batch]) := by
  have hone : (1 : ℕ) = min 1 u64Max := by decide
  rw [saturatingCount, hone, saturatingAdd_min, saturatingCount, List.length_append]
  rfl

theorem CountsTotals.start : CountsTotals .start ([] : List Batch) [] where
  written := .start
  inputRows := (Nat.zero_min u64Max).symm
  inputBatches := (Nat.zero_min u64Max).symm
  shapedRows := (Nat.zero_min u64Max).symm
  shapedBatches := (Nat.zero_min u64Max).symm

theorem CountsTotals.take {state : WriteLoopState} {accepted : List Batch}
    (h : CountsTotals state accepted accepted) (batch : Batch) (validation write : Bool) :
    CountsTotals { state.countInput (batchRowCount batch) with
      validationAttempted := validation, writeAttempted := write } (accepted ++ [batch])
      accepted where
  written := ⟨h.written.rows, h.written.batches⟩
  inputRows := by
    rw [← saturatingRowSum_concat, ← h.inputRows]
    rfl
  inputBatches := by
    rw [← saturatingCount_concat, ← h.inputBatches]
    rfl
  shapedRows := h.shapedRows
  shapedBatches := h.shapedBatches

theorem CountsTotals.accept {state : WriteLoopState} {accepted : List Batch} {batch : Batch}
    (h : CountsTotals state (accepted ++ [batch]) accepted) :
    CountsTotals (state.countWritten (batchRowCount batch)) (accepted ++ [batch])
      (accepted ++ [batch]) where
  written := h.written.countWritten batch
  inputRows := h.inputRows
  inputBatches := h.inputBatches
  shapedRows := by
    rw [← saturatingRowSum_concat, ← h.shapedRows]
    rfl
  shapedBatches := by
    rw [← saturatingCount_concat, ← h.shapedBatches]
    rfl

theorem CountsTotals.failedShaping {state : WriteLoopState} {taken accepted : List Batch}
    (h : CountsTotals state taken accepted) :
    state.failedShaping = shapingTotals .failed taken accepted := by
  rw [WriteLoopState.failedShaping, h.inputBatches, h.inputRows, h.shapedBatches, h.shapedRows]
  rfl

theorem CountsTotals.completedShaping {state : WriteLoopState} {taken accepted : List Batch}
    (h : CountsTotals state taken accepted) :
    state.completedShaping = shapingTotals .completed taken accepted := by
  rw [WriteLoopState.completedShaping, h.inputBatches, h.inputRows, h.shapedBatches, h.shapedRows]
  rfl

end Counters

theorem CountsAccepted.partialWrite (plan : MssqlTargetOutputPlan) {state : WriteLoopState}
    {accepted : List Batch} (h : CountsAccepted state accepted) :
    DeltaFunnel.partialWritePossible plan state.rowsWritten state.batchesWritten =
      decide (plan.loadMode = .appendExisting ∧ accepted ≠ []) := by
  by_cases hmode : plan.loadMode = .appendExisting
  · rw [h.partialWritePossible hmode]
    simp [hmode]
  · simp [DeltaFunnel.partialWritePossible, hmode]

theorem CountsTotals.failure {plan : MssqlTargetOutputPlan} {state : WriteLoopState}
    {accepted failing : List Batch} (h : CountsTotals state (accepted ++ failing) accepted)
    {context : MssqlWriteFailureContext} (hphase : context.phase ≠ .finalize)
    {timings : List PhaseTimingReport}
    (hreport : context.report = .fromOutputPlanWithMetrics plan
      ((writeFailureReportMetrics plan (.partialCount state.inputRows) state.failedShaping
        state).withPhaseTimings timings)) :
    FailureTotals plan accepted failing context where
  rows := by
    rw [hreport]
    exact h.written.rows
  count := by
    rw [hreport]
    exact h.written.batches
  output := by
    rw [hreport, if_neg hphase, ← h.inputRows]
    rfl
  shaping := by
    rw [hreport, if_neg hphase, ← h.failedShaping]
    rfl
  partialWrite := by
    rw [hreport, ← h.written.partialWrite plan]
    rfl

theorem CountsTotals.finalizeFailure {plan : MssqlTargetOutputPlan} {state : WriteLoopState}
    {accepted : List Batch} (h : CountsTotals state accepted accepted)
    {context : MssqlWriteFailureContext} (hphase : context.phase = .finalize)
    {timings : List PhaseTimingReport}
    (hreport : context.report = .fromOutputPlanWithMetrics plan
      ((writeFailureReportMetrics plan (.exact state.inputRows) state.completedShaping
        state).withPhaseTimings timings)) :
    FailureTotals plan accepted [] context where
  rows := by
    rw [hreport]
    exact h.written.rows
  count := by
    rw [hreport]
    exact h.written.batches
  output := by
    rw [hreport, if_pos hphase, List.append_nil, ← h.inputRows]
    rfl
  shaping := by
    rw [hreport, if_pos hphase, List.append_nil, ← h.completedShaping]
    rfl
  partialWrite := by
    rw [hreport, ← h.written.partialWrite plan]
    rfl

/-- The events of batches that were taken, validated and accepted. -/
def acceptedEvents (writer : MssqlBulkLoadWriter) (batches : List Batch) :
    List (SinkEvent Batch) :=
  batches.flatMap fun batch =>
    [⟨.nextBatch (some (.ok batch)), ()⟩, ⟨.writeBatch writer batch, .ok ()⟩]

/-- How the loop ends after `accepted`. -/
inductive LoopEnds (plan : MssqlTargetOutputPlan) (writer : MssqlBulkLoadWriter)
    (stream : List (Except DeltaFunnelError Batch)) (accepted : List Batch) :
    List (SinkEvent Batch) → Except DeltaFunnelError WriteLoopState → Prop
  | ended {state : WriteLoopState} (hstream : stream = accepted.map .ok)
      (hcounts : CountsTotals state accepted accepted) :
      LoopEnds plan writer stream accepted [⟨.nextBatch none, ()⟩] (.ok state)
  | failed {tail : List (SinkEvent Batch)} {failing : List Batch} {error : DeltaFunnelError}
      {context : MssqlWriteFailureContext} (hcontext : failureContext error = some context)
      (hfailure : WriteFailure plan writer stream accepted tail context.phase failing)
      (htotals : FailureTotals plan accepted failing context) :
      LoopEnds plan writer stream accepted tail (.error error)

theorem writeLoop_ends {plan : MssqlTargetOutputPlan} {writer : MssqlBulkLoadWriter}
    {state : WriteLoopState} {before : List Batch}
    {stream : List (Except DeltaFunnelError Batch)} {trace : List (SinkEvent Batch)}
    {result : Except DeltaFunnelError WriteLoopState} (hcounts : CountsTotals state before before)
    (hruns : Runs (writeLoop plan writer state stream) trace result) :
    ∃ accepted tail, trace = acceptedEvents writer accepted ++ tail ∧
      (∀ batch ∈ accepted, SchemaValid plan batch) ∧
      LoopEnds plan writer (before.map .ok ++ stream) (before ++ accepted) tail result := by
  -- over the stream, with the counters of the batches before it
  induction stream generalizing state before trace with
  | nil =>
    obtain ⟨_, rest, rfl, hrest⟩ := runs_call.1 hruns
    obtain ⟨rfl, rfl⟩ := runs_ret.1 hrest
    refine ⟨[], _, rfl, nofun, ?_⟩
    rw [List.append_nil, List.append_nil]
    exact .ended rfl hcounts
  | cons item stream ih =>
    cases item with
    | error source =>
      obtain ⟨_, rest, rfl, hrest⟩ := runs_call.1 hruns
      obtain ⟨rfl, rfl⟩ := runs_ret.1 hrest
      refine ⟨[], _, rfl, nofun, ?_⟩
      rw [List.append_nil]
      refine .failed rfl (.poll rfl) (CountsTotals.failure ?_ nofun rfl)
      rw [List.append_nil]
      exact hcounts
    | ok batch =>
      obtain ⟨_, rest, rfl, hrest⟩ := runs_call.1 hruns
      -- a batch is taken before it is checked, so a refused one counts as input
      rcases hvalid : RecordBatch.validateSchemaAgainstMappings batch plan.schemaMappings with
        source | ⟨⟩
      · simp only [hvalid] at hrest
        obtain ⟨rfl, rfl⟩ := runs_ret.1 hrest
        have hinvalid : ¬SchemaValid plan batch := by
          rw [SchemaValid, hvalid]
          nofun
        refine ⟨[], _, rfl, nofun, ?_⟩
        rw [List.append_nil]
        exact .failed rfl (.schema rfl hinvalid) ((hcounts.take batch _ _).failure nofun rfl)
      · simp only [hvalid] at hrest
        obtain ⟨reply, tail, rfl, htail⟩ := runs_call.1 hrest
        cases reply with
        | error source =>
          obtain ⟨rfl, rfl⟩ := runs_ret.1 htail
          refine ⟨[], _, rfl, nofun, ?_⟩
          rw [List.append_nil]
          exact .failed rfl (.write rfl hvalid) ((hcounts.take batch _ _).failure nofun rfl)
        | ok _ =>
          have hnext := (hcounts.take batch true true).accept
          obtain ⟨accepted, tail, rfl, hall, hends⟩ := ih hnext htail
          refine ⟨batch :: accepted, tail, rfl, List.forall_mem_cons.2 ⟨hvalid, hall⟩, ?_⟩
          rw [List.map_append, List.append_assoc, List.append_assoc] at hends
          exact hends

/-- How the write ends after `accepted`. -/
inductive WriteEnds (plan : MssqlTargetOutputPlan) (writer : MssqlBulkLoadWriter)
    (stream : List (Except DeltaFunnelError Batch)) (accepted : List Batch) :
    List (SinkEvent Batch) → Except DeltaFunnelError MssqlWriteReport → Prop
  | completed {report : MssqlWriteReport} (hstream : stream = accepted.map .ok)
      (htotals : CompletedTotals accepted report) :
      WriteEnds plan writer stream accepted
        [⟨.nextBatch none, ()⟩, ⟨.finish writer, .ok ()⟩] (.ok report)
  | failed {tail : List (SinkEvent Batch)} {failing : List Batch} {error : DeltaFunnelError}
      {context : MssqlWriteFailureContext} (hcontext : failureContext error = some context)
      (hfailure : WriteFailure plan writer stream accepted tail context.phase failing)
      (htotals : FailureTotals plan accepted failing context) :
      WriteEnds plan writer stream accepted tail (.error error)

theorem writeMssqlBatchesWithWriter_ends {plan : MssqlTargetOutputPlan}
    {writer : MssqlBulkLoadWriter} {stream : List (Except DeltaFunnelError Batch)}
    {trace : List (SinkEvent Batch)} {result : Except DeltaFunnelError MssqlWriteReport}
    (hruns : Runs (writeMssqlBatchesWithWriter plan stream writer) trace result) :
    ∃ accepted tail, trace = acceptedEvents writer accepted ++ tail ∧
      (∀ batch ∈ accepted, SchemaValid plan batch) ∧
      WriteEnds plan writer stream accepted tail result := by
  obtain ⟨loopTrace, looped, rest, rfl, hloop, hfinish⟩ := runs_bind.1 hruns
  obtain ⟨accepted, tail, rfl, hall, hends⟩ := writeLoop_ends .start hloop
  rw [List.map_nil, List.nil_append, List.nil_append] at hends
  cases hends with
  | failed hcontext hfailure htotals =>
    obtain ⟨rfl, rfl⟩ := runs_ret.1 hfinish
    exact ⟨accepted, tail, List.append_nil _, hall, .failed hcontext hfailure htotals⟩
  | ended hstream hcounts =>
    obtain ⟨reply, after, rfl, hafter⟩ := runs_sinkCall.1 hfinish
    cases reply with
    | error source =>
      obtain ⟨rfl, rfl⟩ := runs_ret.1 hafter
      refine ⟨accepted, _, List.append_assoc _ _ _, hall, ?_⟩
      exact .failed rfl (.finalize hstream) (hcounts.finalizeFailure rfl rfl)
    | ok _ =>
      obtain ⟨rfl, rfl⟩ := runs_ret.1 hafter
      refine ⟨accepted, _, List.append_assoc _ _ _, hall, .completed hstream ?_⟩
      exact ⟨hcounts.written.rows, hcounts.written.batches, congrArg RowCount.exact hcounts.inputRows,
        hcounts.completedShaping⟩

section Events
omit [RecordBatch Batch]
variable (writer : MssqlBulkLoadWriter) (batches : List Batch)

theorem attemptedBatches_acceptedEvents :
    attemptedBatches (acceptedEvents writer batches) = batches := by
  induction batches with
  | nil => rfl
  | cons batch batches ih => exact congrArg (batch :: ·) ih

theorem acceptedBatches_acceptedEvents :
    acceptedBatches (acceptedEvents writer batches) = batches := by
  induction batches with
  | nil => rfl
  | cons batch batches ih => exact congrArg (batch :: ·) ih

theorem finishCalls_acceptedEvents : finishCalls (acceptedEvents writer batches) = 0 := by
  induction batches with
  | nil => rfl
  | cons batch batches ih => exact ih

theorem streamEnded_acceptedEvents : streamEnded (acceptedEvents writer batches) = false := by
  induction batches with
  | nil => rfl
  | cons batch batches ih => exact ih

end Events

theorem not_failsAt_acceptedEvents {plan : MssqlTargetOutputPlan} {writer : MssqlBulkLoadWriter}
    {batches : List Batch} (hall : ∀ batch ∈ batches, SchemaValid plan batch) :
    ∀ e ∈ acceptedEvents writer batches, ¬FailsAt plan e := by
  intro e he
  obtain ⟨batch, hbatch, he⟩ := List.mem_flatMap.1 he
  simp only [List.mem_cons, List.not_mem_nil, or_false] at he
  rcases he with rfl | rfl
  · exact not_not.2 (hall batch hbatch)
  · exact id

omit [ArrowSqlServer] in
theorem eq_nil_of_marked_last {α : Type} {P : α → Prop} {init before after : List α} {last x : α}
    (hinit : ∀ y ∈ init, ¬P y) (heq : init ++ [last] = before ++ x :: after) (hx : P x) :
    after = [] := by
  rcases List.eq_nil_or_concat after with rfl | ⟨after, last', rfl⟩
  · rfl
  · rw [List.concat_eq_append, ← List.cons_append, ← List.append_assoc] at heq
    have hsame := (List.append_inj' heq rfl).1
    exact absurd hx (hinit x (by simp [hsame]))

omit [RecordBatch Batch] [ArrowSqlServer] in
theorem okBatches_append_ok (accepted : List Batch) (rest : List (Except DeltaFunnelError Batch)) :
    okBatches (accepted.map .ok ++ rest) = accepted ++ okBatches rest := by
  rw [okBatches, List.filterMap_append, List.filterMap_map]
  exact congrArg (· ++ okBatches rest) (List.filterMap_some (l := accepted))

structure TailFacts (plan : MssqlTargetOutputPlan)
    (stream : List (Except DeltaFunnelError Batch)) (accepted : List Batch)
    (tail : List (SinkEvent Batch)) : Prop where
  accepts : acceptedBatches tail = []
  attempts : accepted ++ attemptedBatches tail <+: okBatches stream
  finish : finishCalls tail = 1 ∧ streamEnded tail = true ∧ stream = accepted.map .ok ∨
    finishCalls tail = 0 ∧ streamEnded tail = false
  last : ∃ init last, tail = init ++ [last] ∧ ∀ e ∈ init, ¬FailsAt plan e

theorem WriteFailure.tailFacts {plan : MssqlTargetOutputPlan} {writer : MssqlBulkLoadWriter}
    {stream : List (Except DeltaFunnelError Batch)} {accepted failing : List Batch}
    {tail : List (SinkEvent Batch)} {phase : MssqlWritePhase}
    (h : WriteFailure plan writer stream accepted tail phase failing) :
    TailFacts plan stream accepted tail := by
  cases h with
  | poll hstream =>
    refine ⟨rfl, ?_, .inr ⟨rfl, rfl⟩, [], _, rfl, List.forall_mem_nil _⟩
    rw [hstream, okBatches_append_ok]
    show accepted ++ [] <+: _
    rw [List.append_nil]
    exact List.prefix_append _ _
  | schema hstream hinvalid =>
    refine ⟨rfl, ?_, .inr ⟨rfl, rfl⟩, [], _, rfl, List.forall_mem_nil _⟩
    rw [hstream, okBatches_append_ok]
    show accepted ++ [] <+: _
    rw [List.append_nil]
    exact List.prefix_append _ _
  | @write batch source rest hstream hvalid =>
    refine ⟨rfl, ?_, .inr ⟨rfl, rfl⟩, [⟨.nextBatch (some (.ok batch)), ()⟩], _, rfl, ?_⟩
    · rw [hstream, okBatches_append_ok]
      show accepted ++ [batch] <+: accepted ++ batch :: okBatches rest
      rw [List.prefix_append_right_inj]
      exact List.prefix_append [batch] _
    · intro e he
      rw [List.mem_singleton.1 he]
      exact not_not.2 hvalid
  | finalize hstream =>
    refine ⟨rfl, ?_, .inl ⟨rfl, rfl, hstream⟩, [⟨.nextBatch none, ()⟩], _, rfl, ?_⟩
    · rw [hstream, ← List.append_nil (accepted.map _), okBatches_append_ok]
      exact List.prefix_refl (accepted ++ [])
    · intro e he
      rw [List.mem_singleton.1 he]
      exact id

theorem WriteEnds.tailFacts {plan : MssqlTargetOutputPlan} {writer : MssqlBulkLoadWriter}
    {stream : List (Except DeltaFunnelError Batch)} {accepted : List Batch}
    {tail : List (SinkEvent Batch)} {result : Except DeltaFunnelError MssqlWriteReport}
    (h : WriteEnds plan writer stream accepted tail result) :
    TailFacts plan stream accepted tail := by
  cases h with
  | failed hcontext hfailure htotals => exact hfailure.tailFacts
  | completed hstream htotals =>
    refine ⟨rfl, ?_, .inl ⟨rfl, rfl, hstream⟩, [⟨.nextBatch none, ()⟩], _, rfl, ?_⟩
    · rw [hstream, ← List.append_nil (accepted.map _), okBatches_append_ok]
      exact List.prefix_refl (accepted ++ [])
    · intro e he
      rw [List.mem_singleton.1 he]
      exact id

/-- What a run of the write loop did and reports, for the batches its trace shows as accepted. -/
structure WriteAccounts (plan : MssqlTargetOutputPlan) (writer : MssqlBulkLoadWriter)
    (stream : List (Except DeltaFunnelError Batch)) (trace : List (SinkEvent Batch))
    (result : Except DeltaFunnelError MssqlWriteReport) : Prop where
  writes : attemptedBatches trace <+: okBatches stream
  stops : ∀ before e after, trace = before ++ e :: after → FailsAt plan e → after = []
  finish_le : finishCalls trace ≤ 1
  finish_iff : finishCalls trace = 1 ↔
    streamEnded trace = true ∧ stream = (acceptedBatches trace).map .ok
  completed : ∀ report, result = .ok report →
    stream = (acceptedBatches trace).map .ok ∧ CompletedTotals (acceptedBatches trace) report
  failed : ∀ error, result = .error error → ∃ context tail failing,
    failureContext error = some context ∧ tail <:+ trace ∧
      WriteFailure plan writer stream (acceptedBatches trace) tail context.phase failing ∧
      FailureTotals plan (acceptedBatches trace) failing context

/-- **The accounts of the write loop.** Whatever the stream, the verdicts and the replies of the
writer, the counters of the report or of the error are the totals of what was accepted and
taken, and the loop stops at its first failure. -/
theorem writeMssqlBatchesWithWriter_accounts {plan : MssqlTargetOutputPlan}
    {writer : MssqlBulkLoadWriter} {stream : List (Except DeltaFunnelError Batch)}
    {trace : List (SinkEvent Batch)} {result : Except DeltaFunnelError MssqlWriteReport}
    (hruns : Runs (writeMssqlBatchesWithWriter plan stream writer) trace result) :
    WriteAccounts plan writer stream trace result := by
  obtain ⟨accepted, tail, rfl, hall, hends⟩ := writeMssqlBatchesWithWriter_ends hruns
  have hfacts := hends.tailFacts
  have haccepted : acceptedBatches (acceptedEvents writer accepted ++ tail) = accepted := by
    rw [acceptedBatches_append, acceptedBatches_acceptedEvents, hfacts.accepts, List.append_nil]
  have hfinish : finishCalls (acceptedEvents writer accepted ++ tail) = finishCalls tail := by
    rw [finishCalls_append, finishCalls_acceptedEvents, Nat.zero_add]
  have hended : streamEnded (acceptedEvents writer accepted ++ tail) = streamEnded tail := by
    rw [streamEnded_append, streamEnded_acceptedEvents, Bool.false_or]
  constructor
  · rw [attemptedBatches_append, attemptedBatches_acceptedEvents]
    exact hfacts.attempts
  · intro before e after hsplit hfails
    -- the failing call is the last of the trace
    obtain ⟨init, last, rfl, hinit⟩ := hfacts.last
    rw [← List.append_assoc] at hsplit
    refine eq_nil_of_marked_last (P := FailsAt plan) ?_ hsplit hfails
    intro y hy
    rcases List.mem_append.1 hy with hy | hy
    · exact not_failsAt_acceptedEvents hall y hy
    · exact hinit y hy
  · rw [hfinish]
    rcases hfacts.finish with ⟨hone, -, -⟩ | ⟨hzero, -⟩ <;> omega
  · rw [hfinish, hended, haccepted]
    rcases hfacts.finish with ⟨hone, htrue, hstream⟩ | ⟨hzero, hfalse⟩
    · exact iff_of_true hone ⟨htrue, hstream⟩
    · rw [hzero, hfalse]
      exact iff_of_false (by omega) (fun h => Bool.false_ne_true h.1)
  · intro report hreport
    rw [haccepted]
    subst hreport
    cases hends with
    | completed hstream htotals => exact ⟨hstream, htotals⟩
  · intro error herror
    rw [haccepted]
    subst herror
    cases hends with
    | failed hcontext hfailure htotals =>
      exact ⟨_, tail, _, hcontext, List.suffix_append _ _, hfailure, htotals⟩

omit [ArrowSqlServer] in
/-- The writer takes a batch of two rows, and loses the connection on the next one. -/
theorem lost_connection_accounts :
    letI := acceptingDriver
    letI := countedBatch
    ∃ trace error, Runs (writeMssqlBatchesWithWriter ordersAppendPlan [.ok 2, .ok 3, .ok 4]
        ⟨ordersExisting.tableName⟩) trace (.error error) ∧
      acceptedBatches trace = [2] ∧ attemptedBatches trace = [2, 3] ∧
      WriteAccounts ordersAppendPlan ⟨ordersExisting.tableName⟩ [.ok 2, .ok 3, .ok 4] trace
        (.error error) := by
  let _ := acceptingDriver
  let _ := countedBatch
  have hruns : ∃ error, Runs (writeMssqlBatchesWithWriter ordersAppendPlan [.ok 2, .ok 3, .ok 4]
      ⟨ordersExisting.tableName⟩)
      [⟨.nextBatch (some (.ok 2)), ()⟩, ⟨.writeBatch ⟨ordersExisting.tableName⟩ 2, .ok ()⟩,
        ⟨.nextBatch (some (.ok 3)), ()⟩,
        ⟨.writeBatch ⟨ordersExisting.tableName⟩ 3, .error
          ⟨.targetRowCountQuery, "connection lost", none, "write", "connection", []⟩⟩]
      (.error error) := ⟨_, .call (.call (.call (.call (.refl _))))⟩
  obtain ⟨error, hfailed⟩ := hruns
  exact ⟨_, error, hfailed, rfl, rfl, writeMssqlBatchesWithWriter_accounts hfailed⟩

end DeltaFunnel
