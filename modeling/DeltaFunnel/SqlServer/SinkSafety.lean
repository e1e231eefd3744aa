import DeltaFunnel.SqlServer.SinkTrace

/-! Publish safety and cleanup discipline of the one-output sink, over every sequence of
connection results. -/

namespace DeltaFunnel
open Interaction Program

section Safety
variable [ArrowSqlServer] {Batch : Type} [RecordBatch Batch]

/-- The stages after a successful preparation, without the cleanup of their failures. -/
def runPreparedOutput (plan : MssqlTargetOutputPlan) (target : MssqlPreparedTarget)
    (batches : List (Except DeltaFunnelError Batch)) (options : MssqlWriteBackend)
    (validationOptions : ValidationOptions) (phaseTimings : List PhaseTimingReport) :
    Program (SinkSig Batch) (Except DeltaFunnelError MssqlWriteReport) := do
  let prepareFailed := phaseTimings ++ [.failed "prepare_target_lifecycle"]
  let prepared := phaseTimings ++ [.completed "prepare_target_lifecycle"]
  match ← enableReplaceTableLock plan target with
  | .error error => return .error (errorWithPhaseTimings error prepareFailed)
  | .ok locked =>
    match ← targetRowCountBeforeAppendWrite plan target validationOptions with
    | .error error => return .error (errorWithPhaseTimings error prepared)
    | .ok rowsBefore =>
      match ← writePreparedBatches plan target batches options with
      | .error error => return .error (errorWithPhaseTimings error prepared)
      | .ok report =>
        match ← validateWrittenTarget plan target
            ((report.withCleanup target.report.cleanup).withPhaseTimings prepared)
            validationOptions rowsBefore with
        | .error error => return .error error
        | .ok report => swapReplaceTargetAfterValidation plan target report locked

def cleanupOnError (plan : MssqlTargetOutputPlan) (target : MssqlPreparedTarget) :
    Except DeltaFunnelError MssqlWriteReport →
      Program (SinkSig Batch) (Except DeltaFunnelError MssqlWriteReport)
  | .ok report => return .ok report
  | .error error => failAfterPreparation plan target error

theorem runMssqlOutputBatchesOnConnection_eq (plan : MssqlTargetOutputPlan)
    (batches : List (Except DeltaFunnelError Batch)) (options : MssqlWriteBackend)
    (validationOptions : ValidationOptions) (phaseTimings : List PhaseTimingReport) :
    runMssqlOutputBatchesOnConnection plan batches options validationOptions phaseTimings =
      (do
        match ← sinkCall (.prepareTargetLifecycle plan) with
        | .error error =>
          return .error (errorWithPhaseTimings error
            (phaseTimings ++ [.failed "prepare_target_lifecycle"]))
        | .ok target =>
          let result ← runPreparedOutput plan target batches options validationOptions phaseTimings
          cleanupOnError plan target result) := by
  unfold runMssqlOutputBatchesOnConnection
  refine bind_congr fun prepared => ?_
  -- every early return is the result that the cleanup is handed
  rcases prepared with error | target
  · rfl
  · dsimp only [runPreparedOutput]
    rw [bind_bind]
    refine bind_congr fun locked => ?_
    rcases locked with error | locked
    · rfl
    · dsimp only
      rw [bind_bind]
      refine bind_congr fun rowsBefore => ?_
      rcases rowsBefore with error | rowsBefore
      · rfl
      · dsimp only
        rw [bind_bind]
        refine bind_congr fun written => ?_
        rcases written with error | report
        · rfl
        · dsimp only [publishWrittenTarget]
          rw [bind_bind]
          refine bind_congr fun validated => ?_
          rcases validated with error | report
          · rfl
          · refine bind_congr fun swapped => ?_
            rcases swapped with error | report <;> rfl

theorem runMssqlOutputBatchesOnConnection_runs {plan : MssqlTargetOutputPlan}
    {stream : List (Except DeltaFunnelError Batch)} {options : MssqlWriteBackend}
    {validationOptions : ValidationOptions} {phaseTimings : List PhaseTimingReport}
    {trace : List (SinkEvent Batch)} {result : Except DeltaFunnelError MssqlWriteReport}
    (h : Runs (runMssqlOutputBatchesOnConnection plan stream options validationOptions
      phaseTimings) trace result) :
    (∃ error failed, trace = [⟨.prepareTargetLifecycle plan, .error error⟩] ∧
      result = .error failed) ∨
    ∃ target middle body,
      Runs (runPreparedOutput plan target stream options validationOptions phaseTimings) middle
        body ∧
      ((∃ report, body = .ok report ∧ result = .ok report ∧
          trace = ⟨.prepareTargetLifecycle plan, .ok target⟩ :: middle) ∨
        ∃ error failed reply, body = .error error ∧ result = .error failed ∧
          trace = ⟨.prepareTargetLifecycle plan, .ok target⟩ :: middle ++
            [⟨.cleanupPreparedTarget plan (some target), reply⟩]) := by
  rw [runMssqlOutputBatchesOnConnection_eq] at h
  obtain ⟨reply, rest, rfl, hrest⟩ := runs_sinkCall.1 h
  rcases reply with error | target
  · obtain ⟨rfl, rfl⟩ := runs_ret.1 hrest
    exact .inl ⟨error, _, rfl, rfl⟩
  · obtain ⟨middle, body, tail, rfl, hbody, htail⟩ := runs_bind.1 hrest
    refine .inr ⟨target, middle, body, hbody, ?_⟩
    rcases body with error | report
    · obtain ⟨reply, failed, rfl, rfl⟩ := failAfterPreparation_runs htail
      exact .inr ⟨error, failed, reply, rfl, rfl, rfl⟩
    · obtain ⟨rfl, rfl⟩ := runs_ret.1 htail
      exact .inl ⟨report, rfl, rfl, by simp⟩

/-- What a replace run does between preparing the staging table and swapping it in: every batch
written and finalized, the staging rows counted, the bulk-load lock released if it was taken. -/
def publishTrace (plan : MssqlTargetOutputPlan) (target : MssqlPreparedTarget)
    (options : MssqlWriteBackend) (writer : MssqlBulkLoadWriter) (batches : List Batch)
    (locked : Bool) : List (SinkEvent Batch) :=
  ⟨.enableBulkLoadTableLock plan target, .ok locked⟩ ::
    writtenTrace plan target options writer batches ++
    [⟨.targetRowCount plan target, .ok (saturatingRowSum batches)⟩] ++
    unlockTrace plan target locked

theorem runPreparedOutput_runs {plan : MssqlTargetOutputPlan} {target : MssqlPreparedTarget}
    {stream : List (Except DeltaFunnelError Batch)} {options : MssqlWriteBackend}
    {validationOptions : ValidationOptions} {phaseTimings : List PhaseTimingReport}
    {trace : List (SinkEvent Batch)} {result : Except DeltaFunnelError MssqlWriteReport}
    (h : Runs (runPreparedOutput plan target stream options validationOptions phaseTimings) trace
      result) :
    (KeepsTables trace ∧ (plan.loadMode = .replace → ∃ error, result = .error error)) ∨
      ∃ writer batches locked reply, plan.loadMode = .replace ∧
        validationOptions.targetValidationMode ≠ .disabled ∧ stream = batches.map .ok ∧
        (∀ batch ∈ batches, SchemaValid plan batch) ∧
        trace = publishTrace plan target options writer batches locked ++
          [⟨.swapPreparedReplaceTarget plan target, reply⟩] ∧
        ((∃ error failed, reply = .error error ∧ result = .error failed) ∨
          reply = .ok () ∧ ∃ report, result = .ok report ∧ report.validationStatus = .passed) := by
  obtain ⟨lockTrace, lockResult, afterLock, rfl, hlock, h⟩ := runs_bind.1 h
  obtain ⟨hlockKeeps, hlockTrace⟩ := enableReplaceTableLock_runs hlock
  rcases lockResult with error | locked
  · obtain ⟨rfl, rfl⟩ := runs_ret.1 h
    exact .inl ⟨by simpa using hlockKeeps, fun _ => ⟨_, rfl⟩⟩
  obtain ⟨countTrace, countResult, afterCount, rfl, hcount, h⟩ := runs_bind.1 h
  obtain ⟨hcountKeeps, hcountTrace⟩ := targetRowCountBeforeAppendWrite_runs hcount
  rcases countResult with error | rowsBefore
  · obtain ⟨rfl, rfl⟩ := runs_ret.1 h
    exact .inl ⟨by simp [hlockKeeps, hcountKeeps], fun _ => ⟨_, rfl⟩⟩
  obtain ⟨writeTrace, writeResult, afterWrite, rfl, hwrite, h⟩ := runs_bind.1 h
  obtain ⟨hwriteKeeps, hwritten⟩ := writePreparedBatches_runs hwrite
  rcases writeResult with error | report
  · obtain ⟨rfl, rfl⟩ := runs_ret.1 h
    exact .inl ⟨by simp [hlockKeeps, hcountKeeps, hwriteKeeps], fun _ => ⟨_, rfl⟩⟩
  obtain ⟨validateTrace, validateResult, afterValidate, rfl, hvalidate, h⟩ := runs_bind.1 h
  obtain ⟨hvalidateKeeps, hvalidated⟩ := validateWrittenTarget_runs hvalidate
  rcases validateResult with error | validated
  · obtain ⟨rfl, rfl⟩ := runs_ret.1 h
    exact .inl ⟨by simp [hlockKeeps, hcountKeeps, hwriteKeeps, hvalidateKeeps],
      fun _ => ⟨_, rfl⟩⟩
  rcases swapReplaceTargetAfterValidation_runs h with ⟨hkeeps, herror⟩ | ⟨reply, hmode, rfl, hreply⟩
  · exact .inl ⟨by simp [hlockKeeps, hcountKeeps, hwriteKeeps, hvalidateKeeps, hkeeps], herror⟩
  -- The swap was reached, so every stage before it has its replace trace.
  obtain ⟨writer, batches, rfl, hall, rfl, hrows⟩ := hwritten report rfl
  obtain ⟨henabled, hpassed, rows, hexact, rfl⟩ := hvalidated hmode validated rfl
  have hsum : rows = saturatingRowSum batches := by
    have hcopied : (some rows : Option ℕ) = some (saturatingRowSum batches) := by
      rw [← hexact, MssqlWriteReport.withPhaseTimings_outputRowCount,
        MssqlWriteReport.withCleanup_outputRowCount, hrows, RowCount.exactValue_exact]
    exact Option.some.inj hcopied
  refine .inr ⟨writer, batches, locked, reply, hmode, henabled, rfl, hall, ?_, ?_⟩
  · rw [hlockTrace hmode, hcountTrace hmode, hsum]
    simp [publishTrace]
  · rcases hreply with hfailed | ⟨hok, hresult⟩
    · exact .inl hfailed
    · exact .inr ⟨hok, _, hresult, hpassed⟩

theorem publishTrace_keepsTables (plan : MssqlTargetOutputPlan) (target : MssqlPreparedTarget)
    (options : MssqlWriteBackend) (writer : MssqlBulkLoadWriter) (batches : List Batch)
    (locked : Bool) : KeepsTables (publishTrace plan target options writer batches locked) := by
  have haccepted : ∀ accepted : List Batch, KeepsTables (acceptedTrace writer accepted) := by
    intro accepted
    induction accepted with
    | nil => simp [acceptedTrace, SinkOp.keepsTables]
    | cons batch rest ih => simp [acceptedTrace, SinkOp.keepsTables, ih]
  cases locked <;>
    simp [publishTrace, writtenTrace, unlockTrace, SinkOp.keepsTables, haccepted]

inductive SwapPoint (plan : MssqlTargetOutputPlan) (stream : List (Except DeltaFunnelError Batch))
    (options : MssqlWriteBackend) (validationOptions : ValidationOptions)
    (trace : List (SinkEvent Batch)) (result : Except DeltaFunnelError MssqlWriteReport) : Prop
  | never (error : DeltaFunnelError) (hresult : result = .error error)
      (htrace : ∀ e ∈ trace, ¬SinkOp.isSwap e.op)
  | once (target : MssqlPreparedTarget) (writer : MssqlBulkLoadWriter) (batches : List Batch)
      (locked : Bool) (reply : Except DeltaFunnelError Unit) (tail : List (SinkEvent Batch))
      (henabled : validationOptions.targetValidationMode ≠ .disabled)
      (hstream : stream = batches.map .ok) (hvalid : ∀ batch ∈ batches, SchemaValid plan batch)
      (htrace : trace = (⟨.prepareTargetLifecycle plan, .ok target⟩ ::
        publishTrace plan target options writer batches locked) ++
          ⟨.swapPreparedReplaceTarget plan target, reply⟩ :: tail)
      (htail : ∀ e ∈ tail, ¬SinkOp.isSwap e.op)
      (hresult : (∃ error failed, reply = .error error ∧ result = .error failed) ∨
        reply = .ok () ∧ ∃ report, result = .ok report ∧ report.validationStatus = .passed)

theorem swapPoint_of_runs {plan : MssqlTargetOutputPlan}
    {stream : List (Except DeltaFunnelError Batch)} {options : MssqlWriteBackend}
    {validationOptions : ValidationOptions} {phaseTimings : List PhaseTimingReport}
    {trace : List (SinkEvent Batch)} {result : Except DeltaFunnelError MssqlWriteReport}
    (hmode : plan.loadMode = .replace)
    (h : Runs (runMssqlOutputBatchesOnConnection plan stream options validationOptions
      phaseTimings) trace result) :
    SwapPoint plan stream options validationOptions trace result := by
  rcases runMssqlOutputBatchesOnConnection_runs h with
    ⟨error, failed, rfl, rfl⟩ | ⟨target, middle, body, hbody, hend⟩
  · exact .never failed rfl (by simp [SinkOp.isSwap])
  rcases runPreparedOutput_runs hbody with
    ⟨hkeeps, herror⟩ | ⟨writer, batches, locked, reply, -, henabled, hstream, hvalid, rfl, hreply⟩
  · obtain ⟨error, rfl⟩ := herror hmode
    rcases hend with ⟨report, ⟨⟩, -⟩ | ⟨error, failed, reply, -, rfl, rfl⟩
    refine .never failed rfl ?_
    have hmiddle := hkeeps.not_isSwap
    simpa [or_imp, forall_and, SinkOp.isSwap] using hmiddle
  · rcases hend with ⟨report, rfl, rfl, rfl⟩ | ⟨error, failed, cleanupReply, rfl, rfl, rfl⟩
    · refine .once target writer batches locked reply [] henabled hstream hvalid (by simp) (by simp) ?_
      simpa using hreply
    · refine .once target writer batches locked reply
        [⟨.cleanupPreparedTarget plan (some target), cleanupReply⟩] henabled hstream hvalid
        (by simp) (by simp [SinkOp.isSwap]) ?_
      rcases hreply with ⟨swapError, -, hreply, -⟩ | ⟨-, report, ⟨⟩, -⟩
      exact .inl ⟨swapError, failed, hreply, rfl⟩

/-- **Replace publish safety.** Over every stream and every sequence of connection results, a
replace run swaps at most once, only right after the exact publish trace of the whole stream,
and it succeeds if and only if that swap did. -/
theorem replace_publishes_only_validated_output {plan : MssqlTargetOutputPlan}
    {stream : List (Except DeltaFunnelError Batch)} {options : MssqlWriteBackend}
    {validationOptions : ValidationOptions} {phaseTimings : List PhaseTimingReport}
    {trace : List (SinkEvent Batch)} {result : Except DeltaFunnelError MssqlWriteReport}
    (hmode : plan.loadMode = .replace)
    (h : Runs (runMssqlOutputBatchesOnConnection plan stream options validationOptions
      phaseTimings) trace result) :
    trace.countP (fun e => SinkOp.isSwap e.op) ≤ 1 ∧
    (∀ before swapPlan target reply after,
      trace = before ++ ⟨.swapPreparedReplaceTarget swapPlan target, reply⟩ :: after →
      swapPlan = plan ∧ validationOptions.targetValidationMode ≠ .disabled ∧
      ∃ writer batches locked, stream = batches.map .ok ∧
        (∀ batch ∈ batches, SchemaValid plan batch) ∧
        before = ⟨.prepareTargetLifecycle plan, .ok target⟩ ::
          publishTrace plan target options writer batches locked) ∧
    ((∃ report, result = .ok report) ↔
      ∃ target, ⟨.swapPreparedReplaceTarget plan target, .ok ()⟩ ∈ trace) ∧
    ∀ report, result = .ok report →
      validationOptions.targetValidationMode ≠ .disabled ∧ report.validationStatus = .passed := by
  -- the run either never swaps and fails, or has one swap behind the publish trace
  rcases swapPoint_of_runs hmode h with
    ⟨error, rfl, hnone⟩ | ⟨target, writer, batches, locked, reply, tail, henabled, hstream, hvalid, rfl,
      htail, hresult⟩
  · have hcount : trace.countP (fun e => SinkOp.isSwap e.op) = 0 := by
      simpa [List.countP_eq_zero] using hnone
    refine ⟨by omega, ?_, ⟨?_, ?_⟩, ?_⟩
    · rintro before swapPlan target reply after rfl
      exact absurd rfl (hnone ⟨.swapPreparedReplaceTarget swapPlan target, reply⟩ (by simp))
    · rintro ⟨report, ⟨⟩⟩
    · rintro ⟨target, hmem⟩
      exact absurd rfl (hnone _ hmem)
    · rintro report ⟨⟩
  -- the swap is the only one: neither what precedes it nor what follows is a swap
  · have hbefore : ∀ e ∈ (⟨.prepareTargetLifecycle plan, .ok target⟩ ::
        publishTrace plan target options writer batches locked : List (SinkEvent Batch)),
        ¬SinkOp.isSwap e.op := by
      have hpublish := (publishTrace_keepsTables plan target options writer batches locked).not_isSwap
      simpa [SinkOp.isSwap] using hpublish
    refine ⟨?_, ?_, ?_, ?_⟩
    · have hzero : (⟨.prepareTargetLifecycle plan, .ok target⟩ ::
          publishTrace plan target options writer batches locked : List (SinkEvent Batch)).countP
          (fun e => SinkOp.isSwap e.op) = 0 := by
        simpa only [List.countP_eq_zero] using hbefore
      have htailZero : tail.countP (fun e => SinkOp.isSwap e.op) = 0 := by
        simpa only [List.countP_eq_zero] using htail
      rw [List.countP_append, hzero, List.countP_cons, htailZero]
      split <;> omega
    · intro before swapPlan target' reply' after heq
      obtain ⟨rfl, hswap, -⟩ := split_unique hbefore htail (by rfl) heq
      cases hswap
      exact ⟨rfl, henabled, writer, batches, locked, hstream, hvalid, rfl⟩
    · constructor
      · rintro ⟨report, rfl⟩
        rcases hresult with ⟨error, failed, -, ⟨⟩⟩ | ⟨rfl, -⟩
        exact ⟨target, by simp⟩
      · rintro ⟨target', hmem⟩
        obtain ⟨before, after, heq⟩ := List.append_of_mem hmem
        obtain ⟨-, hswap, -⟩ := split_unique hbefore htail (by rfl) heq
        cases hswap
        rcases hresult with ⟨error, failed, ⟨⟩, -⟩ | ⟨-, report, hreport, -⟩
        exact ⟨report, hreport⟩
    · rintro report rfl
      rcases hresult with ⟨error, failed, -, ⟨⟩⟩ | ⟨-, report', heq, hpassed⟩
      cases heq
      exact ⟨henabled, hpassed⟩

end Safety

/-- Batches that are only their number of rows, all of a valid schema. -/
@[reducible] def countedBatch : RecordBatch ℕ := ⟨id, fun _ _ => .ok ()⟩

def ordersStaging : MssqlPreparedTarget :=
  ⟨⟨some "dbo", "orders__df_replace_0"⟩,
    ⟨"orders_output", ⟨some "dbo", "orders"⟩, .replace, .contextDefault,
      ⟨some "warehouse-primary"⟩, .existsOrAbsent, .createdStagingTable, .notAttempted⟩⟩

/-- Two batches of 2 and 3 rows, counted as 5, published under the bulk-load lock. -/
theorem replace_publishes_orders :
    letI := acceptingDriver
    letI := countedBatch
    ∃ trace result, Runs (runMssqlOutputBatchesOnConnection ordersReplacePlan
        [.ok 2, .ok 3] .directRawBulk {} []) trace result ∧
      ∃ report, result = .ok report ∧ report.validationStatus = .passed := by
  let _ := acceptingDriver
  let _ := countedBatch
  have hruns : ∃ report, Runs (runMssqlOutputBatchesOnConnection ordersReplacePlan
      [.ok 2, .ok 3] .directRawBulk {} [])
      (⟨.prepareTargetLifecycle ordersReplacePlan, .ok ordersStaging⟩ ::
        publishTrace ordersReplacePlan ordersStaging .directRawBulk ⟨ordersStaging.tableName⟩
          [2, 3] true ++
        [⟨.swapPreparedReplaceTarget ordersReplacePlan ordersStaging, .ok ()⟩]) (.ok report) :=
    ⟨_, .call (.call (.call (.call (.call (.call (.call (.call (.call (.call (.call (.call
      (.refl _))))))))))))⟩
  obtain ⟨report, hreport⟩ := hruns
  exact ⟨_, _, hreport, report, rfl,
    ((replace_publishes_only_validated_output rfl hreport).2.2.2 report rfl).2⟩

end DeltaFunnel
