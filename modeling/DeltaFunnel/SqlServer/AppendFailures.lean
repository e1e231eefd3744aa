import DeltaFunnel.SqlServer.SinkSafety
import DeltaFunnel.SqlServer.Workflow

/-! What the failure of an append says about the rows its writer had accepted. -/

namespace DeltaFunnel
open Interaction Program

/-- The flag and the row counter that an error carries. -/
def reportedRows (error : DeltaFunnelError) : Option (Bool × ℕ) :=
  (failureContext error).map fun context =>
    (context.report.partialWritePossible, context.report.stats.rowsWritten)

@[simp] theorem reportedRows_errorWithPhaseTimings (error : DeltaFunnelError)
    (timings : List PhaseTimingReport) :
    reportedRows (errorWithPhaseTimings error timings) = reportedRows error := by
  cases error <;> rfl

@[simp] theorem reportedRows_errorWithAppendedPhaseTimings (error : DeltaFunnelError)
    (timings : List PhaseTimingReport) :
    reportedRows (errorWithAppendedPhaseTimings error timings) = reportedRows error := by
  cases error <;> rfl

theorem rowSum_append {Batch : Type} [RecordBatch Batch] (first second : List Batch) :
    rowSum (first ++ second) = rowSum first + rowSum second := by
  induction first with
  | nil => simp [rowSum]
  | cons batch first ih => simp [rowSum, ih, Nat.add_assoc]

section Failures
variable [ArrowSqlServer] {Batch : Type}

def acceptedBatches (trace : List (SinkEvent Batch)) : List Batch :=
  trace.filterMap fun
    | ⟨.writeBatch _ batch, .ok ()⟩ => some batch
    | _ => none

/-- The answers to the row counts of the target, in order. -/
def rowCounts (trace : List (SinkEvent Batch)) : List (Except MssqlTargetRowCountFailure ℕ) :=
  trace.filterMap fun
    | ⟨.targetRowCount _ _, reply⟩ => some reply
    | _ => none

def finishes (trace : List (SinkEvent Batch)) : Bool :=
  trace.any fun
    | ⟨.finish _, .ok ()⟩ => true
    | _ => false

/-- The row counts before and after a write that appended `outputRows` are held against it. -/
def RowCountsDisagree (mode : TargetValidationMode) (outputRows : ℕ) :
    List (Except MssqlTargetRowCountFailure ℕ) → Prop
  | [.ok _, .error _] => mode = .require
  | [.ok before, .ok after] => ¬(before ≤ after ∧ after - before = outputRows)
  | _ => False

section Append
variable {first second : List (SinkEvent Batch)}

@[simp] theorem acceptedBatches_append :
    acceptedBatches (first ++ second) = acceptedBatches first ++ acceptedBatches second :=
  List.filterMap_append

@[simp] theorem rowCounts_append :
    rowCounts (first ++ second) = rowCounts first ++ rowCounts second :=
  List.filterMap_append

@[simp] theorem finishes_append :
    finishes (first ++ second) = (finishes first || finishes second) :=
  List.any_append

end Append

@[simp] theorem reportedRows_errorWithCleanup (plan : MssqlTargetOutputPlan)
    (error : DeltaFunnelError) (cleanup : MssqlTargetCleanupStatus) :
    reportedRows (errorWithCleanup plan error cleanup) = reportedRows error := by
  cases error <;> rfl

@[simp] theorem reportedRows_errorWithCleanupFailure (plan : MssqlTargetOutputPlan)
    (error cleanupError : DeltaFunnelError) :
    reportedRows (errorWithCleanupFailure plan error cleanupError) = reportedRows error := by
  cases error <;> rfl

theorem failAfterPreparation_reportedRows {α : Type} {plan : MssqlTargetOutputPlan}
    {target : MssqlPreparedTarget} {error : DeltaFunnelError} {trace : List (SinkEvent Batch)}
    {result : Except DeltaFunnelError α}
    (hruns : Runs (failAfterPreparation plan target error) trace result) :
    acceptedBatches trace = [] ∧ rowCounts trace = [] ∧ finishes trace = false ∧
      ∃ failed, result = .error failed ∧ reportedRows failed = reportedRows error := by
  obtain ⟨first, failed, second, rfl, hcleanup, hrest⟩ := runs_bind.1 hruns
  obtain ⟨rfl, rfl⟩ := runs_ret.1 hrest
  obtain ⟨reply, rest, rfl, hreply⟩ := runs_sinkCall.1 hcleanup
  rcases reply with cleanupError | cleanup
  · obtain ⟨rfl, rfl⟩ := runs_ret.1 hreply
    exact ⟨rfl, rfl, rfl, _, rfl, by simp⟩
  · obtain ⟨rfl, rfl⟩ := runs_ret.1 hreply
    exact ⟨rfl, rfl, rfl, _, rfl, by simp⟩

section Loop
variable [RecordBatch Batch]

/-- The counters of the loop after the given batches were accepted. -/
structure CountsAccepted (state : WriteLoopState) (accepted : List Batch) : Prop where
  rows : state.rowsWritten = saturatingRowSum accepted
  batches : state.batchesWritten = min accepted.length u64Max

omit [ArrowSqlServer] in
theorem CountsAccepted.start : CountsAccepted .start ([] : List Batch) where
  rows := (Nat.zero_min u64Max).symm
  batches := (Nat.zero_min u64Max).symm

omit [ArrowSqlServer] in
theorem CountsAccepted.countWritten {state : WriteLoopState} {accepted : List Batch}
    (hcounts : CountsAccepted state accepted) (batch : Batch) :
    CountsAccepted (state.countWritten (batchRowCount batch)) (accepted ++ [batch]) where
  rows := by
    show saturatingAdd state.rowsWritten (min (RecordBatch.numRows batch) u64Max) =
      min (rowSum (accepted ++ [batch])) u64Max
    rw [hcounts.rows, saturatingRowSum, saturatingAdd_min, rowSum_append]
    rfl
  batches := by
    show saturatingAdd state.batchesWritten 1 = min (accepted ++ [batch]).length u64Max
    have hone : (1 : ℕ) = min 1 u64Max := by decide
    rw [hcounts.batches, hone, saturatingAdd_min, List.length_append]
    rfl

theorem CountsAccepted.partialWritePossible {plan : MssqlTargetOutputPlan}
    (hmode : plan.loadMode = .appendExisting) {state : WriteLoopState} {accepted : List Batch}
    (hcounts : CountsAccepted state accepted) :
    DeltaFunnel.partialWritePossible plan state.rowsWritten state.batchesWritten =
      decide (accepted ≠ []) := by
  unfold DeltaFunnel.partialWritePossible
  rw [hcounts.rows, hcounts.batches]
  cases accepted with
  | nil => simp [saturatingRowSum, rowSum]
  | cons batch accepted =>
    have hpos : 0 < min (accepted.length + 1) u64Max :=
      Nat.lt_min.2 ⟨Nat.succ_pos _, by decide⟩
    simp [hmode, hpos]

theorem CountsAccepted.reported {plan : MssqlTargetOutputPlan}
    (hmode : plan.loadMode = .appendExisting) {state : WriteLoopState} {accepted : List Batch}
    (hcounts : CountsAccepted state accepted) {error : DeltaFunnelError}
    (herror : reportedRows error = some (DeltaFunnel.partialWritePossible plan state.rowsWritten
      state.batchesWritten, state.rowsWritten)) :
    reportedRows error = some (decide (accepted ≠ []), saturatingRowSum accepted) := by
  rw [herror, hcounts.partialWritePossible hmode, hcounts.rows]

theorem writeLoop_reportedRows {plan : MssqlTargetOutputPlan}
    (hmode : plan.loadMode = .appendExisting) {writer : MssqlBulkLoadWriter}
    {state : WriteLoopState} {stream : List (Except DeltaFunnelError Batch)}
    {trace : List (SinkEvent Batch)} {result : Except DeltaFunnelError WriteLoopState}
    {accepted : List Batch} (hcounts : CountsAccepted state accepted)
    (hruns : Runs (writeLoop plan writer state stream) trace result) :
    rowCounts trace = [] ∧ finishes trace = false ∧
      (∀ final, result = .ok final → CountsAccepted final (accepted ++ acceptedBatches trace)) ∧
      ∀ error, result = .error error → reportedRows error =
        some (decide (accepted ++ acceptedBatches trace ≠ []),
          saturatingRowSum (accepted ++ acceptedBatches trace)) := by
  induction stream generalizing state trace accepted with
  | nil =>
    obtain ⟨_, rest, rfl, hrest⟩ := runs_call.1 hruns
    obtain ⟨rfl, rfl⟩ := runs_ret.1 hrest
    refine ⟨rfl, rfl, ?_, nofun⟩
    rintro final ⟨⟩
    simpa [acceptedBatches] using hcounts
  | cons item stream ih =>
    cases item with
    | error source =>
      obtain ⟨_, rest, rfl, hrest⟩ := runs_call.1 hruns
      obtain ⟨rfl, rfl⟩ := runs_ret.1 hrest
      refine ⟨rfl, rfl, nofun, ?_⟩
      rintro error ⟨⟩
      simp only [acceptedBatches, List.filterMap_cons_none, List.filterMap_nil, List.append_nil]
      exact hcounts.reported hmode rfl
    | ok batch =>
      obtain ⟨_, rest, rfl, hrest⟩ := runs_call.1 hruns
      -- Counting the input and the attempts leaves the counters of accepted batches alone.
      have hattempted : CountsAccepted { state.countInput (batchRowCount batch) with
          validationAttempted := true, writeAttempted := true } accepted :=
        ⟨hcounts.rows, hcounts.batches⟩
      rcases hvalid : RecordBatch.validateSchemaAgainstMappings batch plan.schemaMappings with
        source | ⟨⟩
      · simp only [hvalid] at hrest
        obtain ⟨rfl, rfl⟩ := runs_ret.1 hrest
        refine ⟨rfl, rfl, nofun, ?_⟩
        rintro error ⟨⟩
        simp only [acceptedBatches, List.filterMap_cons_none, List.filterMap_nil, List.append_nil]
        exact hcounts.reported hmode rfl
      · simp only [hvalid] at hrest
        obtain ⟨reply, tail, rfl, htail⟩ := runs_call.1 hrest
        cases reply with
        | error source =>
          obtain ⟨rfl, rfl⟩ := runs_ret.1 htail
          refine ⟨rfl, rfl, nofun, ?_⟩
          rintro error ⟨⟩
          simp only [acceptedBatches, List.filterMap_cons_none, List.filterMap_nil, List.append_nil]
          exact hcounts.reported hmode rfl
        | ok _ =>
          obtain ⟨hrows, hfinishes, hok, herror⟩ := ih (hattempted.countWritten batch) htail
          have haccepted : accepted ++ acceptedBatches (⟨.nextBatch (some (.ok batch)), ()⟩ ::
              ⟨.writeBatch writer batch, .ok ()⟩ :: tail) =
              (accepted ++ [batch]) ++ acceptedBatches tail := by
            simp [acceptedBatches]
          refine ⟨hrows, hfinishes, ?_, ?_⟩
          · intro final hfinal
            rw [haccepted]
            exact hok final hfinal
          · intro error hfailed
            rw [haccepted]
            exact herror error hfailed

theorem writeMssqlBatchesWithWriter_reportedRows {plan : MssqlTargetOutputPlan}
    (hmode : plan.loadMode = .appendExisting) {writer : MssqlBulkLoadWriter}
    {stream : List (Except DeltaFunnelError Batch)} {trace : List (SinkEvent Batch)}
    {result : Except DeltaFunnelError MssqlWriteReport}
    (hruns : Runs (writeMssqlBatchesWithWriter plan stream writer) trace result) :
    rowCounts trace = [] ∧
      (∀ error, result = .error error → finishes trace = false ∧ reportedRows error =
        some (decide (acceptedBatches trace ≠ []), saturatingRowSum (acceptedBatches trace))) ∧
      ∀ report, result = .ok report → finishes trace = true ∧
        report.partialWritePossible = false := by
  obtain ⟨loopTrace, looped, rest, rfl, hloop, hfinish⟩ := runs_bind.1 hruns
  obtain ⟨hrows, hfinishes, hok, hfailed⟩ := writeLoop_reportedRows hmode .start hloop
  rw [List.nil_append] at hok hfailed
  cases looped with
  | error error =>
    obtain ⟨rfl, rfl⟩ := runs_ret.1 hfinish
    rw [List.append_nil]
    refine ⟨hrows, ?_, fun report hreport => by cases hreport⟩
    rintro _ ⟨⟩
    exact ⟨hfinishes, hfailed error rfl⟩
  | ok state =>
    obtain ⟨reply, tail, rfl, htail⟩ := runs_sinkCall.1 hfinish
    have hcounts := hok state rfl
    have haccepted : ∀ reply, acceptedBatches (loopTrace ++ [⟨.finish writer, reply⟩]) =
        acceptedBatches loopTrace := by
      intro reply
      rw [acceptedBatches_append]
      exact List.append_nil _
    have hcounted : ∀ reply, rowCounts (loopTrace ++ [⟨.finish writer, reply⟩]) = [] := by
      intro reply
      rw [rowCounts_append, hrows]
      rfl
    cases reply with
    | error source =>
      obtain ⟨rfl, rfl⟩ := runs_ret.1 htail
      refine ⟨hcounted _, ?_, fun report hreport => by cases hreport⟩
      rintro _ ⟨⟩
      rw [finishes_append, hfinishes, haccepted]
      exact ⟨rfl, hcounts.reported hmode rfl⟩
    | ok _ =>
      obtain ⟨rfl, rfl⟩ := runs_ret.1 htail
      refine ⟨hcounted _, (fun error herror => by cases herror), ?_⟩
      rintro _ ⟨⟩
      rw [finishes_append]
      exact ⟨Bool.or_true _, rfl⟩

theorem writePreparedBatches_reportedRows {plan : MssqlTargetOutputPlan}
    (hmode : plan.loadMode = .appendExisting) {target : MssqlPreparedTarget}
    {stream : List (Except DeltaFunnelError Batch)} {options : MssqlWriteBackend}
    {trace : List (SinkEvent Batch)} {result : Except DeltaFunnelError MssqlWriteReport}
    (hruns : Runs (writePreparedBatches plan target stream options) trace result) :
    rowCounts trace = [] ∧
      (∀ error, result = .error error → finishes trace = false ∧ (acceptedBatches trace ≠ [] →
        reportedRows error = some (true, saturatingRowSum (acceptedBatches trace)))) ∧
      ∀ report, result = .ok report → finishes trace = true ∧
        report.partialWritePossible = false := by
  obtain ⟨reply, rest, rfl, hrest⟩ := runs_sinkCall.1 hruns
  cases reply with
  | error error =>
    obtain ⟨rfl, rfl⟩ := runs_ret.1 hrest
    refine ⟨rfl, ?_, fun report hreport => by cases hreport⟩
    intro error herror
    exact ⟨rfl, fun haccepted => absurd rfl haccepted⟩
  | ok writer =>
    obtain ⟨first, written, second, rfl, hwrite, htail⟩ := runs_bind.1 hrest
    obtain ⟨hrows, hfailed, hok⟩ := writeMssqlBatchesWithWriter_reportedRows hmode hwrite
    cases written with
    | error error =>
      obtain ⟨rfl, rfl⟩ := runs_ret.1 htail
      rw [List.append_nil]
      refine ⟨hrows, ?_, fun report hreport => by cases hreport⟩
      rintro _ ⟨⟩
      obtain ⟨hfinishes, hreported⟩ := hfailed error rfl
      refine ⟨hfinishes, fun haccepted => ?_⟩
      rw [reportedRows_errorWithPhaseTimings, hreported]
      exact congrArg (fun flag => some (flag, _)) (decide_eq_true haccepted)
    | ok report =>
      obtain ⟨rfl, rfl⟩ := runs_ret.1 htail
      rw [List.append_nil]
      refine ⟨hrows, (fun error herror => by cases herror), ?_⟩
      rintro _ ⟨⟩
      exact hok report rfl

omit [RecordBatch Batch] in
theorem acceptedBatches_acceptedTrace (writer : MssqlBulkLoadWriter) (batches : List Batch) :
    acceptedBatches (acceptedTrace writer batches) = batches := by
  induction batches with
  | nil => rfl
  | cons batch batches ih => exact congrArg (batch :: ·) ih

omit [RecordBatch Batch] in
theorem acceptedBatches_writtenTrace (plan : MssqlTargetOutputPlan) (target : MssqlPreparedTarget)
    (options : MssqlWriteBackend) (writer : MssqlBulkLoadWriter) (batches : List Batch) :
    acceptedBatches (writtenTrace plan target options writer batches) = batches := by
  unfold writtenTrace
  rw [acceptedBatches_append]
  show acceptedBatches (acceptedTrace writer batches) ++ [] = batches
  rw [acceptedBatches_acceptedTrace, List.append_nil]

end Loop

theorem targetRowCountBeforeAppendWrite_counts {plan : MssqlTargetOutputPlan}
    (hmode : plan.loadMode = .appendExisting) {target : MssqlPreparedTarget}
    {validationOptions : ValidationOptions} {trace : List (SinkEvent Batch)}
    {result : Except DeltaFunnelError TargetRowCountBeforeWrite}
    (hruns : Runs (targetRowCountBeforeAppendWrite plan target validationOptions) trace result) :
    acceptedBatches trace = [] ∧ finishes trace = false ∧ ∀ before, result = .ok before →
      (validationOptions.targetValidationMode = .disabled ∧ rowCounts trace = []) ∨
      (validationOptions.targetValidationMode ≠ .disabled ∧
        ∃ rows, before = .exact rows ∧ rowCounts trace = [.ok rows]) ∨
      (validationOptions.targetValidationMode ≠ .disabled ∧
        validationOptions.targetValidationMode ≠ .require ∧
        ∃ failure, before = .unavailable failure.reason failure.message ∧
          rowCounts trace = [.error failure]) := by
  unfold targetRowCountBeforeAppendWrite at hruns
  by_cases hdisabled : validationOptions.targetValidationMode = .disabled
  · rw [if_pos (.inl hdisabled)] at hruns
    obtain ⟨rfl, rfl⟩ := runs_ret.1 hruns
    exact ⟨rfl, rfl, fun before hbefore => .inl ⟨hdisabled, rfl⟩⟩
  · have hcounted : ¬(validationOptions.targetValidationMode = .disabled ∨
        plan.loadMode ≠ .appendExisting) := by simp [hdisabled, hmode]
    rw [if_neg hcounted] at hruns
    obtain ⟨reply, rest, rfl, hrest⟩ := runs_sinkCall.1 hruns
    rcases reply with failure | rows
    · dsimp only at hrest
      split_ifs at hrest with hrequired
      · obtain ⟨rfl, rfl⟩ := runs_ret.1 hrest
        exact ⟨rfl, rfl, fun before hbefore => by cases hbefore⟩
      · obtain ⟨rfl, rfl⟩ := runs_ret.1 hrest
        refine ⟨rfl, rfl, ?_⟩
        rintro _ ⟨⟩
        exact .inr (.inr ⟨hdisabled, hrequired, failure, rfl, rfl⟩)
    · obtain ⟨rfl, rfl⟩ := runs_ret.1 hrest
      refine ⟨rfl, rfl, ?_⟩
      rintro _ ⟨⟩
      exact .inr (.inl ⟨hdisabled, rows, rfl, rfl⟩)

/-- Validation fails exactly on row counts that disagree, and its error carries the flag of the
report it was given. -/
theorem validateAppendExistingTargetDelta_counts {plan : MssqlTargetOutputPlan}
    {target : MssqlPreparedTarget} {report : MssqlWriteReport} {mode : TargetValidationMode}
    {rowsBefore outputRows : ℕ} {trace : List (SinkEvent Batch)}
    {result : Except DeltaFunnelError MssqlWriteReport}
    (hruns : Runs (validateAppendExistingTargetDelta plan target report
      (decide (mode = .require)) (.exact rowsBefore) outputRows) trace result) :
    acceptedBatches trace = [] ∧ finishes trace = false ∧
      (((∃ validated, result = .ok validated) ∧
          ¬RowCountsDisagree mode outputRows (.ok rowsBefore :: rowCounts trace)) ∨
        RowCountsDisagree mode outputRows (.ok rowsBefore :: rowCounts trace) ∧
          ∃ error, result = .error error ∧
            reportedRows error = some (report.partialWritePossible, report.stats.rowsWritten)) := by
  obtain ⟨reply, rest, rfl, hrest⟩ := runs_sinkCall.1 hruns
  rcases reply with failure | rowsAfter
  · obtain ⟨rfl, rfl⟩ := runs_ret.1 hrest
    refine ⟨rfl, rfl, ?_⟩
    unfold targetDeltaValidationUnavailableOrRequiredFailure
    by_cases hrequired : mode = .require
    · refine .inr ⟨hrequired, _, if_pos (decide_eq_true hrequired), rfl⟩
    · refine .inl ⟨⟨_, if_neg ?_⟩, hrequired⟩
      simp [hrequired]
  · dsimp only at hrest
    split_ifs at hrest with hagree
    · obtain ⟨rfl, rfl⟩ := runs_ret.1 hrest
      exact ⟨rfl, rfl, .inl ⟨⟨_, rfl⟩, not_not.2 hagree⟩⟩
    · obtain ⟨rfl, rfl⟩ := runs_ret.1 hrest
      exact ⟨rfl, rfl, .inr ⟨hagree, _, rfl, rfl⟩⟩

theorem validateWrittenTarget_counts {plan : MssqlTargetOutputPlan}
    (hmode : plan.loadMode = .appendExisting) {target : MssqlPreparedTarget}
    {report : MssqlWriteReport} {validationOptions : ValidationOptions}
    {before : TargetRowCountBeforeWrite} {outputRows : ℕ}
    (hrows : report.outputRowCount = .exact outputRows)
    {countTrace trace : List (SinkEvent Batch)} {result : Except DeltaFunnelError MssqlWriteReport}
    (hcount : Runs (targetRowCountBeforeAppendWrite plan target validationOptions) countTrace
      (.ok before))
    (hruns : Runs (validateWrittenTarget plan target report validationOptions before) trace
      result) :
    acceptedBatches trace = [] ∧ finishes trace = false ∧
      (((∃ validated, result = .ok validated) ∧ ¬RowCountsDisagree
          validationOptions.targetValidationMode outputRows
          (rowCounts countTrace ++ rowCounts trace)) ∨
        RowCountsDisagree validationOptions.targetValidationMode outputRows
          (rowCounts countTrace ++ rowCounts trace) ∧
          ∃ error, result = .error error ∧
            reportedRows error = some (report.partialWritePossible, report.stats.rowsWritten)) := by
  unfold validateWrittenTarget at hruns
  obtain ⟨-, -, hbefore⟩ := targetRowCountBeforeAppendWrite_counts hmode hcount
  have hnotReplace : plan.loadMode ≠ .replace := by simp [hmode]
  rcases hbefore before rfl with ⟨hdisabled, hcounts⟩ | ⟨henabled, rowsBefore, rfl, hcounts⟩ |
    ⟨henabled, hoptional, failure, rfl, hcounts⟩
  · rw [if_pos hdisabled, if_neg hnotReplace] at hruns
    obtain ⟨rfl, rfl⟩ := runs_ret.1 hruns
    rw [hcounts]
    exact ⟨rfl, rfl, .inl ⟨⟨_, rfl⟩, id⟩⟩
  · rw [if_neg henabled] at hruns
    simp only [hrows, RowCount.exactValue, hmode] at hruns
    rw [hcounts]
    exact validateAppendExistingTargetDelta_counts hruns
  · rw [if_neg henabled] at hruns
    simp only [hrows, RowCount.exactValue, hmode] at hruns
    obtain ⟨rfl, rfl⟩ := runs_ret.1 hruns
    rw [hcounts]
    refine ⟨rfl, rfl, .inl ⟨⟨_, if_neg ?_⟩, id⟩⟩
    simp [hoptional, hnotReplace]

variable [RecordBatch Batch]

/-- An error raised after the writer accepted a batch says that the target may have been written
and how many rows it got. -/
def ShowsAcceptedRows (trace : List (SinkEvent Batch))
    (result : Except DeltaFunnelError MssqlWriteReport) : Prop :=
  ∀ error, result = .error error → acceptedBatches trace ≠ [] →
    ∃ context, failureContext error = some context ∧
      context.report.partialWritePossible = true ∧
      context.report.stats.rowsWritten = rowSum (acceptedBatches trace)

/-- Either nothing was accepted, or the load was finished and its row counts hold, or it was not
finished and the accepted rows fit the counter. -/
def AcceptedRowsKept (mode : TargetValidationMode) (trace : List (SinkEvent Batch)) : Prop :=
  acceptedBatches trace = [] ∨
    (finishes trace = true ∧
      ¬RowCountsDisagree mode (saturatingRowSum (acceptedBatches trace)) (rowCounts trace)) ∨
    (finishes trace = false ∧ rowSum (acceptedBatches trace) ≤ u64Max)

theorem showsAcceptedRows_error {trace : List (SinkEvent Batch)} {error : DeltaFunnelError}
    {flag : Bool} {rows : ℕ} (hreported : reportedRows error = some (flag, rows)) :
    ShowsAcceptedRows trace (.error error) ↔ acceptedBatches trace = [] ∨
      flag = true ∧ rows = rowSum (acceptedBatches trace) := by
  obtain ⟨context, hcontext, hpair⟩ := Option.map_eq_some_iff.1 hreported
  obtain ⟨rfl, rfl⟩ := Prod.mk.inj hpair
  constructor
  · intro hshows
    by_cases haccepted : acceptedBatches trace = []
    · exact .inl haccepted
    · obtain ⟨context', hcontext', hflag, hrows⟩ := hshows error rfl haccepted
      rw [hcontext] at hcontext'
      obtain rfl := Option.some.inj hcontext'
      exact .inr ⟨hflag, hrows⟩
  · rintro hshown _ ⟨⟩ haccepted
    obtain ⟨hflag, hrows⟩ := hshown.resolve_left haccepted
    exact ⟨context, hcontext, hflag, hrows⟩

inductive AppendEnd (mode : TargetValidationMode) (trace : List (SinkEvent Batch)) :
    Except DeltaFunnelError MssqlWriteReport → Prop
  | written (report : MssqlWriteReport) (hfinished : finishes trace = true)
      (hagree : ¬RowCountsDisagree mode (saturatingRowSum (acceptedBatches trace))
        (rowCounts trace)) : AppendEnd mode trace (.ok report)
  | writeFailed (error : DeltaFunnelError) (hfinished : finishes trace = false)
      (hshown : acceptedBatches trace ≠ [] →
        reportedRows error = some (true, saturatingRowSum (acceptedBatches trace))) :
      AppendEnd mode trace (.error error)
  | validationFailed (error : DeltaFunnelError) (rows : ℕ) (hfinished : finishes trace = true)
      (hdisagree : RowCountsDisagree mode (saturatingRowSum (acceptedBatches trace))
        (rowCounts trace))
      (hshown : reportedRows error = some (false, rows)) : AppendEnd mode trace (.error error)

theorem runPreparedOutput_appendEnd {plan : MssqlTargetOutputPlan}
    (hmode : plan.loadMode = .appendExisting) {target : MssqlPreparedTarget}
    {stream : List (Except DeltaFunnelError Batch)} {options : MssqlWriteBackend}
    {validationOptions : ValidationOptions} {phaseTimings : List PhaseTimingReport}
    {trace : List (SinkEvent Batch)} {result : Except DeltaFunnelError MssqlWriteReport}
    (hruns : Runs (runPreparedOutput plan target stream options validationOptions phaseTimings)
      trace result) : AppendEnd validationOptions.targetValidationMode trace result := by
  have hnotReplace : plan.loadMode ≠ .replace := by simp [hmode]
  obtain ⟨lockTrace, lockResult, afterLock, rfl, hlock, hruns⟩ := runs_bind.1 hruns
  unfold enableReplaceTableLock at hlock
  rw [if_neg hnotReplace] at hlock
  obtain ⟨rfl, rfl⟩ := runs_ret.1 hlock
  obtain ⟨countTrace, countResult, afterCount, rfl, hcount, hruns⟩ := runs_bind.1 hruns
  obtain ⟨hcountAccepted, hcountFinishes, -⟩ := targetRowCountBeforeAppendWrite_counts hmode hcount
  rcases countResult with error | rowsBefore
  · obtain ⟨rfl, rfl⟩ := runs_ret.1 hruns
    refine .writeFailed _ (by simpa using hcountFinishes) fun haccepted => absurd ?_ haccepted
    simpa using hcountAccepted
  obtain ⟨writeTrace, writeResult, afterWrite, rfl, hwrite, hruns⟩ := runs_bind.1 hruns
  obtain ⟨hwriteCounts, hfailed, hok⟩ := writePreparedBatches_reportedRows hmode hwrite
  rcases writeResult with error | report
  · obtain ⟨rfl, rfl⟩ := runs_ret.1 hruns
    obtain ⟨hfinishes, hshown⟩ := hfailed error rfl
    refine .writeFailed _ (by simp [hcountFinishes, hfinishes]) fun haccepted => ?_
    simp only [List.nil_append, List.append_nil, acceptedBatches_append, hcountAccepted]
      at haccepted ⊢
    rw [reportedRows_errorWithPhaseTimings]
    exact hshown haccepted
  · obtain ⟨hfinishes, hforgotten⟩ := hok report rfl
    obtain ⟨writer, batches, -, -, hwritten, hrows⟩ := (writePreparedBatches_runs hwrite).2 report rfl
    have hbatches : acceptedBatches writeTrace = batches := by
      rw [hwritten, acceptedBatches_writtenTrace]
    obtain ⟨validateTrace, validated, afterValidate, rfl, hvalidate, hruns⟩ := runs_bind.1 hruns
    have hreportRows : ((report.withCleanup target.report.cleanup).withPhaseTimings
        (phaseTimings ++ [.completed "prepare_target_lifecycle"])).outputRowCount =
        .exact (saturatingRowSum batches) := hrows
    obtain ⟨hvalidateAccepted, -, hvalidated⟩ :=
      validateWrittenTarget_counts hmode hreportRows hcount hvalidate
    -- Nothing is accepted outside the write, and nothing is counted inside it.
    have haccepted : acceptedBatches ([] ++ (countTrace ++ (writeTrace ++ (validateTrace ++ [])))) =
        batches := by
      simp [hcountAccepted, hvalidateAccepted, hbatches]
    have hcounts : rowCounts ([] ++ (countTrace ++ (writeTrace ++ (validateTrace ++ [])))) =
        rowCounts countTrace ++ rowCounts validateTrace := by
      simp [hwriteCounts]
    have hfinished : finishes ([] ++ (countTrace ++ (writeTrace ++ (validateTrace ++ [])))) = true := by
      simp [hfinishes]
    rcases hvalidated with ⟨⟨validReport, rfl⟩, hagree⟩ | ⟨hdisagree, error, rfl, hshown⟩
    · have hswap : afterValidate = [] ∧ result = .ok validReport := by
        dsimp only at hruns
        unfold swapReplaceTargetAfterValidation at hruns
        rw [if_pos hnotReplace] at hruns
        exact runs_ret.1 hruns
      obtain ⟨rfl, rfl⟩ := hswap
      refine .written _ hfinished ?_
      rw [haccepted, hcounts]
      exact hagree
    · obtain ⟨rfl, rfl⟩ := runs_ret.1 hruns
      refine .validationFailed error report.stats.rowsWritten hfinished ?_ ?_
      · rw [haccepted, hcounts]
        exact hdisagree
      · rw [hshown]
        exact congrArg (fun flag => some (flag, report.stats.rowsWritten)) hforgotten

theorem AppendEnd.extend {mode : TargetValidationMode} {trace extended : List (SinkEvent Batch)}
    {result : Except DeltaFunnelError MssqlWriteReport} (hend : AppendEnd mode trace result)
    (haccepted : acceptedBatches extended = acceptedBatches trace)
    (hcounts : rowCounts extended = rowCounts trace)
    (hfinishes : finishes extended = finishes trace) : AppendEnd mode extended result := by
  cases hend with
  | written report hfinished hagree =>
    exact .written report (hfinishes.trans hfinished) (by rwa [haccepted, hcounts])
  | writeFailed error hfinished hshown =>
    exact .writeFailed error (hfinishes.trans hfinished) (by rwa [haccepted])
  | validationFailed error rows hfinished hdisagree hshown =>
    exact .validationFailed error rows (hfinishes.trans hfinished) (by rwa [haccepted, hcounts])
      hshown

theorem AppendEnd.showsAcceptedRows_iff {mode : TargetValidationMode}
    {trace : List (SinkEvent Batch)} {error failed : DeltaFunnelError}
    (hend : AppendEnd mode trace (.error error))
    (hreported : reportedRows failed = reportedRows error) :
    ShowsAcceptedRows trace (.error failed) ↔ AcceptedRowsKept mode trace := by
  unfold AcceptedRowsKept
  by_cases haccepted : acceptedBatches trace = []
  · exact iff_of_true (fun _ _ hsome => absurd haccepted hsome) (.inl haccepted)
  · cases hend with
    | writeFailed _ hfinished hshown =>
      rw [showsAcceptedRows_error (hreported.trans (hshown haccepted)), hfinished]
      simp only [haccepted, false_or, true_and, Bool.false_eq_true, false_and, saturatingRowSum]
      omega
    | validationFailed _ rows hfinished hdisagree hshown =>
      rw [showsAcceptedRows_error (hreported.trans hshown), hfinished]
      simp [haccepted, hdisagree]

/-- **Append failures.** Exactly the failures of a finished load hide the accepted rows: the
report of a successful write has already cleared the flag when validation rejects it. -/
theorem append_failure_shows_accepted_rows_iff {plan : MssqlTargetOutputPlan}
    (hmode : plan.loadMode = .appendExisting)
    {stream : List (Except DeltaFunnelError Batch)} {options : MssqlWriteBackend}
    {validationOptions : ValidationOptions} {phaseTimings : List PhaseTimingReport}
    {trace : List (SinkEvent Batch)} {result : Except DeltaFunnelError MssqlWriteReport}
    (hruns : Runs (runMssqlOutputBatchesOnConnection plan stream options validationOptions
      phaseTimings) trace result) :
    ShowsAcceptedRows trace result ↔
      AcceptedRowsKept validationOptions.targetValidationMode trace := by
  rw [runMssqlOutputBatchesOnConnection_eq] at hruns
  obtain ⟨reply, rest, rfl, hrest⟩ := runs_sinkCall.1 hruns
  rcases reply with error | target
  · obtain ⟨rfl, rfl⟩ := runs_ret.1 hrest
    exact iff_of_true (fun _ _ hsome => absurd rfl hsome) (.inl rfl)
  · obtain ⟨middle, body, tail, rfl, hbody, htail⟩ := runs_bind.1 hrest
    have hend := runPreparedOutput_appendEnd hmode hbody
    rcases body with error | report
    · obtain ⟨haccepted, hcounts, hfinishes, failed, rfl, hreported⟩ :=
        failAfterPreparation_reportedRows htail
      -- the cleanup writes and counts nothing, so it does not touch what the failure shows
      have hextended : AppendEnd validationOptions.targetValidationMode
          (⟨.prepareTargetLifecycle plan, .ok target⟩ :: (middle ++ tail)) (.error error) := by
        refine hend.extend ?_ ?_ ?_
        · show acceptedBatches (middle ++ tail) = acceptedBatches middle
          rw [acceptedBatches_append, haccepted, List.append_nil]
        · show rowCounts (middle ++ tail) = rowCounts middle
          rw [rowCounts_append, hcounts, List.append_nil]
        · show finishes (middle ++ tail) = finishes middle
          rw [finishes_append, hfinishes, Bool.or_false]
      exact hextended.showsAcceptedRows_iff hreported
    · obtain ⟨rfl, rfl⟩ := runs_ret.1 htail
      rw [List.append_nil]
      cases hend with
      | written _ hfinished hagree =>
        exact iff_of_true (fun _ herror => by cases herror) (.inr (.inl ⟨hfinished, hagree⟩))

end Failures

def ordersExisting : MssqlPreparedTarget :=
  ⟨⟨some "dbo", "orders"⟩,
    ⟨"orders_output", ⟨some "dbo", "orders"⟩, .appendExisting, .contextDefault,
      ⟨some "warehouse-primary"⟩, .exists, .verifiedExisting, .notApplicable⟩⟩

/-- The target held ten rows, the writer takes a batch of two and loses the connection on the
next one. -/
theorem lost_connection_shows_two_rows :
    letI := acceptingDriver
    letI := countedBatch
    ∃ trace error, Runs (runMssqlOutputBatchesOnConnection ordersAppendPlan [.ok 2, .ok 3]
        .directRawBulk {} []) trace (.error error) ∧ acceptedBatches trace = [2] ∧
      ShowsAcceptedRows trace (.error error) := by
  let _ := acceptingDriver
  let _ := countedBatch
  have hruns : ∃ error, Runs (runMssqlOutputBatchesOnConnection ordersAppendPlan [.ok 2, .ok 3]
      .directRawBulk {} [])
      [⟨.prepareTargetLifecycle ordersAppendPlan, .ok ordersExisting⟩,
        ⟨.targetRowCount ordersAppendPlan ordersExisting, .ok 10⟩,
        ⟨.initializeWriter ordersAppendPlan ordersExisting .directRawBulk,
          .ok ⟨ordersExisting.tableName⟩⟩,
        ⟨.nextBatch (some (.ok 2)), ()⟩, ⟨.writeBatch ⟨ordersExisting.tableName⟩ 2, .ok ()⟩,
        ⟨.nextBatch (some (.ok 3)), ()⟩,
        ⟨.writeBatch ⟨ordersExisting.tableName⟩ 3, .error
          ⟨.targetRowCountQuery, "connection lost", none, "write", "connection", []⟩⟩,
        ⟨.cleanupPreparedTarget ordersAppendPlan (some ordersExisting), .ok .notApplicable⟩]
      (.error error) :=
    ⟨_, .call (.call (.call (.call (.call (.call (.call (.call (.refl _))))))))⟩
  obtain ⟨error, hfailed⟩ := hruns
  exact ⟨_, error, hfailed, rfl, (append_failure_shows_accepted_rows_iff rfl hfailed).2
    (.inr (.inr ⟨rfl, by decide⟩))⟩

/-- The batch of two rows is accepted and finished, the target then counts eleven rows, and the
error says that nothing can have been written. -/
theorem rejected_append_hides_two_rows :
    letI := acceptingDriver
    letI := countedBatch
    ∃ trace error, Runs (runMssqlOutputBatchesOnConnection ordersAppendPlan [.ok 2]
        .directRawBulk {} []) trace (.error error) ∧ ¬ShowsAcceptedRows trace (.error error) := by
  let _ := acceptingDriver
  let _ := countedBatch
  have hruns : ∃ error, Runs (runMssqlOutputBatchesOnConnection ordersAppendPlan [.ok 2]
      .directRawBulk {} [])
      [⟨.prepareTargetLifecycle ordersAppendPlan, .ok ordersExisting⟩,
        ⟨.targetRowCount ordersAppendPlan ordersExisting, .ok 10⟩,
        ⟨.initializeWriter ordersAppendPlan ordersExisting .directRawBulk,
          .ok ⟨ordersExisting.tableName⟩⟩,
        ⟨.nextBatch (some (.ok 2)), ()⟩, ⟨.writeBatch ⟨ordersExisting.tableName⟩ 2, .ok ()⟩,
        ⟨.nextBatch none, ()⟩, ⟨.finish ⟨ordersExisting.tableName⟩, .ok ()⟩,
        ⟨.targetRowCount ordersAppendPlan ordersExisting, .ok 11⟩,
        ⟨.cleanupPreparedTarget ordersAppendPlan (some ordersExisting), .ok .notApplicable⟩]
      (.error error) ∧ reportedRows error = some (false, 2) :=
    ⟨_, .call (.call (.call (.call (.call (.call (.call (.call (.call (.refl _))))))))), rfl⟩
  obtain ⟨error, hfailed, hreported⟩ := hruns
  refine ⟨_, error, hfailed, fun hshows => ?_⟩
  rcases (showsAcceptedRows_error hreported).1 hshows with haccepted | ⟨hflag, -⟩
  · cases haccepted
  · cases hflag

end DeltaFunnel
