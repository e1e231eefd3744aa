import DeltaFunnel.Interaction.Protocol
import DeltaFunnel.SqlServer.ReplaceNames
import DeltaFunnel.SqlServer.SinkSafety
import DeltaFunnel.SqlServer.Server

/-! The protocol one replace follows on the server: it creates one staging table, loads it, and
swaps it in when it holds the whole validated stream, or drops it. -/

namespace DeltaFunnel
open Interaction Program Protocol

variable [ArrowSqlServer] {Batch : Type} [RecordBatch Batch]

/-- How far a replace has come, with its staging table while it has one. -/
inductive ReplaceStage (Batch : Type) where
  | idle
  | staged (name : TableName) (rows : List Batch)
  | published (rows : List Batch)
  | dropped

/-- The rows of a staging table that holds the whole stream: every batch passed its schema
check, and the exact row count is the one the writer reports. -/
structure Complete (plan : MssqlTargetOutputPlan) (stream : List (Except DeltaFunnelError Batch))
    (rows : List Batch) : Prop where
  stream_eq : stream = rows.map .ok
  valid : ∀ batch ∈ rows, SchemaValid plan batch
  counted : rowSum rows = saturatingRowSum rows

namespace ReplaceStage

def allows (plan : MssqlTargetOutputPlan) (stream : List (Except DeltaFunnelError Batch))
    (stage : ReplaceStage Batch) : ServerOp Batch → Prop
  | .lifecycle (.executeStatement (.createTable name _)) =>
    stage = .idle ∧ IsStagingName plan name
  | .lifecycle (.executeStatement (.dropTable name)) => ∃ rows, stage = .staged name rows
  | .lifecycle (.executeStatement (.replaceSwap finalTable stagingTable backupTable)) =>
    finalTable = plan.finalTableName ∧ IsBackupName plan backupTable ∧
      ∃ rows, stage = .staged stagingTable rows ∧ Complete plan stream rows
  | .writeBatch name _ => ∃ rows, stage = .staged name rows
  | _ => True

/-- The server counts the rows that are there. -/
def mayReply (stage : ReplaceStage Batch) :
    (op : ServerOp Batch) → (ServerSig Batch).Reply op → Prop
  | .targetRowCount name, reply =>
    ∀ rows count, stage = .staged name rows → reply = .ok count → count = rowSum rows
  | _, _ => True

def next (stage : ReplaceStage Batch) :
    (op : ServerOp Batch) → (ServerSig Batch).Reply op → ReplaceStage Batch
  | .lifecycle (.executeStatement (.createTable name _)), .ok () => .staged name []
  | .lifecycle (.executeStatement (.dropTable _)), .ok () => .dropped
  | .lifecycle (.executeStatement (.replaceSwap _ _ _)), .ok () =>
    match stage with
    | .staged _ rows => .published rows
    | stage => stage
  | .writeBatch _ batch, .ok () =>
    match stage with
    | .staged name rows => .staged name (rows ++ [batch])
    | stage => stage
  | _, _ => stage

end ReplaceStage

def replaceProtocol (plan : MssqlTargetOutputPlan)
    (stream : List (Except DeltaFunnelError Batch)) :
    Protocol (ServerSig Batch) (ReplaceStage Batch) :=
  ⟨ReplaceStage.allows plan stream, ReplaceStage.mayReply, ReplaceStage.next⟩

section Operations
variable {plan : MssqlTargetOutputPlan} {stream : List (Except DeltaFunnelError Batch)}
  {stage : ReplaceStage Batch} {name : TableName} {rows : List Batch}

omit [RecordBatch Batch] in
theorem meets_handle_sinkCall {α : Type} {A : Protocol (ServerSig Batch) (ReplaceStage Batch)}
    {op : SinkOp Batch} {next : (SinkSig Batch).Reply op → Program (SinkSig Batch) α}
    {Q : α → ReplaceStage Batch → Prop} :
    A.Meets ((sinkCall op >>= next).handle connectedClient) stage Q ↔
      A.Meets (connectedClient op) stage fun reply stage' =>
        A.Meets ((next reply).handle connectedClient) stage' Q := by
  rw [sinkCall_bind, handle_call, meets_bind]

omit [ArrowSqlServer] [RecordBatch Batch] in
theorem meets_serverCall {α : Type} {A : Protocol (ServerSig Batch) (ReplaceStage Batch)}
    {op : ServerOp Batch} {next : (ServerSig Batch).Reply op → Program (ServerSig Batch) α}
    {Q : α → ReplaceStage Batch → Prop} :
    A.Meets (serverCall op >>= next) stage Q ↔ A.allowed stage op ∧
      ∀ reply, A.possible stage op reply → A.Meets (next reply) (A.next stage op reply) Q := Iff.rfl

theorem meets_lifecycleClient_tableExists {α : Type}
    {next : Except ArrowError Bool → Program LifecycleSig α} {Q : α → ReplaceStage Batch → Prop} :
    (replaceProtocol plan stream).Meets (lifecycleClient (tableExists name >>= next)) stage Q ↔
      ∀ reply, (replaceProtocol plan stream).Meets (lifecycleClient (next reply)) stage Q := by
  refine Iff.trans meets_call ⟨fun h reply => h.2 reply trivial, fun h => ⟨trivial, fun reply _ => h reply⟩⟩

theorem availableReplaceTable_meets {candidate : ℕ → Except DeltaFunnelError TableName}
    {probeError : ArrowError → DeltaFunnelError} {exhausted : DeltaFunnelError}
    (attempts : List ℕ) :
    (replaceProtocol plan stream).Meets
      (lifecycleClient (availableReplaceTable candidate probeError exhausted attempts)) stage
      fun result stage' => stage' = stage ∧
        ∀ name, result = .ok name → ∃ attempt ∈ attempts, candidate attempt = .ok name := by
  induction attempts with
  | nil => exact ⟨rfl, fun name hname => by cases hname⟩
  | cons attempt attempts ih =>
    unfold availableReplaceTable
    split
    · exact ⟨rfl, fun name hname => by cases hname⟩
    · next tableName hcandidate =>
      refine meets_lifecycleClient_tableExists.2 fun reply => ?_
      rcases reply with source | _ | _
      · exact ⟨rfl, fun name hname => by cases hname⟩
      · refine ⟨rfl, ?_⟩
        rintro name ⟨⟩
        exact ⟨attempt, List.mem_cons_self .., hcandidate⟩
      · refine ih.mono fun result stage' hresult => ⟨hresult.1, fun name hname => ?_⟩
        obtain ⟨found, hmem, hfound⟩ := hresult.2 name hname
        exact ⟨found, List.mem_cons_of_mem _ hmem, hfound⟩

theorem prepareMssqlTargetLifecycle_meets (hmode : plan.loadMode = .replace) :
    (replaceProtocol plan stream).Meets (lifecycleClient (prepareMssqlTargetLifecycle plan)) .idle
      fun result stage => ∀ target, result = .ok target →
        stage = .staged target.tableName [] := by
  simp only [prepareMssqlTargetLifecycle, hmode, prepareMssqlReplaceTarget]
  split
  · exact fun target htarget => by cases htarget
  · refine meets_lifecycleClient_tableExists.2 fun reply => ?_
    rcases reply with source | found
    · exact fun target htarget => by cases htarget
    · rw [lifecycleClient, handle_bind]
      refine (availableReplaceTable_meets (List.range 100)).bind ?_
      rintro available stage ⟨rfl, havailable⟩
      rcases available with error | stagingTableName
      · exact fun target htarget => by cases htarget
      · obtain ⟨attempt, hattempt, hname⟩ := havailable stagingTableName rfl
        have hstaging : IsStagingName plan stagingTableName :=
          ⟨attempt, List.mem_range.1 hattempt, hname⟩
        refine ⟨⟨rfl, hstaging⟩, fun created _ => ?_⟩
        rcases created with source | _
        · exact fun target htarget => by cases htarget
        · intro target htarget
          rw [(fromTableName_eq_ok htarget).1]
          rfl

theorem cleanupMssqlPreparedTarget_meets (target : MssqlPreparedTarget) :
    (replaceProtocol plan stream).Meets
      (lifecycleClient (cleanupMssqlPreparedTarget plan (some target)))
      (.staged target.tableName rows) fun _ _ => True := by
  unfold cleanupMssqlPreparedTarget
  dsimp only
  split_ifs
  · trivial
  · rcases haction : target.report.action
    · trivial
    all_goals
      refine ⟨⟨rows, rfl⟩, fun reply _ => ?_⟩
      rcases reply with source | _ <;> trivial

theorem swapMssqlReplaceTarget_meets {target : MssqlPreparedTarget}
    (hcomplete : Complete plan stream rows) :
    (replaceProtocol plan stream).Meets (lifecycleClient (swapMssqlReplaceTarget plan target))
      (.staged target.tableName rows) fun result stage =>
        (result = .ok () ∧ stage = .published rows) ∨
          (∃ error, result = .error error) ∧ stage = .staged target.tableName rows := by
  unfold swapMssqlReplaceTarget
  split
  · exact .inr ⟨⟨_, rfl⟩, rfl⟩
  · next finalTableName hchecked =>
    have hfinal : finalTableName = plan.finalTableName := checkedSwapTableName_eq_ok hchecked
    rw [lifecycleClient, handle_bind]
    refine (availableReplaceTable_meets (List.range 100)).bind ?_
    rintro available stage ⟨rfl, havailable⟩
    rcases available with error | backupTableName
    · exact .inr ⟨⟨_, rfl⟩, rfl⟩
    · obtain ⟨attempt, hattempt, hname⟩ := havailable backupTableName rfl
      have hbackup : IsBackupName plan backupTableName :=
        ⟨attempt, List.mem_range.1 hattempt, hname⟩
      refine ⟨⟨hfinal, hbackup, rows, rfl, hcomplete⟩, fun swapped _ => ?_⟩
      rcases swapped with source | _
      · exact .inr ⟨⟨_, rfl⟩, rfl⟩
      · exact .inl ⟨rfl, rfl⟩

theorem enableReplaceTableLock_meets (target : MssqlPreparedTarget)
    (hmode : plan.loadMode = .replace) :
    (replaceProtocol plan stream).Meets
      ((enableReplaceTableLock plan target).handle connectedClient) stage
      fun _ stage' => stage' = stage := by
  have hclient : (replaceProtocol plan stream).Meets
      (connectedClient (.enableBulkLoadTableLock plan target)) stage
      fun _ stage' => stage' = stage := by
    refine meets_serverCall.2 ⟨trivial, fun reply _ => ?_⟩
    rcases reply with source | _
    · dsimp only
      split <;> rfl
    · rfl
  rw [enableReplaceTableLock, if_pos hmode]
  exact hclient.bind fun _ _ hstage => hstage

theorem initializeWriter_meets (target : MssqlPreparedTarget) (options : MssqlWriteBackend) :
    (replaceProtocol plan stream).Meets (connectedClient (.initializeWriter plan target options))
      stage fun result stage' =>
        stage' = stage ∧ ∀ writer, result = .ok writer → writer.table = target.tableName := by
  unfold connectedClient
  dsimp only
  split
  · exact ⟨rfl, fun writer hwriter => by cases hwriter⟩
  · refine ⟨trivial, fun reply _ => ?_⟩
    rcases reply with source | _
    · exact ⟨rfl, fun writer hwriter => by cases hwriter⟩
    · refine ⟨rfl, ?_⟩
      rintro writer ⟨⟩
      rfl

/-- What the loop has added to the staging table: some rows, and on success the rest of the
stream, every batch of it valid and counted. -/
theorem writeLoop_meets {source : List (Except DeltaFunnelError Batch)}
    {writer : MssqlBulkLoadWriter} {state : WriteLoopState} {count : ℕ}
    (hcount : state.inputRows = min count u64Max) :
    (replaceProtocol plan source).Meets ((writeLoop plan writer state stream).handle
      connectedClient) (.staged writer.table rows) fun result stage =>
        ∃ batches, stage = .staged writer.table (rows ++ batches) ∧
          ∀ final, result = .ok final → stream = batches.map .ok ∧
            (∀ batch ∈ batches, SchemaValid plan batch) ∧
            final.inputRows = min (count + rowSum batches) u64Max := by
  induction stream generalizing state count rows with
  | nil =>
    refine ⟨[], by rw [List.append_nil], ?_⟩
    rintro final ⟨⟩
    exact ⟨rfl, by simp, by simpa [rowSum] using hcount⟩
  | cons item stream ih =>
    cases item with
    | error error => exact ⟨[], by rw [List.append_nil], fun final hfinal => by cases hfinal⟩
    | ok batch =>
      rcases hvalid : RecordBatch.validateSchemaAgainstMappings batch plan.schemaMappings with
        invalid | ⟨⟩
      · simp only [writeLoop, hvalid]
        exact ⟨[], by rw [List.append_nil], fun final hfinal => by cases hfinal⟩
      · obtain ⟨counted, failed, hcounted, heq⟩ := writeLoop_ok plan writer state stream hvalid
        rw [heq]
        refine ⟨⟨rows, rfl⟩, fun reply _ => ?_⟩
        cases reply with
        | error error => exact ⟨[], by rw [List.append_nil]; rfl, fun final hfinal => by cases hfinal⟩
        | ok _ =>
          have hnext : counted.inputRows = min (count + RecordBatch.numRows batch) u64Max := by
            rw [hcounted, hcount]
            exact saturatingAdd_min _ _
          refine (ih hnext).mono ?_
          rintro result stage ⟨batches, rfl, hok⟩
          refine ⟨batch :: batches, by simp, fun final hfinal => ?_⟩
          obtain ⟨rfl, hall, hsum⟩ := hok final hfinal
          refine ⟨rfl, ?_, ?_⟩
          · simpa using ⟨hvalid, hall⟩
          · rw [hsum, rowSum, Nat.add_assoc]

theorem writePreparedBatches_meets (target : MssqlPreparedTarget) (options : MssqlWriteBackend) :
    (replaceProtocol plan stream).Meets
      ((writePreparedBatches plan target stream options).handle connectedClient)
      (.staged target.tableName []) fun result stage =>
        ∃ rows, stage = .staged target.tableName rows ∧
          ∀ report, result = .ok report → stream = rows.map .ok ∧
            (∀ batch ∈ rows, SchemaValid plan batch) ∧
            report.outputRowCount = .exact (saturatingRowSum rows) := by
  unfold writePreparedBatches
  refine meets_handle_sinkCall.2 ((initializeWriter_meets target options).mono ?_)
  rintro initialized stage ⟨rfl, hwriter⟩
  rcases initialized with error | writer
  · exact ⟨[], rfl, fun report hreport => by cases hreport⟩
  · rw [← hwriter writer rfl]
    dsimp only [writeMssqlBatchesWithWriter]
    rw [bind_bind, handle_bind]
    have hstart : WriteLoopState.start.inputRows = min 0 u64Max := rfl
    refine (writeLoop_meets hstart).bind ?_
    rintro looped stage ⟨rows, rfl, hok⟩
    rw [List.nil_append]
    rcases looped with error | final
    · exact ⟨rows, rfl, fun report hreport => by cases hreport⟩
    · obtain ⟨hstream, hvalid, hcount⟩ := hok final rfl
      refine ⟨trivial, fun reply _ => ?_⟩
      rcases reply with source | _
      · exact ⟨rows, rfl, fun report hreport => by cases hreport⟩
      · refine ⟨rows, rfl, ?_⟩
        rintro report ⟨⟩
        rw [Nat.zero_add] at hcount
        exact ⟨hstream, hvalid, congrArg RowCount.exact hcount⟩

theorem targetRowCount_meets (target : MssqlPreparedTarget) :
    (replaceProtocol plan stream).Meets (connectedClient (.targetRowCount plan target))
      (.staged target.tableName rows) fun result stage =>
        stage = .staged target.tableName rows ∧
          ∀ count, result = .ok count → count = rowSum rows := by
  refine meets_serverCall.2 ⟨trivial, fun reply hreply => ?_⟩
  rcases reply with source | counted
  · exact ⟨rfl, fun count hcount => by cases hcount⟩
  · refine ⟨rfl, ?_⟩
    rintro _ ⟨⟩
    exact hreply rows counted rfl rfl

theorem validateWrittenTarget_meets {target : MssqlPreparedTarget} {report : MssqlWriteReport}
    {validationOptions : ValidationOptions} {before : TargetRowCountBeforeWrite} {count : ℕ}
    (hmode : plan.loadMode = .replace) (hcount : report.outputRowCount = .exact count) :
    (replaceProtocol plan stream).Meets
      ((validateWrittenTarget plan target report validationOptions before).handle connectedClient)
      (.staged target.tableName rows) fun result stage =>
        stage = .staged target.tableName rows ∧
          ∀ validated, result = .ok validated → rowSum rows = count := by
  unfold validateWrittenTarget
  split_ifs
  · exact ⟨rfl, fun validated hvalidated => by cases hvalidated⟩
  · simp only [hcount, RowCount.exactValue_exact, hmode]
    refine meets_handle_sinkCall.2 ((targetRowCount_meets target).mono ?_)
    rintro counted stage ⟨rfl, hcounted⟩
    rcases counted with failure | counted
    · refine ⟨rfl, fun validated hvalidated => ?_⟩
      simp [validationUnavailableOrRequiredFailure, hmode] at hvalidated
    · dsimp only
      split_ifs with hrows
      · exact ⟨rfl, fun _ _ => by rw [← hcounted counted rfl, hrows]⟩
      · exact ⟨rfl, fun validated hvalidated => by cases hvalidated⟩

theorem swapReplaceTargetAfterValidation_meets {target : MssqlPreparedTarget}
    {report : MssqlWriteReport} {locked : Bool} (hmode : plan.loadMode = .replace)
    (hcomplete : Complete plan stream rows) :
    (replaceProtocol plan stream).Meets
      ((swapReplaceTargetAfterValidation plan target report locked).handle connectedClient)
      (.staged target.tableName rows) fun result stage =>
        (∃ published, result = .ok published) ∧ stage = .published rows ∨
          (∃ error, result = .error error) ∧ stage = .staged target.tableName rows := by
  have hswap : (replaceProtocol plan stream).Meets
      ((swapStagedTarget plan target report).handle connectedClient)
      (.staged target.tableName rows) fun result stage =>
        (∃ published, result = .ok published) ∧ stage = .published rows ∨
          (∃ error, result = .error error) ∧ stage = .staged target.tableName rows := by
    refine meets_handle_sinkCall.2 ((swapMssqlReplaceTarget_meets hcomplete).mono ?_)
    rintro swapped stage (⟨rfl, rfl⟩ | ⟨⟨error, rfl⟩, rfl⟩)
    · exact .inl ⟨⟨_, rfl⟩, rfl⟩
    · exact .inr ⟨⟨_, rfl⟩, rfl⟩
  rw [swapReplaceTargetAfterValidation, if_neg (not_not.2 hmode)]
  split_ifs
  · exact .inr ⟨⟨_, rfl⟩, rfl⟩
  · refine ⟨trivial, fun reply _ => ?_⟩
    rcases reply with source | _
    · exact .inr ⟨⟨_, rfl⟩, rfl⟩
    · exact hswap
  · exact hswap

theorem runPreparedOutput_meets {target : MssqlPreparedTarget} {options : MssqlWriteBackend}
    {validationOptions : ValidationOptions} {phaseTimings : List PhaseTimingReport}
    (hmode : plan.loadMode = .replace) :
    (replaceProtocol plan stream).Meets
      ((runPreparedOutput plan target stream options validationOptions phaseTimings).handle
        connectedClient) (.staged target.tableName []) fun result stage =>
        (∃ report rows, result = .ok report ∧ stage = .published rows) ∨
          ∃ error rows, result = .error error ∧ stage = .staged target.tableName rows := by
  unfold runPreparedOutput
  dsimp only
  rw [handle_bind]
  refine (enableReplaceTableLock_meets target hmode).bind ?_
  rintro locked stage rfl
  rcases locked with error | locked
  · exact .inr ⟨_, [], rfl, rfl⟩
  -- A replace takes no row count before the write.
  have hskip : (targetRowCountBeforeAppendWrite plan target validationOptions :
      Program (SinkSig Batch) _) = .ret (.ok .notRequired) := by
    rw [targetRowCountBeforeAppendWrite, if_pos (.inr (by simp [hmode]))]
    rfl
  dsimp only
  rw [hskip, ret_bind, handle_bind]
  refine (writePreparedBatches_meets target options).bind ?_
  rintro written stage ⟨rows, rfl, hwritten⟩
  rcases written with error | report
  · exact .inr ⟨_, rows, rfl, rfl⟩
  obtain ⟨hstream, hvalid, hrows⟩ := hwritten report rfl
  have hexact : ((report.withCleanup target.report.cleanup).withPhaseTimings (phaseTimings ++
      [.completed "prepare_target_lifecycle"])).outputRowCount = .exact (saturatingRowSum rows) := by
    rw [MssqlWriteReport.withPhaseTimings_outputRowCount,
      MssqlWriteReport.withCleanup_outputRowCount, hrows]
  dsimp only
  rw [handle_bind]
  refine (validateWrittenTarget_meets hmode hexact).bind ?_
  rintro validated stage ⟨rfl, hvalidated⟩
  rcases validated with error | report
  · exact .inr ⟨_, rows, rfl, rfl⟩
  have hcomplete : Complete plan stream rows := ⟨hstream, hvalid, hvalidated report rfl⟩
  refine (swapReplaceTargetAfterValidation_meets hmode hcomplete).mono ?_
  rintro result stage (⟨⟨published, rfl⟩, rfl⟩ | ⟨⟨error, rfl⟩, rfl⟩)
  · exact .inl ⟨published, rows, rfl, rfl⟩
  · exact .inr ⟨error, rows, rfl, rfl⟩

/-- **A replace keeps to its protocol**, and a replace that reports success has published. -/
theorem runMssqlOutputOnServer_meets {options : MssqlWriteBackend}
    {validationOptions : ValidationOptions} {phaseTimings : List PhaseTimingReport}
    (hmode : plan.loadMode = .replace) :
    (replaceProtocol plan stream).Meets
      (runMssqlOutputOnServer plan stream options validationOptions phaseTimings) .idle
      fun result stage => ∀ report, result = .ok report → ∃ rows, stage = .published rows := by
  rw [runMssqlOutputOnServer, runMssqlOutputBatchesOnConnection_eq]
  refine meets_handle_sinkCall.2 ((prepareMssqlTargetLifecycle_meets hmode).mono ?_)
  intro prepared stage hprepared
  rcases prepared with error | target
  · exact fun report hreport => by cases hreport
  rw [hprepared target rfl]
  dsimp only
  rw [handle_bind]
  refine (runPreparedOutput_meets hmode).bind ?_
  rintro result stage (⟨report, rows, rfl, rfl⟩ | ⟨error, rows, rfl, rfl⟩)
  · exact fun _ _ => ⟨rows, rfl⟩
  · refine meets_handle_sinkCall.2 ((cleanupMssqlPreparedTarget_meets target).mono ?_)
    rintro (cleanupError | cleanup) stage -
    · exact fun report hreport => by cases hreport
    · exact fun report hreport => by cases hreport

end Operations
end DeltaFunnel
