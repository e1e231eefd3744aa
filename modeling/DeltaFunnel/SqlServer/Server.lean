import DeltaFunnel.SqlServer.LifecycleTrace
import DeltaFunnel.SqlServer.Sink

/-! The connected client: how each sink operation is carried out by calls to the driver. -/

namespace DeltaFunnel
open Interaction Program

inductive ServerOp (Batch : Type) where
  | lifecycle (op : LifecycleOp)
  | setBulkLoadTableLock (table : TableName) (enabled : Bool)
  | bulkWriter (table : TableName) (mappings : List SchemaMapping) (backend : MssqlWriteBackend)
  | writeBatch (table : TableName) (batch : Batch)
  | finish (table : TableName)
  | targetRowCount (table : TableName)

def ServerOp.isLifecycle {Batch : Type} : ServerOp Batch → Bool
  | .lifecycle _ => true
  | _ => false

/-- The calls on one `ConnectedMssqlClient`. -/
@[reducible] def ServerSig (Batch : Type) : Signature where
  Op := ServerOp Batch
  Reply
    | .lifecycle op => LifecycleSig.Reply op
    | .setBulkLoadTableLock _ _ => Except ArrowError Unit
    | .bulkWriter _ _ _ => Except ArrowError Unit
    | .writeBatch _ _ => Except ArrowError Unit
    | .finish _ => Except ArrowError Unit
    | .targetRowCount _ => Except ArrowError ℕ

variable {Batch : Type}

def serverCall (op : ServerOp Batch) : Program (ServerSig Batch) ((ServerSig Batch).Reply op) :=
  perform (σ := ServerSig Batch) op

theorem uses_serverCall {α : Type} {P : ServerOp Batch → Prop} {op : ServerOp Batch}
    {next : (ServerSig Batch).Reply op → Program (ServerSig Batch) α} :
    (serverCall op >>= next).Uses P ↔ P op ∧ ∀ reply, (next reply).Uses P := Iff.rfl

def lifecycleClient {α : Type} (p : Program LifecycleSig α) : Program (ServerSig Batch) α :=
  p.handle fun op => serverCall (.lifecycle op)

def bulkLoadTableLockPermissionDeniedError : ℕ := 297

def bulkLoadTableLockNonfatalErrorCode (error : ArrowError) : Option ℕ :=
  match error.errorClass with
  | .sqlExecution code => code.filter (· = bulkLoadTableLockPermissionDeniedError)
  | _ => none

variable [ArrowSqlServer]

def bulkLoadTableLockError (plan : MssqlTargetOutputPlan) (phase : MssqlWritePhase)
    (source : ArrowError) (partialWritePossible : Bool) : DeltaFunnelError :=
  .mssqlWritePhase (.fromOutputPlan plan phase 0 0 partialWritePossible .notAttempted)
    source.display

/-- `MssqlConnectedOutputClient` as a sink connection. -/
def connectedClient : (op : SinkOp Batch) → Program (ServerSig Batch) ((SinkSig Batch).Reply op)
  | .prepareTargetLifecycle plan => lifecycleClient (prepareMssqlTargetLifecycle plan)
  | .enableBulkLoadTableLock plan target => do
    match ← serverCall (.setBulkLoadTableLock target.tableName true) with
    | .ok () => return .ok true
    | .error source =>
      match bulkLoadTableLockNonfatalErrorCode source with
      | none => return .error (bulkLoadTableLockError plan .prepareTargetLifecycle source false)
      | some _ => return .ok false
  | .disableBulkLoadTableLock plan target => do
    match ← serverCall (.setBulkLoadTableLock target.tableName false) with
    | .ok () => return .ok ()
    | .error source => return .error (bulkLoadTableLockError plan .swapTarget source true)
  | .initializeWriter plan target options =>
    match ensurePreparedTargetAllowsWriter plan target with
    | .error error => return .error error
    | .ok () => do
      match ← serverCall (.bulkWriter target.tableName plan.schemaMappings options) with
      | .ok () => return .ok ⟨target.tableName⟩
      | .error source =>
        return .error (mssqlArrowSqlServerWriterInitializationError plan target.report.action
          target.report.cleanup source)
  | .nextBatch _ => return ()
  | .writeBatch writer batch => serverCall (.writeBatch writer.table batch)
  | .finish writer => serverCall (.finish writer.table)
  | .cleanupPreparedTarget plan target => lifecycleClient (cleanupMssqlPreparedTarget plan target)
  | .targetRowCount _ target => do
    match ← serverCall (.targetRowCount target.tableName) with
    | .ok rows => return .ok rows
    | .error source => return .error (.fromArrowSqlServer source)
  | .swapPreparedReplaceTarget plan target =>
    lifecycleClient (swapMssqlReplaceTarget plan target)

def runMssqlOutputOnServer [RecordBatch Batch] (plan : MssqlTargetOutputPlan)
    (batches : List (Except DeltaFunnelError Batch)) (options : MssqlWriteBackend)
    (validationOptions : ValidationOptions) (phaseTimings : List PhaseTimingReport) :
    Program (ServerSig Batch) (Except DeltaFunnelError MssqlWriteReport) :=
  (runMssqlOutputBatchesOnConnection plan batches options validationOptions phaseTimings).handle
    connectedClient

end DeltaFunnel
