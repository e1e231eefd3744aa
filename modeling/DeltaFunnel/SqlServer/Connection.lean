import DeltaFunnel.SqlServer.Lifecycle

/-! The connected sink boundary: the operations one output's sink issues on its connection,
its bulk writer and its batch stream. -/

namespace DeltaFunnel
open Interaction Program

inductive MssqlWriteBackend where
  | auto
  | baselineTokenRow
  | directFramedBulk
  | directRawBulk
  deriving DecidableEq, Repr

structure MssqlTargetRowCountFailure where
  reason : ReportReasonCode
  message : String
  deriving DecidableEq, Repr

namespace MssqlTargetRowCountFailure

def new (reason : ReportReasonCode) (message : String) : MssqlTargetRowCountFailure :=
  ⟨reason, sanitizeTextForDisplay message⟩

def fromArrowSqlServer (error : ArrowError) : MssqlTargetRowCountFailure :=
  let reason := match error.errorClass with
    | .targetRowCountQuery => .permissionUnavailable
    | .targetRowCountUnexpectedResult => .capabilityUnavailable
    | _ => .capabilityUnavailable
  new reason error.display

end MssqlTargetRowCountFailure

/-- A bulk writer opened on a connection, which loads one table. -/
structure MssqlBulkLoadWriter where
  table : TableName
  deriving DecidableEq, Repr

section Signature
variable [ArrowSqlServer] (Batch : Type)

/-- `MssqlOneOutputSinkConnection` and its writer. Polling the batch stream is
recorded with the item it yields, `none` at the end of the stream. -/
inductive SinkOp where
  | prepareTargetLifecycle (plan : MssqlTargetOutputPlan)
  | enableBulkLoadTableLock (plan : MssqlTargetOutputPlan) (target : MssqlPreparedTarget)
  | disableBulkLoadTableLock (plan : MssqlTargetOutputPlan) (target : MssqlPreparedTarget)
  | initializeWriter (plan : MssqlTargetOutputPlan) (target : MssqlPreparedTarget)
      (options : MssqlWriteBackend)
  | nextBatch (item : Option (Except DeltaFunnelError Batch))
  | writeBatch (writer : MssqlBulkLoadWriter) (batch : Batch)
  | finish (writer : MssqlBulkLoadWriter)
  | cleanupPreparedTarget (plan : MssqlTargetOutputPlan) (target : Option MssqlPreparedTarget)
  | targetRowCount (plan : MssqlTargetOutputPlan) (target : MssqlPreparedTarget)
  | swapPreparedReplaceTarget (plan : MssqlTargetOutputPlan) (target : MssqlPreparedTarget)

@[reducible] def SinkSig : Signature where
  Op := SinkOp Batch
  Reply
    | .prepareTargetLifecycle _ => Except DeltaFunnelError MssqlPreparedTarget
    | .enableBulkLoadTableLock _ _ => Except DeltaFunnelError Bool
    | .disableBulkLoadTableLock _ _ => Except DeltaFunnelError Unit
    | .initializeWriter _ _ _ => Except DeltaFunnelError MssqlBulkLoadWriter
    | .nextBatch _ => Unit
    | .writeBatch _ _ => Except ArrowError Unit
    | .finish _ => Except ArrowError Unit
    | .cleanupPreparedTarget _ _ => Except DeltaFunnelError MssqlTargetCleanupStatus
    | .targetRowCount _ _ => Except MssqlTargetRowCountFailure ℕ
    | .swapPreparedReplaceTarget _ _ => Except DeltaFunnelError Unit

end Signature

section Operations
variable [ArrowSqlServer] {Batch : Type}

def sinkCall (op : SinkOp Batch) : Program (SinkSig Batch) ((SinkSig Batch).Reply op) :=
  perform (σ := SinkSig Batch) op

@[simp] theorem sinkCall_bind {α : Type} (op : SinkOp Batch)
    (next : (SinkSig Batch).Reply op → Program (SinkSig Batch) α) :
    (sinkCall op >>= next) = .call op next := rfl

theorem runs_sinkCall {α : Type} {op : SinkOp Batch}
    {next : (SinkSig Batch).Reply op → Program (SinkSig Batch) α}
    {trace : List (Event (SinkSig Batch))} {a : α} :
    Runs (sinkCall op >>= next) trace a ↔
      ∃ reply rest, trace = ⟨op, reply⟩ :: rest ∧ Runs (next reply) rest a := runs_call

end Operations
end DeltaFunnel
