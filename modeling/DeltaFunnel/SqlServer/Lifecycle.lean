import DeltaFunnel.Interaction.Program
import DeltaFunnel.SqlServer.Plan

/-! Target lifecycle execution: preparing, cleaning up and swapping one planned target
through the statements of a lifecycle client. -/

namespace DeltaFunnel
open Interaction Program

inductive LifecycleOp where
  | tableExists (table : TableName)
  | executeStatement (statement : LifecycleStatement)
  deriving DecidableEq

/-- `MssqlTargetLifecycleClient`. -/
@[reducible] def LifecycleSig : Signature where
  Op := LifecycleOp
  Reply
    | .tableExists _ => Except ArrowError Bool
    | .executeStatement _ => Except ArrowError Unit

section Operations
variable {α : Type}

def tableExists (table : TableName) : Program LifecycleSig (Except ArrowError Bool) :=
  perform (σ := LifecycleSig) (.tableExists table)

def executeStatement (statement : LifecycleStatement) :
    Program LifecycleSig (Except ArrowError Unit) :=
  perform (σ := LifecycleSig) (.executeStatement statement)

theorem runs_tableExists {table : TableName}
    {next : Except ArrowError Bool → Program LifecycleSig α} {trace : List (Event LifecycleSig)}
    {a : α} :
    Runs (tableExists table >>= next) trace a ↔
      ∃ reply rest, trace = ⟨.tableExists table, reply⟩ :: rest ∧ Runs (next reply) rest a :=
  runs_call

theorem runs_executeStatement {statement : LifecycleStatement}
    {next : Except ArrowError Unit → Program LifecycleSig α} {trace : List (Event LifecycleSig)}
    {a : α} :
    Runs (executeStatement statement >>= next) trace a ↔
      ∃ reply rest, trace = ⟨.executeStatement statement, reply⟩ :: rest ∧
        Runs (next reply) rest a :=
  runs_call

end Operations

inductive MssqlPreparedTargetAction where
  | verifiedExisting
  | createdTable
  | createdStagingTable
  deriving DecidableEq, Repr

def MssqlPreparedTargetAction.cleanupStatus : MssqlPreparedTargetAction → MssqlTargetCleanupStatus
  | .verifiedExisting => .notApplicable
  | .createdTable | .createdStagingTable => .notAttempted

def MssqlPreparedTargetAction.debug : MssqlPreparedTargetAction → String
  | .verifiedExisting => "VerifiedExisting"
  | .createdTable => "CreatedTable"
  | .createdStagingTable => "CreatedStagingTable"

structure MssqlPreparedTargetReport where
  outputName : String
  targetTable : MssqlTargetTable
  loadMode : LoadMode
  connectionSource : MssqlConnectionSource
  connection : MssqlConnectionSummary
  expectedTargetState : MssqlTargetTableState
  action : MssqlPreparedTargetAction
  cleanup : MssqlTargetCleanupStatus
  deriving DecidableEq, Repr

structure MssqlPreparedTarget where
  tableName : TableName
  report : MssqlPreparedTargetReport
  deriving DecidableEq, Repr

variable [ArrowSqlServer]

def actionMatchesLoadMode : LoadMode → MssqlPreparedTargetAction → Bool
  | .appendExisting, .verifiedExisting => true
  | .createAndLoad, .createdTable => true
  | .replace, .createdStagingTable => true
  | _, _ => false

def ensureActionMatchesLoadMode (plan : MssqlTargetOutputPlan)
    (action : MssqlPreparedTargetAction) : Except DeltaFunnelError Unit :=
  if actionMatchesLoadMode plan.loadMode action then .ok ()
  else .error (.mssqlLifecyclePlanning plan.outputName
    "prepared target action does not match load mode")

def MssqlPreparedTargetReport.fromOutputPlan (plan : MssqlTargetOutputPlan)
    (action : MssqlPreparedTargetAction) : Except DeltaFunnelError MssqlPreparedTargetReport := do
  ensureActionMatchesLoadMode plan action
  return {
    outputName := plan.outputName
    targetTable := plan.targetTable
    loadMode := plan.loadMode
    connectionSource := plan.connectionSource
    connection := plan.connection
    expectedTargetState := plan.lifecyclePlan.expectedTargetState
    action
    cleanup := action.cleanupStatus }

namespace MssqlPreparedTarget

def fromTableName (plan : MssqlTargetOutputPlan) (tableName : TableName)
    (action : MssqlPreparedTargetAction) : Except DeltaFunnelError MssqlPreparedTarget := do
  let report ← MssqlPreparedTargetReport.fromOutputPlan plan action
  return { tableName, report }

def fromOutputPlan (plan : MssqlTargetOutputPlan) (action : MssqlPreparedTargetAction) :
    Except DeltaFunnelError MssqlPreparedTarget := do
  let tableName ← tableNameFromTarget plan.outputName plan.targetTable
  fromTableName plan tableName action

end MssqlPreparedTarget

def ensureLoadMode (plan : MssqlTargetOutputPlan) (mode : LoadMode) (message : String) :
    Except DeltaFunnelError Unit :=
  if plan.loadMode = mode then .ok () else .error (.mssqlLifecyclePlanning plan.outputName message)

def ensureAppendExistingOutput (plan : MssqlTargetOutputPlan) : Except DeltaFunnelError Unit :=
  ensureLoadMode plan .appendExisting
    "append-existing target preparation requires append-existing load mode"

def ensureCreateAndLoadOutput (plan : MssqlTargetOutputPlan) : Except DeltaFunnelError Unit :=
  ensureLoadMode plan .createAndLoad
    "create-and-load target preparation requires create-and-load load mode"

def ensureReplaceOutput (plan : MssqlTargetOutputPlan) : Except DeltaFunnelError Unit :=
  ensureLoadMode plan .replace "replace target preparation requires replace load mode"

def ensureLifecycleGuardrail (plan : MssqlTargetOutputPlan)
    (guardrail : MssqlLifecycleExecutionGuardrail) : Except DeltaFunnelError Unit :=
  if guardrail ∈ plan.lifecyclePlan.executionGuardrails then .ok ()
  else .error (.mssqlLifecyclePlanning plan.outputName
    ("target lifecycle plan does not allow " ++ guardrail.debug))

/-- The checks before the first statement, and the target's table name. -/
def checkedTableName (plan : MssqlTargetOutputPlan) (ensureMode : Except DeltaFunnelError Unit)
    (guardrails : List MssqlLifecycleExecutionGuardrail) : Except DeltaFunnelError TableName := do
  ensureMode
  guardrails.forM (ensureLifecycleGuardrail plan)
  tableNameFromTarget plan.outputName plan.targetTable

def preparedTargetMatchesOutputPlan (plan : MssqlTargetOutputPlan)
    (preparedTarget : MssqlPreparedTarget) : Bool :=
  let report := preparedTarget.report
  report.outputName = plan.outputName ∧ report.targetTable = plan.targetTable ∧
    report.loadMode = plan.loadMode ∧ report.connectionSource = plan.connectionSource ∧
    report.connection = plan.connection ∧
    report.expectedTargetState = plan.lifecyclePlan.expectedTargetState

def cleanupBeforeTargetCreation (plan : MssqlTargetOutputPlan) : MssqlTargetCleanupStatus :=
  match plan.loadMode with
  | .appendExisting => .notApplicable
  | .createAndLoad | .replace => .notAttempted

def prepareTargetLifecycleError (plan : MssqlTargetOutputPlan) (message : String) :
    DeltaFunnelError :=
  .mssqlWritePhase (.fromOutputPlan plan .prepareTargetLifecycle 0 0 false
    (cleanupBeforeTargetCreation plan)) message

def cleanupError (plan : MssqlTargetOutputPlan) (message : String) : DeltaFunnelError :=
  .mssqlWritePhase (.fromOutputPlan plan .cleanup 0 0 false .failed) message

def swapTargetError (plan : MssqlTargetOutputPlan) (message : String)
    (partialWritePossible : Bool) : DeltaFunnelError :=
  .mssqlWritePhase (.fromOutputPlan plan .swapTarget 0 0 partialWritePossible .notAttempted)
    message

def maxIdentifierChars : ℕ := 128

def replaceAuxiliaryTableName (plan : MssqlTargetOutputPlan) (suffix : String) :
    Except DeltaFunnelError TableName :=
  let maxBaseChars := maxIdentifierChars - suffix.toList.length
  let base := String.ofList (plan.targetTable.table.toList.take maxBaseChars)
  match TableName.ofParts plan.targetTable.schema (base ++ suffix) with
  | .ok name => .ok name
  | .error source => .error (.mssqlDdlTargetIdentifier plan.outputName source)

def replaceStagingTableName (plan : MssqlTargetOutputPlan) (attempt : ℕ) :
    Except DeltaFunnelError TableName :=
  replaceAuxiliaryTableName plan ("__df_replace_" ++ toString attempt)

def replaceBackupTableName (plan : MssqlTargetOutputPlan) (attempt : ℕ) :
    Except DeltaFunnelError TableName :=
  replaceAuxiliaryTableName plan ("__df_backup_" ++ toString attempt)

/-- Probes candidate names in order and takes the first that does not exist. -/
def availableReplaceTable (candidate : ℕ → Except DeltaFunnelError TableName)
    (probeError : ArrowError → DeltaFunnelError) (exhausted : DeltaFunnelError) :
    List ℕ → Program LifecycleSig (Except DeltaFunnelError TableName)
  | [] => return .error exhausted
  | attempt :: attempts =>
    match candidate attempt with
    | .error error => return .error error
    | .ok tableName => do
      match ← tableExists tableName with
      | .error source => return .error (probeError source)
      | .ok false => return .ok tableName
      | .ok true => availableReplaceTable candidate probeError exhausted attempts

def availableReplaceStagingTable (plan : MssqlTargetOutputPlan) :
    Program LifecycleSig (Except DeltaFunnelError TableName) :=
  availableReplaceTable (replaceStagingTableName plan)
    (fun source => prepareTargetLifecycleError plan source.display)
    (prepareTargetLifecycleError plan "could not find an available replace staging table name")
    (List.range 100)

def availableReplaceBackupTable (plan : MssqlTargetOutputPlan) :
    Program LifecycleSig (Except DeltaFunnelError TableName) :=
  availableReplaceTable (replaceBackupTableName plan)
    (fun source => swapTargetError plan source.display false)
    (swapTargetError plan "could not find an available replace backup table name" false)
    (List.range 100)

def prepareMssqlAppendExistingTarget (plan : MssqlTargetOutputPlan) :
    Program LifecycleSig (Except DeltaFunnelError MssqlPreparedTarget) :=
  match checkedTableName plan (ensureAppendExistingOutput plan)
      [.targetTableExistenceProbe] with
  | .error error => return .error error
  | .ok tableName => do
    match ← tableExists tableName with
    | .error source => return .error (prepareTargetLifecycleError plan source.display)
    | .ok false =>
      return .error (prepareTargetLifecycleError plan
        ("append-existing target table " ++ tableName.quotedSql ++ " does not exist"))
    | .ok true => return MssqlPreparedTarget.fromOutputPlan plan .verifiedExisting

def prepareMssqlCreateAndLoadTarget (plan : MssqlTargetOutputPlan) :
    Program LifecycleSig (Except DeltaFunnelError MssqlPreparedTarget) :=
  match checkedTableName plan (ensureCreateAndLoadOutput plan)
      [.targetTableExistenceProbe, .createTableDdlExecution] with
  | .error error => return .error error
  | .ok tableName => do
    match ← tableExists tableName with
    | .error source => return .error (prepareTargetLifecycleError plan source.display)
    | .ok true =>
      return .error (prepareTargetLifecycleError plan
        ("create-and-load target table " ++ tableName.quotedSql ++ " already exists"))
    | .ok false =>
      match plan.createTableSql with
      | none =>
        return .error (prepareTargetLifecycleError plan
          "create-and-load target preparation requires planned create-table SQL")
      | some createTableSql =>
        match ← executeStatement createTableSql with
        | .error source => return .error (prepareTargetLifecycleError plan source.display)
        | .ok () => return MssqlPreparedTarget.fromOutputPlan plan .createdTable

def prepareMssqlReplaceTarget (plan : MssqlTargetOutputPlan) :
    Program LifecycleSig (Except DeltaFunnelError MssqlPreparedTarget) :=
  match checkedTableName plan (ensureReplaceOutput plan)
      [.targetTableExistenceProbe, .createTableDdlExecution] with
  | .error error => return .error error
  | .ok finalTableName => do
    match ← tableExists finalTableName with
    | .error source => return .error (prepareTargetLifecycleError plan source.display)
    | .ok _ =>
      match ← availableReplaceStagingTable plan with
      | .error error => return .error error
      | .ok stagingTableName =>
        match ← executeStatement (.createTable stagingTableName plan.schemaMappings) with
        | .error source => return .error (prepareTargetLifecycleError plan source.display)
        | .ok () =>
          return MssqlPreparedTarget.fromTableName plan stagingTableName .createdStagingTable

def prepareMssqlTargetLifecycle (plan : MssqlTargetOutputPlan) :
    Program LifecycleSig (Except DeltaFunnelError MssqlPreparedTarget) :=
  match plan.loadMode with
  | .appendExisting => prepareMssqlAppendExistingTarget plan
  | .createAndLoad => prepareMssqlCreateAndLoadTarget plan
  | .replace => prepareMssqlReplaceTarget plan

def cleanupMssqlPreparedTarget (plan : MssqlTargetOutputPlan)
    (preparedTarget : Option MssqlPreparedTarget) :
    Program LifecycleSig (Except DeltaFunnelError MssqlTargetCleanupStatus) :=
  match preparedTarget with
  | none => return .ok (cleanupBeforeTargetCreation plan)
  | some preparedTarget =>
    if !preparedTargetMatchesOutputPlan plan preparedTarget then
      return .error (cleanupError plan "prepared target does not match output plan")
    else
      match preparedTarget.report.action with
      | .verifiedExisting => return .ok .notApplicable
      | .createdTable | .createdStagingTable => do
        match ← executeStatement (.dropTable preparedTarget.tableName) with
        | .error source => return .error (cleanupError plan source.display)
        | .ok () => return .ok .succeeded

def checkedSwapTableName (plan : MssqlTargetOutputPlan) (preparedTarget : MssqlPreparedTarget) :
    Except DeltaFunnelError TableName := do
  ensureReplaceOutput plan
  if !preparedTargetMatchesOutputPlan plan preparedTarget then
    throw (swapTargetError plan "prepared target does not match output plan" false)
  if preparedTarget.report.action ≠ .createdStagingTable then
    throw (swapTargetError plan "replace swap requires a prepared staging table" false)
  tableNameFromTarget plan.outputName plan.targetTable

theorem checkedSwapTableName_eq_ok {plan : MssqlTargetOutputPlan}
    {preparedTarget : MssqlPreparedTarget} {name : TableName}
    (h : checkedSwapTableName plan preparedTarget = .ok name) : name = plan.finalTableName := by
  obtain ⟨_, -, h⟩ := except_bind_eq_ok.1 h
  by_cases hmatches : preparedTargetMatchesOutputPlan plan preparedTarget
  · by_cases haction : preparedTarget.report.action = .createdStagingTable
    · simp only [hmatches, haction] at h
      exact tableNameFromTarget_eq_ok h
    · simp only [hmatches, ne_eq, haction, not_false_eq_true, if_true] at h
      cases h
  · simp only [hmatches] at h
    cases h

def swapMssqlReplaceTarget (plan : MssqlTargetOutputPlan) (preparedTarget : MssqlPreparedTarget) :
    Program LifecycleSig (Except DeltaFunnelError Unit) :=
  match checkedSwapTableName plan preparedTarget with
  | .error error => return .error error
  | .ok finalTableName => do
    match ← availableReplaceBackupTable plan with
    | .error error => return .error error
    | .ok backupTableName =>
      let swap := .replaceSwap finalTableName preparedTarget.tableName backupTableName
      match ← executeStatement swap with
      | .error source => return .error (swapTargetError plan source.display true)
      | .ok () => return .ok ()

end DeltaFunnel
