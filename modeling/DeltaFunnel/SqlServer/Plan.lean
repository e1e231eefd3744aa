import DeltaFunnel.Error

/-! Planning of one SQL Server output. A plan carries the fact that planning produced it. -/

namespace DeltaFunnel

structure MssqlSchemaPlan where
  target : MssqlTargetSummary
  mappings : List SchemaMapping
  deriving DecidableEq, Repr

/-- The SQL statements of a target's lifecycle. Their text is determined by these arguments. -/
inductive LifecycleStatement where
  | createTable (table : TableName) (mappings : List SchemaMapping)
  | dropTable (table : TableName)
  | replaceSwap (finalTable stagingTable backupTable : TableName)
  deriving DecidableEq, Repr

structure MssqlDdlPlan where
  target : MssqlTargetSummary
  createTableSqlPresent : Bool
  createTableSql : Option LifecycleStatement
  deriving DecidableEq, Repr

inductive MssqlTargetTableState where
  | exists
  | absent
  | existsOrAbsent
  deriving DecidableEq, Repr

inductive MssqlLifecycleGuardrailPolicy where
  | allowedAfterPlanning
  | forbiddenAfterPlanningFailure
  deriving DecidableEq, Repr

inductive MssqlLifecycleExecutionGuardrail where
  | deltaSourceScanExecution
  | dataFusionPhysicalPlanExecution
  | sqlServerConnectionAttempt
  | targetTableExistenceProbe
  | createTableDdlExecution
  | bulkWriterConstruction
  | recordBatchHandoffPolling
  deriving DecidableEq, Repr

def MssqlLifecycleExecutionGuardrail.debug : MssqlLifecycleExecutionGuardrail → String
  | .deltaSourceScanExecution => "DeltaSourceScanExecution"
  | .dataFusionPhysicalPlanExecution => "DataFusionPhysicalPlanExecution"
  | .sqlServerConnectionAttempt => "SqlServerConnectionAttempt"
  | .targetTableExistenceProbe => "TargetTableExistenceProbe"
  | .createTableDdlExecution => "CreateTableDdlExecution"
  | .bulkWriterConstruction => "BulkWriterConstruction"
  | .recordBatchHandoffPolling => "RecordBatchHandoffPolling"

structure MssqlLifecyclePlan where
  target : MssqlTargetSummary
  expectedTargetState : MssqlTargetTableState
  createTableSqlRequired : Bool
  createTableSqlPresent : Bool
  executableInMvp : Bool
  guardrailPolicy : MssqlLifecycleGuardrailPolicy
  executionGuardrails : List MssqlLifecycleExecutionGuardrail
  deriving DecidableEq, Repr

def appendExistingExecutionGuardrails : List MssqlLifecycleExecutionGuardrail :=
  [.sqlServerConnectionAttempt, .targetTableExistenceProbe, .bulkWriterConstruction,
    .deltaSourceScanExecution, .dataFusionPhysicalPlanExecution, .recordBatchHandoffPolling]

def createAndLoadExecutionGuardrails : List MssqlLifecycleExecutionGuardrail :=
  [.sqlServerConnectionAttempt, .targetTableExistenceProbe, .createTableDdlExecution,
    .bulkWriterConstruction, .deltaSourceScanExecution, .dataFusionPhysicalPlanExecution,
    .recordBatchHandoffPolling]

def replaceExecutionGuardrails : List MssqlLifecycleExecutionGuardrail :=
  [.sqlServerConnectionAttempt, .targetTableExistenceProbe, .createTableDdlExecution,
    .bulkWriterConstruction, .deltaSourceScanExecution, .dataFusionPhysicalPlanExecution,
    .recordBatchHandoffPolling]

section Planning
variable [ArrowSqlServer]

def tableNameFromTarget (outputName : String) (table : MssqlTargetTable) :
    Except DeltaFunnelError TableName :=
  match TableName.ofParts table.schema table.table with
  | .ok name => .ok name
  | .error source => .error (.mssqlDdlTargetIdentifier outputName source)

theorem tableNameFromTarget_eq_ok {outputName : String} {table : MssqlTargetTable}
    {name : TableName} (h : tableNameFromTarget outputName table = .ok name) :
    name = ⟨table.schema, table.table⟩ := by
  unfold tableNameFromTarget at h
  split at h
  · next heq =>
    rw [← Except.ok.inj h]
    exact TableName.ofParts_eq_ok heq
  · cases h

def emptyMappingsError (target : MssqlTargetSummary) : DeltaFunnelError :=
  .mssqlDdlPlanning target.outputName "create-table DDL requires at least one schema mapping"

def planMssqlCreateTableDdl (schemaPlan : MssqlSchemaPlan) :
    Except DeltaFunnelError MssqlDdlPlan :=
  let target := schemaPlan.target
  match target.loadMode with
  | .appendExisting => .ok ⟨target, false, none⟩
  | .createAndLoad =>
    if schemaPlan.mappings.isEmpty then .error (emptyMappingsError target)
    else
      match tableNameFromTarget target.outputName target.table with
      | .error error => .error error
      | .ok table => .ok ⟨target, true, some (.createTable table schemaPlan.mappings)⟩
  | .replace =>
    if schemaPlan.mappings.isEmpty then .error (emptyMappingsError target)
    else
      match tableNameFromTarget target.outputName target.table with
      | .error error => .error error
      | .ok _ => .ok ⟨target, true, none⟩

end Planning

def lifecycleError (target : MssqlTargetSummary) (message : String) : DeltaFunnelError :=
  .mssqlLifecyclePlanning target.outputName message

def planAppendExistingLifecycle (target : MssqlTargetSummary) (ddlPlan : Option MssqlDdlPlan) :
    Except DeltaFunnelError MssqlLifecyclePlan :=
  if (ddlPlan.bind MssqlDdlPlan.createTableSql).isSome then
    .error (lifecycleError target "append-existing lifecycle must not carry create-table SQL")
  else
    .ok ⟨target, .exists, false, false, true, .allowedAfterPlanning,
      appendExistingExecutionGuardrails⟩

def planCreateAndLoadLifecycle (target : MssqlTargetSummary) (ddlPlan : Option MssqlDdlPlan) :
    Except DeltaFunnelError MssqlLifecyclePlan :=
  let createTableSqlPresent := (ddlPlan.bind MssqlDdlPlan.createTableSql).isSome
  if !createTableSqlPresent then
    .error (lifecycleError target "create-and-load lifecycle requires planned create-table SQL")
  else
    .ok ⟨target, .absent, true, createTableSqlPresent, true, .allowedAfterPlanning,
      createAndLoadExecutionGuardrails⟩

def planReplaceLifecycle (target : MssqlTargetSummary) (ddlPlan : Option MssqlDdlPlan) :
    Except DeltaFunnelError MssqlLifecyclePlan :=
  let createTableSqlPresent := (ddlPlan.map MssqlDdlPlan.createTableSqlPresent).getD false
  if !createTableSqlPresent then
    .error (lifecycleError target "replace lifecycle requires planned create-table SQL")
  else
    .ok ⟨target, .existsOrAbsent, true, createTableSqlPresent, true, .allowedAfterPlanning,
      replaceExecutionGuardrails⟩

def ensureMatchingTarget (schemaTarget ddlTarget : MssqlTargetSummary) :
    Except DeltaFunnelError Unit :=
  if schemaTarget.outputName ≠ ddlTarget.outputName ∨ schemaTarget.table ≠ ddlTarget.table ∨
      schemaTarget.connectionSource ≠ ddlTarget.connectionSource ∨
      schemaTarget.connection ≠ ddlTarget.connection then
    .error (lifecycleError schemaTarget "schema plan and DDL plan targets must match")
  else .ok ()

def planMssqlLifecycle (schemaPlan : MssqlSchemaPlan) (ddlPlan : Option MssqlDdlPlan) :
    Except DeltaFunnelError MssqlLifecyclePlan := do
  let target := schemaPlan.target
  if let some ddl := ddlPlan then ensureMatchingTarget target ddl.target
  match target.loadMode with
  | .appendExisting => planAppendExistingLifecycle target ddlPlan
  | .createAndLoad => planCreateAndLoadLifecycle target ddlPlan
  | .replace => planReplaceLifecycle target ddlPlan

section OutputPlan
variable [ArrowSqlServer]

/-- The fields are private to planning, so every plan in existence satisfies the last two. -/
structure MssqlTargetOutputPlan where
  schemaPlan : MssqlSchemaPlan
  ddlPlan : MssqlDdlPlan
  lifecyclePlan : MssqlLifecyclePlan
  ddl_planned : planMssqlCreateTableDdl schemaPlan = .ok ddlPlan
  lifecycle_planned : planMssqlLifecycle schemaPlan (some ddlPlan) = .ok lifecyclePlan

def planMssqlTargetOutput (schemaPlan : MssqlSchemaPlan) :
    Except DeltaFunnelError MssqlTargetOutputPlan :=
  match hddl : planMssqlCreateTableDdl schemaPlan with
  | .error error => .error error
  | .ok ddlPlan =>
    match hlifecycle : planMssqlLifecycle schemaPlan (some ddlPlan) with
    | .error error => .error error
    | .ok lifecyclePlan => .ok ⟨schemaPlan, ddlPlan, lifecyclePlan, hddl, hlifecycle⟩

namespace MssqlTargetOutputPlan
variable (plan : MssqlTargetOutputPlan)

def target : MssqlTargetSummary := plan.schemaPlan.target
def outputName : String := plan.target.outputName
def targetTable : MssqlTargetTable := plan.target.table
def loadMode : LoadMode := plan.target.loadMode
def connectionSource : MssqlConnectionSource := plan.target.connectionSource
def connection : MssqlConnectionSummary := plan.target.connection
def schemaMappings : List SchemaMapping := plan.schemaPlan.mappings
def createTableSql : Option LifecycleStatement := plan.ddlPlan.createTableSql

/-- The name of the target table itself, which planning has not necessarily validated. -/
def finalTableName : TableName := ⟨plan.targetTable.schema, plan.targetTable.table⟩

theorem createTableSql_of_createAndLoad (h : plan.loadMode = .createAndLoad) :
    plan.createTableSql = some (.createTable plan.finalTableName plan.schemaMappings) := by
  have hddl := plan.ddl_planned
  have hmode : plan.schemaPlan.target.loadMode = .createAndLoad := h
  simp only [planMssqlCreateTableDdl, hmode] at hddl
  split_ifs at hddl
  split at hddl
  · cases hddl
  · next table htable =>
    have hname := tableNameFromTarget_eq_ok htable
    rw [createTableSql, ← Except.ok.inj hddl, hname]
    rfl

end MssqlTargetOutputPlan

def MssqlWriteReport.fromOutputPlanWithMetrics (plan : MssqlTargetOutputPlan)
    (metrics : MssqlWriteReportMetrics) : MssqlWriteReport :=
  { outputName := plan.outputName
    targetTable := plan.targetTable
    loadMode := plan.loadMode
    connectionSource := plan.connectionSource
    connection := plan.connection
    outputSchema := plan.schemaMappings.map MssqlOutputFieldReport.fromMapping
    outputRowCount := metrics.outputRowCount
    targetRowCountBeforeWrite := metrics.targetRowCountBeforeWrite
    targetRowCount := metrics.targetRowCount
    validationStatus := metrics.validationStatus
    batchShaping := metrics.batchShaping
    phaseTimings := metrics.phaseTimings
    stats := ⟨plan.outputName, metrics.rowsWritten, metrics.batchesWritten⟩
    partialWritePossible := metrics.partialWritePossible
    cleanup := metrics.cleanup }

def MssqlWriteFailureContext.fromOutputPlanWithMetrics (plan : MssqlTargetOutputPlan)
    (phase : MssqlWritePhase) (metrics : MssqlWriteReportMetrics) : MssqlWriteFailureContext :=
  ⟨phase, .fromOutputPlanWithMetrics plan metrics, [], none⟩

def MssqlWriteFailureContext.fromOutputPlan (plan : MssqlTargetOutputPlan)
    (phase : MssqlWritePhase) (rowsWritten batchesWritten : ℕ) (partialWritePossible : Bool)
    (cleanup : MssqlTargetCleanupStatus) : MssqlWriteFailureContext :=
  .fromOutputPlanWithMetrics plan phase <|
    .new (.partialCount rowsWritten)
      (.failed batchesWritten rowsWritten batchesWritten rowsWritten)
      rowsWritten batchesWritten partialWritePossible cleanup

end OutputPlan

@[reducible] def acceptingDriver : ArrowSqlServer := ⟨fun _ => .ok ()⟩

def ordersSchemaPlan (loadMode : LoadMode) : MssqlSchemaPlan :=
  { target :=
      { outputName := "orders_output"
        table := ⟨some "dbo", "orders"⟩
        loadMode
        connectionSource := .contextDefault
        connection := ⟨some "warehouse-primary"⟩ }
    mappings := [⟨0, "order_id", "Int64", false, "bigint"⟩] }

def ordersAppendPlan : @MssqlTargetOutputPlan acceptingDriver :=
  letI := acceptingDriver
  { schemaPlan := ordersSchemaPlan .appendExisting
    ddlPlan := ⟨(ordersSchemaPlan .appendExisting).target, false, none⟩
    lifecyclePlan :=
      ⟨(ordersSchemaPlan .appendExisting).target, .exists, false, false, true,
        .allowedAfterPlanning, appendExistingExecutionGuardrails⟩
    ddl_planned := rfl
    lifecycle_planned := rfl }

def ordersReplacePlan : @MssqlTargetOutputPlan acceptingDriver :=
  letI := acceptingDriver
  { schemaPlan := ordersSchemaPlan .replace
    ddlPlan := ⟨(ordersSchemaPlan .replace).target, true, none⟩
    lifecyclePlan :=
      ⟨(ordersSchemaPlan .replace).target, .existsOrAbsent, true, true, true,
        .allowedAfterPlanning, replaceExecutionGuardrails⟩
    ddl_planned := rfl
    lifecycle_planned := rfl }

end DeltaFunnel
