import DeltaFunnel.SqlServer.Workflow
import DeltaFunnel.SqlServer.Write
import DeltaFunnel.WriteAll.CacheAlias

/-! The cached route of `write_all`: aliases are replaced, every output is read from the cache,
replanned from its SQL or read as it was, and the aliases are restored. -/

namespace DeltaFunnel
open Interaction

def queryDataframePlanningPhase : String := "query_dataframe_planning"
def queryPhysicalPlanningPhase : String := "query_physical_planning"
def queryStreamSetupPhase : String := "query_stream_setup"

def queryPhaseNames : List String :=
  [queryDataframePlanningPhase, queryPhysicalPlanningPhase, queryStreamSetupPhase]

variable [ArrowSqlServer] {Provider Schema DataFrame Rows : Type}

structure PlannedMssqlOutput where
  request : OutputWritePlan
  resolvedTarget : ResolvedMssqlTarget
  outputPlan : MssqlTargetOutputPlan
  phaseTimings : List PhaseTimingReport

def cachedOutputStreamSetupError (outputName message : String) : DeltaFunnelError :=
  .mssqlWorkflowPlanning ("cached output stream setup failed for `" ++
    sanitizeTextForDisplay outputName ++ "`: " ++ sanitizeTextForDisplay message)

def datafusionHandoffSetupError (option error : String) : DeltaFunnelError :=
  .batchPipeline .handoffSetup option error

def mssqlOutputQueryError (planned : PlannedMssqlOutput) (phase : MssqlWritePhase)
    (queryPhaseTimings : List PhaseTimingReport) (timer : String) (source : DeltaFunnelError) :
    MssqlOutputQueryError :=
  let failed := queryPhaseTimings ++ [.failed timer]
  let queryPhaseTimings := failed ++ (queryPhaseNames.drop failed.length).map
    (PhaseTimingReport.notStarted · .priorFailure)
  let cleanup : MssqlTargetCleanupStatus := match planned.outputPlan.loadMode with
    | .appendExisting => .notApplicable
    | .createAndLoad | .replace => .notAttempted
  let context := (MssqlWriteFailureContext.fromOutputPlan planned.outputPlan phase 0 0 false
    cleanup).withPhaseTimings (planned.phaseTimings ++ queryPhaseTimings)
  ⟨.mssqlQueryPhase context source, queryPhaseTimings⟩

/-- Physical planning and stream setup for a planned query. -/
def createMssqlOutputQueryExecutionFromDataframe (planned : PlannedMssqlOutput)
    (dataframe : DataFrame) (queryPhaseTimings : List PhaseTimingReport) :
    SessionProgram Provider Schema DataFrame Rows
      (Except MssqlOutputQueryError (MssqlOutputQueryExecution DataFrame)) := do
  match ← sessionCall (.createPhysicalPlan dataframe) with
  | .error error =>
    return .error (mssqlOutputQueryError planned .queryPhysicalPlanning queryPhaseTimings
      queryPhysicalPlanningPhase (datafusionHandoffSetupError "physical_plan" error))
  | .ok () =>
    let plannedTimings := queryPhaseTimings ++ [.completed queryPhysicalPlanningPhase]
    match ← sessionCall (.startOutputStream dataframe) with
    | .error source =>
      return .error (mssqlOutputQueryError planned .queryStreamSetup plannedTimings
        queryStreamSetupPhase source)
    | .ok () =>
      return .ok ⟨dataframe, plannedTimings ++ [.completed queryStreamSetupPhase], none⟩

def failingCachedOutputQueryFactory (outputName : String) (error : DeltaFunnelError) :
    SessionProgram Provider Schema DataFrame Rows
      (Except MssqlOutputQueryError (MssqlOutputQueryExecution DataFrame)) :=
  return .error ⟨cachedOutputStreamSetupError outputName error.display, []⟩

def validateMssqlOutputSchema (engine : QueryEngine Provider Schema DataFrame)
    (outputPlan : MssqlTargetOutputPlan) (schema : Schema) : Except DeltaFunnelError Unit :=
  match engine.validateSchemaAgainstMappings schema outputPlan.schemaMappings with
  | .ok () => .ok ()
  | .error source =>
    .error (mssqlBatchSchemaValidationError outputPlan source
      (.new .unavailable (.notStarted .notExecuted) 0 0 false .notApplicable))

def validateReplannedOutputSchema (engine : QueryEngine Provider Schema DataFrame)
    (outputName : String) (outputPlan : MssqlTargetOutputPlan)
    (replannedSchema expectedSchema : Schema) : Except DeltaFunnelError Unit :=
  match validateMssqlOutputSchema engine outputPlan replannedSchema with
  | .ok () => .ok ()
  | .error validationError =>
    .error (cachedOutputStreamSetupError outputName
      ("replanned output schema is incompatible with the planned SQL Server output: " ++
        engine.replanDiagnostic validationError expectedSchema replannedSchema))

def createCachedOutputQueryExecutionFromRetainedSql
    (engine : QueryEngine Provider Schema DataFrame) (planned : PlannedMssqlOutput)
    (sqlText : String) (expectedSchema : Schema) :
    SessionProgram Provider Schema DataFrame Rows
      (Except MssqlOutputQueryError (MssqlOutputQueryExecution DataFrame)) := do
  match ← engine.sqlWithOptions sqlText with
  | .error error =>
    return .error (mssqlOutputQueryError planned .queryDataFramePlanning []
      queryDataframePlanningPhase
      (cachedOutputStreamSetupError planned.resolvedTarget.outputName error))
  | .ok dataframe =>
    match validateReplannedOutputSchema engine planned.resolvedTarget.outputName
      planned.outputPlan (engine.schema dataframe) expectedSchema with
    | .error error =>
      return .error (mssqlOutputQueryError planned .queryDataFramePlanning []
        queryDataframePlanningPhase error)
    | .ok () =>
      createMssqlOutputQueryExecutionFromDataframe planned dataframe
        [.completed queryDataframePlanningPhase]

namespace Session
variable (engine : QueryEngine Provider Schema DataFrame) (session : Session Provider Schema)

def schemaForLazyTable (table : LazyTable) : Except DeltaFunnelError Schema :=
  let schema := match table.kind with
    | .deltaSource =>
      (session.sources.find? fun source => source.table.id = table.id).map (·.schema)
    | .derivedSql =>
      match session.registeredDerivedTableById table.id with
      | some derived => some derived.schema
      | none => (session.pendingDerivedTableById table.id).map (·.schema)
  match schema with
  | some schema => .ok schema
  | none => .error (unknownLazyTableError table)

def sqlTextForDerivedTable (table : LazyTable) : Except DeltaFunnelError String :=
  if table.kind ≠ .derivedSql then .error (unknownLazyTableError table)
  else
    match session.registeredDerivedTableById table.id with
    | some derived => .ok derived.sqlText
    | none =>
      match session.pendingDerivedTableById table.id with
      | some pending => .ok pending.sqlText
      | none => .error (unknownLazyTableError table)

/-- The scan of a table under its name in the catalog. -/
def registeredTableDataframe (name : String) :
    SessionProgram Provider Schema DataFrame Rows (Except DeltaFunnelError DataFrame) := do
  match ← engine.table name with
  | .error error => return .error (datafusionHandoffSetupError "registered_table" error)
  | .ok dataframe => return .ok dataframe

/-- A registered table is read through the catalog, a pending one from its own provider. -/
def dataframeForLazyTable (table : LazyTable) :
    SessionProgram Provider Schema DataFrame Rows (Except DeltaFunnelError DataFrame) :=
  match table.kind with
  | .deltaSource =>
    match session.sources.find? fun source => source.table.id = table.id with
    | none => return .error (unknownLazyTableError table)
    | some source => registeredTableDataframe engine source.name
  | .derivedSql =>
    match session.registeredDerivedTableById table.id with
    | some derived => registeredTableDataframe engine derived.name
    | none =>
      match session.pendingDerivedTableById table.id with
      | none => return .error (unknownLazyTableError table)
      | some pending =>
        match engine.readTable pending.provider with
        | .error error => return .error (datafusionHandoffSetupError "pending_table" error)
        | .ok dataframe => return .ok dataframe

def createMssqlOutputQueryExecution (planned : PlannedMssqlOutput) :
    SessionProgram Provider Schema DataFrame Rows
      (Except MssqlOutputQueryError (MssqlOutputQueryExecution DataFrame)) := do
  match ← session.dataframeForLazyTable engine planned.request.table with
  | .error source =>
    return .error (mssqlOutputQueryError planned .queryDataFramePlanning []
      queryDataframePlanningPhase source)
  | .ok dataframe =>
    createMssqlOutputQueryExecutionFromDataframe planned dataframe
      [.completed queryDataframePlanningPhase]

/-- An output that is itself cached, or that reads no cached alias, is not replanned. -/
def outputRequiresCacheReplan (request : OutputWritePlan)
    (activeAliases : List MssqlDerivedCacheAliasPlan) : Except DeltaFunnelError Bool :=
  if activeAliases.isEmpty then .ok false
  else
    match activeAliases.find? fun activeAlias =>
      (session.registeredDerivedTableById activeAlias.tableId).isNone with
    | some activeAlias => .error (unknownCachedAliasError activeAlias)
    | none =>
      if activeAliases.any fun activeAlias => request.table.id = activeAlias.tableId then .ok false
      else if request.table.kind = .deltaSource then .ok false
      else
        match session.transitiveRegisteredDerivedDependencies request.table with
        | .error error => .error error
        | .ok dependencies =>
          .ok (activeAliases.any fun activeAlias =>
            dependencies.any (isRegisteredDerived activeAlias.tableId))

/-- The deferred query of one output while the aliases are replaced. -/
def cachedOutputQueryFactory (planned : PlannedMssqlOutput)
    (activeAliases : List MssqlDerivedCacheAliasPlan) :
    Except DeltaFunnelError (SessionProgram Provider Schema DataFrame Rows
      (Except MssqlOutputQueryError (MssqlOutputQueryExecution DataFrame))) :=
  match session.outputRequiresCacheReplan planned.request activeAliases with
  | .error error => .error error
  | .ok false => .ok (session.createMssqlOutputQueryExecution engine planned)
  | .ok true =>
    let outputName := planned.request.target.outputName
    match session.sqlTextForDerivedTable planned.request.table with
    | .error error => .ok (failingCachedOutputQueryFactory outputName error)
    | .ok sqlText =>
      match session.schemaForLazyTable planned.request.table with
      | .error error => .ok (failingCachedOutputQueryFactory outputName error)
      | .ok expectedSchema =>
        .ok (createCachedOutputQueryExecutionFromRetainedSql engine planned sqlText
          expectedSchema)

def buildWriteAllJob (planned : PlannedMssqlOutput) (outputSchema : Schema)
    (createQueryExecution : SessionProgram Provider Schema DataFrame Rows
      (Except MssqlOutputQueryError (MssqlOutputQueryExecution DataFrame))) :
    MssqlOutputWriteJob (sessionSignature Provider Schema DataFrame Rows) Schema DataFrame :=
  ⟨outputSchema, planned.resolvedTarget.summary, createQueryExecution, planned.phaseTimings⟩

/-- The first output that cannot be set up fails them all. -/
def buildWriteAllCachedJobs (activeAliases : List MssqlDerivedCacheAliasPlan) :
    List PlannedMssqlOutput → Except DeltaFunnelError
      (List (MssqlOutputWriteJob (sessionSignature Provider Schema DataFrame Rows) Schema
        DataFrame))
  | [] => .ok []
  | planned :: plannedOutputs => do
    let outputSchema ← session.schemaForLazyTable planned.request.table
    let createQueryExecution ← session.cachedOutputQueryFactory engine planned activeAliases
    let jobs ← buildWriteAllCachedJobs activeAliases plannedOutputs
    return buildWriteAllJob planned outputSchema createQueryExecution :: jobs

/-- The writer that hands every output to the environment. -/
def sessionWriter (reportsSqlWritePhase : Bool) :
    MssqlWorkflowOutputWriter (sessionSignature Provider Schema DataFrame Rows) Schema DataFrame :=
  ⟨reportsSqlWritePhase, fun schema target stream => sessionCall (.writeOutput schema target stream)⟩

def writeAllCached (plannedOutputs : List PlannedMssqlOutput)
    (cacheAliases : List MssqlDerivedCacheAliasPlan) (options : MssqlWorkflowWriteOptions)
    (reportsSqlWritePhase : Bool) :
    SessionProgram Provider Schema DataFrame Rows
      (Except DeltaFunnelError (MssqlWorkflowWriteReport × List WriteAllCacheAliasReport)) := do
  match ← session.replaceMssqlCacheAliases engine cacheAliases with
  | .error error => return .error error
  | .ok replacements =>
    match session.buildWriteAllCachedJobs engine cacheAliases plannedOutputs with
    | .error error => do
      let error ← restoreCacheAliasesAfterFailure error replacements none
      return .error error
    | .ok jobs => do
      let writeResult ← writeMssqlOutputsWithWriter jobs options
        (sessionWriter reportsSqlWritePhase)
      let (aliasReports, restoreResult) ← restoreMssqlCacheAliasesWithReports replacements
      match writeResult, restoreResult with
      | .ok report, .ok () => return .ok (report, aliasReports)
      | .ok report, .error (tableId, restoreError) =>
        return .error (writeAllCacheFailure restoreError aliasReports (some tableId) (some report))
      | .error writeError, _ =>
        return .error (writeAllCacheFailure writeError aliasReports none none)

end Session
end DeltaFunnel
