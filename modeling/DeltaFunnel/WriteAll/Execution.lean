import DeltaFunnel.SqlServer.OutputPlanning
import DeltaFunnel.SqlServer.WorkflowTrace
import DeltaFunnel.WriteAll.CachePlan
import DeltaFunnel.WriteAll.SourceUsage

/-! One `write_all` from its requests to its report: checks, output and cache planning, the route
with or without caches, and the source reports. -/

namespace DeltaFunnel
open Collections Interaction

inductive WriteAllCacheMode where
  | auto
  | disabled
  | explicit
  deriving DecidableEq, Repr

structure WriteAllOptions where
  cacheMode : WriteAllCacheMode
  cacheAliases : Option (List String)
  deriving DecidableEq, Repr

def WriteAllCacheMode.caching : WriteAllCacheMode → String
  | .auto => "automatic"
  | .disabled => "disabled"
  | .explicit => "explicit"

def validateWriteAllOptions (options : WriteAllOptions) : Except DeltaFunnelError Unit :=
  if options.cacheAliases = some [] then
    .error (.mssqlWorkflowPlanning "write_all cache_aliases must not be empty")
  else
    match options.cacheMode, options.cacheAliases with
    | .explicit, none =>
      .error (.mssqlWorkflowPlanning "write_all explicit caching requires cache_aliases")
    | .auto, some _ | .disabled, some _ =>
      .error (.mssqlWorkflowPlanning ("write_all cache_aliases cannot be combined with " ++
        options.cacheMode.caching ++ " caching"))
    | .explicit, some _ | .auto, none | .disabled, none => .ok ()

/-- The loop over the output names, after those in `names`. -/
def uniqueOutputNamesFrom : List String → List OutputWritePlan → Except DeltaFunnelError Unit
  | _, [] => .ok ()
  | names, request :: requests =>
    if request.target.outputName ∈ names then
      .error (.mssqlWorkflowPlanning ("write_all output names must be unique; duplicate output " ++
        "name `" ++ sanitizeTextForDisplay request.target.outputName ++ "`"))
    else uniqueOutputNamesFrom (BTreeSet.insert compare request.target.outputName names) requests

def ensureUniqueWriteAllOutputNames (requests : List OutputWritePlan) :
    Except DeltaFunnelError Unit := uniqueOutputNamesFrom [] requests

def ensureWriteAllExecuteRunMode : RunMode → Except DeltaFunnelError Unit
  | .execute => .ok ()
  | .dryRun =>
    .error (.mssqlWorkflowPlanning ("write_all requires RunMode::Execute; use " ++
      "dry_run_all_to_mssql for dry-run planning"))

def validateWriteAllRequests (requests : List OutputWritePlan) : Except DeltaFunnelError Unit := do
  ensureUniqueWriteAllOutputNames requests
  requests.forM fun request => ensureWriteAllExecuteRunMode request.target.runMode

/-- The planner's own reasons and skips, as the report repeats them. -/
inductive WriteAllCacheReport where
  | disabled
  | noCache (reason : MssqlNoCacheReason) (skippedCandidates : List MssqlCacheCandidateSkip)
  | cacheAliases (aliases : List WriteAllCacheAliasReport)
      (skippedCandidates : List MssqlCacheCandidateSkip)
  deriving DecidableEq, Repr

def WriteAllCacheReport.fromPlan (plan : MssqlOutputCachePlan) : WriteAllCacheReport :=
  match plan.decision with
  | .noCache reason => .noCache reason plan.skippedCandidates
  | .cacheAliases aliases =>
    .cacheAliases (aliases.map fun cacheAlias =>
      ⟨cacheAlias.tableId, cacheAlias.aliasName, cacheAlias.outputIndexes, .selected, [], none⟩)
      plan.skippedCandidates

def WriteAllCacheReport.fromExecutedPlan (plan : MssqlOutputCachePlan)
    (aliases : List WriteAllCacheAliasReport) : WriteAllCacheReport :=
  match plan.decision with
  | .noCache reason => .noCache reason plan.skippedCandidates
  | .cacheAliases _ => .cacheAliases aliases plan.skippedCandidates

structure WriteAllReport where
  workflow : MssqlWorkflowWriteReport
  cache : WriteAllCacheReport
  sources : List Session.DeltaSourceReport
  phaseTimings : List PhaseTimingReport
  deriving DecidableEq, Repr

def WriteAllReport.allSucceeded (report : WriteAllReport) : Bool := report.workflow.allSucceeded

def outputPlanningPhase : String := "output_planning"
def cachePlanningPhase : String := "cache_planning"
def workflowExecutionPhase : String := "workflow_execution"
def sourceReportingPhase : String := "source_reporting"

section Execution
variable [ArrowSqlServer] {Provider Schema DataFrame Rows : Type}

/-- What a `write_all` finds in its session and its writer. -/
structure WriteAllSetup (Provider Schema DataFrame : Type) where
  engine : QueryEngine Provider Schema DataFrame
  planner : SchemaPlanner Schema
  session : Session Provider Schema
  tableTimings : ℕ → List PhaseTimingReport
  defaultConnection : Option MssqlConnectionConfig
  workflowOptions : MssqlWorkflowWriteOptions
  reportsSqlWritePhase : Bool

namespace WriteAllSetup
variable (setup : WriteAllSetup Provider Schema DataFrame)

def planOutput (request : OutputWritePlan) : Except DeltaFunnelError PlannedMssqlOutput :=
  setup.session.planMssqlOutput setup.planner setup.tableTimings setup.defaultConnection request

def planWriteOutputs (requests : List OutputWritePlan) :
    Except DeltaFunnelError (List PlannedMssqlOutput) := requests.mapM setup.planOutput

def planCache (requests : List OutputWritePlan) (options : WriteAllOptions) :
    Except DeltaFunnelError (Option MssqlOutputCachePlan × PhaseTimingReport) :=
  match options.cacheMode, options.cacheAliases with
  | .auto, none =>
    .ok (some (setup.session.planMssqlOutputCache requests),
      .completed cachePlanningPhase)
  | .explicit, some aliases =>
    (setup.session.planMssqlOutputCacheExplicit requests aliases).map
      fun plan => (some plan, .completed cachePlanningPhase)
  -- caching is disabled: the other combinations do not pass the check of the options
  | _, _ => .ok (none, .skipped cachePlanningPhase .notExecuted)

def buildWriteAllUncachedJobs : List PlannedMssqlOutput → Except DeltaFunnelError
    (List (MssqlOutputWriteJob (sessionSignature Provider Schema DataFrame Rows) Schema DataFrame))
  | [] => .ok []
  | planned :: plannedOutputs => do
    let outputSchema ← setup.session.schemaForLazyTable planned.request.table
    let jobs ← buildWriteAllUncachedJobs plannedOutputs
    return Session.buildWriteAllJob planned outputSchema
      (setup.session.createMssqlOutputQueryExecution setup.engine planned) :: jobs

def writeAllUncached (plannedOutputs : List PlannedMssqlOutput) :
    SessionProgram Provider Schema DataFrame Rows
      (Except DeltaFunnelError MssqlWorkflowWriteReport) :=
  match setup.buildWriteAllUncachedJobs plannedOutputs with
  | .error error => return .error error
  | .ok jobs =>
    writeMssqlOutputsWithWriter jobs setup.workflowOptions
      (Session.sessionWriter setup.reportsSqlWritePhase)

/-- The outputs, by the route that the cache plan asks for. -/
def executeRoute (plannedOutputs : List PlannedMssqlOutput)
    (cachePlan : Option MssqlOutputCachePlan) :
    SessionProgram Provider Schema DataFrame Rows
      (Except DeltaFunnelError (MssqlWorkflowWriteReport × WriteAllCacheReport)) :=
  match cachePlan with
  | none => do
    let workflow ← setup.writeAllUncached plannedOutputs
    return workflow.map fun workflow => (workflow, .disabled)
  | some cachePlan =>
    match cachePlan.decision with
    | .noCache _ => do
      let workflow ← setup.writeAllUncached plannedOutputs
      return workflow.map fun workflow => (workflow, .fromPlan cachePlan)
    | .cacheAliases cacheAliases => do
      let executed ← setup.session.writeAllCached setup.engine plannedOutputs cacheAliases
        setup.workflowOptions setup.reportsSqlWritePhase
      return executed.map fun (workflow, aliasReports) =>
        (workflow, .fromExecutedPlan cachePlan aliasReports)

def sourceReports (plannedOutputs : List PlannedMssqlOutput) :
    Except DeltaFunnelError (List Session.DeltaSourceReport) :=
  setup.session.sourceReportsForOutputTables (plannedOutputs.map fun planned =>
    (planned.outputPlan.outputName, planned.request.table))

def reportWriteAll (plannedOutputs : List PlannedMssqlOutput) (cacheTiming : PhaseTimingReport)
    (executed : MssqlWorkflowWriteReport × WriteAllCacheReport) :
    Except DeltaFunnelError WriteAllReport := do
  let sources ← setup.sourceReports plannedOutputs
  return ⟨executed.1, executed.2, sources, [.completed outputPlanningPhase, cacheTiming,
    .completed workflowExecutionPhase, .completed sourceReportingPhase]⟩

def runWriteAll (requests : List OutputWritePlan) (options : WriteAllOptions) :
    SessionProgram Provider Schema DataFrame Rows (Except DeltaFunnelError WriteAllReport) :=
  match setup.planWriteOutputs requests with
  | .error error => return .error error
  | .ok plannedOutputs =>
    match setup.planCache requests options with
    | .error error => return .error error
    | .ok (cachePlan, cacheTiming) => do
      match ← setup.executeRoute plannedOutputs cachePlan with
      | .error error => return .error error
      | .ok executed => return setup.reportWriteAll plannedOutputs cacheTiming executed

def executeWriteAllWithWriter (requests : List OutputWritePlan) (options : WriteAllOptions) :
    SessionProgram Provider Schema DataFrame Rows (Except DeltaFunnelError WriteAllReport) :=
  match validateWriteAllOptions options with
  | .error error => return .error error
  | .ok () =>
    match validateWriteAllRequests requests with
    | .error error => return .error error
    | .ok () => setup.runWriteAll requests options

end WriteAllSetup
end Execution
end DeltaFunnel
