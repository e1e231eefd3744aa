import DeltaFunnel.Session.QueryEngine
import DeltaFunnel.WriteAll.CachePlan

/-! Scoped cache aliases: an alias is materialized, replaced in the catalog by its cached
provider, and restored when the outputs are written. -/

namespace DeltaFunnel
open Interaction

def cacheAliasDataframeResolutionPhase : String := "cache_alias_dataframe_resolution"
def cacheAliasPhysicalPlanningPhase : String := "cache_alias_physical_planning"
def cacheAliasStreamSetupPhase : String := "cache_alias_stream_setup"
def cacheAliasExecuteCollectPhase : String := "cache_alias_execute_collect"
def cacheAliasMemtableBuildPhase : String := "cache_alias_memtable_build"
def cacheAliasMaterializationTotalPhase : String := "cache_alias_materialization_total"
def cacheAliasInstallPhase : String := "cache_alias_install"
def cacheAliasRestorePhase : String := "cache_alias_restore"

def cacheAliasMaterializationPhases : List String :=
  [cacheAliasDataframeResolutionPhase, cacheAliasPhysicalPlanningPhase,
    cacheAliasStreamSetupPhase, cacheAliasExecuteCollectPhase, cacheAliasMemtableBuildPhase]

structure MaterializedCache (Provider : Type) where
  provider : Provider
  phaseTimings : List PhaseTimingReport

structure CacheAliasPhaseFailure where
  source : DeltaFunnelError
  phaseTimings : List PhaseTimingReport
  failedPhase : String
  deriving DecidableEq, Repr

structure CacheAliasReplacementFailure where
  source : DeltaFunnelError
  report : Option WriteAllCacheAliasReport
  deriving DecidableEq, Repr

structure CacheAliasInstallFailure where
  source : DeltaFunnelError
  restoreTiming : Option PhaseTimingReport
  deriving DecidableEq, Repr

def CacheAliasReplacementFailure.beforeAttempt (source : DeltaFunnelError) :
    CacheAliasReplacementFailure :=
  ⟨source, none⟩

def CacheAliasPhaseFailure.intoAliasFailure (failure : CacheAliasPhaseFailure) (tableId : ℕ)
    (aliasName : String) (outputIndexes : List ℕ) : CacheAliasReplacementFailure :=
  ⟨failure.source, some ⟨tableId, aliasName, outputIndexes, .failed, failure.phaseTimings,
    some failure.failedPhase⟩⟩

def mssqlScopedCacheAliasError (phase aliasName error : String) : DeltaFunnelError :=
  .mssqlWorkflowPlanning ("scoped MSSQL cache alias " ++ phase ++ " failed for `" ++
    sanitizeTextForDisplay aliasName ++ "`: " ++ sanitizeTextForDisplay error)

def unknownCachedAliasError (cacheAlias : MssqlDerivedCacheAliasPlan) : DeltaFunnelError :=
  .mssqlWorkflowPlanning ("cached alias `" ++ sanitizeTextForDisplay cacheAlias.aliasName ++
    "` is not registered in this session")

/-- The phases before the failed one are those in `phaseTimings`. -/
def cacheAliasMaterializationFailure (source : DeltaFunnelError)
    (phaseTimings : List PhaseTimingReport) (failedTimer : String) : CacheAliasPhaseFailure :=
  let failedPhaseIndex := phaseTimings.length
  { source
    phaseTimings := phaseTimings ++ [.failed failedTimer] ++
      (cacheAliasMaterializationPhases.drop (failedPhaseIndex + 1)).map
        (PhaseTimingReport.notStarted · .priorFailure) ++
      [.failed cacheAliasMaterializationTotalPhase] ++
      [cacheAliasInstallPhase, cacheAliasRestorePhase].map
        (PhaseTimingReport.notStarted · .priorFailure)
    failedPhase := cacheAliasMaterializationPhases.getD failedPhaseIndex "" }

/-- An alias whose catalog entry is its cached provider; the original is kept here. -/
structure MssqlScopedCacheAliasReplacement (Provider : Type) where
  tableId : ℕ
  aliasName : String
  outputIndexes : List ℕ
  originalProvider : Provider
  phaseTimings : List PhaseTimingReport

variable {Provider Schema DataFrame Rows : Type}

/-- Deregisters the cached provider and registers the original one. -/
def MssqlScopedCacheAliasReplacement.restoreProvider
    (replacement : MssqlScopedCacheAliasReplacement Provider) :
    SessionProgram Provider Schema DataFrame Rows (Except DeltaFunnelError Unit) := do
  match ← sessionCall (.deregister replacement.aliasName) with
  | .error error =>
    return .error (mssqlScopedCacheAliasError "restore_deregister" replacement.aliasName error)
  | .ok _ =>
    match ← sessionCall (.register replacement.aliasName replacement.originalProvider) with
    | .error error =>
      return .error (mssqlScopedCacheAliasError "restore_register" replacement.aliasName error)
    | .ok () => return .ok ()

def MssqlScopedCacheAliasReplacement.restoreWithReport
    (replacement : MssqlScopedCacheAliasReplacement Provider) :
    SessionProgram Provider Schema DataFrame Rows
      (WriteAllCacheAliasReport × Except DeltaFunnelError Unit) := do
  let restoreResult ← replacement.restoreProvider
  match restoreResult with
  | .ok () =>
    return (⟨replacement.tableId, replacement.aliasName, replacement.outputIndexes,
      .materializedAndRestored,
      replacement.phaseTimings ++ [.completed cacheAliasRestorePhase], none⟩, restoreResult)
  | .error _ =>
    return (⟨replacement.tableId, replacement.aliasName, replacement.outputIndexes, .failed,
      replacement.phaseTimings ++ [.failed cacheAliasRestorePhase],
      some cacheAliasRestorePhase⟩, restoreResult)

/-- Restores in the given order; the first failure is kept, the later ones still run. -/
def restoreAllWithReports : List (MssqlScopedCacheAliasReplacement Provider) →
    SessionProgram Provider Schema DataFrame Rows
      (List WriteAllCacheAliasReport × Option (ℕ × DeltaFunnelError))
  | [] => return ([], none)
  | replacement :: replacements => do
    let (report, restoreResult) ← replacement.restoreWithReport
    let (reports, laterError) ← restoreAllWithReports replacements
    let firstError := match restoreResult with
      | .error error => some (report.tableId, error)
      | .ok () => laterError
    return (report :: reports, firstError)

/-- The last replacement is undone first; the reports keep the order of installation. -/
def restoreMssqlCacheAliasesWithReports
    (replacements : List (MssqlScopedCacheAliasReplacement Provider)) :
    SessionProgram Provider Schema DataFrame Rows
      (List WriteAllCacheAliasReport × Except (ℕ × DeltaFunnelError) Unit) := do
  let (reports, firstError) ← restoreAllWithReports replacements.reverse
  let result : Except (ℕ × DeltaFunnelError) Unit := match firstError with
    | some error => .error error
    | none => .ok ()
  return (reports.reverse, result)

def writeAllCacheFailure (source : DeltaFunnelError) (aliases : List WriteAllCacheAliasReport)
    (primaryFailedAliasTableId : Option ℕ) (workflow : Option MssqlWorkflowWriteReport) :
    DeltaFunnelError :=
  .writeAllCache ⟨aliases, primaryFailedAliasTableId, workflow⟩ source

def restoreCacheAliasesAfterFailure (source : DeltaFunnelError)
    (replacements : List (MssqlScopedCacheAliasReplacement Provider))
    (failedAlias : Option WriteAllCacheAliasReport) :
    SessionProgram Provider Schema DataFrame Rows DeltaFunnelError := do
  let (reports, _) ← restoreMssqlCacheAliasesWithReports replacements
  return writeAllCacheFailure source (reports ++ failedAlias.toList)
    (failedAlias.map (·.tableId)) none

section Materialize
variable (engine : QueryEngine Provider Schema DataFrame)

/-- A scan of the alias, or its SQL planned anew. -/
def resolveCacheDataframe (aliasName : String) :
    Option String → SessionProgram Provider Schema DataFrame Rows (Except String DataFrame)
  | some sql => engine.sqlWithOptions sql
  | none => engine.table aliasName

/-- The mismatch of a replanned schema with the registered one, if there is one. -/
def replanMismatch (expectedReplanSchema : Option Schema) (dataframe : DataFrame) :
    Option String :=
  match expectedReplanSchema with
  | none => none
  | some expected =>
    if engine.schemasCompatible expected (engine.schema dataframe) then none
    else some (engine.schemaMismatch expected (engine.schema dataframe))

/-- Plans, executes and collects the resolved query into an in-memory table. -/
def collectCache (aliasName : String) (dataframe : DataFrame) :
    SessionProgram Provider Schema DataFrame Rows
      (Except CacheAliasPhaseFailure (MaterializedCache Provider)) := do
  let resolved := [PhaseTimingReport.completed cacheAliasDataframeResolutionPhase]
  match ← sessionCall (.createPhysicalPlan dataframe) with
  | .error error =>
    return .error (cacheAliasMaterializationFailure
      (mssqlScopedCacheAliasError "materialize" aliasName error) resolved
      cacheAliasPhysicalPlanningPhase)
  | .ok () =>
    let planned := resolved ++ [.completed cacheAliasPhysicalPlanningPhase]
    match ← sessionCall (.startPartitionStreams dataframe) with
    | .error error =>
      return .error (cacheAliasMaterializationFailure
        (mssqlScopedCacheAliasError "materialize" aliasName error) planned
        cacheAliasStreamSetupPhase)
    | .ok () =>
      let started := planned ++ [.completed cacheAliasStreamSetupPhase]
      match ← sessionCall (.collectPartitions dataframe) with
      | .error error =>
        return .error (cacheAliasMaterializationFailure error started
          cacheAliasExecuteCollectPhase)
      | .ok rows =>
        let collected := started ++ [.completed cacheAliasExecuteCollectPhase]
        match ← sessionCall (.memTable aliasName rows) with
        | .error error =>
          return .error (cacheAliasMaterializationFailure
            (mssqlScopedCacheAliasError "materialize" aliasName error) collected
            cacheAliasMemtableBuildPhase)
        | .ok provider =>
          return .ok ⟨provider, collected ++ [.completed cacheAliasMemtableBuildPhase,
            .completed cacheAliasMaterializationTotalPhase]⟩

def materializeCacheFromSql (aliasName : String) (retainedSql : Option String)
    (expectedReplanSchema : Option Schema) :
    SessionProgram Provider Schema DataFrame Rows
      (Except CacheAliasPhaseFailure (MaterializedCache Provider)) := do
  match ← resolveCacheDataframe engine aliasName retainedSql with
  | .error error =>
    return .error (cacheAliasMaterializationFailure
      (mssqlScopedCacheAliasError "resolve" aliasName error) []
      cacheAliasDataframeResolutionPhase)
  | .ok dataframe =>
    match replanMismatch engine expectedReplanSchema dataframe with
    | some mismatch =>
      return .error (cacheAliasMaterializationFailure
        (mssqlScopedCacheAliasError "resolve" aliasName
          ("replanned cache alias schema is incompatible with the registered schema: " ++
            mismatch)) [] cacheAliasDataframeResolutionPhase)
    | none => collectCache aliasName dataframe

end Materialize

/-- The original provider goes back if the cached one could not be registered. -/
def restoreOriginalAfterCachedRegisterFailure (aliasName : String) (originalProvider : Provider)
    (registerError : String) :
    SessionProgram Provider Schema DataFrame Rows CacheAliasInstallFailure := do
  let restoreResult ← sessionCall (.register aliasName originalProvider)
  let restoreTiming : PhaseTimingReport := match restoreResult with
    | .ok () => .completed cacheAliasRestorePhase
    | .error _ => .failed cacheAliasRestorePhase
  return ⟨.mssqlWorkflowPlanning ("failed to register cached provider for alias `" ++
    sanitizeTextForDisplay aliasName ++ "`: " ++ sanitizeTextForDisplay registerError),
    some restoreTiming⟩

/-- Swaps the catalog entry of the alias, and answers the provider it held. -/
def installScopedCacheAliasProvider (aliasName : String) (cachedProvider : Provider) :
    SessionProgram Provider Schema DataFrame Rows
      (Except CacheAliasInstallFailure Provider) := do
  match ← sessionCall (.deregister aliasName) with
  | .error error =>
    return .error ⟨mssqlScopedCacheAliasError "deregister" aliasName error, none⟩
  | .ok none =>
    return .error ⟨mssqlScopedCacheAliasError "deregister" aliasName
      "registered alias was missing from the catalog", none⟩
  | .ok (some originalProvider) =>
    match ← sessionCall (.register aliasName cachedProvider) with
    | .error registerError => do
      let failure ← restoreOriginalAfterCachedRegisterFailure aliasName originalProvider
        registerError
      return .error failure
    | .ok () => return .ok originalProvider

namespace Session
variable (engine : QueryEngine Provider Schema DataFrame) (session : Session Provider Schema)

def registeredDerivedForScopedCacheAlias (table : LazyTable) :
    Except DeltaFunnelError (RegisteredDerivedTable Schema) :=
  if table.kind ≠ .derivedSql then .error (unknownLazyTableError table)
  else
    match session.registeredDerivedTableById table.id with
    | some derived => .ok derived
    | none => .error (unknownLazyTableError table)

def customCacheFactoryError : DeltaFunnelError :=
  .mssqlWorkflowPlanning ("`write_all` cache alias materialization requires DataFusion's default " ++
    "cache behavior; custom cache factories are not supported")

/-- Materializes one registered alias, and replaces it in the catalog. -/
def replaceRegisteredDerivedAliasWithCacheAttempt (table : LazyTable) (outputIndexes : List ℕ)
    (retainedSql : Option String) :
    SessionProgram Provider Schema DataFrame Rows
      (Except CacheAliasReplacementFailure (MssqlScopedCacheAliasReplacement Provider)) :=
  match session.registeredDerivedForScopedCacheAlias table with
  | .error error => return .error (.beforeAttempt error)
  | .ok registered => do
    let expectedReplanSchema := retainedSql.map fun _ => registered.schema
    match ← sessionCall .hasCacheFactory with
    | true => return .error (.beforeAttempt customCacheFactoryError)
    | false =>
      match ← materializeCacheFromSql engine registered.name retainedSql expectedReplanSchema with
      | .error failure =>
        return .error (failure.intoAliasFailure table.id registered.name outputIndexes)
      | .ok materialized =>
        match ← installScopedCacheAliasProvider registered.name materialized.provider with
        | .ok originalProvider =>
          return .ok ⟨table.id, registered.name, outputIndexes, originalProvider,
            materialized.phaseTimings ++ [.completed cacheAliasInstallPhase]⟩
        | .error failure =>
          let restoreTiming := failure.restoreTiming.getD
            (.notStarted cacheAliasRestorePhase .priorFailure)
          return .error (CacheAliasPhaseFailure.intoAliasFailure
            ⟨failure.source, materialized.phaseTimings ++ [.failed cacheAliasInstallPhase,
              restoreTiming], cacheAliasInstallPhase⟩ table.id registered.name outputIndexes)

/-- The SQL of an alias runs again if one of its dependencies is replaced by now. -/
def retainedSqlFor (replacedIds : List ℕ) (registered : RegisteredDerivedTable Schema)
    (dependencies : List DerivedTableDependency) : Option String :=
  if dependencies.any (fun
    | .registeredSource _ _ => false
    | .registeredDerived tableId _ => tableId ∈ replacedIds) then some registered.sqlText
  else none

/-- Replaces the aliases in order, after those already replaced. -/
def replaceMssqlCacheAliasesFrom (replacements : List (MssqlScopedCacheAliasReplacement Provider)) :
    List MssqlDerivedCacheAliasPlan →
      SessionProgram Provider Schema DataFrame Rows
        (Except DeltaFunnelError (List (MssqlScopedCacheAliasReplacement Provider)))
  | [] => return .ok replacements
  | cacheAlias :: cacheAliases =>
    match session.registeredDerivedTableById cacheAlias.tableId with
    | none => do
      let error ← restoreCacheAliasesAfterFailure (unknownCachedAliasError cacheAlias)
        replacements none
      return .error error
    | some registered =>
      match session.transitiveRegisteredDerivedDependencies registered.table with
      | .error error => do
        let error ← restoreCacheAliasesAfterFailure error replacements none
        return .error error
      | .ok dependencies => do
        let retainedSql := retainedSqlFor (replacements.map (·.tableId)) registered dependencies
        match ← session.replaceRegisteredDerivedAliasWithCacheAttempt engine registered.table
          cacheAlias.outputIndexes retainedSql with
        | .ok replacement =>
          replaceMssqlCacheAliasesFrom (replacements ++ [replacement]) cacheAliases
        | .error failure => do
          let error ← restoreCacheAliasesAfterFailure failure.source replacements failure.report
          return .error error

def replaceMssqlCacheAliases (cacheAliases : List MssqlDerivedCacheAliasPlan) :
    SessionProgram Provider Schema DataFrame Rows
      (Except DeltaFunnelError (List (MssqlScopedCacheAliasReplacement Provider))) :=
  session.replaceMssqlCacheAliasesFrom engine [] cacheAliases

end Session
end DeltaFunnel
