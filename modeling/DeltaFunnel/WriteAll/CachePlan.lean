import DeltaFunnel.Session.Dependencies
import DeltaFunnel.SqlServer.Target

/-! Cache planning of `write_all`: which registered aliases several outputs share, the frontier
automatic selection caches, and the checks explicit selection makes. -/

namespace DeltaFunnel
open Collections

inductive RunMode where
  | execute
  | dryRun
  deriving DecidableEq, Repr

structure MssqlOutputTarget where
  outputName : String
  target : MssqlTargetConfig
  runMode : RunMode
  deriving DecidableEq, Repr

structure OutputWritePlan where
  table : LazyTable
  target : MssqlOutputTarget
  deriving DecidableEq, Repr

inductive MssqlNoCacheReason where
  | fewerThanTwoOutputs
  | noSharedRegisteredDerivedAlias
  | ambiguousSharedDerivedAlias
  deriving DecidableEq, Repr

structure MssqlDerivedCacheAliasPlan where
  tableId : ℕ
  aliasName : String
  outputIndexes : List ℕ
  deriving DecidableEq, Repr

inductive MssqlCacheCandidateSkipReason where
  | notShared (outputCount : ℕ)
  | missingSqlText
  | incompleteLineage
  | coveredByDeeperSharedAlias (selectedTableId : ℕ)
  | ambiguousDepth
  | notExplicitlySelected
  deriving DecidableEq, Repr

structure MssqlCacheCandidateSkip where
  tableId : ℕ
  aliasName : String
  reason : MssqlCacheCandidateSkipReason
  deriving DecidableEq, Repr

inductive MssqlOutputCacheDecision where
  | noCache (reason : MssqlNoCacheReason)
  | cacheAliases (aliases : List MssqlDerivedCacheAliasPlan)
  deriving DecidableEq, Repr

structure MssqlOutputCachePlan where
  decision : MssqlOutputCacheDecision
  skippedCandidates : List MssqlCacheCandidateSkip
  deriving DecidableEq, Repr

structure MssqlCoveredCacheAlias where
  aliasPlan : MssqlDerivedCacheAliasPlan
  selectedTableId : ℕ
  deriving DecidableEq, Repr

inductive MssqlCacheFrontierSelection where
  | selected (selectedAliases : List MssqlDerivedCacheAliasPlan)
      (coveredAliases : List MssqlCoveredCacheAlias)
  | ambiguous (ambiguousAliases : List MssqlDerivedCacheAliasPlan)
  deriving DecidableEq, Repr

variable {Provider Schema : Type}

def MssqlDerivedCacheAliasPlan.fromRegistered (derived : RegisteredDerivedTable Schema)
    (outputIndexes : List ℕ) : MssqlDerivedCacheAliasPlan :=
  ⟨derived.table.id, derived.name, outputIndexes⟩

def MssqlCacheCandidateSkip.fromRegistered (derived : RegisteredDerivedTable Schema)
    (reason : MssqlCacheCandidateSkipReason) : MssqlCacheCandidateSkip :=
  ⟨derived.table.id, derived.name, reason⟩

namespace Session
variable (session : Session Provider Schema)

def isRegisteredDerived (tableId : ℕ) : DerivedTableDependency → Bool
  | .registeredSource _ _ => false
  | .registeredDerived id _ => id = tableId

/-- A failed lineage lookup counts as no use. -/
def cacheOutputUsesRegisteredDerived (table : LazyTable)
    (candidate : RegisteredDerivedTable Schema) : Bool :=
  if table.id = candidate.table.id then true
  else if table.kind = .deltaSource then false
  else
    match session.transitiveRegisteredDerivedDependencies table with
    | .ok dependencies => dependencies.any (isRegisteredDerived candidate.table.id)
    | .error _ => false

/-- The indexes, from `index` on, of the requests that use the candidate. -/
def outputIndexesFrom (candidate : RegisteredDerivedTable Schema) :
    ℕ → List OutputWritePlan → List ℕ
  | _, [] => []
  | index, request :: requests =>
    if session.cacheOutputUsesRegisteredDerived request.table candidate then
      index :: outputIndexesFrom candidate (index + 1) requests
    else outputIndexesFrom candidate (index + 1) requests

def outputIndexes (requests : List OutputWritePlan) (candidate : RegisteredDerivedTable Schema) :
    List ℕ :=
  session.outputIndexesFrom candidate 0 requests

/-- What the loop over the registered aliases does with one of them. -/
def classifyCacheCandidate (requests : List OutputWritePlan)
    (derived : RegisteredDerivedTable Schema) :
    MssqlDerivedCacheAliasPlan ⊕ MssqlCacheCandidateSkip :=
  if (trimText derived.sqlText).isEmpty then .inr (.fromRegistered derived .missingSqlText)
  else if !derived.lineage.isComplete then .inr (.fromRegistered derived .incompleteLineage)
  else
    let indexes := session.outputIndexes requests derived
    if 2 ≤ indexes.length then .inl (.fromRegistered derived indexes)
    else .inr (.fromRegistered derived (.notShared indexes.length))

def sharedMssqlOutputCacheCandidates (requests : List OutputWritePlan) :
    List MssqlDerivedCacheAliasPlan × List MssqlCacheCandidateSkip :=
  let classified := session.derivedTables.map (session.classifyCacheCandidate requests)
  (classified.filterMap Sum.getLeft?, classified.filterMap Sum.getRight?)

def cacheCandidateIsDeeperThan (candidate other : MssqlDerivedCacheAliasPlan) : Bool :=
  if candidate.tableId = other.tableId then false
  else
    match session.registeredDerivedTableById candidate.tableId,
        session.registeredDerivedTableById other.tableId with
    | some candidateTable, some otherTable =>
      session.cacheOutputUsesRegisteredDerived candidateTable.table otherTable
    | _, _ => false

/-- Some candidate at another index is deeper than the one at `index`. -/
def coveredByDeeperCandidate (candidates : List MssqlDerivedCacheAliasPlan)
    (candidate : MssqlDerivedCacheAliasPlan × ℕ) : Bool :=
  candidates.zipIdx.any fun other =>
    candidate.2 ≠ other.2 && session.cacheCandidateIsDeeperThan other.1 candidate.1

def selectSharedCacheFrontier (candidates : List MssqlDerivedCacheAliasPlan) :
    MssqlCacheFrontierSelection :=
  let deepest := candidates.zipIdx.filter fun candidate =>
    !session.coveredByDeeperCandidate candidates candidate
  let deepestIndexes := deepest.map Prod.snd
  if deepest.isEmpty then .ambiguous candidates
  else
    let selectedAliases := deepest.map Prod.fst
    let coveredAliases := candidates.zipIdx.filterMap fun candidate =>
      if candidate.2 ∈ deepestIndexes then none
      else
        (selectedAliases.find? fun selected =>
          session.cacheCandidateIsDeeperThan selected candidate.1).map fun selected =>
            ⟨candidate.1, selected.tableId⟩
    if deepestIndexes.length + coveredAliases.length ≠ candidates.length then .ambiguous candidates
    else .selected selectedAliases coveredAliases

/-- Skip entries for aliases that are still registered. -/
def skipsFor (skipped : List (ℕ × MssqlCacheCandidateSkipReason)) :
    List MssqlCacheCandidateSkip :=
  skipped.filterMap fun entry =>
    (session.registeredDerivedTableById entry.1).map fun derived =>
      .fromRegistered derived entry.2

def planMssqlOutputCache (requests : List OutputWritePlan) : MssqlOutputCachePlan :=
  if requests.length < 2 then ⟨.noCache .fewerThanTwoOutputs, []⟩
  else
    let (sharedCandidates, skippedCandidates) := session.sharedMssqlOutputCacheCandidates requests
    match sharedCandidates with
    | [] => ⟨.noCache .noSharedRegisteredDerivedAlias, skippedCandidates⟩
    | [candidate] => ⟨.cacheAliases [candidate], skippedCandidates⟩
    | candidates =>
      match session.selectSharedCacheFrontier candidates with
      | .selected selectedAliases coveredAliases =>
        ⟨.cacheAliases selectedAliases, skippedCandidates ++
          session.skipsFor (coveredAliases.map fun covered =>
            (covered.aliasPlan.tableId, .coveredByDeeperSharedAlias covered.selectedTableId))⟩
      | .ambiguous ambiguousAliases =>
        ⟨.noCache .ambiguousSharedDerivedAlias, skippedCandidates ++
          session.skipsFor (ambiguousAliases.map fun candidate =>
            (candidate.tableId, .ambiguousDepth))⟩

/-- The first selected alias among the dependencies, in their order. -/
def findSelectedDependency (selectedTableIds : List ℕ)
    (dependencies : List DerivedTableDependency) : Option String :=
  dependencies.findSome? fun
    | .registeredSource _ _ => none
    | .registeredDerived tableId name => if tableId ∈ selectedTableIds then some name else none

def hiddenAliasError (selectedAlias consumerKind consumerName intermediate : String) :
    DeltaFunnelError :=
  .mssqlWorkflowPlanning ("write_all explicit cache alias `" ++
    sanitizeTextForDisplay selectedAlias ++ "` is hidden from replanned " ++ consumerKind ++ " `" ++
    sanitizeTextForDisplay consumerName ++ "` by unselected intermediate alias `" ++
    sanitizeTextForDisplay intermediate ++
    "`; explicit cache aliases must form a replay-closed dependency chain")

def validateExplicitCacheReplayDependency (consumerKind consumerName : String)
    (selectedTableIds : List ℕ) : DerivedTableDependency → Except DeltaFunnelError Unit
  | .registeredSource _ _ => .ok ()
  | .registeredDerived tableId name =>
    if tableId ∈ selectedTableIds then .ok ()
    else
      match session.registeredDerivedTableById tableId with
      | none =>
        .error (.mssqlWorkflowPlanning ("write_all could not resolve registered cache dependency `" ++
          sanitizeTextForDisplay name ++ "`"))
      | some intermediate =>
        match session.transitiveRegisteredDerivedDependencies intermediate.table with
        | .error error => .error error
        | .ok dependencies =>
          match findSelectedDependency selectedTableIds dependencies with
          | some selectedAlias =>
            .error (hiddenAliasError selectedAlias consumerKind consumerName name)
          | none => .ok ()

def validateExplicitCacheReplayRoot (table : LazyTable) (consumerKind consumerName : String)
    (selectedTableIds : List ℕ) : Except DeltaFunnelError Unit :=
  match session.lineageForDerivedTable table with
  | .error error => .error error
  | .ok lineage =>
    lineage.directDependencies.forM
      (session.validateExplicitCacheReplayDependency consumerKind consumerName selectedTableIds)

def validateExplicitCacheReplayClosure (requests : List OutputWritePlan)
    (selectedTableIds : List ℕ) : Except DeltaFunnelError Unit := do
  (session.derivedTables.filter fun derived => derived.table.id ∈ selectedTableIds).forM
    fun derived =>
      session.validateExplicitCacheReplayRoot derived.table "cache alias" derived.name
        selectedTableIds
  (requests.filter fun request =>
      request.table.kind = .derivedSql ∧ request.table.id ∉ selectedTableIds).forM fun request =>
    session.validateExplicitCacheReplayRoot request.table "output" request.target.outputName
      selectedTableIds

def cacheAliasError (before aliasName after : String) : DeltaFunnelError :=
  .mssqlWorkflowPlanning (before ++ "`" ++ sanitizeTextForDisplay aliasName ++ "`" ++ after)

/-- Resolves the requested names in order; `names` and `ids` are those found so far. -/
def resolveRequestedAliases (sharedCandidates : List MssqlDerivedCacheAliasPlan) :
    List String → List ℕ → List String → Except DeltaFunnelError (List ℕ)
  | _, ids, [] => .ok ids
  | names, ids, aliasName :: aliases =>
    if toAsciiLowercase aliasName ∈ names then
      .error (cacheAliasError "write_all cache_aliases contains duplicate alias " aliasName "")
    else
      match session.registeredDerivedTable aliasName with
      | none =>
        .error (cacheAliasError "write_all cache_aliases contains unknown registered alias "
          aliasName "")
      | some derived =>
        if sharedCandidates.any fun candidate => candidate.tableId = derived.table.id then
          resolveRequestedAliases sharedCandidates
            (BTreeSet.insert compare (toAsciiLowercase aliasName) names)
            (BTreeSet.insert compare derived.table.id ids) aliases
        else
          .error (cacheAliasError "write_all cache alias " aliasName
            " is not eligible for the selected outputs")

def planMssqlOutputCacheExplicit (requests : List OutputWritePlan) (aliases : List String) :
    Except DeltaFunnelError MssqlOutputCachePlan := do
  if aliases.isEmpty then
    throw (.mssqlWorkflowPlanning "write_all cache_aliases must not be empty")
  let (sharedCandidates, skippedCandidates) := session.sharedMssqlOutputCacheCandidates requests
  let requestedTableIds ← session.resolveRequestedAliases sharedCandidates [] [] aliases
  session.validateExplicitCacheReplayClosure requests requestedTableIds
  let selected := fun candidate : MssqlDerivedCacheAliasPlan =>
    candidate.tableId ∈ requestedTableIds
  return ⟨.cacheAliases (sharedCandidates.filter fun candidate => selected candidate),
    skippedCandidates ++ session.skipsFor
      ((sharedCandidates.filter fun candidate => ¬selected candidate).map fun candidate =>
        (candidate.tableId, .notExplicitlySelected))⟩

end Session

/-- Writes the derived table `id`. -/
def sampleOutput (id : ℕ) (name : String) : OutputWritePlan :=
  ⟨.derivedSql id, ⟨name, ⟨⟨some "dbo", "orders"⟩, .appendExisting, none⟩, .execute⟩⟩

end DeltaFunnel
