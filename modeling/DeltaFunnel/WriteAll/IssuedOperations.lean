import DeltaFunnel.WriteAll.ScopedRun

/-! Which operations the parts of a `write_all` can issue, whatever the session answers them. Each
part is within any set that has the operations it needs. -/

namespace DeltaFunnel
open Interaction

variable {Provider Schema DataFrame Rows : Type}
  {P : SessionOp Provider Schema DataFrame Rows → Prop}

theorem sessionCall_uses {op : SessionOp Provider Schema DataFrame Rows} (hop : P op) :
    (sessionCall op).Uses P := ⟨hop, fun _ => trivial⟩

section Queries
variable {engine : QueryEngine Provider Schema DataFrame}

theorem lookupAll_uses {keys : List String} (hreads : ∀ key ∈ keys, P (.lookup key)) :
    (QueryEngine.lookupAll keys).Uses P := by
  induction keys with
  | nil => trivial
  | cons key keys ih =>
    unfold QueryEngine.lookupAll
    apply (sessionCall_uses (hreads key (List.mem_cons_self ..))).bind
    intro provider
    apply (ih fun key' hkey' => hreads key' (List.mem_cons_of_mem _ hkey')).bind
    intro rest
    trivial

theorem sqlWithOptions_uses {sql : String} (hreads : ∀ key ∈ engine.sqlKeys sql, P (.lookup key)) :
    (engine.sqlWithOptions sql).Uses P := by
  unfold QueryEngine.sqlKeys at hreads
  unfold QueryEngine.sqlWithOptions
  cases hkeys : engine.references sql with
  | error error => trivial
  | ok keys =>
    rw [hkeys] at hreads
    apply (lookupAll_uses hreads).bind
    intro resolved
    trivial

theorem table_uses {name : String} (hread : P (.lookup (Catalog.tableKey name))) :
    (engine.table name).Uses P := by
  unfold QueryEngine.table
  apply (sessionCall_uses hread).bind
  intro found
  cases found with
  | none => trivial
  | some provider => trivial

theorem collectCache_uses (hfree : ∀ op, op.IsFree → P op) {aliasName : String}
    {dataframe : DataFrame} : (collectCache aliasName dataframe).Uses P := by
  unfold collectCache
  refine (sessionCall_uses (hfree (.createPhysicalPlan dataframe) trivial)).bind_except (fun _ => trivial) ?_
  intro planned
  refine (sessionCall_uses (hfree (.startPartitionStreams dataframe) trivial)).bind_except (fun _ => trivial) ?_
  intro started
  refine (sessionCall_uses (hfree (.collectPartitions dataframe) trivial)).bind_except (fun _ => trivial) ?_
  intro rows
  refine (sessionCall_uses (hfree (.memTable aliasName rows) trivial)).bind_except (fun _ => trivial) ?_
  intro provider
  trivial

theorem resolveCacheDataframe_uses {aliasName : String} {retainedSql : Option String}
    (hreads : ∀ key ∈ engine.aliasKeys aliasName retainedSql, P (.lookup key)) :
    (resolveCacheDataframe engine aliasName retainedSql).Uses P := by
  cases retainedSql with
  | none => exact table_uses (hreads _ (List.mem_cons_self ..))
  | some sql => exact sqlWithOptions_uses hreads

theorem materializeCacheFromSql_uses (hfree : ∀ op, op.IsFree → P op) {aliasName : String}
    {retainedSql : Option String} {expectedReplanSchema : Option Schema}
    (hreads : ∀ key ∈ engine.aliasKeys aliasName retainedSql, P (.lookup key)) :
    (materializeCacheFromSql engine aliasName retainedSql expectedReplanSchema).Uses P := by
  unfold materializeCacheFromSql
  refine (resolveCacheDataframe_uses hreads).bind_except (fun _ => trivial) ?_
  intro dataframe
  dsimp only
  split
  · trivial
  · exact collectCache_uses hfree

theorem materializeCacheFromSql_fails {aliasName sql error : String}
    {expectedReplanSchema : Option Schema} (hsql : engine.references sql = .error error) :
    (materializeCacheFromSql engine aliasName (some sql) expectedReplanSchema :
      SessionProgram Provider Schema DataFrame Rows _) =
        return .error (cacheAliasMaterializationFailure
          (mssqlScopedCacheAliasError "resolve" aliasName error) []
          cacheAliasDataframeResolutionPhase) := by
  unfold materializeCacheFromSql resolveCacheDataframe QueryEngine.sqlWithOptions
  dsimp only
  rw [hsql]
  rfl

end Queries

section Catalog

/-- The entry of an alias may be taken out of the catalog and put there. -/
def Replaceable (P : SessionOp Provider Schema DataFrame Rows → Prop) (name : String) : Prop :=
  P (.deregister name) ∧ ∀ provider, P (.register name provider)

theorem restoreWithReport_uses {replacement : MssqlScopedCacheAliasReplacement Provider}
    (hname : Replaceable P replacement.aliasName) : replacement.restoreWithReport.Uses P := by
  have hrestore : replacement.restoreProvider.Uses P := by
    unfold MssqlScopedCacheAliasReplacement.restoreProvider
    refine (sessionCall_uses hname.1).bind_except (fun _ => trivial) ?_
    intro found
    refine (sessionCall_uses (hname.2 _)).bind_except (fun _ => trivial) ?_
    intro registered
    trivial
  unfold MssqlScopedCacheAliasReplacement.restoreWithReport
  refine hrestore.bind_except (fun _ => trivial) ?_
  intro restored
  trivial

theorem restoreAllWithReports_uses
    {replacements : List (MssqlScopedCacheAliasReplacement Provider)}
    (hnames : ∀ replacement ∈ replacements, Replaceable P replacement.aliasName) :
    (restoreAllWithReports replacements).Uses P := by
  induction replacements with
  | nil => trivial
  | cons replacement replacements ih =>
    unfold restoreAllWithReports
    apply (restoreWithReport_uses (hnames replacement (List.mem_cons_self ..))).bind
    intro restored
    apply (ih fun other hother => hnames other (List.mem_cons_of_mem _ hother)).bind
    intro reports
    trivial

variable {replacements : List (MssqlScopedCacheAliasReplacement Provider)}

theorem restoreMssqlCacheAliasesWithReports_uses
    (hnames : ∀ replacement ∈ replacements, Replaceable P replacement.aliasName) :
    (restoreMssqlCacheAliasesWithReports replacements).Uses P := by
  unfold restoreMssqlCacheAliasesWithReports
  have hreverse : ∀ replacement ∈ replacements.reverse, Replaceable P replacement.aliasName :=
    fun replacement hmem => hnames replacement (List.mem_reverse.1 hmem)
  apply (restoreAllWithReports_uses hreverse).bind
  intro restored
  trivial

theorem restoreCacheAliasesAfterFailure_uses
    (hnames : ∀ replacement ∈ replacements, Replaceable P replacement.aliasName)
    (source : DeltaFunnelError) (failedAlias : Option WriteAllCacheAliasReport) :
    (restoreCacheAliasesAfterFailure source replacements failedAlias).Uses P := by
  unfold restoreCacheAliasesAfterFailure
  apply (restoreMssqlCacheAliasesWithReports_uses hnames).bind
  intro restored
  trivial

theorem installScopedCacheAliasProvider_uses {aliasName : String} (hname : Replaceable P aliasName)
    (cachedProvider : Provider) :
    (installScopedCacheAliasProvider aliasName cachedProvider).Uses P := by
  unfold installScopedCacheAliasProvider
  apply (sessionCall_uses hname.1).bind
  intro deregistered
  rcases deregistered with error | _ | originalProvider
  · trivial
  · trivial
  · apply (sessionCall_uses (hname.2 _)).bind
    intro registered
    cases registered with
    | error registerError =>
      have hrestored : (restoreOriginalAfterCachedRegisterFailure aliasName originalProvider
          registerError : SessionProgram Provider Schema DataFrame Rows _).Uses P := by
        unfold restoreOriginalAfterCachedRegisterFailure
        apply (sessionCall_uses (hname.2 _)).bind
        intro restored
        trivial
      apply hrestored.bind
      intro failure
      trivial
    | ok done => trivial

variable {engine : QueryEngine Provider Schema DataFrame} {session : Session Provider Schema}

theorem replaceAttempt_uses (hfree : ∀ op, op.IsFree → P op) {table : LazyTable}
    {registered : RegisteredDerivedTable Schema}
    (hregistered : session.registeredDerivedTableById table.id = some registered)
    {outputIndexes : List ℕ} {retainedSql : Option String}
    (hreads : ∀ key ∈ engine.aliasKeys registered.name retainedSql, P (.lookup key))
    (hname : (∀ sql error, retainedSql = some sql → engine.references sql ≠ .error error) →
      Replaceable P registered.name) :
    (session.replaceRegisteredDerivedAliasWithCacheAttempt engine table outputIndexes
      retainedSql).Uses P := by
  unfold Session.replaceRegisteredDerivedAliasWithCacheAttempt
    Session.registeredDerivedForScopedCacheAlias
  split_ifs with hkind
  · trivial
  · rw [hregistered]
    apply (sessionCall_uses (hfree .hasCacheFactory trivial)).bind
    intro hasCacheFactory
    cases hasCacheFactory with
    | true => trivial
    | false =>
      by_cases hrefused : ∃ sql error, retainedSql = some sql ∧ engine.references sql = .error error
      · obtain ⟨sql, error, rfl, hsql⟩ := hrefused
        dsimp only
        rw [materializeCacheFromSql_fails hsql]
        trivial
      · refine (materializeCacheFromSql_uses hfree hreads).bind_except (fun _ => trivial) ?_
        intro materialized
        have hname' := hname fun sql error hsql herror => hrefused ⟨sql, error, hsql, herror⟩
        refine (installScopedCacheAliasProvider_uses hname' _).bind_except (fun _ => trivial) ?_
        intro originalProvider
        trivial

end Catalog

section Jobs
variable [ArrowSqlServer] {engine : QueryEngine Provider Schema DataFrame}
  {session : Session Provider Schema}

theorem queryExecutionFromDataframe_uses (hfree : ∀ op, op.IsFree → P op)
    (planned : PlannedMssqlOutput) (dataframe : DataFrame)
    (queryPhaseTimings : List PhaseTimingReport) :
    (createMssqlOutputQueryExecutionFromDataframe planned dataframe queryPhaseTimings).Uses P := by
  unfold createMssqlOutputQueryExecutionFromDataframe
  refine (sessionCall_uses (hfree (.createPhysicalPlan dataframe) trivial)).bind_except (fun _ => trivial) ?_
  intro planned
  refine (sessionCall_uses (hfree (.startOutputStream dataframe) trivial)).bind_except (fun _ => trivial) ?_
  intro started
  trivial

omit [ArrowSqlServer] in
theorem dataframeForLazyTable_uses {table : LazyTable}
    (hreads : ∀ key ∈ session.tableKeys table, P (.lookup key)) :
    (session.dataframeForLazyTable engine table).Uses P := by
  have hregistered : ∀ name, P (.lookup (Catalog.tableKey name)) →
      (Session.registeredTableDataframe engine name).Uses P := by
    intro name hread
    unfold Session.registeredTableDataframe
    refine (table_uses hread).bind_except (fun _ => trivial) ?_
    intro dataframe
    trivial
  unfold Session.tableKeys at hreads
  unfold Session.dataframeForLazyTable
  cases hkind : table.kind with
  | deltaSource =>
    rw [hkind] at hreads
    dsimp only at hreads ⊢
    split
    · trivial
    · next source hsource =>
      rw [hsource] at hreads
      exact hregistered _ (hreads _ (List.mem_singleton_self _))
  | derivedSql =>
    rw [hkind] at hreads
    dsimp only at hreads ⊢
    split
    · next derived hderived =>
      rw [hderived] at hreads
      exact hregistered _ (hreads _ (List.mem_singleton_self _))
    · split
      · trivial
      · split
        · trivial
        · trivial

theorem queryExecution_uses (hfree : ∀ op, op.IsFree → P op) {planned : PlannedMssqlOutput}
    (hreads : ∀ key ∈ session.tableKeys planned.request.table, P (.lookup key)) :
    (session.createMssqlOutputQueryExecution engine planned).Uses P := by
  unfold Session.createMssqlOutputQueryExecution
  refine (dataframeForLazyTable_uses hreads).bind_except (fun _ => trivial) ?_
  intro dataframe
  exact queryExecutionFromDataframe_uses hfree _ _ _

theorem retainedSqlExecution_uses (hfree : ∀ op, op.IsFree → P op) {planned : PlannedMssqlOutput}
    {sqlText : String} {expectedSchema : Schema}
    (hreads : ∀ key ∈ engine.sqlKeys sqlText, P (.lookup key)) :
    (createCachedOutputQueryExecutionFromRetainedSql engine planned sqlText
      expectedSchema).Uses P := by
  unfold createCachedOutputQueryExecutionFromRetainedSql
  refine (sqlWithOptions_uses hreads).bind_except (fun _ => trivial) ?_
  intro dataframe
  dsimp only
  split
  · trivial
  · exact queryExecutionFromDataframe_uses hfree _ _ _

theorem cachedOutputQueryFactory_uses (hfree : ∀ op, op.IsFree → P op)
    {planned : PlannedMssqlOutput} {activeAliases : List MssqlDerivedCacheAliasPlan}
    {factory : SessionProgram Provider Schema DataFrame Rows
      (Except MssqlOutputQueryError (MssqlOutputQueryExecution DataFrame))}
    (hfactory : session.cachedOutputQueryFactory engine planned activeAliases = .ok factory)
    (hreads : ∀ key ∈ session.outputKeys engine activeAliases planned.request, P (.lookup key)) :
    factory.Uses P := by
  unfold Session.cachedOutputQueryFactory at hfactory
  unfold Session.outputKeys at hreads
  split at hfactory
  · cases hfactory
  · next hroute =>
    obtain rfl := Except.ok.inj hfactory
    rw [hroute] at hreads
    exact queryExecution_uses hfree hreads
  · next hroute =>
    rw [hroute] at hreads
    dsimp only at hfactory hreads
    split at hfactory
    · obtain rfl := Except.ok.inj hfactory
      trivial
    · next sqlText hsql =>
      rw [hsql] at hreads
      split at hfactory
      · obtain rfl := Except.ok.inj hfactory
        trivial
      · obtain rfl := Except.ok.inj hfactory
        exact retainedSqlExecution_uses hfree hreads

end Jobs
end DeltaFunnel
