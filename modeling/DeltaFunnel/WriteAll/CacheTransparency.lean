import DeltaFunnel.Session.CatalogInvariant
import DeltaFunnel.WriteAll.ExplicitCache
import DeltaFunnel.WriteAll.ScopedRun

/-! Shared caching does not change what is written: a cached provider holds the rows of the
table it stands for, and every output streams what it streams without a cache. -/

namespace DeltaFunnel
open Interaction

variable {Provider Schema DataFrame Rows Relation : Type}

/-- The rows that tables, queries and collected batches stand for. -/
structure Denotation (Provider DataFrame Rows Relation : Type) where
  provider : Provider → Relation
  dataframe : DataFrame → Relation
  rows : Rows → Relation

structure Evaluates (engine : QueryEngine Provider Schema DataFrame)
    (outcome : Outcomes Provider Schema DataFrame Rows)
    (denotes : Denotation Provider DataFrame Rows Relation) : Prop where
  /-- The rows of a statement are determined by the rows of the tables that its references
  resolve to. A reference that resolved to none, where the statement could be planned, is none
  that its rows depend on. -/
  sql : ∀ {catalog catalog' sqlText dataframe dataframe'},
    engine.PlansSql catalog sqlText dataframe → engine.PlansSql catalog' sqlText dataframe' →
    (∀ key ∈ engine.sqlKeys sqlText, ∀ provider, catalog.view key = some provider →
      ∃ provider', catalog'.view key = some provider' ∧
        denotes.provider provider' = denotes.provider provider) →
    denotes.dataframe dataframe' = denotes.dataframe dataframe
  scan : ∀ {provider dataframe}, engine.readTable provider = .ok dataframe →
    denotes.dataframe dataframe = denotes.provider provider
  collect : ∀ {dataframe rows}, outcome (.collectPartitions dataframe) (.ok rows) →
    denotes.rows rows = denotes.dataframe dataframe
  memTable : ∀ {aliasName rows provider}, outcome (.memTable aliasName rows) (.ok provider) →
    denotes.provider provider = denotes.rows rows

/-- The provider holds the rows of the statement over the catalog. -/
def DenotesSql (engine : QueryEngine Provider Schema DataFrame)
    (denotes : Denotation Provider DataFrame Rows Relation) (catalog : Catalog Provider)
    (sqlText : String) (provider : Provider) : Prop :=
  ∃ dataframe, engine.PlansSql catalog sqlText dataframe ∧
    denotes.dataframe dataframe = denotes.provider provider

/-- The provider holds the rows of the statement over an earlier catalog. -/
def StoresPlan (engine : QueryEngine Provider Schema DataFrame)
    (denotes : Denotation Provider DataFrame Rows Relation) (catalog : Catalog Provider)
    (sqlText : String) (provider : Provider) : Prop :=
  ∃ planned : Catalog Provider, planned.Extends catalog ∧
    DenotesSql engine denotes planned sqlText provider

/-- A provider with the rows of the one that the catalog had. -/
def Faithful (denotes : Denotation Provider DataFrame Rows Relation)
    (initial : String → Option Provider) (key : String) (provider : Provider) : Prop :=
  ∃ original, initial key = some original ∧ denotes.provider provider = denotes.provider original

section Rows
variable {engine : QueryEngine Provider Schema DataFrame}
  {outcome : Outcomes Provider Schema DataFrame Rows}
  {denotes : Denotation Provider DataFrame Rows Relation} {session : Session Provider Schema}
  {replacements : List (MssqlScopedCacheAliasReplacement Provider)} {s : ScopeState Provider}

theorem run_storesPlan (calls : List (SessionCall Provider Schema))
    (hcalls : Session.HistorySatisfies (DenotesSql engine denotes) .fresh calls) :
    (Session.fresh.run calls).Backed (StoresPlan engine denotes) := by
  refine Session.fresh_backed.run ?_ (hcalls.imp fun hdenotes => ⟨_, .refl _, hdenotes⟩)
  rintro catalog catalog' sqlText provider hextends ⟨planned, hplanned, hdenotes⟩
  exact ⟨planned, hplanned.trans hextends, hdenotes⟩

theorem Installed.same_rows {initial : String → Option Provider}
    (h : Installed initial (Faithful denotes initial) replacements s) {key : String}
    {provider : Provider} (hinitial : initial key = some provider) :
    ∃ provider', s.catalog.view key = some provider' ∧
      denotes.provider provider' = denotes.provider provider := by
  by_cases hkey : key ∈ replacements.map (·.key)
  · obtain ⟨replacement, hmem, rfl⟩ := List.mem_map.1 hkey
    obtain ⟨provider', hview, -, original, horiginal, hsame⟩ := h.replaced replacement hmem
    rw [hinitial] at horiginal
    cases horiginal
    exact ⟨provider', hview, hsame⟩
  · refine ⟨provider, ?_, rfl⟩
    rw [h.untouched key hkey, hinitial]

/-- **Replay.** A statement planned anew has the rows of the provider that stores it. -/
theorem Installed.replay (heval : Evaluates engine outcome denotes)
    (h : Installed session.catalog.view (Faithful denotes session.catalog.view) replacements s)
    {sqlText : String} {provider : Provider} {dataframe : DataFrame}
    (hstored : StoresPlan engine denotes session.catalog sqlText provider)
    (hplans : engine.PlansSql s.catalog sqlText dataframe) :
    denotes.dataframe dataframe = denotes.provider provider := by
  obtain ⟨planned, hextends, dataframe', hplanned, hdenotes⟩ := hstored
  rw [← hdenotes]
  refine heval.sql hplanned hplans ?_
  intro key _ found hfound
  exact h.same_rows (hextends key found hfound)

theorem Installed.scan (heval : Evaluates engine outcome denotes)
    (h : Installed session.catalog.view (Faithful denotes session.catalog.view) replacements s)
    {name : String} {provider : Provider} {dataframe : DataFrame}
    (hinitial : session.catalog.tableProvider name = some provider)
    (hplans : engine.PlansTable s.catalog name dataframe) :
    denotes.dataframe dataframe = denotes.provider provider := by
  obtain ⟨found, hfound, hread⟩ := hplans
  obtain ⟨provider', hview, hsame⟩ := h.same_rows hinitial
  rw [Catalog.tableProvider_eq_view, hview] at hfound
  cases hfound
  rw [heval.scan hread, hsame]

theorem aliasTurn_of_backed {allowed : ScopeState Provider →
      SessionOp Provider Schema DataFrame Rows → Prop}
    (heval : Evaluates engine outcome denotes)
    (hbacked : session.Backed (StoresPlan engine denotes))
    (hallowed : ∀ s key, allowed s (.lookup key)) {registered : RegisteredDerivedTable Schema}
    (hregistered : registered ∈ session.derivedTables) {retainedSql : Option String}
    (hretained : ∀ sql, retainedSql = some sql → sql = registered.sqlText) :
    AliasTurn engine allowed outcome session.catalog.view (Faithful denotes session.catalog.view)
      registered.name retainedSql := by
  refine ⟨fun s _ _ key _ => hallowed s key, ?_⟩
  rintro s replacements h hnew provider ⟨dataframe, rows, hplans, hcollected, hbuilt⟩
  obtain ⟨original, horiginal, hstored⟩ := hbacked.derived registered hregistered
  refine ⟨original, horiginal, ?_⟩
  have hrows : denotes.dataframe dataframe = denotes.provider original := by
    cases retainedSql with
    | none => exact h.scan heval horiginal hplans
    | some sql =>
      rw [hretained sql rfl] at hplans
      exact h.replay heval hstored hplans
  rw [heval.memTable hbuilt, heval.collect hcollected, hrows]

theorem retainedSqlFor_eq_some {replacedIds : List ℕ}
    {registered : RegisteredDerivedTable Schema} {dependencies : List DerivedTableDependency}
    {sql : String} (h : Session.retainedSqlFor replacedIds registered dependencies = some sql) :
    sql = registered.sqlText := by
  unfold Session.retainedSqlFor at h
  split_ifs at h
  cases h
  rfl

def Session.StreamsTable (session : Session Provider Schema)
    (denotes : Denotation Provider DataFrame Rows Relation) (table : LazyTable)
    (stream : DataFrame) : Prop :=
  ∃ provider, session.lazyTableProvider session.catalog table = some provider ∧
    denotes.dataframe stream = denotes.provider provider

theorem Session.StreamsTable.unique {table : LazyTable} {stream stream' : DataFrame}
    (h : session.StreamsTable denotes table stream)
    (h' : session.StreamsTable denotes table stream') :
    denotes.dataframe stream = denotes.dataframe stream' := by
  obtain ⟨provider, hprovider, hrows⟩ := h
  obtain ⟨provider', hprovider', hrows'⟩ := h'
  rw [hprovider] at hprovider'
  cases hprovider'
  rw [hrows, hrows']

theorem Installed.lazyTable (heval : Evaluates engine outcome denotes)
    (hbacked : session.Backed (StoresPlan engine denotes))
    (h : Installed session.catalog.view (Faithful denotes session.catalog.view) replacements s)
    {table : LazyTable} {dataframe : DataFrame}
    (hplans : session.PlansLazyTable engine s.catalog table dataframe) :
    session.StreamsTable denotes table dataframe := by
  obtain ⟨found, hfound, hread⟩ := hplans
  unfold Session.StreamsTable
  unfold Session.lazyTableProvider at hfound ⊢
  cases hkind : table.kind with
  | deltaSource =>
    rw [hkind] at hfound
    dsimp only at hfound ⊢
    split at hfound
    · next source hsource =>
      have hpresent := hbacked.sources source (List.mem_of_find?_eq_some hsource)
      obtain ⟨provider, hinitial⟩ := Option.isSome_iff_exists.1 hpresent
      exact ⟨provider, hinitial, h.scan heval hinitial ⟨found, hfound, hread⟩⟩
    · cases hfound
  | derivedSql =>
    rw [hkind] at hfound
    dsimp only at hfound ⊢
    rcases hregistered : session.registeredDerivedTableById table.id with _ | derived
    · rw [hregistered] at hfound
      exact ⟨found, hfound, heval.scan hread⟩
    · rw [hregistered] at hfound
      obtain ⟨provider, hinitial, -⟩ :=
        hbacked.derived derived (Session.mem_of_registeredDerivedTableById hregistered).1
      exact ⟨provider, hinitial, h.scan heval hinitial ⟨found, hfound, hread⟩⟩

theorem sqlTextForDerivedTable_stored (hbacked : session.Backed (StoresPlan engine denotes))
    {table : LazyTable} {sqlText : String}
    (hsql : session.sqlTextForDerivedTable table = .ok sqlText) :
    ∃ provider, session.lazyTableProvider session.catalog table = some provider ∧
      StoresPlan engine denotes session.catalog sqlText provider := by
  unfold Session.sqlTextForDerivedTable at hsql
  unfold Session.lazyTableProvider
  cases hkind : table.kind with
  | deltaSource =>
    rw [hkind] at hsql
    cases hsql
  | derivedSql =>
    rw [hkind, if_neg (by decide)] at hsql
    dsimp only
    rcases hregistered : session.registeredDerivedTableById table.id with _ | derived
    · rw [hregistered] at hsql
      dsimp only at hsql ⊢
      rcases hpending : session.pendingDerivedTableById table.id with _ | pending
      · rw [hpending] at hsql
        cases hsql
      · rw [hpending] at hsql
        cases hsql
        exact ⟨pending.provider, rfl, hbacked.pending pending (List.mem_of_find?_eq_some hpending)⟩
    · rw [hregistered] at hsql
      cases hsql
      exact hbacked.derived derived (Session.mem_of_registeredDerivedTableById hregistered).1

theorem Installed.output (heval : Evaluates engine outcome denotes)
    (hbacked : session.Backed (StoresPlan engine denotes))
    (h : Installed session.catalog.view (Faithful denotes session.catalog.view) replacements s)
    {cacheAliases : List MssqlDerivedCacheAliasPlan} {request : OutputWritePlan}
    {dataframe : DataFrame}
    (hplans : session.PlansOutput engine cacheAliases s.catalog request dataframe) :
    session.StreamsTable denotes request.table dataframe := by
  rcases hplans with ⟨-, htable⟩ | ⟨-, sqlText, hsql, hreplayed⟩
  · exact h.lazyTable heval hbacked htable
  · obtain ⟨provider, hprovider, hstored⟩ := sqlTextForDerivedTable_stored hbacked hsql
    exact ⟨provider, hprovider, h.replay heval hstored hreplayed⟩

end Rows

/-- The aliases that automatic or explicit selection decides to cache for the requests. -/
def Session.DecidesCache (session : Session Provider Schema) (requests : List OutputWritePlan)
    (cacheAliases : List MssqlDerivedCacheAliasPlan) : Prop :=
  (session.planMssqlOutputCache requests).decision = .cacheAliases cacheAliases ∨
    ∃ aliases plan, session.planMssqlOutputCacheExplicit requests aliases = .ok plan ∧
      plan.decision = .cacheAliases cacheAliases

theorem Session.Consistent.candidate_ids_nodup {session : Session Provider Schema}
    (h : session.Consistent) (requests : List OutputWritePlan) :
    ((session.sharedMssqlOutputCacheCandidates requests).1.map (·.tableId)).Nodup := by
  have hperm := (h.candidates_perm requests).map Prod.fst
  rw [List.map_append, List.map_map, List.map_map, List.map_map] at hperm
  exact (hperm.nodup_iff.2 h.derived_ids_nodup).of_append_left

theorem Session.Consistent.decided_ids_nodup {session : Session Provider Schema}
    (h : session.Consistent) {requests : List OutputWritePlan}
    {cacheAliases : List MssqlDerivedCacheAliasPlan}
    (hdecides : session.DecidesCache requests cacheAliases) :
    (cacheAliases.map (·.tableId)).Nodup := by
  rcases hdecides with hdecision | ⟨aliases, plan, hplan, hdecision⟩
  · by_cases hlength : 2 ≤ requests.length
    · have hperm := (h.plan_perm hlength).map Prod.fst
      rw [hdecision, List.map_append, List.map_map, List.map_map, List.map_map] at hperm
      exact (hperm.nodup_iff.2 h.derived_ids_nodup).of_append_left
    · rw [planMssqlOutputCache, if_pos (by omega)] at hdecision
      cases hdecision
  · have hne : aliases ≠ [] := by
      rintro rfl
      cases hplan
    obtain ⟨ids, -, -, rfl⟩ := (planMssqlOutputCacheExplicit_eq_ok hne).1 hplan
    cases hdecision
    exact (h.candidate_ids_nodup requests).sublist (List.filter_sublist.map _)

section Run
variable [ArrowSqlServer] {engine : QueryEngine Provider Schema DataFrame}
  {outcome : Outcomes Provider Schema DataFrame Rows}
  {denotes : Denotation Provider DataFrame Rows Relation} {session : Session Provider Schema}
  {cacheAliases : List MssqlDerivedCacheAliasPlan} {plannedOutputs : List PlannedMssqlOutput}

/-- Registrations and writes do not change the rows of a table or of a planned output. -/
def KeepsRows (session : Session Provider Schema)
    (denotes : Denotation Provider DataFrame Rows Relation)
    (plannedOutputs : List PlannedMssqlOutput) :
    SessionOp Provider Schema DataFrame Rows → Prop
  | .register name provider =>
    Faithful denotes session.catalog.view (Catalog.tableKey name) provider
  | .writeOutput _ target stream => ∃ planned ∈ plannedOutputs,
      planned.resolvedTarget.summary = target ∧ session.StreamsTable denotes planned.request.table stream
  | _ => True

theorem scopeRules_of_keepsRows (haccepts : session.AcceptsOriginals outcome)
    {scope : String → Prop} :
    ScopeRules (fun _ => KeepsRows session denotes plannedOutputs) outcome session.catalog.view
      (Faithful denotes session.catalog.view) scope := by
  refine ⟨?_, fun _ _ _ _ => trivial, ?_, fun name provider message _ =>
    haccepts name provider message⟩
  · intro s op hfree
    cases op <;> trivial
  · intro s name provider _ _ hkept
    rcases hkept with horiginal | hfaithful
    · exact ⟨provider, horiginal, rfl⟩
    · exact hfaithful

theorem aliasTurns_of_backed (heval : Evaluates engine outcome denotes)
    (hbacked : session.Backed (StoresPlan engine denotes)) :
    AliasTurns engine (fun _ => KeepsRows session denotes plannedOutputs) outcome
      session.catalog.view (Faithful denotes session.catalog.view) session cacheAliases := by
  intro before cacheAlias after registered dependencies _ hregistered _
  exact aliasTurn_of_backed heval hbacked (fun _ _ => trivial)
    (Session.mem_of_registeredDerivedTableById hregistered).1 fun _ => retainedSqlFor_eq_some

theorem writeAllCached_keepsRows (hsession : session.Consistent)
    (hbacked : session.Backed (StoresPlan engine denotes))
    (heval : Evaluates engine outcome denotes) (haccepts : session.AcceptsOriginals outcome)
    (hnodup : (cacheAliases.map (·.tableId)).Nodup) {options : MssqlWorkflowWriteOptions}
    {reportsSqlWritePhase : Bool}
    {trace : List (Event (sessionSignature Provider Schema DataFrame Rows))}
    {result : Except DeltaFunnelError (MssqlWorkflowWriteReport × List WriteAllCacheAliasReport)}
    (hruns : Runs (session.writeAllCached engine plannedOutputs cacheAliases options
      reportsSqlWritePhase) trace result)
    (hfollows : (catalogProtocol outcome).Follows session.scopeState trace) :
    ∀ e ∈ trace, KeepsRows session denotes plannedOutputs e.op := by
  have houtputs : ∀ s replacements, session.Tracks cacheAliases replacements →
      Installed session.catalog.view (Faithful denotes session.catalog.view) replacements s →
      ∀ planned ∈ plannedOutputs,
        OutputTurn engine (fun _ => @KeepsRows Provider Schema DataFrame Rows Relation _ session
          denotes plannedOutputs) session cacheAliases s planned := by
    intro s replacements _ hinstalled planned hplanned
    refine ⟨fun _ _ => trivial, fun schema dataframe hplans => ?_⟩
    exact ⟨planned, hplanned, rfl, hinstalled.output heval hbacked hplans⟩
  have hview : session.scopeState.catalog.view = session.catalog.view := rfl
  have hmeets := writeAllCached_meets hsession (scopeRules_of_keepsRows haccepts)
    (aliasTurns_of_backed heval hbacked) houtputs hnodup hview options reportsSqlWritePhase
  have hrespects := (hmeets.sound hruns (follows_scopeProtocol.2 hfollows)).1
  intro e he
  obtain ⟨before, after, rfl⟩ := List.append_of_mem he
  exact hrespects.at_event

theorem replaceMssqlCacheAliases_installed (hsession : session.Consistent)
    (hbacked : session.Backed (StoresPlan engine denotes))
    (heval : Evaluates engine outcome denotes) (haccepts : session.AcceptsOriginals outcome)
    (hnodup : (cacheAliases.map (·.tableId)).Nodup)
    {trace : List (Event (sessionSignature Provider Schema DataFrame Rows))}
    {replacements : List (MssqlScopedCacheAliasReplacement Provider)}
    (hruns : Runs (session.replaceMssqlCacheAliases engine cacheAliases) trace (.ok replacements))
    (hfollows : (catalogProtocol outcome).Follows session.scopeState trace) :
    session.Tracks cacheAliases replacements ∧
      Installed session.catalog.view (Faithful denotes session.catalog.view) replacements
        ((catalogProtocol outcome).after session.scopeState trace) := by
  have hmeets := @replaceMssqlCacheAliases_meets Provider Schema DataFrame Rows
    (fun _ => KeepsRows session denotes []) outcome session.catalog.view
    (Faithful denotes session.catalog.view) session.scopeState engine session cacheAliases
    hsession (scopeRules_of_keepsRows haccepts) (aliasTurns_of_backed heval hbacked) hnodup rfl
  have heffect := (hmeets.sound hruns (follows_scopeProtocol.2 hfollows)).2
  rw [after_scopeProtocol] at heffect
  exact heffect

theorem uncached_streamsTable (heval : Evaluates engine outcome denotes)
    {planned : PlannedMssqlOutput} {uncached : MssqlOutputQueryExecution DataFrame}
    {trace : List (Event (sessionSignature Provider Schema DataFrame Rows))}
    (hruns : Runs (session.createMssqlOutputQueryExecution engine planned) trace (.ok uncached))
    (hfollows : (catalogProtocol outcome).Follows session.scopeState trace) :
    session.StreamsTable denotes planned.request.table uncached.stream := by
  have hmeets := @createMssqlOutputQueryExecution_meets Provider Schema DataFrame Rows
    (fun _ _ => True) outcome session.scopeState engine session _ planned (fun _ _ => trivial)
    (fun _ _ => trivial)
  obtain ⟨-, hplans⟩ := (hmeets.sound hruns hfollows).2
  obtain ⟨provider, hprovider, hread⟩ := hplans uncached rfl
  exact ⟨provider, hprovider, heval.scan hread⟩

theorem cached_streamsTable {s : ScopeState Provider}
    {replacements : List (MssqlScopedCacheAliasReplacement Provider)}
    (heval : Evaluates engine outcome denotes)
    (hbacked : session.Backed (StoresPlan engine denotes))
    (h : Installed session.catalog.view (Faithful denotes session.catalog.view) replacements s)
    {planned : PlannedMssqlOutput} {execution : MssqlOutputQueryExecution DataFrame}
    {factory : SessionProgram Provider Schema DataFrame Rows
      (Except MssqlOutputQueryError (MssqlOutputQueryExecution DataFrame))}
    (hfactory : session.cachedOutputQueryFactory engine planned cacheAliases = .ok factory)
    {trace : List (Event (sessionSignature Provider Schema DataFrame Rows))}
    (hruns : Runs factory trace (.ok execution))
    (hfollows : (catalogProtocol outcome).Follows s trace) :
    session.StreamsTable denotes planned.request.table execution.stream := by
  have hmeets := @cachedOutputQueryFactory_meets Provider Schema DataFrame Rows
    (fun _ _ => True) outcome s engine session _ planned cacheAliases factory hfactory
    (fun _ _ => trivial) (fun _ _ => trivial)
  obtain ⟨-, hplans⟩ := (hmeets.sound hruns hfollows).2
  exact h.output heval hbacked (hplans execution rfl)

/-- **Shared caching changes nothing that is written.** For every history whose stored plans hold
the rows of their SQL text, and every selection of aliases: each operation of a cached run keeps
the rows of the tables and of the planned outputs, and while the aliases are replaced, each
output query that succeeds streams the rows that it streams without a cache. -/
theorem shared_caching_keeps_rows (calls : List (SessionCall Provider Schema))
    (hbound : (Session.fresh.run calls).tableCount < u64Max)
    (hcalls : Session.HistorySatisfies (DenotesSql engine denotes) .fresh calls)
    (heval : Evaluates engine outcome denotes)
    (haccepts : (Session.fresh.run calls).AcceptsOriginals outcome)
    (requests : List OutputWritePlan)
    (hdecides : (Session.fresh.run calls).DecidesCache requests cacheAliases)
    (options : MssqlWorkflowWriteOptions) (reportsSqlWritePhase : Bool) :
    let session := Session.fresh.run calls
    (∀ trace result, Runs (session.writeAllCached engine plannedOutputs cacheAliases options
          reportsSqlWritePhase) trace result →
        (catalogProtocol outcome).Follows session.scopeState trace →
        ∀ e ∈ trace, KeepsRows session denotes plannedOutputs e.op) ∧
      ∀ first replacements,
        Runs (session.replaceMssqlCacheAliases engine cacheAliases) first (.ok replacements) →
        (catalogProtocol outcome).Follows session.scopeState first →
        let s := (catalogProtocol outcome).after session.scopeState first
        (∀ name, session.Requested cacheAliases name → ∃ original installed,
          session.catalog.tableProvider name = some original ∧
            s.catalog.tableProvider name = some installed ∧
            denotes.provider installed = denotes.provider original) ∧
        ∀ planned factory second execution,
          session.cachedOutputQueryFactory engine planned cacheAliases = .ok factory →
          Runs factory second (.ok execution) → (catalogProtocol outcome).Follows s second →
          session.StreamsTable denotes planned.request.table execution.stream ∧
            ∀ trace uncached, Runs (session.createMssqlOutputQueryExecution engine planned) trace
                (.ok uncached) →
              (catalogProtocol outcome).Follows session.scopeState trace →
              denotes.dataframe execution.stream = denotes.dataframe uncached.stream := by
  intro session
  have hsession : session.Consistent := Session.run_consistent calls hbound
  have hbacked : session.Backed (StoresPlan engine denotes) := run_storesPlan calls hcalls
  have hnodup := hsession.decided_ids_nodup hdecides
  constructor
  · intro trace result hruns hfollows
    exact writeAllCached_keepsRows hsession hbacked heval haccepts hnodup hruns hfollows
  · intro first replacements hfirst hfollows
    obtain ⟨htracks, hinstalled⟩ :=
      replaceMssqlCacheAliases_installed hsession hbacked heval haccepts hnodup hfirst hfollows
    constructor
    · intro name hrequested
      obtain ⟨replacement, hmem, hkey⟩ :=
        List.mem_map.1 (htracks.mem_keys.2 ⟨name, hrequested, rfl⟩)
      obtain ⟨installed, hview, -, original, horiginal, hsame⟩ := hinstalled.replaced _ hmem
      rw [hkey] at hview horiginal
      exact ⟨original, installed, horiginal, hview, hsame⟩
    · intro planned factory second execution hfactory hsecond hfollows'
      -- both queries stream the rows that the session denotes for the table
      have hcached := cached_streamsTable heval hbacked hinstalled hfactory hsecond hfollows'
      refine ⟨hcached, fun trace uncached huncached hfollows'' => ?_⟩
      exact hcached.unique (uncached_streamsTable heval huncached hfollows'')

end Run

/-- Tables, queries and batches stand for their numbers. -/
def sampleDenotation : Denotation SampleTable ℕ ℕ ℕ := ⟨Prod.snd, id, id⟩

theorem sampleEngine_plansSql {catalog : Catalog SampleTable} {sqlText : String} {dataframe : ℕ} :
    sampleEngine.PlansSql catalog sqlText dataframe ↔
      ∃ label, catalog.tableProvider sqlText = some (label, dataframe) := by
  constructor
  · rintro ⟨keys, hkeys, hplan⟩
    cases hkeys
    simp only [List.map_cons, List.map_nil, sampleEngine] at hplan
    split at hplan
    · next key provider heq =>
      cases hplan
      refine ⟨provider.1, ?_⟩
      simp only [List.cons.injEq, Prod.mk.injEq, and_true] at heq
      exact heq.2
    · cases hplan
  · rintro ⟨label, hfound⟩
    refine ⟨[Catalog.tableKey sqlText], rfl, ?_⟩
    rw [Catalog.tableProvider_eq_view] at hfound
    simp only [List.map_cons, List.map_nil, hfound]
    rfl

theorem sample_evaluates (refused : SampleTable) :
    Evaluates sampleEngine (refusing refused) sampleDenotation where
  sql := by
    intro catalog catalog' sqlText dataframe dataframe' hplans hplans' hsame
    obtain ⟨label, hfound⟩ := sampleEngine_plansSql.1 hplans
    obtain ⟨label', hfound'⟩ := sampleEngine_plansSql.1 hplans'
    obtain ⟨provider, hprovider, hrows⟩ :=
      hsame (Catalog.tableKey sqlText) (List.mem_singleton_self _) _ hfound
    rw [← Catalog.tableProvider_eq_view, hfound'] at hprovider
    cases hprovider
    exact hrows
  scan := by
    intro provider dataframe hread
    cases hread
    rfl
  collect := fun hcollected => hcollected
  memTable := fun hbuilt => hbuilt

theorem tableQuery_satisfies {session : Session SampleTable Unit} {table : String} {rows : ℕ}
    (hfound : (session.catalog.tableProvider (trimText table)).map Prod.snd = some rows) :
    Session.PlanSatisfies (DenotesSql sampleEngine sampleDenotation) session
      (tableQuery table rows) := by
  intro schema provider hplan
  cases hplan
  obtain ⟨⟨label, rows⟩, hprovider, rfl⟩ := Option.map_eq_some_iff.1 hfound
  exact ⟨rows, sampleEngine_plansSql.2 ⟨label, hprovider⟩, rfl⟩

theorem layered_history :
    Session.HistorySatisfies (DenotesSql sampleEngine sampleDenotation) .fresh layeredCalls := by
  refine ⟨trivial, tableQuery_satisfies ?_, trivial, tableQuery_satisfies ?_, trivial,
    tableQuery_satisfies ?_, tableQuery_satisfies ?_, trivial⟩
  all_goals decide

theorem layered_run_keeps_rows :
    (layeredRun ("cached_deep", 0)).2.isOk = true ∧ ∀ e ∈ (layeredRun ("cached_deep", 0)).1,
      @KeepsRows _ _ _ _ _ acceptingDriver (Session.fresh.run layeredCalls) sampleDenotation
        [samplePlanned 3 "a", samplePlanned 4 "b"] e.op := by
  refine ⟨by decide, ?_⟩
  have hdecides : (Session.fresh.run layeredCalls).DecidesCache
      [sampleOutput 3 "a", sampleOutput 4 "b"] layeredAliases := by
    refine .inr ⟨["shared", "deep"], ⟨.cacheAliases layeredAliases, []⟩, ?_, rfl⟩
    decide
  exact (@shared_caching_keeps_rows SampleTable Unit ℕ ℕ ℕ acceptingDriver sampleEngine _
    sampleDenotation layeredAliases [samplePlanned 3 "a", samplePlanned 4 "b"] layeredCalls
    (by decide) layered_history (sample_evaluates _) (layered_acceptsOriginals 0) _ hdecides
    {} true).1 _ _ (Protocol.drive_runs _ _)
    (Protocol.drive_follows (sampleAnswer_possible _) _ _)

end DeltaFunnel
