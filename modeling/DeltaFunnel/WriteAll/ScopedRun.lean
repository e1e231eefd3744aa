import DeltaFunnel.WriteAll.CacheScope

/-! A whole cached run: which entries of the catalog are replaced while the outputs are written,
and what is left of them when the run returns. -/

namespace DeltaFunnel
open Interaction

variable {Provider Schema DataFrame Rows : Type}

def Session.Requested (session : Session Provider Schema)
    (cacheAliases : List MssqlDerivedCacheAliasPlan) (name : String) : Prop :=
  ∃ cacheAlias ∈ cacheAliases, ∃ derived,
    session.registeredDerivedTableById cacheAlias.tableId = some derived ∧ derived.name = name

/-- The replacements are those of the given aliases, in order. -/
structure Session.Tracks (session : Session Provider Schema)
    (cacheAliases : List MssqlDerivedCacheAliasPlan)
    (replacements : List (MssqlScopedCacheAliasReplacement Provider)) : Prop where
  ids : replacements.map (·.tableId) = cacheAliases.map (·.tableId)
  names : ∀ replacement ∈ replacements, ∃ derived,
    session.registeredDerivedTableById replacement.tableId = some derived ∧
      derived.name = replacement.aliasName

section Replace
variable {allowed : ScopeState Provider → SessionOp Provider Schema DataFrame Rows → Prop}
  {outcome : Outcomes Provider Schema DataFrame Rows} {initial : String → Option Provider}
  {good : String → Provider → Prop} {scope : String → Prop} {s : ScopeState Provider}
  {replacements : List (MssqlScopedCacheAliasReplacement Provider)}
  {engine : QueryEngine Provider Schema DataFrame} {session : Session Provider Schema}
  {cacheAliases before : List MssqlDerivedCacheAliasPlan}

theorem Session.Tracks.requested (h : session.Tracks cacheAliases replacements)
    {replacement : MssqlScopedCacheAliasReplacement Provider} (hmem : replacement ∈ replacements) :
    session.Requested cacheAliases replacement.aliasName := by
  obtain ⟨derived, hderived, hname⟩ := h.names replacement hmem
  have hid : replacement.tableId ∈ cacheAliases.map (·.tableId) := by
    rw [← h.ids]
    exact List.mem_map_of_mem hmem
  obtain ⟨cacheAlias, hcacheAlias, heq⟩ := List.mem_map.1 hid
  exact ⟨cacheAlias, hcacheAlias, derived, heq ▸ hderived, hname⟩

theorem Session.Requested.mono {cacheAliases' : List MssqlDerivedCacheAliasPlan} {name : String}
    (h : session.Requested cacheAliases name) (hsub : cacheAliases ⊆ cacheAliases') :
    session.Requested cacheAliases' name := by
  obtain ⟨cacheAlias, hmem, hderived⟩ := h
  exact ⟨cacheAlias, hsub hmem, hderived⟩

theorem Session.Tracks.mem_keys (h : session.Tracks cacheAliases replacements) {key : String} :
    key ∈ replacements.map (·.key) ↔
      ∃ name, session.Requested cacheAliases name ∧ Catalog.tableKey name = key := by
  constructor
  · intro hmem
    obtain ⟨replacement, hreplacement, rfl⟩ := List.mem_map.1 hmem
    exact ⟨replacement.aliasName, h.requested hreplacement, rfl⟩
  · rintro ⟨name, ⟨cacheAlias, hcacheAlias, derived, hderived, rfl⟩, rfl⟩
    have hid : cacheAlias.tableId ∈ replacements.map (·.tableId) := by
      rw [h.ids]
      exact List.mem_map_of_mem hcacheAlias
    obtain ⟨replacement, hreplacement, heq⟩ := List.mem_map.1 hid
    obtain ⟨derived', hderived', hname⟩ := h.names replacement hreplacement
    rw [heq, hderived] at hderived'
    cases hderived'
    refine List.mem_map.2 ⟨replacement, hreplacement, ?_⟩
    rw [MssqlScopedCacheAliasReplacement.key, hname]

theorem Session.Tracks.key_not_mem (h : session.Tracks before replacements)
    (hsession : session.Consistent) {registered : RegisteredDerivedTable Schema}
    (hregistered : registered ∈ session.derivedTables)
    (hnew : registered.table.id ∉ before.map (·.tableId)) :
    Catalog.tableKey registered.name ∉ replacements.map (·.key) := by
  intro hmem
  obtain ⟨name, ⟨cacheAlias, hcacheAlias, derived, hderived, rfl⟩, hkey⟩ := h.mem_keys.1 hmem
  obtain ⟨hderivedMem, hid⟩ := Session.mem_of_registeredDerivedTableById hderived
  have hsame := hsession.derived_eq_of_key hderivedMem hregistered hkey
  apply hnew
  rw [← hsame, hid]
  exact List.mem_map_of_mem hcacheAlias

theorem Session.Tracks.snoc (h : session.Tracks before replacements)
    {cacheAlias : MssqlDerivedCacheAliasPlan} {registered : RegisteredDerivedTable Schema}
    (hregistered : session.registeredDerivedTableById cacheAlias.tableId = some registered)
    {replacement : MssqlScopedCacheAliasReplacement Provider}
    (hid : replacement.tableId = registered.table.id)
    (hname : replacement.aliasName = registered.name) :
    session.Tracks (before ++ [cacheAlias]) (replacements ++ [replacement]) := by
  have hsame : replacement.tableId = cacheAlias.tableId := by
    rw [hid, (Session.mem_of_registeredDerivedTableById hregistered).2]
  constructor
  · rw [List.map_append, List.map_append, h.ids, List.map_singleton, List.map_singleton, hsame]
  · intro other hother
    rcases List.mem_append.1 hother with hold | hlast
    · exact h.names other hold
    · rw [List.mem_singleton.1 hlast, hsame, hname]
      exact ⟨registered, hregistered, rfl⟩

theorem Installed.extended {s' : ScopeState Provider}
    {replacement : MssqlScopedCacheAliasReplacement Provider} {provider : Provider}
    (h : Installed initial good replacements s)
    (hnew : replacement.key ∉ replacements.map (·.key))
    (hinitial : initial replacement.key = some replacement.originalProvider)
    (hgood : good replacement.key provider)
    (hframe : ∀ key, key ≠ replacement.key → s'.cached key = s.cached key)
    (hcached : s'.cached replacement.key = some provider)
    (hview : s'.catalog.view = Function.update s.catalog.view replacement.key (some provider)) :
    Installed initial good (replacements ++ [replacement]) s' := by
  constructor
  · rw [List.map_append, List.map_singleton]
    exact h.keys_nodup.append (List.nodup_singleton _) (by simpa using hnew)
  · intro other hother
    rcases List.mem_append.1 hother with hold | hlast
    · exact h.original other hold
    · rw [List.mem_singleton.1 hlast]
      exact hinitial
  · intro other hother
    rcases List.mem_append.1 hother with hold | hlast
    · have hne : other.key ≠ replacement.key := by
        intro heq
        exact hnew (heq ▸ List.mem_map_of_mem hold)
      rw [hview, Function.update_of_ne hne, hframe other.key hne]
      exact h.replaced other hold
    · rw [List.mem_singleton.1 hlast, hview, Function.update_self]
      exact ⟨provider, rfl, hcached, hgood⟩
  · intro key hkey
    rw [List.map_append, List.mem_append, not_or, List.map_singleton, List.mem_singleton] at hkey
    rw [hview, Function.update_of_ne hkey.2]
    exact h.untouched key hkey.1

/-- A step that touches neither the catalog nor the cached providers of the replaced aliases. -/
theorem Installed.frame {s' : ScopeState Provider} {key : String}
    (h : Installed initial good replacements s) (hnew : key ∉ replacements.map (·.key))
    (hview : s'.catalog.view = s.catalog.view)
    (hframe : ∀ key', key' ≠ key → s'.cached key' = s.cached key') :
    Installed initial good replacements s' := by
  refine ⟨h.keys_nodup, h.original, fun other hother => ?_, fun key' hkey' => ?_⟩
  · have hne : other.key ≠ key := by
      intro heq
      exact hnew (heq ▸ List.mem_map_of_mem hother)
    rw [hview, hframe other.key hne]
    exact h.replaced other hother
  · rw [hview]
    exact h.untouched key' hkey'

/-- What the turn of one alias must be granted: its lookups, and that rows collected for it
over a catalog with some aliases replaced are good for it. -/
structure AliasTurn (engine : QueryEngine Provider Schema DataFrame)
    (allowed : ScopeState Provider → SessionOp Provider Schema DataFrame Rows → Prop)
    (outcome : Outcomes Provider Schema DataFrame Rows) (initial : String → Option Provider)
    (good : String → Provider → Prop) (name : String) (retainedSql : Option String) : Prop where
  reads : ∀ s replacements, Installed initial good replacements s →
    ∀ key ∈ engine.aliasKeys name retainedSql, allowed s (.lookup key)
  good : ∀ s replacements, Installed initial good replacements s →
    Catalog.tableKey name ∉ replacements.map (·.key) →
    ∀ provider, Materialized engine outcome s.catalog name retainedSql provider →
      good (Catalog.tableKey name) provider

/-- Where an attempt to replace an alias leaves the scope. -/
def AttemptEffect (initial : String → Option Provider) (good : String → Provider → Prop)
    (replacements : List (MssqlScopedCacheAliasReplacement Provider))
    (registered : RegisteredDerivedTable Schema)
    (result : Except CacheAliasReplacementFailure (MssqlScopedCacheAliasReplacement Provider))
    (s' : ScopeState Provider) : Prop :=
  match result with
  | .ok replacement => replacement.tableId = registered.table.id ∧
      replacement.aliasName = registered.name ∧
      Installed initial good (replacements ++ [replacement]) s'
  | .error _ => Installed initial good replacements s'

theorem replaceRegisteredDerivedAliasWithCacheAttempt_meets (hsession : session.Consistent)
    (hrules : ScopeRules allowed outcome initial good scope)
    (h : Installed initial good replacements s) {registered : RegisteredDerivedTable Schema}
    (hregistered : registered ∈ session.derivedTables) (hscope : scope registered.name)
    (hnew : Catalog.tableKey registered.name ∉ replacements.map (·.key))
    {outputIndexes : List ℕ} {retainedSql : Option String}
    (hturn : AliasTurn engine allowed outcome initial good registered.name retainedSql) :
    (scopeProtocol allowed outcome).Meets
      (session.replaceRegisteredDerivedAliasWithCacheAttempt engine registered.table
        outputIndexes retainedSql) s
      (AttemptEffect initial good replacements registered) := by
  have hfound : session.registeredDerivedForScopedCacheAlias registered.table = .ok registered := by
    rw [Session.registeredDerivedForScopedCacheAlias, (hsession.derived_sql _ hregistered).1,
      hsession.registeredDerivedTableById_eq hregistered]
    rfl
  unfold Session.replaceRegisteredDerivedAliasWithCacheAttempt
  rw [hfound]
  refine meets_sessionCall.2 ⟨hrules.free _ _ trivial, fun factory _ => ?_⟩
  cases factory with
  | true => exact h
  | false =>
    refine (materializeCacheFromSql_meets (hrules.free _) (hturn.reads _ _ h)).bind ?_
    intro result s₁ heffect
    have hview₁ : s₁.catalog.view = s.catalog.view := congrArg Catalog.view heffect.catalog
    have h₁ : Installed initial good replacements s₁ := h.frame hnew hview₁ heffect.frame
    rcases result with failure | materialized
    · exact h₁
    · obtain ⟨hcached, hmaterialized⟩ := heffect.cached materialized rfl
      have hgood := hturn.good _ _ h hnew _ hmaterialized
      refine (installScopedCacheAliasProvider_meets hrules hscope
        (h₁.untouched _ hnew) hgood).bind ?_
      rintro installed s' ⟨hcached', hinstalled⟩
      rcases installed with failure | original
      · exact h₁.frame hnew hinstalled fun key _ => by rw [hcached']
      · exact ⟨rfl, rfl, h₁.extended hnew hinstalled.1 hgood (fun key _ => by rw [hcached'])
          (by rw [hcached']; exact hcached) hinstalled.2⟩

/-- Where replacing the aliases leaves the scope: with all of them installed, or with none. -/
def ReplaceEffect (initial : String → Option Provider) (good : String → Provider → Prop)
    (session : Session Provider Schema) (cacheAliases : List MssqlDerivedCacheAliasPlan)
    (result : Except DeltaFunnelError (List (MssqlScopedCacheAliasReplacement Provider)))
    (s' : ScopeState Provider) : Prop :=
  match result with
  | .ok replacements => session.Tracks cacheAliases replacements ∧
      Installed initial good replacements s'
  | .error _ => Installed initial good [] s'

/-- The turn of every alias of the list, with the SQL it runs after those before it. -/
def AliasTurns (engine : QueryEngine Provider Schema DataFrame)
    (allowed : ScopeState Provider → SessionOp Provider Schema DataFrame Rows → Prop)
    (outcome : Outcomes Provider Schema DataFrame Rows) (initial : String → Option Provider)
    (good : String → Provider → Prop) (session : Session Provider Schema)
    (cacheAliases : List MssqlDerivedCacheAliasPlan) : Prop :=
  ∀ before cacheAlias after registered dependencies,
    cacheAliases = before ++ cacheAlias :: after →
    session.registeredDerivedTableById cacheAlias.tableId = some registered →
    session.transitiveRegisteredDerivedDependencies registered.table = .ok dependencies →
    AliasTurn engine allowed outcome initial good registered.name
      (Session.retainedSqlFor (before.map (·.tableId)) registered dependencies)

theorem replaceMssqlCacheAliasesFrom_meets (hsession : session.Consistent)
    (hrules : ScopeRules allowed outcome initial good (session.Requested cacheAliases))
    (hturns : AliasTurns engine allowed outcome initial good session cacheAliases)
    (hnodup : (cacheAliases.map (·.tableId)).Nodup)
    {rest : List MssqlDerivedCacheAliasPlan} (hsplit : cacheAliases = before ++ rest)
    (htracks : session.Tracks before replacements)
    (h : Installed initial good replacements s) :
    (scopeProtocol allowed outcome).Meets
      (session.replaceMssqlCacheAliasesFrom engine replacements rest) s
      (ReplaceEffect initial good session cacheAliases) := by
  have hscope : ∀ replacement ∈ replacements,
      session.Requested cacheAliases replacement.aliasName := by
    intro replacement hmem
    refine (htracks.requested hmem).mono ?_
    rw [hsplit]
    exact List.subset_append_left _ _
  induction rest generalizing before replacements s with
  | nil =>
    rw [List.append_nil] at hsplit
    exact ⟨hsplit ▸ htracks, h⟩
  | cons cacheAlias rest ih =>
    -- Every way out before the alias is installed restores those before it.
    have hrestore : ∀ (source : DeltaFunnelError) (failedAlias : Option WriteAllCacheAliasReport)
        (s' : ScopeState Provider), Installed initial good replacements s' →
        (scopeProtocol allowed outcome).Meets
          (restoreCacheAliasesAfterFailure source replacements failedAlias >>= fun error =>
            return .error error) s' (ReplaceEffect initial good session cacheAliases) := by
      intro source failedAlias s' h'
      exact (restoreCacheAliasesAfterFailure_meets hrules hscope h').bind
        fun error s'' hrestored => hrestored
    unfold Session.replaceMssqlCacheAliasesFrom
    split
    · exact hrestore _ _ s h
    · next registered hregistered =>
      split
      · exact hrestore _ _ s h
      · next dependencies hdependencies =>
        obtain ⟨hmem, hid⟩ := Session.mem_of_registeredDerivedTableById hregistered
        have hnew : registered.table.id ∉ before.map (·.tableId) := by
          rw [hsplit, List.map_append, List.map_cons] at hnodup
          rw [hid]
          exact fun hold => List.disjoint_of_nodup_append hnodup hold (List.mem_cons_self ..)
        have hrequested : session.Requested cacheAliases registered.name := by
          refine ⟨cacheAlias, ?_, registered, hregistered, rfl⟩
          rw [hsplit]
          exact List.mem_append_right _ (List.mem_cons_self ..)
        have hturn := hturns before cacheAlias rest registered dependencies hsplit hregistered
          hdependencies
        rw [← htracks.ids] at hturn
        refine (replaceRegisteredDerivedAliasWithCacheAttempt_meets hsession hrules h hmem
          hrequested (htracks.key_not_mem hsession hmem hnew) hturn).bind ?_
        intro result s' hattempt
        rcases result with failure | replacement
        · exact hrestore _ _ s' hattempt
        · obtain ⟨hid', hname', hinstalled⟩ := hattempt
          have htracks' := htracks.snoc hregistered hid' hname'
          have hsplit' : cacheAliases = (before ++ [cacheAlias]) ++ rest := by
            rw [hsplit, List.append_assoc]
            rfl
          refine ih hsplit' htracks' hinstalled ?_
          intro other hother
          refine (htracks'.requested hother).mono ?_
          rw [hsplit']
          exact List.subset_append_left _ _

theorem Installed.nil (hview : s.catalog.view = initial) : Installed initial good [] s :=
  ⟨List.nodup_nil, nofun, nofun, fun key _ => congrFun hview key⟩

theorem Installed.view_eq (h : Installed initial good [] s) : s.catalog.view = initial :=
  funext fun key => h.untouched key List.not_mem_nil

theorem replaceMssqlCacheAliases_meets (hsession : session.Consistent)
    (hrules : ScopeRules allowed outcome initial good (session.Requested cacheAliases))
    (hturns : AliasTurns engine allowed outcome initial good session cacheAliases)
    (hnodup : (cacheAliases.map (·.tableId)).Nodup) (hview : s.catalog.view = initial) :
    (scopeProtocol allowed outcome).Meets (session.replaceMssqlCacheAliases engine cacheAliases) s
      (ReplaceEffect initial good session cacheAliases) :=
  replaceMssqlCacheAliasesFrom_meets hsession hrules hturns hnodup (List.nil_append _).symm
    ⟨rfl, nofun⟩ (Installed.nil hview)

end Replace

namespace Session
variable (engine : QueryEngine Provider Schema DataFrame) (session : Session Provider Schema)

def tableKeys (table : LazyTable) : List String :=
  match table.kind with
  | .deltaSource =>
    match session.sources.find? fun source => source.table.id = table.id with
    | some source => [Catalog.tableKey source.name]
    | none => []
  | .derivedSql =>
    match session.registeredDerivedTableById table.id with
    | some derived => [Catalog.tableKey derived.name]
    | none => []

/-- The provider that reading a table over a catalog scans. -/
def lazyTableProvider (catalog : Catalog Provider) (table : LazyTable) : Option Provider :=
  match table.kind with
  | .deltaSource =>
    match session.sources.find? fun source => source.table.id = table.id with
    | some source => catalog.tableProvider source.name
    | none => none
  | .derivedSql =>
    match session.registeredDerivedTableById table.id with
    | some derived => catalog.tableProvider derived.name
    | none => (session.pendingDerivedTableById table.id).map (·.provider)

/-- The query that reading a table over a catalog plans. -/
def PlansLazyTable (catalog : Catalog Provider) (table : LazyTable) (dataframe : DataFrame) :
    Prop :=
  ∃ provider, session.lazyTableProvider catalog table = some provider ∧
    engine.readTable provider = .ok dataframe

/-- The keys that the query of an output looks up while the aliases are replaced. -/
def outputKeys (activeAliases : List MssqlDerivedCacheAliasPlan) (request : OutputWritePlan) :
    List String :=
  match session.outputRequiresCacheReplan request activeAliases with
  | .error _ => []
  | .ok false => session.tableKeys request.table
  | .ok true =>
    match session.sqlTextForDerivedTable request.table with
    | .error _ => []
    | .ok sqlText => engine.sqlKeys sqlText

/-- The query that an output streams over a catalog while the aliases are replaced. -/
def PlansOutput (activeAliases : List MssqlDerivedCacheAliasPlan) (catalog : Catalog Provider)
    (request : OutputWritePlan) (dataframe : DataFrame) : Prop :=
  session.outputRequiresCacheReplan request activeAliases = .ok false ∧
    session.PlansLazyTable engine catalog request.table dataframe ∨
  session.outputRequiresCacheReplan request activeAliases = .ok true ∧
    ∃ sqlText, session.sqlTextForDerivedTable request.table = .ok sqlText ∧
      engine.PlansSql catalog sqlText dataframe

end Session

section Outputs
variable {allowed : ScopeState Provider → SessionOp Provider Schema DataFrame Rows → Prop}
  {outcome : Outcomes Provider Schema DataFrame Rows} {s : ScopeState Provider}
  {engine : QueryEngine Provider Schema DataFrame} {session : Session Provider Schema}

theorem registeredTableDataframe_meets {name : String}
    (hallowed : allowed s (.lookup (Catalog.tableKey name))) :
    (scopeProtocol allowed outcome).Meets (Session.registeredTableDataframe engine name) s
      fun result s' => s' = s ∧ ∀ dataframe, result = .ok dataframe →
        engine.PlansTable s.catalog name dataframe := by
  refine (table_meets hallowed).bind ?_
  rintro result s' ⟨rfl, hplans⟩
  rcases result with error | dataframe
  · exact ⟨rfl, nofun⟩
  · refine ⟨rfl, fun dataframe' heq => hplans dataframe' ?_⟩
    cases heq
    rfl

theorem dataframeForLazyTable_meets {table : LazyTable}
    (hreads : ∀ key ∈ session.tableKeys table, allowed s (.lookup key)) :
    (scopeProtocol allowed outcome).Meets (session.dataframeForLazyTable engine table) s
      fun result s' => s' = s ∧ ∀ dataframe, result = .ok dataframe →
        session.PlansLazyTable engine s.catalog table dataframe := by
  unfold Session.tableKeys at hreads
  unfold Session.dataframeForLazyTable Session.PlansLazyTable Session.lazyTableProvider
  cases hkind : table.kind with
  | deltaSource =>
    rw [hkind] at hreads
    dsimp only at hreads ⊢
    split
    · exact ⟨rfl, nofun⟩
    · next source hfound =>
      rw [hfound] at hreads
      simp only [hfound]
      exact registeredTableDataframe_meets (hreads _ (List.mem_cons_self ..))
  | derivedSql =>
    rw [hkind] at hreads
    dsimp only at hreads ⊢
    rcases hregistered : session.registeredDerivedTableById table.id with _ | derived
    · rcases hpending : session.pendingDerivedTableById table.id with _ | pending
      · exact ⟨rfl, nofun⟩
      · dsimp only
        rcases hread : engine.readTable pending.provider with error | dataframe
        · exact ⟨rfl, nofun⟩
        · refine ⟨rfl, fun dataframe' heq => ⟨pending.provider, rfl, ?_⟩⟩
          cases heq
          exact hread
    · rw [hregistered] at hreads
      exact registeredTableDataframe_meets (hreads _ (List.mem_cons_self ..))

variable [ArrowSqlServer] {planned : PlannedMssqlOutput}

theorem createMssqlOutputQueryExecutionFromDataframe_meets
    (hfree : ∀ op : SessionOp Provider Schema DataFrame Rows, op.IsFree → allowed s op)
    {dataframe : DataFrame} {timings : List PhaseTimingReport} :
    (scopeProtocol allowed outcome).Meets
      (createMssqlOutputQueryExecutionFromDataframe planned dataframe timings) s
      fun result s' => s' = s ∧ ∀ execution, result = .ok execution →
        execution.stream = dataframe := by
  refine meets_sessionCall.2 ⟨hfree _ trivial, fun physical _ => ?_⟩
  rcases physical with error | ⟨⟩
  · exact ⟨rfl, nofun⟩
  refine meets_sessionCall.2 ⟨hfree _ trivial, fun started _ => ?_⟩
  rcases started with error | ⟨⟩
  · exact ⟨rfl, nofun⟩
  · refine ⟨rfl, fun execution heq => ?_⟩
    cases heq
    rfl

theorem createMssqlOutputQueryExecution_meets
    (hfree : ∀ op : SessionOp Provider Schema DataFrame Rows, op.IsFree → allowed s op)
    (hreads : ∀ key ∈ session.tableKeys planned.request.table, allowed s (.lookup key)) :
    (scopeProtocol allowed outcome).Meets
      (session.createMssqlOutputQueryExecution engine planned) s
      fun result s' => s' = s ∧ ∀ execution, result = .ok execution →
        session.PlansLazyTable engine s.catalog planned.request.table execution.stream := by
  refine (dataframeForLazyTable_meets hreads).bind ?_
  rintro result s' ⟨rfl, hplans⟩
  rcases result with error | dataframe
  · exact ⟨rfl, nofun⟩
  · refine (createMssqlOutputQueryExecutionFromDataframe_meets hfree).mono ?_
    rintro result s'' ⟨rfl, hstream⟩
    refine ⟨rfl, fun execution heq => ?_⟩
    rw [hstream execution heq]
    exact hplans dataframe rfl

theorem createCachedOutputQueryExecutionFromRetainedSql_meets {sqlText : String}
    {expectedSchema : Schema}
    (hfree : ∀ op : SessionOp Provider Schema DataFrame Rows, op.IsFree → allowed s op)
    (hreads : ∀ key ∈ engine.sqlKeys sqlText, allowed s (.lookup key)) :
    (scopeProtocol allowed outcome).Meets
      (createCachedOutputQueryExecutionFromRetainedSql engine planned sqlText expectedSchema) s
      fun result s' => s' = s ∧ ∀ execution, result = .ok execution →
        engine.PlansSql s.catalog sqlText execution.stream := by
  refine (sqlWithOptions_meets hreads).bind ?_
  rintro result s' ⟨rfl, hplans⟩
  rcases result with error | dataframe
  · exact ⟨rfl, nofun⟩
  · dsimp only
    split
    · exact ⟨rfl, nofun⟩
    · refine (createMssqlOutputQueryExecutionFromDataframe_meets hfree).mono ?_
      rintro result s'' ⟨rfl, hstream⟩
      refine ⟨rfl, fun execution heq => ?_⟩
      rw [hstream execution heq]
      exact hplans dataframe rfl

theorem cachedOutputQueryFactory_meets {activeAliases : List MssqlDerivedCacheAliasPlan}
    {factory : SessionProgram Provider Schema DataFrame Rows
      (Except MssqlOutputQueryError (MssqlOutputQueryExecution DataFrame))}
    (hfactory : session.cachedOutputQueryFactory engine planned activeAliases = .ok factory)
    (hfree : ∀ op : SessionOp Provider Schema DataFrame Rows, op.IsFree → allowed s op)
    (hreads : ∀ key ∈ session.outputKeys engine activeAliases planned.request,
      allowed s (.lookup key)) :
    (scopeProtocol allowed outcome).Meets factory s
      fun result s' => s' = s ∧ ∀ execution, result = .ok execution →
        session.PlansOutput engine activeAliases s.catalog planned.request execution.stream := by
  unfold Session.cachedOutputQueryFactory at hfactory
  unfold Session.outputKeys at hreads
  split at hfactory
  · cases hfactory
  · next hroute =>
    cases hfactory
    rw [hroute] at hreads
    refine (createMssqlOutputQueryExecution_meets hfree hreads).mono ?_
    rintro result s' ⟨rfl, hplans⟩
    exact ⟨rfl, fun execution heq => .inl ⟨hroute, hplans execution heq⟩⟩
  · next hroute =>
    rw [hroute] at hreads
    dsimp only at hfactory hreads
    split at hfactory
    · cases hfactory
      exact ⟨rfl, nofun⟩
    · next sqlText hsql =>
      rw [hsql] at hreads
      split at hfactory
      · cases hfactory
        exact ⟨rfl, nofun⟩
      · cases hfactory
        refine (createCachedOutputQueryExecutionFromRetainedSql_meets hfree hreads).mono ?_
        rintro result s' ⟨rfl, hplans⟩
        exact ⟨rfl, fun execution heq => .inr ⟨hroute, sqlText, hsql, hplans execution heq⟩⟩

end Outputs

section Scope
variable {outcome : Outcomes Provider Schema DataFrame Rows}
  {good : String → Provider → Prop} {s : ScopeState Provider}
  {replacements : List (MssqlScopedCacheAliasReplacement Provider)}
  {session : Session Provider Schema} {cacheAliases : List MssqlDerivedCacheAliasPlan}

/-- Exactly the given aliases are replaced: each by the provider that was materialized for it. -/
structure ExactlyReplaced (session : Session Provider Schema)
    (cacheAliases : List MssqlDerivedCacheAliasPlan) (s : ScopeState Provider) : Prop where
  replaced : ∀ name, session.Requested cacheAliases name → ∃ provider,
    s.catalog.tableProvider name = some provider ∧
      s.cached (Catalog.tableKey name) = some provider
  untouched : ∀ key, (∀ name, session.Requested cacheAliases name → Catalog.tableKey name ≠ key) →
    s.catalog.view key = session.catalog.view key

theorem Installed.exactlyReplaced (h : Installed session.catalog.view good replacements s)
    (htracks : session.Tracks cacheAliases replacements) :
    ExactlyReplaced session cacheAliases s := by
  constructor
  · intro name hrequested
    obtain ⟨replacement, hmem, hkey⟩ := List.mem_map.1 (htracks.mem_keys.2 ⟨name, hrequested, rfl⟩)
    obtain ⟨provider, hview, hcached, -⟩ := h.replaced replacement hmem
    rw [Catalog.tableProvider_eq_view, ← hkey]
    exact ⟨provider, hview, hcached⟩
  · intro key hkey
    apply h.untouched
    intro hmem
    obtain ⟨name, hrequested, heq⟩ := htracks.mem_keys.1 hmem
    exact hkey name hrequested heq

def Session.scopeState (session : Session Provider Schema) : ScopeState Provider :=
  ⟨session.catalog, fun _ => none⟩

/-- The query engine does not refuse to register a provider that the session's catalog has. -/
def Session.AcceptsOriginals (session : Session Provider Schema)
    (outcome : Outcomes Provider Schema DataFrame Rows) : Prop :=
  ∀ name provider message, session.catalog.tableProvider name = some provider →
    ¬outcome (.register name provider) (.error message)

theorem Session.AcceptsOriginals.scopeRules (haccepts : session.AcceptsOriginals outcome)
    {scope : String → Prop} :
    ScopeRules (fun _ _ => True) outcome session.catalog.view (fun _ _ => True) scope :=
  ⟨fun _ _ _ => trivial, fun _ _ _ _ => trivial, fun _ _ _ _ _ _ => trivial,
    fun name provider message _ => haccepts name provider message⟩

theorem aliasTurns_of_unrestricted {engine : QueryEngine Provider Schema DataFrame}
    {initial : String → Option Provider} :
    AliasTurns engine (fun _ _ => True) outcome initial (fun _ _ => True) session cacheAliases := by
  intro before cacheAlias after registered dependencies _ _ _
  exact ⟨fun _ _ _ _ _ => trivial, fun _ _ _ _ _ _ => trivial⟩

end Scope

section Run
variable [ArrowSqlServer]
  {allowed : ScopeState Provider → SessionOp Provider Schema DataFrame Rows → Prop}
  {outcome : Outcomes Provider Schema DataFrame Rows} {initial : String → Option Provider}
  {good : String → Provider → Prop} {s : ScopeState Provider}
  {replacements : List (MssqlScopedCacheAliasReplacement Provider)}
  {engine : QueryEngine Provider Schema DataFrame} {session : Session Provider Schema}
  {cacheAliases : List MssqlDerivedCacheAliasPlan} {plannedOutputs : List PlannedMssqlOutput}

/-- What the outputs must be granted while the aliases are replaced. -/
structure OutputTurn (engine : QueryEngine Provider Schema DataFrame)
    (allowed : ScopeState Provider → SessionOp Provider Schema DataFrame Rows → Prop)
    (session : Session Provider Schema) (cacheAliases : List MssqlDerivedCacheAliasPlan)
    (s : ScopeState Provider) (planned : PlannedMssqlOutput) : Prop where
  reads : ∀ key ∈ session.outputKeys engine cacheAliases planned.request, allowed s (.lookup key)
  writes : ∀ schema dataframe,
    session.PlansOutput engine cacheAliases s.catalog planned.request dataframe →
    allowed s (.writeOutput schema planned.resolvedTarget.summary dataframe)

theorem mem_buildWriteAllCachedJobs
    {jobs : List (MssqlOutputWriteJob (sessionSignature Provider Schema DataFrame Rows) Schema
      DataFrame)}
    (hjobs : session.buildWriteAllCachedJobs engine cacheAliases plannedOutputs = .ok jobs) :
    ∀ job ∈ jobs, ∃ planned ∈ plannedOutputs, job.target = planned.resolvedTarget.summary ∧
      session.cachedOutputQueryFactory engine planned cacheAliases =
        .ok job.createQueryExecution := by
  induction plannedOutputs generalizing jobs with
  | nil =>
    cases hjobs
    exact nofun
  | cons planned plannedOutputs ih =>
    obtain ⟨outputSchema, -, hjobs⟩ := except_bind_eq_ok.1 hjobs
    obtain ⟨factory, hfactory, hjobs⟩ := except_bind_eq_ok.1 hjobs
    obtain ⟨rest, hrest, hjobs⟩ := except_bind_eq_ok.1 hjobs
    cases hjobs
    intro job hjob
    rcases List.mem_cons.1 hjob with rfl | hjob
    · exact ⟨planned, List.mem_cons_self .., rfl, hfactory⟩
    · obtain ⟨other, hother, hmatches⟩ := ih hrest job hjob
      exact ⟨other, List.mem_cons_of_mem _ hother, hmatches⟩

theorem cachedWorkflow_meets
    {jobs : List (MssqlOutputWriteJob (sessionSignature Provider Schema DataFrame Rows) Schema
      DataFrame)}
    (hjobs : session.buildWriteAllCachedJobs engine cacheAliases plannedOutputs = .ok jobs)
    (hfree : ∀ op : SessionOp Provider Schema DataFrame Rows, op.IsFree → allowed s op)
    (houtputs : ∀ planned ∈ plannedOutputs,
      OutputTurn engine allowed session cacheAliases s planned)
    {options : MssqlWorkflowWriteOptions} {reportsSqlWritePhase : Bool} :
    (scopeProtocol allowed outcome).Meets
      (writeMssqlOutputsWithWriter jobs options (Session.sessionWriter reportsSqlWritePhase)) s
      fun _ s' => s' = s := by
  refine @writeMssqlOutputsWithWriter_meets _ _ _ _ _ (fun s' => s' = s) _ _ _ _ ?_ rfl
  intro job hjob
  obtain ⟨planned, hplanned, htarget, hfactory⟩ := mem_buildWriteAllCachedJobs hjobs job hjob
  have hturn := houtputs planned hplanned
  refine ⟨session.PlansOutput engine cacheAliases s.catalog planned.request, ?_, ?_⟩
  · rintro s' rfl
    exact cachedOutputQueryFactory_meets hfactory hfree hturn.reads
  · rintro s' stream rfl hstream
    rw [htarget]
    exact ⟨hturn.writes job.outputSchema stream hstream, fun reply _ => rfl⟩

/-- **A cached run** ends with the catalog it started with, whatever fails on the way. -/
theorem writeAllCached_meets (hsession : session.Consistent)
    (hrules : ScopeRules allowed outcome initial good (session.Requested cacheAliases))
    (hturns : AliasTurns engine allowed outcome initial good session cacheAliases)
    (houtputs : ∀ s replacements, session.Tracks cacheAliases replacements →
      Installed initial good replacements s → ∀ planned ∈ plannedOutputs,
        OutputTurn engine allowed session cacheAliases s planned)
    (hnodup : (cacheAliases.map (·.tableId)).Nodup) (hview : s.catalog.view = initial)
    (options : MssqlWorkflowWriteOptions) (reportsSqlWritePhase : Bool) :
    (scopeProtocol allowed outcome).Meets
      (session.writeAllCached engine plannedOutputs cacheAliases options reportsSqlWritePhase) s
      fun _ s' => s'.catalog.view = initial := by
  refine (replaceMssqlCacheAliases_meets hsession hrules hturns hnodup hview).bind ?_
  intro result s₁ hreplaced
  rcases result with error | replacements
  · exact hreplaced.view_eq
  · obtain ⟨htracks, hinstalled⟩ := hreplaced
    have hscope : ∀ replacement ∈ replacements,
        session.Requested cacheAliases replacement.aliasName :=
      fun replacement hmem => htracks.requested hmem
    dsimp only
    split
    · exact (restoreCacheAliasesAfterFailure_meets hrules hscope hinstalled).bind
        fun error s₂ hrestored => hrestored.view_eq
    · next jobs hjobs =>
      refine (cachedWorkflow_meets hjobs (hrules.free s₁)
        (houtputs s₁ replacements htracks hinstalled)).bind ?_
      rintro writeResult s₂ rfl
      refine (restoreMssqlCacheAliasesWithReports_meets hrules hscope hinstalled).bind ?_
      rintro ⟨reports, restoreResult⟩ s₃ hrestored
      rcases writeResult with writeError | report
      · exact hrestored.view_eq
      · rcases restoreResult with ⟨tableId, restoreError⟩ | ⟨⟩
        · exact hrestored.view_eq
        · exact hrestored.view_eq

theorem cachedWorkflow_steps
    {jobs : List (MssqlOutputWriteJob (sessionSignature Provider Schema DataFrame Rows) Schema
      DataFrame)}
    (hjobs : session.buildWriteAllCachedJobs engine cacheAliases plannedOutputs = .ok jobs)
    {options : MssqlWorkflowWriteOptions} {reportsSqlWritePhase : Bool}
    {trace : List (Event (sessionSignature Provider Schema DataFrame Rows))}
    {rest : SessionProgram Provider Schema DataFrame Rows
      (Except DeltaFunnelError MssqlWorkflowWriteReport)}
    (hsteps : Steps (writeMssqlOutputsWithWriter jobs options
      (Session.sessionWriter reportsSqlWritePhase)) trace rest)
    (hfollows : (catalogProtocol outcome).Follows s trace) :
    (catalogProtocol outcome).after s trace = s := by
  have hmeets := @cachedWorkflow_meets Provider Schema DataFrame Rows _ (fun s' _ => s' = s)
    outcome s engine session cacheAliases plannedOutputs jobs hjobs (fun _ _ => rfl)
    (fun _ _ => ⟨fun _ _ => rfl, fun _ _ _ => rfl⟩) options reportsSqlWritePhase
  exact @Protocol.Meets.always _ _ _ (catalogProtocol outcome) s (fun s' => s' = s) _ _ _ hmeets
    hsteps hfollows

/-- How a cached run goes: the aliases cannot be replaced, the jobs cannot be built and what was
replaced is restored, or the output workflow runs between the replacing and the restoring. -/
theorem writeAllCached_cases {options : MssqlWorkflowWriteOptions} {reportsSqlWritePhase : Bool}
    {trace : List (Event (sessionSignature Provider Schema DataFrame Rows))}
    {result : Except DeltaFunnelError (MssqlWorkflowWriteReport × List WriteAllCacheAliasReport)}
    (hruns : Runs (session.writeAllCached engine plannedOutputs cacheAliases options
      reportsSqlWritePhase) trace result) :
    (∃ error, result = .error error ∧
      Runs (session.replaceMssqlCacheAliases engine cacheAliases) trace (.error error)) ∨
    ∃ first replacements, Runs (session.replaceMssqlCacheAliases engine cacheAliases) first
        (.ok replacements) ∧
      ((∃ buildError error last, trace = first ++ last ∧ result = .error error ∧
        Runs (restoreCacheAliasesAfterFailure buildError replacements none) last error) ∨
      ∃ jobs writing writeResult last restored, trace = first ++ (writing ++ last) ∧
        session.buildWriteAllCachedJobs engine cacheAliases plannedOutputs = .ok jobs ∧
        Runs (writeMssqlOutputsWithWriter jobs options
          (Session.sessionWriter reportsSqlWritePhase)) writing writeResult ∧
        Runs (restoreMssqlCacheAliasesWithReports replacements) last restored ∧
        ∀ report aliasReports, result = .ok (report, aliasReports) → writeResult = .ok report) := by
  unfold Session.writeAllCached at hruns
  obtain ⟨first, replaced, second, rfl, hfirst, hsecond⟩ := runs_bind.1 hruns
  cases replaced with
  | error error =>
    obtain ⟨rfl, rfl⟩ := runs_ret.1 hsecond
    rw [List.append_nil]
    exact .inl ⟨error, rfl, hfirst⟩
  | ok replacements =>
    refine .inr ⟨first, replacements, hfirst, ?_⟩
    dsimp only at hsecond
    split at hsecond
    · next buildError _ =>
      obtain ⟨last, error, rest, rfl, hlast, hrest⟩ := runs_bind.1 hsecond
      obtain ⟨rfl, rfl⟩ := runs_ret.1 hrest
      rw [List.append_nil]
      exact .inl ⟨buildError, error, last, rfl, rfl, hlast⟩
    · next jobs hjobs =>
      obtain ⟨writing, writeResult, behind, rfl, hwriting, hbehind⟩ := runs_bind.1 hsecond
      obtain ⟨last, restored, rest, rfl, hlast, hrest⟩ := runs_bind.1 hbehind
      -- a run that returns a report returns that of its output workflow
      have hreported : rest = [] ∧ ∀ report aliasReports,
          result = .ok (report, aliasReports) → writeResult = .ok report := by
        obtain ⟨reports, restoreResult⟩ := restored
        cases writeResult with
        | error writeError =>
          obtain ⟨rfl, rfl⟩ := runs_ret.1 hrest
          exact ⟨rfl, nofun⟩
        | ok written =>
          cases restoreResult with
          | error failure =>
            obtain ⟨rfl, rfl⟩ := runs_ret.1 hrest
            exact ⟨rfl, nofun⟩
          | ok done =>
            obtain ⟨rfl, rfl⟩ := runs_ret.1 hrest
            refine ⟨rfl, ?_⟩
            intro report aliasReports h
            rw [(Prod.mk.inj (Except.ok.inj h)).1]
      obtain ⟨rfl, hreported⟩ := hreported
      rw [List.append_nil]
      exact .inr ⟨jobs, writing, writeResult, last, restored, rfl, hjobs, hwriting, hlast,
        hreported⟩

/-- The run of the output workflow inside a cached run. All outputs are written in it, and at each
of its moments exactly the requested aliases are replaced. -/
def WorkflowScoped (outcome : Outcomes Provider Schema DataFrame Rows)
    (session : Session Provider Schema) (cacheAliases : List MssqlDerivedCacheAliasPlan)
    (workflow : SessionProgram Provider Schema DataFrame Rows
      (Except DeltaFunnelError MssqlWorkflowWriteReport))
    (trace : List (Event (sessionSignature Provider Schema DataFrame Rows)))
    (writeResult : Except DeltaFunnelError MssqlWorkflowWriteReport) : Prop :=
  ∃ first writing last, trace = first ++ (writing ++ last) ∧ Runs workflow writing writeResult ∧
    (∀ e ∈ first, SessionOp.writtenTarget e.op = none) ∧
    (∀ e ∈ last, SessionOp.writtenTarget e.op = none) ∧
    ∀ before after, writing = before ++ after → ExactlyReplaced session cacheAliases
      ((catalogProtocol outcome).after session.scopeState (first ++ before))

omit [ArrowSqlServer] in
theorem writesNothing_of_meets {α : Type} {p : SessionProgram Provider Schema DataFrame Rows α}
    {Q : α → ScopeState Provider → Prop}
    {trace : List (Event (sessionSignature Provider Schema DataFrame Rows))} {a : α}
    (hmeets : (scopeProtocol (fun _ op => SessionOp.writtenTarget op = none) outcome).Meets p s Q)
    (hruns : Runs p trace a) (hfollows : (catalogProtocol outcome).Follows s trace) :
    (∀ e ∈ trace, SessionOp.writtenTarget e.op = none) ∧
      Q a ((catalogProtocol outcome).after s trace) := by
  obtain ⟨hrespects, hend⟩ := hmeets.sound hruns (follows_scopeProtocol.2 hfollows)
  rw [after_scopeProtocol] at hend
  refine ⟨?_, hend⟩
  intro e he
  obtain ⟨before, after, rfl⟩ := List.append_of_mem he
  exact hrespects.at_event

omit [ArrowSqlServer] in
theorem scopeRules_of_writesNothing (haccepts : session.AcceptsOriginals outcome)
    {scope : String → Prop} :
    ScopeRules (fun _ op => SessionOp.writtenTarget op = none) outcome session.catalog.view
      (fun _ _ => True) scope := by
  refine ⟨?_, fun _ _ _ _ => rfl, fun _ _ _ _ _ _ => rfl, fun name provider message _ =>
    haccepts name provider message⟩
  intro s op hfree
  cases op with
  | writeOutput schema target stream => exact hfree.elim
  | _ => rfl

/-- **Scoped aliases are undone.** A cached run of any session, with distinct aliases, returns
with the catalog it was started with, whatever materializations, cached registrations, output
jobs and writes come to. It fails without writing anything, or its output workflow runs with
exactly the requested aliases replaced. -/
theorem scoped_aliases_are_undone (calls : List (SessionCall Provider Schema))
    (hbound : (Session.fresh.run calls).tableCount < u64Max)
    (haccepts : (Session.fresh.run calls).AcceptsOriginals outcome)
    (hnodup : (cacheAliases.map (·.tableId)).Nodup) (options : MssqlWorkflowWriteOptions)
    (reportsSqlWritePhase : Bool) :
    let session := Session.fresh.run calls
    ∀ trace result, Runs (session.writeAllCached engine plannedOutputs cacheAliases options
        reportsSqlWritePhase) trace result →
      (catalogProtocol outcome).Follows session.scopeState trace →
      ((catalogProtocol outcome).after session.scopeState trace).catalog.view =
          session.catalog.view ∧
        ((∃ error, result = .error error ∧ ∀ e ∈ trace, SessionOp.writtenTarget e.op = none) ∨
        ∃ jobs writeResult,
          session.buildWriteAllCachedJobs engine cacheAliases plannedOutputs = .ok jobs ∧
          WorkflowScoped outcome session cacheAliases (writeMssqlOutputsWithWriter jobs options
            (Session.sessionWriter reportsSqlWritePhase)) trace writeResult ∧
          ∀ report aliasReports, result = .ok (report, aliasReports) → writeResult = .ok report) := by
  intro session trace result hruns hfollows
  have hsession : session.Consistent := Session.run_consistent calls hbound
  have hview : session.scopeState.catalog.view = session.catalog.view := rfl
  constructor
  · have hmeets := @writeAllCached_meets Provider Schema DataFrame Rows _ _ outcome _ _ _ engine
      session cacheAliases plannedOutputs hsession haccepts.scopeRules aliasTurns_of_unrestricted
      (fun _ _ _ _ _ _ => ⟨fun _ _ => trivial, fun _ _ _ => trivial⟩) hnodup hview options
      reportsSqlWritePhase
    exact (hmeets.sound hruns hfollows).2
  · have hturns : AliasTurns engine (fun _ op => SessionOp.writtenTarget op = none) outcome
        session.catalog.view (fun _ _ => True) session cacheAliases := by
      intro before cacheAlias after registered dependencies _ _ _
      exact ⟨fun _ _ _ _ _ => rfl, fun _ _ _ _ _ _ => trivial⟩
    have hrules := fun scope => @scopeRules_of_writesNothing Provider Schema DataFrame Rows outcome
      session haccepts scope
    have hreplace := replaceMssqlCacheAliases_meets hsession (hrules _) hturns hnodup hview
    -- replacing and restoring write nothing; the workflow starts and ends with the same catalog
    obtain ⟨error, hresult, hreplaced⟩ | ⟨first, replacements, hfirst, hbuilt⟩ :=
      writeAllCached_cases hruns
    · exact .inl ⟨error, hresult, (writesNothing_of_meets hreplace hreplaced hfollows).1⟩
    · have hfollows₁ : (catalogProtocol outcome).Follows session.scopeState first := by
        obtain ⟨_, _, _, rfl, -⟩ | ⟨_, _, _, _, _, rfl, -⟩ := hbuilt
        · exact (Protocol.follows_append.1 hfollows).1
        · exact (Protocol.follows_append.1 hfollows).1
      obtain ⟨hnone, htracks, hinstalled⟩ := writesNothing_of_meets hreplace hfirst hfollows₁
      have hscope : ∀ replacement ∈ replacements,
          session.Requested cacheAliases replacement.aliasName :=
        fun replacement hmem => htracks.requested hmem
      obtain ⟨buildError, error, last, rfl, hresult, hlast⟩ |
        ⟨jobs, writing, writeResult, last, restored, rfl, hjobs, hwriting, hlast, hreported⟩ := hbuilt
      · have hrestored := writesNothing_of_meets
          (restoreCacheAliasesAfterFailure_meets (hrules _) hscope hinstalled) hlast
            (Protocol.follows_append.1 hfollows).2
        refine .inl ⟨error, hresult, ?_⟩
        intro e he
        exact (List.mem_append.1 he).elim (hnone e) (hrestored.1 e)
      · obtain ⟨hfollows₂, hfollows₃⟩ :=
          Protocol.follows_append.1 (Protocol.follows_append.1 hfollows).2
        refine .inr ⟨jobs, writeResult, hjobs, ⟨first, writing, last, rfl, hwriting, hnone, ?_, ?_⟩,
          hreported⟩
        · rw [cachedWorkflow_steps hjobs hwriting hfollows₂] at hfollows₃
          exact (writesNothing_of_meets
            (restoreMssqlCacheAliasesWithReports_meets (hrules _) hscope hinstalled) hlast
              hfollows₃).1
        · rintro before after rfl
          obtain ⟨rest, hbefore, -⟩ := hwriting.split
          -- no step of the workflow changes the catalog, so it stays what it was at first
          rw [Protocol.after_append,
            cachedWorkflow_steps hjobs hbefore (Protocol.follows_append.1 hfollows₂).1]
          exact hinstalled.exactlyReplaced htracks

end Run

abbrev SampleTable : Type := String × ℕ

/-- An engine whose statements name the one table they read. -/
def sampleEngine : QueryEngine SampleTable Unit ℕ where
  references sql := .ok [Catalog.tableKey sql]
  planSql _ resolved :=
    match resolved with
    | [(_, some provider)] => .ok provider.2
    | _ => .error "table not found"
  readTable provider := .ok provider.2
  noTableNamed name := "No table named '" ++ name ++ "'"
  schema _ := ()
  schemasCompatible _ _ := true
  schemaMismatch _ _ := ""
  validateSchemaAgainstMappings _ _ := .ok ()
  replanDiagnostic error _ _ := error.display

/-- Queries collect their rows, tables hold what they are built from, and of all registrations
only those of the given provider may be refused. -/
def refusing (refused : SampleTable) : Outcomes SampleTable Unit ℕ ℕ
  | .register _ provider, .error _ => provider = refused
  | .collectPartitions dataframe, .ok rows => rows = dataframe
  | .memTable _ rows, .ok provider => provider.2 = rows
  | _, _ => True

def sampleRegister (refused : SampleTable) (catalog : Catalog SampleTable) (name : String)
    (provider : SampleTable) : Except String Unit :=
  if (catalog.tableProvider name).isSome then .error "The table already exists"
  else if provider = refused then .error "refused"
  else .ok ()

def sampleReport : MssqlWriteReport :=
  @MssqlWriteReport.fromOutputPlanWithMetrics acceptingDriver ordersAppendPlan
    (.new .unavailable (.notStarted .notExecuted) 0 0 false .notApplicable)

/-- The environment that refuses the given provider and answers all else. -/
def sampleAnswer (refused : SampleTable) (s : ScopeState SampleTable) :
    (op : SessionOp SampleTable Unit ℕ ℕ) → op.Reply
  | .lookup key => s.catalog.view key
  | .deregister name => .ok (s.catalog.tableProvider name)
  | .register name provider => sampleRegister refused s.catalog name provider
  | .hasCacheFactory => false
  | .createPhysicalPlan _ => .ok ()
  | .startPartitionStreams _ => .ok ()
  | .collectPartitions dataframe => .ok dataframe
  | .memTable aliasName rows => .ok ("cached_" ++ aliasName, rows)
  | .startOutputStream _ => .ok ()
  | .writeOutput _ _ _ => .ok sampleReport

theorem sampleAnswer_possible (refused : SampleTable) (s : ScopeState SampleTable)
    (op : SessionOp SampleTable Unit ℕ ℕ) :
    (catalogProtocol (refusing refused)).possible s op (sampleAnswer refused s op) := by
  cases op with
  | lookup key => rfl
  | deregister name => rfl
  | register name provider =>
    have hpossible : ∀ reply : Except String Unit,
        reply = sampleRegister refused s.catalog name provider →
        s.catalog.possible (refusing refused) (.register name provider) reply := by
      intro reply hreply
      unfold sampleRegister at hreply
      split_ifs at hreply with hpresent hrefused
      · subst hreply
        exact Or.inl hpresent
      · subst hreply
        exact Or.inr hrefused
      · subst hreply
        exact Option.not_isSome_iff_eq_none.1 hpresent
    exact hpossible _ rfl
  | hasCacheFactory => trivial
  | createPhysicalPlan dataframe => trivial
  | startPartitionStreams dataframe => trivial
  | collectPartitions dataframe => rfl
  | memTable aliasName rows => rfl
  | startOutputStream dataframe => trivial
  | writeOutput schema target stream => trivial

def tableSource (name : String) (rows : ℕ) : SessionCall SampleTable Unit :=
  .deltaLake ⟨name, "s3://lake/" ++ name⟩
    ⟨.ok (), .ok (), .ok ⟨"s3://lake/" ++ name, ()⟩, .ok (name, rows)⟩

def tableQuery (table : String) (rows : ℕ) : SessionCall SampleTable Unit :=
  .tableFromSql table ⟨.ok ((), ("view", rows)), .ok ([.bare table], [])⟩

/-- Two queries over `deep`, which reads `shared`. -/
def layeredCalls : List (SessionCall SampleTable Unit) :=
  [tableSource "orders" 7, tableQuery "orders" 7, .registerAlias "shared" (.derivedSql 1) none,
    tableQuery "shared" 7, .registerAlias "deep" (.derivedSql 2) none, tableQuery "deep" 7,
    tableQuery "deep" 7]

def layeredAliases : List MssqlDerivedCacheAliasPlan := [⟨1, "shared", [0, 1]⟩, ⟨2, "deep", [0, 1]⟩]

theorem layered_acceptsOriginals (rows : ℕ) :
    (Session.fresh.run layeredCalls).AcceptsOriginals (refusing ("cached_deep", rows)) := by
  intro name provider message hfound hrefused
  have hentries : ∀ entry ∈ (Session.fresh.run layeredCalls).catalog,
      entry.2.1 ≠ "cached_deep" := by decide
  obtain ⟨before, after, hsplit, -⟩ := List.lookup_eq_some_iff.1 hfound
  refine hentries (Catalog.tableKey name, provider) ?_ (congrArg Prod.fst hrefused)
  rw [hsplit]
  exact List.mem_append_right _ (List.mem_cons_self ..)

/-- The output of a derived table, planned over a sample connection. -/
def samplePlanned (id : ℕ) (name : String) : @PlannedMssqlOutput acceptingDriver :=
  letI := acceptingDriver
  { request := sampleOutput id name
    resolvedTarget :=
      { outputName := name
        table := ⟨some "dbo", "orders"⟩
        loadMode := .appendExisting
        connection := ⟨"Server=warehouse", some "warehouse-primary", by decide⟩
        connectionSource := .contextDefault }
    outputPlan := ordersAppendPlan
    phaseTimings := [] }

/-- Both outputs of `layeredCalls`, written with `shared` and `deep` cached, of which one provider
may be refused. -/
def layeredRun (refused : SampleTable) : List (Event (sessionSignature SampleTable Unit ℕ ℕ)) ×
    Except DeltaFunnelError (MssqlWorkflowWriteReport × List WriteAllCacheAliasReport) :=
  (catalogProtocol (refusing refused)).drive (sampleAnswer refused)
    (@Session.writeAllCached acceptingDriver SampleTable Unit ℕ ℕ sampleEngine
      (Session.fresh.run layeredCalls) [samplePlanned 3 "a", samplePlanned 4 "b"] layeredAliases
      {} true)
    (Session.fresh.run layeredCalls).scopeState

/-- The run in which `deep` cannot be cached writes nothing, the other writes both outputs with
both aliases replaced, and neither leaves a trace in the catalog. -/
theorem layered_aliases_are_undone :
    let session : Session SampleTable Unit := Session.fresh.run layeredCalls
    ((layeredRun ("cached_deep", 7)).2.isOk = false ∧
        ((layeredRun ("cached_deep", 7)).1.filterMap fun e => SessionOp.writtenTarget e.op) = [] ∧
        ((catalogProtocol (refusing ("cached_deep", 7))).after session.scopeState
          (layeredRun ("cached_deep", 7)).1).catalog.view = session.catalog.view) ∧
      (layeredRun ("cached_deep", 0)).2.isOk = true ∧
        ((layeredRun ("cached_deep", 0)).1.filterMap fun e =>
          (SessionOp.writtenTarget e.op).map (·.outputName)) = ["a", "b"] ∧
        ((catalogProtocol (refusing ("cached_deep", 0))).after session.scopeState
          (layeredRun ("cached_deep", 0)).1).catalog.view = session.catalog.view ∧
        ∃ workflow writeResult, WorkflowScoped (refusing ("cached_deep", 0)) session layeredAliases
          workflow (layeredRun ("cached_deep", 0)).1 writeResult := by
  intro session
  have hundone := fun rows => @scoped_aliases_are_undone SampleTable Unit ℕ ℕ acceptingDriver
    (refusing ("cached_deep", rows)) sampleEngine layeredAliases
    [samplePlanned 3 "a", samplePlanned 4 "b"] layeredCalls (by decide)
    (layered_acceptsOriginals rows) (by decide) {} true _ _ (Protocol.drive_runs _ _)
    (Protocol.drive_follows (sampleAnswer_possible ("cached_deep", rows)) _ _)
  refine ⟨⟨by decide, by decide, (hundone 7).1⟩, by decide, by decide, (hundone 0).1, ?_⟩
  obtain ⟨error, hfailed, -⟩ | ⟨jobs, writeResult, -, hscoped, -⟩ := (hundone 0).2
  · have hok : (layeredRun ("cached_deep", 0)).2.isOk = true := by decide
    have hfailed' : (layeredRun ("cached_deep", 0)).2 = .error error := hfailed
    rw [hfailed'] at hok
    cases hok
  · exact ⟨_, writeResult, hscoped⟩

end DeltaFunnel
