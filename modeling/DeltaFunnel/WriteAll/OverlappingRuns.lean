import DeltaFunnel.Interaction.Parallel
import DeltaFunnel.Session.CatalogInvariant
import DeltaFunnel.WriteAll.IssuedOperations

/-! Cached runs that overlap on one session: which keys a run replaces and looks up, the
interleavings that keep the catalog, and one that does not. -/

namespace DeltaFunnel
open Interaction

variable {Provider Schema DataFrame Rows ι : Type}

namespace Session
variable (engine : QueryEngine Provider Schema DataFrame) (session : Session Provider Schema)

/-- The keys that resolving an alias looks up, if its SQL can be parsed. -/
def resolvedKeys (aliasName : String) : Option String → Option (List String)
  | some sql => (engine.references sql).toOption
  | none => some [Catalog.tableKey aliasName]

/-- The key that an alias replaces after those of `replacedIds`, and those it looks up; none if the
alias cannot be resolved. -/
def aliasTurn (replacedIds : List ℕ) (cacheAlias : MssqlDerivedCacheAliasPlan) :
    Option (String × List String) :=
  match session.registeredDerivedTableById cacheAlias.tableId with
  | none => none
  | some registered =>
    match session.transitiveRegisteredDerivedDependencies registered.table with
    | .error _ => none
    | .ok dependencies =>
      (resolvedKeys engine registered.name
        (retainedSqlFor replacedIds registered dependencies)).map fun lookedUp =>
          (Catalog.tableKey registered.name, lookedUp)

/-- The turns that a run comes to: it stops at the first alias that cannot be resolved. -/
def aliasTurns : List ℕ → List MssqlDerivedCacheAliasPlan → List (String × List String)
  | _, [] => []
  | replacedIds, cacheAlias :: cacheAliases =>
    match session.aliasTurn engine replacedIds cacheAlias with
    | none => []
    | some turn => turn :: aliasTurns (replacedIds ++ [cacheAlias.tableId]) cacheAliases

/-- The keys that the query of an output looks up, if its SQL can be parsed. -/
def outputTurn (cacheAliases : List MssqlDerivedCacheAliasPlan) (request : OutputWritePlan) :
    Option (List String) :=
  match session.outputRequiresCacheReplan request cacheAliases with
  | .error _ => none
  | .ok false => some (session.tableKeys request.table)
  | .ok true =>
    match session.sqlTextForDerivedTable request.table with
    | .error _ => none
    | .ok sqlText => (engine.references sqlText).toOption

/-- The keys that outputs look up, up to the first whose query cannot be parsed. -/
def outputTurns (cacheAliases : List MssqlDerivedCacheAliasPlan) :
    List OutputWritePlan → List String
  | [] => []
  | request :: requests =>
    match session.outputTurn engine cacheAliases request with
    | none => []
    | some lookedUp => lookedUp ++ outputTurns cacheAliases requests

def canBeSetUp (cacheAliases : List MssqlDerivedCacheAliasPlan)
    (requests : List OutputWritePlan) : Bool :=
  requests.all fun request => (session.schemaForLazyTable request.table).isOk &&
    (session.outputRequiresCacheReplan request cacheAliases).isOk

end Session

structure CachedRun [ArrowSqlServer] where
  plannedOutputs : List PlannedMssqlOutput
  cacheAliases : List MssqlDerivedCacheAliasPlan
  options : MssqlWorkflowWriteOptions
  reportsSqlWritePhase : Bool

namespace CachedRun
variable [ArrowSqlServer] (run : CachedRun) (engine : QueryEngine Provider Schema DataFrame)
  (session : Session Provider Schema)

def program : SessionProgram Provider Schema DataFrame Rows
    (Except DeltaFunnelError (MssqlWorkflowWriteReport × List WriteAllCacheAliasReport)) :=
  session.writeAllCached engine run.plannedOutputs run.cacheAliases run.options
    run.reportsSqlWritePhase

/-- The outputs are come to once all aliases are replaced. -/
def comesToOutputs : Bool :=
  (session.aliasTurns engine [] run.cacheAliases).length = run.cacheAliases.length &&
    session.canBeSetUp run.cacheAliases (run.plannedOutputs.map (·.request)) &&
    run.options.validate.isOk

def replacedKeys : List String := (session.aliasTurns engine [] run.cacheAliases).map Prod.fst

def lookedUpKeys : List String :=
  (session.aliasTurns engine [] run.cacheAliases).flatMap Prod.snd ++
    if run.comesToOutputs engine session then
      session.outputTurns engine run.cacheAliases (run.plannedOutputs.map (·.request))
    else []

end CachedRun

section Keys
variable {P : SessionOp Provider Schema DataFrame Rows → Prop}
  {engine : QueryEngine Provider Schema DataFrame} {session : Session Provider Schema}

theorem unresolvedAttempt_within (hfree : ∀ op, op.IsFree → P op) {table : LazyTable}
    {registered : RegisteredDerivedTable Schema}
    (hregistered : session.registeredDerivedTableById table.id = some registered)
    {outputIndexes : List ℕ} {retainedSql : Option String}
    (hunresolved : Session.resolvedKeys engine registered.name retainedSql = none) :
    (session.replaceRegisteredDerivedAliasWithCacheAttempt engine table outputIndexes
      retainedSql).Within P fun result => ∃ failure, result = .error failure := by
  unfold Session.resolvedKeys at hunresolved
  cases retainedSql with
  | none => cases hunresolved
  | some sql =>
    dsimp only at hunresolved
    cases hsql : engine.references sql with
    | ok keys =>
      rw [hsql] at hunresolved
      cases hunresolved
    | error error =>
      unfold Session.replaceRegisteredDerivedAliasWithCacheAttempt
        Session.registeredDerivedForScopedCacheAlias
      split_ifs with hkind
      · exact ⟨trivial, _, rfl⟩
      · rw [hregistered]
        dsimp only
        rw [materializeCacheFromSql_fails hsql]
        refine (sessionCall_uses (hfree .hasCacheFactory trivial)).within.bind ?_
        intro hasCacheFactory _
        cases hasCacheFactory with
        | true => exact ⟨trivial, _, rfl⟩
        | false => exact ⟨trivial, _, rfl⟩

theorem aliasKeys_of_resolved {aliasName : String} {retainedSql : Option String}
    {lookedUp : List String}
    (hresolved : Session.resolvedKeys engine aliasName retainedSql = some lookedUp) :
    engine.aliasKeys aliasName retainedSql = lookedUp := by
  unfold Session.resolvedKeys at hresolved
  unfold QueryEngine.aliasKeys QueryEngine.sqlKeys
  cases retainedSql with
  | none => exact Option.some.inj hresolved
  | some sql =>
    dsimp only at hresolved ⊢
    cases hsql : engine.references sql with
    | error error =>
      rw [hsql] at hresolved
      cases hresolved
    | ok keys =>
      rw [hsql] at hresolved
      exact Option.some.inj hresolved

theorem aliasTurn_eq_some {replacedIds : List ℕ} {cacheAlias : MssqlDerivedCacheAliasPlan}
    {turn : String × List String}
    (h : session.aliasTurn engine replacedIds cacheAlias = some turn) :
    ∃ registered dependencies,
      session.registeredDerivedTableById cacheAlias.tableId = some registered ∧
      session.transitiveRegisteredDerivedDependencies registered.table = .ok dependencies ∧
      Session.resolvedKeys engine registered.name
        (Session.retainedSqlFor replacedIds registered dependencies) = some turn.2 ∧
      Catalog.tableKey registered.name = turn.1 := by
  unfold Session.aliasTurn at h
  split at h
  · cases h
  · next registered hregistered =>
    split at h
    · cases h
    · next dependencies hdependencies =>
      obtain ⟨lookedUp, hresolved, rfl⟩ := Option.map_eq_some_iff.1 h
      exact ⟨registered, dependencies, hregistered, hdependencies, hresolved, rfl⟩

theorem replaceAttempt_returns {table : LazyTable} {registered : RegisteredDerivedTable Schema}
    (hregistered : session.registeredDerivedTableById table.id = some registered)
    {outputIndexes : List ℕ} {retainedSql : Option String} :
    (session.replaceRegisteredDerivedAliasWithCacheAttempt engine table outputIndexes retainedSql :
      SessionProgram Provider Schema DataFrame Rows _).Returns fun result =>
        ∀ replacement, result = .ok replacement →
          replacement.tableId = table.id ∧ replacement.aliasName = registered.name := by
  unfold Session.replaceRegisteredDerivedAliasWithCacheAttempt
    Session.registeredDerivedForScopedCacheAlias
  split_ifs with hkind
  · exact nofun
  · rw [hregistered]
    refine (Program.returns_of_forall (fun _ => trivial) (sessionCall .hasCacheFactory)).bind ?_
    intro hasCacheFactory _
    cases hasCacheFactory with
    | true => exact nofun
    | false =>
      refine (Program.returns_of_forall (fun _ => trivial) _).bind ?_
      intro materialized _
      cases materialized with
      | error failure => exact nofun
      | ok materialized =>
        refine (Program.returns_of_forall (fun _ => trivial) _).bind ?_
        intro installed _
        cases installed with
        | error failure => exact nofun
        | ok originalProvider =>
          intro replacement hok
          rw [← Except.ok.inj hok]
          exact ⟨rfl, rfl⟩

def GrantsTurn (P : SessionOp Provider Schema DataFrame Rows → Prop) (turn : String × List String) :
    Prop :=
  (∀ name, Catalog.tableKey name = turn.1 → Replaceable P name) ∧ ∀ key ∈ turn.2, P (.lookup key)

theorem replaceFailure_within {replacements : List (MssqlScopedCacheAliasReplacement Provider)}
    (hnames : ∀ replacement ∈ replacements, Replaceable P replacement.aliasName)
    (source : DeltaFunnelError) (failedAlias : Option WriteAllCacheAliasReport)
    (R : List (MssqlScopedCacheAliasReplacement Provider) → Prop) :
    (do
      let error ← restoreCacheAliasesAfterFailure source replacements failedAlias
      return .error error : SessionProgram Provider Schema DataFrame Rows
        (Except DeltaFunnelError (List (MssqlScopedCacheAliasReplacement Provider)))).Within P
          fun result => ∀ replacements', result = .ok replacements' → R replacements' := by
  apply (restoreCacheAliasesAfterFailure_uses hnames source failedAlias).within.bind
  intro error _
  exact ⟨trivial, nofun⟩

/-- Replacing aliases takes the operations of the turns that the run comes to, and succeeds only if
it comes to all of them. -/
theorem replaceMssqlCacheAliasesFrom_within (hfree : ∀ op, op.IsFree → P op)
    {replacements : List (MssqlScopedCacheAliasReplacement Provider)}
    {cacheAliases : List MssqlDerivedCacheAliasPlan}
    (hnames : ∀ replacement ∈ replacements, Replaceable P replacement.aliasName)
    (hturns : ∀ turn ∈ session.aliasTurns engine (replacements.map (·.tableId)) cacheAliases,
      GrantsTurn P turn) :
    (session.replaceMssqlCacheAliasesFrom engine replacements cacheAliases).Within P fun result =>
      ∀ replacements', result = .ok replacements' →
        (∀ replacement ∈ replacements', Replaceable P replacement.aliasName) ∧
        (session.aliasTurns engine (replacements.map (·.tableId)) cacheAliases).length =
          cacheAliases.length := by
  -- over the plans that are left, with the replacements made so far
  induction cacheAliases generalizing replacements with
  | nil =>
    refine ⟨trivial, ?_⟩
    intro replacements' hok
    rw [← Except.ok.inj hok]
    exact ⟨hnames, rfl⟩
  | cons cacheAlias cacheAliases ih =>
    unfold Session.replaceMssqlCacheAliasesFrom
    cases hturn : session.aliasTurn engine (replacements.map (·.tableId)) cacheAlias with
    | none =>
      -- the run stops at this plan: whatever it did before is restored
      unfold Session.aliasTurn at hturn
      split
      · exact replaceFailure_within hnames _ _ _
      · next registered hregistered =>
        rw [hregistered] at hturn
        dsimp only at hturn
        split
        · exact replaceFailure_within hnames _ _ _
        · next dependencies hdependencies =>
          rw [hdependencies] at hturn
          have hid := (Session.mem_of_registeredDerivedTableById hregistered).2
          refine (unresolvedAttempt_within hfree (hid ▸ hregistered)
            (Option.map_eq_none_iff.1 hturn)).bind ?_
          rintro _ ⟨failure, rfl⟩
          exact replaceFailure_within hnames _ _ _
    | some turn =>
      obtain ⟨registered, dependencies, hregistered, hdependencies, hresolved, hkey⟩ :=
        aliasTurn_eq_some hturn
      have hid := (Session.mem_of_registeredDerivedTableById hregistered).2
      -- the turn is taken, and the rest goes on with one replacement more
      have hcons : session.aliasTurns engine (replacements.map (·.tableId))
          (cacheAlias :: cacheAliases) = turn :: session.aliasTurns engine
            (replacements.map (·.tableId) ++ [cacheAlias.tableId]) cacheAliases := by
        rw [Session.aliasTurns, hturn]
      rw [hcons] at hturns ⊢
      have hgranted := hturns turn (List.mem_cons_self ..)
      rw [hregistered]
      dsimp only
      rw [hdependencies]
      refine Program.Within.bind ⟨replaceAttempt_uses hfree (hid ▸ hregistered) ?_
        (fun _ => hgranted.1 _ hkey), replaceAttempt_returns (hid ▸ hregistered)⟩ ?_
      · rw [aliasKeys_of_resolved hresolved]
        exact hgranted.2
      · intro result hresult
        cases result with
        | error failure => exact replaceFailure_within hnames _ _ _
        | ok replacement =>
          obtain ⟨htableId, haliasName⟩ := hresult replacement rfl
          rw [hid] at htableId
          have hids : (replacements ++ [replacement]).map (·.tableId) =
              replacements.map (·.tableId) ++ [cacheAlias.tableId] := by
            rw [List.map_append, List.map_singleton, htableId]
          have hnext := @ih (replacements ++ [replacement])
          rw [hids] at hnext
          refine (hnext ?_ fun later hlater => hturns later (List.mem_cons_of_mem _ hlater)).mono ?_
          · intro other hother
            rcases List.mem_append.1 hother with hold | hlast
            · exact hnames other hold
            · rw [List.mem_singleton.1 hlast, haliasName]
              exact hgranted.1 _ hkey
          · intro replaced hreplaced replacements' hok
            obtain ⟨hnames', hlength⟩ := hreplaced replacements' hok
            exact ⟨hnames', congrArg Nat.succ hlength⟩

end Keys

section Outputs
variable [ArrowSqlServer] {P : SessionOp Provider Schema DataFrame Rows → Prop}
  {engine : QueryEngine Provider Schema DataFrame} {session : Session Provider Schema}
  {cacheAliases : List MssqlDerivedCacheAliasPlan}

theorem unparsedQuery_fails {planned : PlannedMssqlOutput}
    {factory : SessionProgram Provider Schema DataFrame Rows
      (Except MssqlOutputQueryError (MssqlOutputQueryExecution DataFrame))}
    (hfactory : session.cachedOutputQueryFactory engine planned cacheAliases = .ok factory)
    (hturn : session.outputTurn engine cacheAliases planned.request = none) :
    ∃ failure, factory = .ret (.error failure) := by
  unfold Session.cachedOutputQueryFactory at hfactory
  unfold Session.outputTurn at hturn
  cases hroute : session.outputRequiresCacheReplan planned.request cacheAliases with
  | error error =>
    rw [hroute] at hfactory
    cases hfactory
  | ok replanned =>
    rw [hroute] at hfactory hturn
    cases replanned with
    | false => cases hturn
    | true =>
      dsimp only at hfactory hturn
      split at hfactory
      · obtain rfl := Except.ok.inj hfactory
        exact ⟨_, rfl⟩
      · next sqlText hsql =>
        rw [hsql] at hturn
        split at hfactory
        · obtain rfl := Except.ok.inj hfactory
          exact ⟨_, rfl⟩
        · obtain rfl := Except.ok.inj hfactory
          dsimp only at hturn
          unfold createCachedOutputQueryExecutionFromRetainedSql QueryEngine.sqlWithOptions
          cases hreferences : engine.references sqlText with
          | error error => exact ⟨_, rfl⟩
          | ok keys =>
            rw [hreferences] at hturn
            cases hturn

omit [ArrowSqlServer] in
theorem outputKeys_of_turn {request : OutputWritePlan} {lookedUp : List String}
    (hturn : session.outputTurn engine cacheAliases request = some lookedUp) :
    session.outputKeys engine cacheAliases request = lookedUp := by
  unfold Session.outputTurn at hturn
  unfold Session.outputKeys QueryEngine.sqlKeys
  cases hroute : session.outputRequiresCacheReplan request cacheAliases with
  | error error =>
    rw [hroute] at hturn
    cases hturn
  | ok replanned =>
    rw [hroute] at hturn
    cases replanned with
    | false => exact Option.some.inj hturn
    | true =>
      dsimp only at hturn ⊢
      cases hsql : session.sqlTextForDerivedTable request.table with
      | error error =>
        rw [hsql] at hturn
        cases hturn
      | ok sqlText =>
        rw [hsql] at hturn
        dsimp only at hturn ⊢
        cases hreferences : engine.references sqlText with
        | error error =>
          rw [hreferences] at hturn
          cases hturn
        | ok keys =>
          rw [hreferences] at hturn
          exact Option.some.inj hturn

omit [ArrowSqlServer] in
theorem writeJobs_skips_uses {failedOutputName : String} {reportsSqlWritePhase : Bool}
    (jobs : List (MssqlOutputWriteJob (sessionSignature Provider Schema DataFrame Rows) Schema
      DataFrame)) :
    (writeJobs (Session.sessionWriter reportsSqlWritePhase) (some failedOutputName) jobs).Uses
      P := by
  induction jobs with
  | nil => trivial
  | cons job jobs ih => exact ih.bind fun _ => trivial

theorem writeJobs_uses (hfree : ∀ op, op.IsFree → P op)
    (hwrites : ∀ schema target stream, P (.writeOutput schema target stream))
    {plannedOutputs : List PlannedMssqlOutput}
    {jobs : List (MssqlOutputWriteJob (sessionSignature Provider Schema DataFrame Rows) Schema
      DataFrame)} {reportsSqlWritePhase : Bool}
    (hjobs : session.buildWriteAllCachedJobs engine cacheAliases plannedOutputs = .ok jobs)
    (hreads : ∀ key ∈ session.outputTurns engine cacheAliases (plannedOutputs.map (·.request)),
      P (.lookup key)) :
    (writeJobs (Session.sessionWriter reportsSqlWritePhase) none jobs).Uses P := by
  induction plannedOutputs generalizing jobs with
  | nil =>
    obtain rfl := Except.ok.inj hjobs
    trivial
  | cons planned plannedOutputs ih =>
    unfold Session.buildWriteAllCachedJobs at hjobs
    obtain ⟨outputSchema, -, hjobs⟩ := except_bind_eq_ok.1 hjobs
    obtain ⟨factory, hfactory, hjobs⟩ := except_bind_eq_ok.1 hjobs
    obtain ⟨later, hlater, hjobs⟩ := except_bind_eq_ok.1 hjobs
    obtain rfl := Except.ok.inj hjobs
    unfold writeJobs writeMssqlOutputJob Session.buildWriteAllJob
    rw [List.map_cons, Session.outputTurns] at hreads
    cases hturn : session.outputTurn engine cacheAliases planned.request with
    | none =>
      obtain ⟨failure, rfl⟩ := unparsedQuery_fails hfactory hturn
      apply (writeJobs_skips_uses later).bind
      intro statuses
      trivial
    | some lookedUp =>
      rw [hturn] at hreads
      dsimp only at hreads ⊢
      have hquery : factory.Uses P := by
        apply cachedOutputQueryFactory_uses hfree hfactory
        rw [outputKeys_of_turn hturn]
        exact fun key hkey => hreads key (List.mem_append_left _ hkey)
      refine Program.Uses.bind ?_ ?_
      · refine hquery.bind_except (fun _ => trivial) ?_
        intro execution
        refine ⟨hwrites _ _ _, ?_⟩
        intro reply
        simp only [Program.bind]
        split
        · trivial
        · trivial
      · intro status
        have hrest := ih hlater fun key hkey => hreads key (List.mem_append_right _ hkey)
        cases status with
        | succeeded report => exact hrest.bind fun _ => trivial
        | failed failure => exact (writeJobs_skips_uses later).bind fun _ => trivial
        | skipped skipped => exact hrest.bind fun _ => trivial

theorem canBeSetUp_of_jobs {plannedOutputs : List PlannedMssqlOutput}
    {jobs : List (MssqlOutputWriteJob (sessionSignature Provider Schema DataFrame Rows) Schema
      DataFrame)}
    (hjobs : session.buildWriteAllCachedJobs engine cacheAliases plannedOutputs = .ok jobs) :
    session.canBeSetUp cacheAliases (plannedOutputs.map (·.request)) = true := by
  unfold Session.canBeSetUp
  induction plannedOutputs generalizing jobs with
  | nil => rfl
  | cons planned plannedOutputs ih =>
    unfold Session.buildWriteAllCachedJobs at hjobs
    obtain ⟨outputSchema, hschema, hjobs⟩ := except_bind_eq_ok.1 hjobs
    obtain ⟨factory, hfactory, hjobs⟩ := except_bind_eq_ok.1 hjobs
    obtain ⟨later, hlater, -⟩ := except_bind_eq_ok.1 hjobs
    rw [List.map_cons, List.all_cons, ih hlater, hschema]
    unfold Session.cachedOutputQueryFactory at hfactory
    cases hroute : session.outputRequiresCacheReplan planned.request cacheAliases with
    | error error =>
      rw [hroute] at hfactory
      cases hfactory
    | ok replanned => rfl

/-- The operations that a run may issue on the catalog. -/
def WithinKeys (replaced lookedUp : List String) : SessionOp Provider Schema DataFrame Rows → Prop
  | .lookup key => key ∈ lookedUp
  | .deregister name => Catalog.tableKey name ∈ replaced
  | .register name _ => Catalog.tableKey name ∈ replaced
  | _ => True

omit [ArrowSqlServer] in
theorem withinKeys_free {replaced lookedUp : List String}
    {op : SessionOp Provider Schema DataFrame Rows} (hop : op.IsFree) :
    WithinKeys replaced lookedUp op := by
  cases op with
  | lookup key => exact hop.elim
  | deregister name => exact hop.elim
  | register name provider => exact hop.elim
  | _ => trivial

theorem CachedRun.program_uses (run : CachedRun) :
    (run.program engine session : SessionProgram Provider Schema DataFrame Rows _).Uses
      (WithinKeys (run.replacedKeys engine session) (run.lookedUpKeys engine session)) := by
  have hfree : ∀ op : SessionOp Provider Schema DataFrame Rows, op.IsFree →
      WithinKeys (run.replacedKeys engine session) (run.lookedUpKeys engine session) op :=
    fun _ => withinKeys_free
  have hreplace := @replaceMssqlCacheAliasesFrom_within Provider Schema DataFrame Rows _ engine
    session hfree [] run.cacheAliases nofun (by
      intro turn hturn
      refine ⟨?_, ?_⟩
      · intro name hname
        have hmem : Catalog.tableKey name ∈ run.replacedKeys engine session :=
          hname ▸ List.mem_map_of_mem hturn
        exact ⟨hmem, fun _ => hmem⟩
      · intro key hkey
        exact List.mem_append_left _ (List.mem_flatMap.2 ⟨turn, hturn, hkey⟩))
  unfold CachedRun.program Session.writeAllCached Session.replaceMssqlCacheAliases
  refine (hreplace.bind (R := fun _ => True) ?_).1
  intro result hresult
  cases result with
  | error error => exact ⟨trivial, trivial⟩
  | ok replacements =>
    obtain ⟨hnames, hlength⟩ := hresult replacements rfl
    dsimp only
    split
    · refine Program.Uses.within ?_
      apply (restoreCacheAliasesAfterFailure_uses hnames _ none).bind
      intro error
      trivial
    · next jobs hjobs =>
      -- outputs are looked up only by a run that set up all its aliases and jobs
      have hwriting : (writeMssqlOutputsWithWriter jobs run.options
          (Session.sessionWriter run.reportsSqlWritePhase)).Uses
            (WithinKeys (run.replacedKeys engine session) (run.lookedUpKeys engine session)) := by
        unfold writeMssqlOutputsWithWriter
        split
        · trivial
        · next hoptions =>
          have hcomes : run.comesToOutputs engine session = true := by
            unfold CachedRun.comesToOutputs
            rw [canBeSetUp_of_jobs hjobs, hoptions]
            have hall : (session.aliasTurns engine [] run.cacheAliases).length =
                run.cacheAliases.length := hlength
            rw [hall]
            simp [Except.isOk, Except.toBool]
          refine (writeJobs_uses hfree (fun _ _ _ => trivial) hjobs ?_).bind ?_
          · intro key hkey
            refine List.mem_append_right _ ?_
            rw [if_pos hcomes]
            exact hkey
          · intro statuses
            trivial
      refine (hwriting.bind ?_).within
      intro writeResult
      apply (restoreMssqlCacheAliasesWithReports_uses hnames).bind
      rintro ⟨aliasReports, restoreResult⟩
      cases writeResult with
      | error writeError => trivial
      | ok report =>
        cases restoreResult with
        | error failure => trivial
        | ok done => trivial

end Outputs

/-- The catalog that several runs work on, one operation at a time. -/
def sharedCatalog (ι : Type) (outcome : Outcomes Provider Schema DataFrame Rows) :
    Shared (sessionSignature Provider Schema DataFrame Rows) (Catalog Provider) ι where
  step _ catalog op reply catalog' :=
    catalog.possible outcome op reply ∧ catalog' = catalog.after op reply

/-- The operation failed because a table of the catalog was missing, or already there. -/
def FailsOnAlias (initial : String → Option Provider) :
    Event (sessionSignature Provider Schema DataFrame Rows) → Prop
  | ⟨.lookup key, none⟩ => (initial key).isSome
  | ⟨.deregister _, .error _⟩ => True
  | ⟨.deregister _, .ok none⟩ => True
  | ⟨.register _ _, .error _⟩ => True
  | _ => False

/-- A client works on its own keys, where they are as it left them, and looks up no key of
another client. -/
def OwnKeys (initial : String → Option Provider) (keys : ι → List String) (i : ι)
    (s : ScopeState Provider) : SessionOp Provider Schema DataFrame Rows → Prop
  | .lookup key => (∀ j, j ≠ i → key ∉ keys j) ∧
      ((initial key).isSome → (s.catalog.view key).isSome)
  | .deregister name => Catalog.tableKey name ∈ keys i ∧
      (s.catalog.view (Catalog.tableKey name)).isSome
  | .register name _ => Catalog.tableKey name ∈ keys i ∧
      s.catalog.view (Catalog.tableKey name) = none
  | _ => True

/-- Every client sees its own keys as they are, and all others as they were. -/
structure Partitioned (initial : String → Option Provider) (keys : ι → List String)
    (catalog : Catalog Provider) (s : ι → ScopeState Provider) : Prop where
  own : ∀ i, ∀ key ∈ keys i, catalog.view key = (s i).catalog.view key
  foreign : ∀ i key, key ∉ keys i → (s i).catalog.view key = initial key
  untouched : ∀ key, (∀ i, key ∉ keys i) → catalog.view key = initial key

section Shared
variable {outcome : Outcomes Provider Schema DataFrame Rows}
  {initial : String → Option Provider} {keys : ι → List String}
  {catalog : Catalog Provider} {s : ι → ScopeState Provider}

theorem Partitioned.view_eq (h : Partitioned initial keys catalog s) {i : ι} {key : String}
    (hkey : ∀ j, j ≠ i → key ∉ keys j) : catalog.view key = (s i).catalog.view key := by
  by_cases hown : key ∈ keys i
  · exact h.own i key hown
  · rw [h.foreign i key hown, h.untouched key]
    intro j
    by_cases hj : j = i
    · rw [hj]
      exact hown
    · exact hkey j hj

theorem not_failsOnAlias {i : ι} {t : ScopeState Provider}
    {e : Event (sessionSignature Provider Schema DataFrame Rows)}
    (hregisters : ∀ name provider message, ¬outcome (.register name provider) (.error message))
    (hallowed : OwnKeys initial keys i t e.op) (hpossible : t.catalog.possible outcome e.op e.reply) :
    ¬FailsOnAlias initial e := by
  obtain ⟨op, reply⟩ := e
  cases op with
  | lookup key =>
    rcases reply with _ | provider
    · intro hinitial
      have hpresent := hallowed.2 hinitial
      rw [show t.catalog.view key = none from hpossible.symm] at hpresent
      cases hpresent
    · exact fun hfails => hfails
  | deregister name =>
    have hpresent := hallowed.2
    rcases reply with message | _ | found
    · rw [show t.catalog.view (Catalog.tableKey name) = none from hpossible] at hpresent
      cases hpresent
    · rw [show t.catalog.view (Catalog.tableKey name) = none from hpossible.symm] at hpresent
      cases hpresent
    · exact fun hfails => hfails
  | register name provider =>
    rcases reply with message | ⟨⟩
    · rcases hpossible with hpresent | hrefused
      · rw [Catalog.tableProvider_eq_view, hallowed.2] at hpresent
        cases hpresent
      · exact absurd hrefused (hregisters name provider message)
    · exact fun hfails => hfails
  | hasCacheFactory => exact fun hfails => hfails
  | createPhysicalPlan dataframe => exact fun hfails => hfails
  | startPartitionStreams dataframe => exact fun hfails => hfails
  | collectPartitions dataframe => exact fun hfails => hfails
  | memTable aliasName rows => exact fun hfails => hfails
  | startOutputStream dataframe => exact fun hfails => hfails
  | writeOutput schema target stream => exact fun hfails => hfails

variable [DecidableEq ι]

theorem Partitioned.update (h : Partitioned initial keys catalog s)
    (hdisjoint : ∀ i j, i ≠ j → (keys i).Disjoint (keys j)) {i : ι} {key : String}
    (hkey : key ∈ keys i) {catalog' : Catalog Provider} {t : ScopeState Provider}
    {entry : Option Provider} (hcatalog : catalog'.view = Function.update catalog.view key entry)
    (ht : t.catalog.view = Function.update (s i).catalog.view key entry) :
    Partitioned initial keys catalog' (Function.update s i t) := by
  have hne : ∀ j key', j ≠ i → key' ∈ keys j → key' ≠ key := by
    rintro j key' hj hmem rfl
    exact hdisjoint j i hj hmem hkey
  refine ⟨fun j key' hmem => ?_, fun j key' hmem => ?_, fun key' hfree => ?_⟩
  · by_cases hj : j = i
    · subst hj
      rw [Function.update_self, hcatalog, ht]
      by_cases hsame : key' = key
      · rw [hsame, Function.update_self, Function.update_self]
      · rw [Function.update_of_ne hsame, Function.update_of_ne hsame, h.own j key' hmem]
    · rw [Function.update_of_ne hj, hcatalog, Function.update_of_ne (hne j key' hj hmem),
        h.own j key' hmem]
  · by_cases hj : j = i
    · subst hj
      have hother : key' ≠ key := fun heq => hmem (heq ▸ hkey)
      rw [Function.update_self, ht, Function.update_of_ne hother, h.foreign j key' hmem]
    · rw [Function.update_of_ne hj]
      exact h.foreign j key' hmem
  · have hother : key' ≠ key := fun heq => hfree i (heq ▸ hkey)
    rw [hcatalog, Function.update_of_ne hother, h.untouched key' hfree]

theorem Partitioned.unchanged (h : Partitioned initial keys catalog s) {i : ι}
    {t : ScopeState Provider} (ht : t.catalog = (s i).catalog) :
    Partitioned initial keys catalog (Function.update s i t) := by
  have hsame : ∀ j, (Function.update s i t j).catalog = (s j).catalog := by
    intro j
    by_cases hj : j = i
    · subst hj
      rw [Function.update_self, ht]
    · rw [Function.update_of_ne hj]
  refine ⟨fun j key hmem => ?_, fun j key hmem => ?_, h.untouched⟩
  · rw [hsame]
    exact h.own j key hmem
  · rw [hsame]
    exact h.foreign j key hmem

theorem sharedCatalog_preserves (hdisjoint : ∀ i j, i ≠ j → (keys i).Disjoint (keys j)) :
    Shared.Preserves (sharedCatalog ι outcome)
      (fun i => scopeProtocol (OwnKeys initial keys i) outcome) (Partitioned initial keys) := by
  rintro i catalog s op reply catalog' hpartitioned hallowed ⟨hpossible, rfl⟩
  cases op with
  | lookup key =>
    refine ⟨?_, hpartitioned.unchanged rfl⟩
    exact Eq.trans hpossible (hpartitioned.view_eq hallowed.1)
  | deregister name =>
    obtain ⟨hkey, hpresent⟩ := hallowed
    -- the alias belongs to this run alone, so its own view of it is the shared one
    have hview : catalog.tableProvider name = (s i).catalog.tableProvider name :=
      hpartitioned.own i _ hkey
    rcases reply with message | found
    · rw [← Catalog.tableProvider_eq_view, ← hview] at hpresent
      rw [show catalog.tableProvider name = none from hpossible] at hpresent
      cases hpresent
    · refine ⟨Eq.trans hpossible hview, ?_⟩
      exact hpartitioned.update hdisjoint hkey (Catalog.view_deregisterTable catalog name)
        (Catalog.view_deregisterTable (s i).catalog name)
  | register name provider =>
    obtain ⟨hkey, habsent⟩ := hallowed
    have hview : catalog.tableProvider name = (s i).catalog.tableProvider name :=
      hpartitioned.own i _ hkey
    rcases reply with message | ⟨⟩
    · refine ⟨?_, hpartitioned.unchanged rfl⟩
      rcases hpossible with hpresent | hrefused
      · rw [hview] at hpresent
        exact Or.inl hpresent
      · exact Or.inr hrefused
    · have habsent' : catalog.tableProvider name = none := hpossible
      refine ⟨habsent, ?_⟩
      exact hpartitioned.update hdisjoint hkey
        (@Catalog.view_after_register _ Schema DataFrame Rows _ _ provider habsent')
        (@Catalog.view_after_register _ Schema DataFrame Rows _ _ provider habsent)
  | hasCacheFactory => exact ⟨hpossible, hpartitioned.unchanged rfl⟩
  | createPhysicalPlan dataframe => exact ⟨hpossible, hpartitioned.unchanged rfl⟩
  | startPartitionStreams dataframe => exact ⟨hpossible, hpartitioned.unchanged rfl⟩
  | collectPartitions dataframe => exact ⟨hpossible, hpartitioned.unchanged rfl⟩
  | memTable aliasName rows => exact ⟨hpossible, hpartitioned.unchanged rfl⟩
  | startOutputStream dataframe => exact ⟨hpossible, hpartitioned.unchanged rfl⟩
  | writeOutput schema target stream => exact ⟨hpossible, hpartitioned.unchanged rfl⟩

end Shared

theorem Installed.present {initial : String → Option Provider} {good : String → Provider → Prop}
    {replacements : List (MssqlScopedCacheAliasReplacement Provider)} {s : ScopeState Provider}
    (h : Installed initial good replacements s) {key : String} (hinitial : (initial key).isSome) :
    (s.catalog.view key).isSome := by
  by_cases hkey : key ∈ replacements.map (·.key)
  · obtain ⟨replacement, hmem, rfl⟩ := List.mem_map.1 hkey
    obtain ⟨provider, hview, -⟩ := h.replaced replacement hmem
    rw [hview]
    rfl
  · rw [h.untouched key hkey]
    exact hinitial

section Runs
variable [ArrowSqlServer] {engine : QueryEngine Provider Schema DataFrame}
  {outcome : Outcomes Provider Schema DataFrame Rows} {session : Session Provider Schema}

/-- Each operation finds the catalog as it needs it. -/
def FindsTables (initial : String → Option Provider) (s : ScopeState Provider) :
    SessionOp Provider Schema DataFrame Rows → Prop
  | .lookup key => (initial key).isSome → (s.catalog.view key).isSome
  | .deregister name => (s.catalog.view (Catalog.tableKey name)).isSome
  | .register name _ => s.catalog.view (Catalog.tableKey name) = none
  | _ => True

theorem CachedRun.finds_tables {run : CachedRun} (hsession : session.Consistent)
    (hbacked : session.Backed fun _ _ _ => True)
    (hregisters : ∀ name provider message, ¬outcome (.register name provider) (.error message))
    (hnodup : (run.cacheAliases.map (·.tableId)).Nodup) :
    (scopeProtocol (FindsTables session.catalog.view) outcome).Meets (run.program engine session)
      session.scopeState fun _ s' => s'.catalog.view = session.catalog.view := by
  have hpresent : ∀ name, session.Requested run.cacheAliases name →
      (session.catalog.view (Catalog.tableKey name)).isSome := by
    rintro name ⟨cacheAlias, -, derived, hderived, rfl⟩
    obtain ⟨provider, hview, -⟩ :=
      hbacked.derived derived (Session.mem_of_registeredDerivedTableById hderived).1
    rw [hview]
    rfl
  have hrules : ScopeRules (FindsTables session.catalog.view :
      ScopeState Provider → SessionOp Provider Schema DataFrame Rows → Prop) outcome
      session.catalog.view (fun _ _ => True) (session.Requested run.cacheAliases) := by
    refine ⟨?_, ?_, ?_, fun name provider message _ _ => hregisters name provider message⟩
    · intro s op hfree
      cases op with
      | lookup key => exact hfree.elim
      | deregister name => exact hfree.elim
      | register name provider => exact hfree.elim
      | _ => trivial
    -- an alias that is not replaced yet still has its initial provider
    · intro s name hrequested hsame
      rcases hsame with hsame | hsome
      · have hinitial := hpresent name hrequested
        rw [← hsame] at hinitial
        exact hinitial
      · exact hsome
    · exact fun s name provider _ habsent _ => habsent
  have hturns : AliasTurns engine (FindsTables session.catalog.view) outcome session.catalog.view
      (fun _ _ => True) session run.cacheAliases := by
    intro before cacheAlias after registered dependencies _ _ _
    exact ⟨fun s replacements h key _ => h.present, fun _ _ _ _ _ _ => trivial⟩
  have hview : session.scopeState.catalog.view = session.catalog.view := rfl
  refine writeAllCached_meets hsession hrules hturns ?_ hnodup hview _ _
  intro s replacements _ h planned _
  exact ⟨fun key _ => h.present, fun _ _ _ => trivial⟩

theorem CachedRun.meets {runs : ι → CachedRun} {i : ι} (hsession : session.Consistent)
    (hbacked : session.Backed fun _ _ _ => True)
    (hregisters : ∀ name provider message, ¬outcome (.register name provider) (.error message))
    (hnodup : ((runs i).cacheAliases.map (·.tableId)).Nodup)
    (hreads : ∀ j, j ≠ i → ∀ key ∈ (runs i).lookedUpKeys engine session,
      key ∉ (runs j).replacedKeys engine session) :
    (scopeProtocol (OwnKeys session.catalog.view (fun j => (runs j).replacedKeys engine session) i)
      outcome).Meets ((runs i).program engine session) session.scopeState
      fun _ s' => s'.catalog.view = session.catalog.view := by
  have hfinds := @CachedRun.finds_tables Provider Schema DataFrame Rows _ engine outcome session
    (runs i) hsession hbacked hregisters hnodup
  have hwithin := @Protocol.Meets.uses _ _ _ (catalogProtocol outcome) _ _ _ _ _ hfinds
    (runs i).program_uses
  -- what the run finds and the keys it names together are the rules of its share
  refine @Protocol.Meets.weaken _ _ _ (catalogProtocol outcome) _ _ _ _ _ hwithin ?_
  rintro s op ⟨hfound, hkey⟩
  cases op with
  | lookup key => exact ⟨fun j hj => hreads j hj key hkey, hfound⟩
  | deregister name => exact ⟨hkey, hfound⟩
  | register name provider => exact ⟨hkey, hfound⟩
  | _ => trivial

/-- The runs do not touch each other's aliases: no two replace the same alias, and none looks up
an alias that another replaces. -/
def RunsApart (engine : QueryEngine Provider Schema DataFrame) (session : Session Provider Schema)
    (runs : ι → CachedRun) : Prop :=
  ∀ i j, i ≠ j →
    ((runs i).replacedKeys engine session).Disjoint ((runs j).replacedKeys engine session) ∧
    ((runs i).lookedUpKeys engine session).Disjoint ((runs j).replacedKeys engine session)

/-- **Overlapping runs.** Any number of cached runs of one session that do not touch each other's
aliases: in every interleaving no step fails on an alias, and when all have returned, the catalog
is the one they started with. -/
theorem runs_apart_keep_the_catalog [DecidableEq ι] (calls : List (SessionCall Provider Schema))
    (hbound : (Session.fresh.run calls).tableCount < u64Max)
    (hregisters : ∀ name provider message, ¬outcome (.register name provider) (.error message))
    (runs : ι → CachedRun) (hnodup : ∀ i, ((runs i).cacheAliases.map (·.tableId)).Nodup)
    (hapart : RunsApart engine (Session.fresh.run calls) runs) :
    let session := Session.fresh.run calls
    ∀ trace d, (sharedCatalog ι outcome).Reaches
        ⟨session.catalog, fun i => (runs i).program engine session⟩ trace d →
      (∀ entry ∈ trace, ¬FailsOnAlias session.catalog.view entry.2) ∧
        ((∀ i, ∃ result, d.program i = .ret result) →
          d.world.view = session.catalog.view) := by
  intro session trace d hreaches
  have hsession : session.Consistent := Session.run_consistent calls hbound
  have hbacked : session.Backed fun _ _ _ => True :=
    Session.fresh_backed.run (fun _ _ => trivial)
      (Session.HistorySatisfies.of_forall (fun _ _ _ => trivial) _ calls)
  have hdisjoint : ∀ i j, i ≠ j →
      ((runs i).replacedKeys engine session).Disjoint
        ((runs j).replacedKeys engine session) :=
    fun i j hne => (hapart i j hne).1
  have hpreserves := @sharedCatalog_preserves Provider Schema DataFrame Rows ι outcome
    session.catalog.view (fun i => (runs i).replacedKeys engine session) _ hdisjoint
  -- every run starts with the whole catalog as its own view
  have hcoherent : Shared.Coherent
      (fun i => scopeProtocol (OwnKeys session.catalog.view
        (fun j => (runs j).replacedKeys engine session) i) outcome)
      (Partitioned session.catalog.view fun i => (runs i).replacedKeys engine session)
      (fun _ _ s => s.catalog.view = session.catalog.view)
      ⟨session.catalog, fun i => (runs i).program engine session⟩
      (fun _ => session.scopeState) := by
    refine ⟨⟨fun _ _ _ => rfl, fun _ _ _ => rfl, fun _ _ => rfl⟩, fun i => ?_⟩
    refine CachedRun.meets hsession hbacked hregisters (hnodup i) ?_
    intro j hj key hkey
    exact (hapart i j (Ne.symm hj)).2 hkey
  constructor
  · rintro ⟨i, e⟩ he
    obtain ⟨t, hallowed, hpossible⟩ := hcoherent.event hpreserves hreaches he
    exact not_failsOnAlias hregisters hallowed hpossible
  · intro hreturned
    have hfinal := hcoherent.reaches hpreserves hreaches
    have hviews : ∀ i, (((fun i => scopeProtocol (OwnKeys session.catalog.view
        (fun j => (runs j).replacedKeys engine session) i) outcome) i).after session.scopeState
        (Shared.own i trace)).catalog.view = session.catalog.view := by
      intro i
      obtain ⟨result, hresult⟩ := hreturned i
      have hmeets := hfinal.meets i
      rw [hresult] at hmeets
      exact hmeets
    funext key
    -- a key is owned by one run, which restored it, or by none
    by_cases howned : ∃ i, key ∈ (runs i).replacedKeys engine session
    · obtain ⟨i, hi⟩ := howned
      rw [hfinal.invariant.own i key hi, hviews i]
    · exact hfinal.invariant.untouched key fun i hi => howned ⟨i, hi⟩

end Runs

def succeeding : Outcomes Provider Schema DataFrame Rows
  | .register _ _, reply => reply = .ok ()
  | .hasCacheFactory, reply => reply = false
  | .createPhysicalPlan _, reply => reply = .ok ()
  | .startPartitionStreams _, reply => reply = .ok ()
  | .collectPartitions _, reply => ∃ rows, reply = .ok rows
  | .memTable _ _, reply => ∃ provider, reply = .ok provider
  | .startOutputStream _, reply => reply = .ok ()
  | .writeOutput _ _ _, reply => ∃ report, reply = .ok report
  | _, _ => True

/-- The environment in which everything succeeds that the catalog allows. -/
def smoothAnswer (catalog : Catalog SampleTable) :
    (op : SessionOp SampleTable Unit ℕ ℕ) → op.Reply
  | .register name _ =>
    match catalog.tableProvider name with
    | some _ => .error "The table already exists"
    | none => .ok ()
  | op => sampleAnswer ("", 0) ⟨catalog, fun _ => none⟩ op

theorem smoothAnswer_step (i : Bool) (catalog : Catalog SampleTable)
    (op : SessionOp SampleTable Unit ℕ ℕ) :
    (sharedCatalog Bool succeeding).step i catalog op (smoothAnswer catalog op)
      (catalog.after op (smoothAnswer catalog op)) := by
  refine ⟨?_, rfl⟩
  cases op with
  | register name provider =>
    have hpossible : ∀ found, found = catalog.tableProvider name →
        catalog.possible (@succeeding _ Unit ℕ ℕ) (.register name provider) (match found with
          | some _ => Except.error "The table already exists"
          | none => Except.ok () : Except String Unit) := by
      rintro (_ | found) hfound
      · exact hfound.symm
      · refine Or.inl ?_
        rw [← hfound]
        rfl
    exact hpossible _ rfl
  | lookup key => rfl
  | deregister name => rfl
  | hasCacheFactory => rfl
  | createPhysicalPlan dataframe => rfl
  | startPartitionStreams dataframe => rfl
  | collectPartitions dataframe => exact ⟨dataframe, rfl⟩
  | memTable aliasName rows => exact ⟨("cached_" ++ aliasName, rows), rfl⟩
  | startOutputStream dataframe => rfl
  | writeOutput schema target stream => exact ⟨sampleReport, rfl⟩

def sampleRun (outputs : List (ℕ × String)) (cacheAliases : List MssqlDerivedCacheAliasPlan) :
    @CachedRun acceptingDriver :=
  letI := acceptingDriver
  ⟨outputs.map fun output => samplePlanned output.1 output.2, cacheAliases, {}, true⟩

/-- Where two such runs, on the session that `calls` make, are led by the given order of steps. -/
def sampleInterleaving (calls : List (SessionCall SampleTable Unit))
    (runs : Bool → @CachedRun acceptingDriver) (order : List Bool) :
    List (Bool × Event (sessionSignature SampleTable Unit ℕ ℕ)) ×
      Config (sessionSignature SampleTable Unit ℕ ℕ) (Catalog SampleTable) Bool
        (Except DeltaFunnelError (MssqlWorkflowWriteReport × List WriteAllCacheAliasReport)) :=
  letI := acceptingDriver
  Shared.schedule smoothAnswer Catalog.after order ⟨(Session.fresh.run calls).catalog,
    fun i => (runs i).program sampleEngine (Session.fresh.run calls)⟩

theorem sampleInterleaving_reaches (calls : List (SessionCall SampleTable Unit))
    (runs : Bool → @CachedRun acceptingDriver) (order : List Bool) :
    (sharedCatalog Bool succeeding).Reaches ⟨(Session.fresh.run calls).catalog, fun i =>
        @CachedRun.program _ _ _ _ acceptingDriver (runs i) sampleEngine
          (Session.fresh.run calls)⟩
      (sampleInterleaving calls runs order).1 (sampleInterleaving calls runs order).2 :=
  Shared.schedule_reaches smoothAnswer_step order _

/-- Each run replaces `shared` while the other has it replaced, and they restore it in the order
in which they began. -/
def crossedOrder : List Bool :=
  List.replicate 8 false ++ List.replicate 8 true ++ [false, false, true, true]

def crossedRuns : List (Bool × Event (sessionSignature SampleTable Unit ℕ ℕ)) ×
    Config (sessionSignature SampleTable Unit ℕ ℕ) (Catalog SampleTable) Bool
      (Except DeltaFunnelError (MssqlWorkflowWriteReport × List WriteAllCacheAliasReport)) :=
  sampleInterleaving layeredCalls (fun _ => sampleRun [] [⟨1, "shared", [0, 1]⟩]) crossedOrder

/-- Both runs succeed, and `shared` stays bound to a cached provider. -/
theorem crossed_runs_keep_a_cached_alias :
    ∃ trace d, (sharedCatalog Bool (@succeeding SampleTable Unit ℕ ℕ)).Reaches
        ⟨(Session.fresh.run layeredCalls).catalog, fun _ =>
          @CachedRun.program _ _ _ _ acceptingDriver (sampleRun [] [⟨1, "shared", [0, 1]⟩])
            sampleEngine (Session.fresh.run layeredCalls)⟩ trace d ∧
      (∀ i, ∃ report, d.program i = .ret (.ok report)) ∧
      d.world.tableProvider "shared" = some ("cached_shared", 7) ∧
      d.world.view ≠ (Session.fresh.run layeredCalls).catalog.view := by
  have hstale : crossedRuns.2.world.tableProvider "shared" = some ("cached_shared", 7) := by
    decide
  have hview : (Session.fresh.run layeredCalls).catalog.tableProvider "shared" =
      some ("view", 7) := by decide
  refine ⟨_, crossedRuns.2, sampleInterleaving_reaches layeredCalls _ crossedOrder, ?_, hstale, ?_⟩
  · intro i
    have hok : ∀ i, (crossedRuns.2.program i).returned.map Except.isOk = some true := by
      decide
    obtain ⟨result, hreturned, hisOk⟩ := Option.map_eq_some_iff.1 (hok i)
    rcases result with error | report
    · cases hisOk
    · exact ⟨report, Program.returned_eq_some.1 hreturned⟩
  · intro hsame
    rw [Catalog.tableProvider_eq_view, ← hsame, ← Catalog.tableProvider_eq_view, hstale] at hview
    exact absurd hview (by decide)

def siblingCalls : List (SessionCall SampleTable Unit) :=
  [tableSource "orders" 7, tableQuery "orders" 7, tableQuery "orders" 7,
    .registerAlias "lhs" (.derivedSql 1) none, .registerAlias "rhs" (.derivedSql 2) none]

def siblingRun : Bool → @CachedRun acceptingDriver
  | false => sampleRun [(1, "a")] [⟨1, "lhs", [0]⟩]
  | true => sampleRun [(2, "b")] [⟨2, "rhs", [0]⟩]

def siblingRuns : List (Bool × Event (sessionSignature SampleTable Unit ℕ ℕ)) ×
    Config (sessionSignature SampleTable Unit ℕ ℕ) (Catalog SampleTable) Bool
      (Except DeltaFunnelError (MssqlWorkflowWriteReport × List WriteAllCacheAliasReport)) :=
  sampleInterleaving siblingCalls siblingRun (List.replicate 14 [false, true]).flatten

def registration : SessionOp SampleTable Unit ℕ ℕ → Option (String × SampleTable)
  | .register name provider => some (name, provider)
  | _ => none

/-- Both runs replace their alias while the other has its own replaced, and return their reports;
no step fails, and the catalog is as it was. -/
theorem sibling_runs_keep_the_catalog :
    (siblingRuns.1.filterMap fun entry => (registration entry.2.op).map (entry.1, ·)) =
        [(false, "lhs", "cached_lhs", 7), (true, "rhs", "cached_rhs", 7),
          (false, "lhs", "view", 7), (true, "rhs", "view", 7)] ∧
      (∀ i, ∃ report, siblingRuns.2.program i = .ret (.ok report)) ∧
      (∀ entry ∈ siblingRuns.1,
        ¬FailsOnAlias (Session.fresh.run siblingCalls).catalog.view entry.2) ∧
      siblingRuns.2.world.view = (Session.fresh.run siblingCalls).catalog.view := by
  have hapart : @RunsApart _ _ _ _ acceptingDriver sampleEngine (Session.fresh.run siblingCalls)
      siblingRun := by
    unfold RunsApart List.Disjoint
    decide
  have hreturned : ∀ i, ∃ report, siblingRuns.2.program i = .ret (.ok report) := by
    intro i
    have hok : ∀ i, (siblingRuns.2.program i).returned.map Except.isOk = some true := by decide
    obtain ⟨result, hresult, hisOk⟩ := Option.map_eq_some_iff.1 (hok i)
    cases result with
    | error error => cases hisOk
    | ok report => exact ⟨report, Program.returned_eq_some.1 hresult⟩
  obtain ⟨hfailures, hcatalog⟩ := @runs_apart_keep_the_catalog SampleTable Unit ℕ ℕ Bool
    acceptingDriver sampleEngine succeeding _ siblingCalls (by decide) (fun _ _ _ => nofun)
    siblingRun (by decide) hapart _ _
    (sampleInterleaving_reaches siblingCalls siblingRun _)
  refine ⟨by decide, hreturned, hfailures, hcatalog fun i => ?_⟩
  obtain ⟨report, hreport⟩ := hreturned i
  exact ⟨.ok report, hreport⟩

end DeltaFunnel
