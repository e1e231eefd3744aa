import DeltaFunnel.Interaction.Protocol
import DeltaFunnel.WriteAll.CachedWorkflow

/-! The scope of replaced aliases: a protocol of the catalog, and what materializing, installing
and restoring aliases do to it, whatever else the environment answers. -/

namespace DeltaFunnel
open Interaction

variable {Provider Schema DataFrame Rows : Type}

/-- Which replies an environment gives where the catalog does not decide. -/
abbrev Outcomes (Provider Schema DataFrame Rows : Type) : Type :=
  (op : SessionOp Provider Schema DataFrame Rows) → op.Reply → Prop

namespace Catalog

/-- The replies to an operation. A registration under a free name fails only if the environment
refuses it. -/
def possible (outcome : Outcomes Provider Schema DataFrame Rows) (catalog : Catalog Provider) :
    (op : SessionOp Provider Schema DataFrame Rows) → op.Reply → Prop
  | .lookup key, reply => reply = catalog.view key
  | .deregister name, .ok found => found = catalog.tableProvider name
  | .deregister name, .error _ => catalog.tableProvider name = none
  | .register name _, .ok () => catalog.tableProvider name = none
  | .register name provider, .error message =>
    (catalog.tableProvider name).isSome ∨ outcome (.register name provider) (.error message)
  | op, reply => outcome op reply

def after (catalog : Catalog Provider) :
    (op : SessionOp Provider Schema DataFrame Rows) → op.Reply → Catalog Provider
  | .deregister name, .ok _ => (catalog.deregisterTable name).2
  | .register name provider, .ok () =>
    match catalog.registerTable name provider with
    | .ok catalog => catalog
    | .error _ => catalog
  | _, _ => catalog

theorem view_after_register {catalog : Catalog Provider} {name : String} {provider : Provider}
    (habsent : catalog.tableProvider name = none) :
    (@after Provider Schema DataFrame Rows catalog (.register name provider) (.ok ())).view =
      Function.update catalog.view (tableKey name) (some provider) := by
  have hregistered : catalog.registerTable name provider =
      .ok (catalog ++ [(tableKey name, provider)]) := registerTable_eq_ok.2 ⟨habsent, rfl⟩
  show Catalog.view (match catalog.registerTable name provider with
    | .ok catalog => catalog
    | .error _ => catalog) = _
  rw [hregistered]
  exact view_append habsent

end Catalog

/-- A catalog, with the provider last materialized for each alias. -/
structure ScopeState (Provider : Type) where
  catalog : Catalog Provider
  cached : String → Option Provider

def ScopeState.next (s : ScopeState Provider) (op : SessionOp Provider Schema DataFrame Rows)
    (reply : op.Reply) : ScopeState Provider where
  catalog := s.catalog.after op reply
  cached := match op, reply with
    | .memTable aliasName _, .ok provider =>
      Function.update s.cached (Catalog.tableKey aliasName) (some provider)
    | _, _ => s.cached

def scopeProtocol
    (allowed : ScopeState Provider → SessionOp Provider Schema DataFrame Rows → Prop)
    (outcome : Outcomes Provider Schema DataFrame Rows) :
    Protocol (sessionSignature Provider Schema DataFrame Rows) (ScopeState Provider) where
  allowed := allowed
  possible s op reply := s.catalog.possible outcome op reply
  next s op reply := s.next op reply

/-- The catalog, with nothing forbidden. -/
abbrev catalogProtocol (outcome : Outcomes Provider Schema DataFrame Rows) :
    Protocol (sessionSignature Provider Schema DataFrame Rows) (ScopeState Provider) :=
  scopeProtocol (fun _ _ => True) outcome

section Rules
variable {allowed : ScopeState Provider → SessionOp Provider Schema DataFrame Rows → Prop}
  {outcome : Outcomes Provider Schema DataFrame Rows} {s : ScopeState Provider}

theorem meets_sessionCall {α : Type} {op : SessionOp Provider Schema DataFrame Rows}
    {f : op.Reply → SessionProgram Provider Schema DataFrame Rows α}
    {Q : α → ScopeState Provider → Prop} :
    (scopeProtocol allowed outcome).Meets (sessionCall op >>= f) s Q ↔
      allowed s op ∧ ∀ reply, s.catalog.possible outcome op reply →
        (scopeProtocol allowed outcome).Meets (f reply) (s.next op reply) Q := Iff.rfl

theorem after_scopeProtocol (trace : List (Event (sessionSignature Provider Schema DataFrame Rows))) :
    (scopeProtocol allowed outcome).after s trace = (catalogProtocol outcome).after s trace :=
  (catalogProtocol outcome).after_allowing s trace

theorem follows_scopeProtocol
    {trace : List (Event (sessionSignature Provider Schema DataFrame Rows))} :
    (scopeProtocol allowed outcome).Follows s trace ↔ (catalogProtocol outcome).Follows s trace :=
  @Protocol.follows_allowing _ _ (catalogProtocol outcome) s allowed trace

theorem meets_deregister {α : Type} {name : String}
    {f : Except String (Option Provider) → SessionProgram Provider Schema DataFrame Rows α}
    {Q : α → ScopeState Provider → Prop} (hallowed : allowed s (.deregister name))
    (herror : ∀ message, s.catalog.tableProvider name = none →
      (scopeProtocol allowed outcome).Meets (f (.error message)) s Q)
    (hok : ∀ s' : ScopeState Provider, s'.cached = s.cached →
      s'.catalog.view = Function.update s.catalog.view (Catalog.tableKey name) none →
      (scopeProtocol allowed outcome).Meets (f (.ok (s.catalog.tableProvider name))) s' Q) :
    (scopeProtocol allowed outcome).Meets (sessionCall (.deregister name) >>= f) s Q := by
  refine meets_sessionCall.2 ⟨hallowed, fun reply hreply => ?_⟩
  rcases reply with message | found
  · exact herror message hreply
  · obtain rfl : found = s.catalog.tableProvider name := hreply
    exact hok _ rfl (Catalog.view_deregisterTable s.catalog name)

theorem meets_register {α : Type} {name : String} {provider : Provider}
    {f : Except String Unit → SessionProgram Provider Schema DataFrame Rows α}
    {Q : α → ScopeState Provider → Prop} (hallowed : allowed s (.register name provider))
    (herror : ∀ message, (s.catalog.tableProvider name).isSome ∨
      outcome (.register name provider) (.error message) →
      (scopeProtocol allowed outcome).Meets (f (.error message)) s Q)
    (hok : s.catalog.tableProvider name = none → ∀ s' : ScopeState Provider,
      s'.cached = s.cached →
      s'.catalog.view = Function.update s.catalog.view (Catalog.tableKey name) (some provider) →
      (scopeProtocol allowed outcome).Meets (f (.ok ())) s' Q) :
    (scopeProtocol allowed outcome).Meets (sessionCall (.register name provider) >>= f) s Q := by
  refine meets_sessionCall.2 ⟨hallowed, fun reply hreply => ?_⟩
  rcases reply with message | ⟨⟩
  · exact herror message hreply
  · exact hok hreply _ rfl (@Catalog.view_after_register _ Schema DataFrame Rows _ _ provider hreply)

def QueryEngine.sqlKeys (engine : QueryEngine Provider Schema DataFrame) (sql : String) :
    List String :=
  match engine.references sql with
  | .ok keys => keys
  | .error _ => []

def QueryEngine.PlansSql (engine : QueryEngine Provider Schema DataFrame)
    (catalog : Catalog Provider) (sql : String) (dataframe : DataFrame) : Prop :=
  ∃ keys, engine.references sql = .ok keys ∧
    engine.planSql sql (keys.map fun key => (key, catalog.view key)) = .ok dataframe

def QueryEngine.PlansTable (engine : QueryEngine Provider Schema DataFrame)
    (catalog : Catalog Provider) (name : String) (dataframe : DataFrame) : Prop :=
  ∃ provider, catalog.tableProvider name = some provider ∧
    engine.readTable provider = .ok dataframe

theorem lookupAll_meets {keys : List String}
    (hallowed : ∀ key ∈ keys, allowed s (.lookup key)) :
    (scopeProtocol allowed outcome).Meets (QueryEngine.lookupAll keys) s fun resolved s' =>
      s' = s ∧ resolved = keys.map fun key => (key, s.catalog.view key) := by
  induction keys with
  | nil => exact ⟨rfl, rfl⟩
  | cons key keys ih =>
    refine meets_sessionCall.2 ⟨hallowed key (List.mem_cons_self ..), ?_⟩
    rintro reply rfl
    refine Protocol.Meets.bind (ih fun key' hkey' => hallowed key'
      (List.mem_cons_of_mem _ hkey')) ?_
    rintro rest s' ⟨rfl, rfl⟩
    exact ⟨rfl, rfl⟩

theorem sqlWithOptions_meets {engine : QueryEngine Provider Schema DataFrame} {sql : String}
    (hallowed : ∀ key ∈ engine.sqlKeys sql, allowed s (.lookup key)) :
    (scopeProtocol allowed outcome).Meets (engine.sqlWithOptions sql) s fun result s' =>
      s' = s ∧ ∀ dataframe, result = .ok dataframe →
        engine.PlansSql s.catalog sql dataframe := by
  unfold QueryEngine.sqlWithOptions
  unfold QueryEngine.sqlKeys at hallowed
  rcases hkeys : engine.references sql with error | keys
  · exact ⟨rfl, nofun⟩
  · rw [hkeys] at hallowed
    refine Protocol.Meets.bind (lookupAll_meets hallowed) ?_
    rintro resolved s' ⟨rfl, rfl⟩
    exact ⟨rfl, fun dataframe hplan => ⟨keys, hkeys, hplan⟩⟩

theorem table_meets {engine : QueryEngine Provider Schema DataFrame} {name : String}
    (hallowed : allowed s (.lookup (Catalog.tableKey name))) :
    (scopeProtocol allowed outcome).Meets (engine.table name) s fun result s' =>
      s' = s ∧ ∀ dataframe, result = .ok dataframe →
        engine.PlansTable s.catalog name dataframe := by
  refine meets_sessionCall.2 ⟨hallowed, ?_⟩
  rintro reply hreply
  rcases reply with _ | provider
  · exact ⟨rfl, nofun⟩
  · exact ⟨rfl, fun dataframe hread => ⟨provider, hreply.symm, hread⟩⟩

end Rules

/-- The operation neither reads nor changes the catalog, nor writes an output. -/
def SessionOp.IsFree : SessionOp Provider Schema DataFrame Rows → Prop
  | .lookup _ => False
  | .deregister _ => False
  | .register _ _ => False
  | .writeOutput _ _ _ => False
  | _ => True

def SessionOp.writtenTarget : SessionOp Provider Schema DataFrame Rows → Option MssqlTargetSummary
  | .writeOutput _ target _ => some target
  | _ => none

def QueryEngine.aliasKeys (engine : QueryEngine Provider Schema DataFrame) (aliasName : String) :
    Option String → List String
  | some sql => engine.sqlKeys sql
  | none => [Catalog.tableKey aliasName]

def QueryEngine.PlansAlias (engine : QueryEngine Provider Schema DataFrame)
    (catalog : Catalog Provider) (aliasName : String) (retainedSql : Option String)
    (dataframe : DataFrame) : Prop :=
  match retainedSql with
  | some sql => engine.PlansSql catalog sql dataframe
  | none => engine.PlansTable catalog aliasName dataframe

/-- The provider holds rows collected for the alias over the catalog. -/
def Materialized (engine : QueryEngine Provider Schema DataFrame)
    (outcome : Outcomes Provider Schema DataFrame Rows) (catalog : Catalog Provider)
    (aliasName : String) (retainedSql : Option String) (provider : Provider) : Prop :=
  ∃ dataframe rows, engine.PlansAlias catalog aliasName retainedSql dataframe ∧
    outcome (.collectPartitions dataframe) (.ok rows) ∧
    outcome (.memTable aliasName rows) (.ok provider)

section Materialize
variable {allowed : ScopeState Provider → SessionOp Provider Schema DataFrame Rows → Prop}
  {outcome : Outcomes Provider Schema DataFrame Rows} {s : ScopeState Provider}
  {engine : QueryEngine Provider Schema DataFrame}

theorem resolveCacheDataframe_meets {aliasName : String} {retainedSql : Option String}
    (hreads : ∀ key ∈ engine.aliasKeys aliasName retainedSql, allowed s (.lookup key)) :
    (scopeProtocol allowed outcome).Meets (resolveCacheDataframe engine aliasName retainedSql) s
      fun result s' => s' = s ∧ ∀ dataframe, result = .ok dataframe →
        engine.PlansAlias s.catalog aliasName retainedSql dataframe := by
  cases retainedSql with
  | some sql => exact sqlWithOptions_meets hreads
  | none => exact table_meets (hreads _ (List.mem_cons_self ..))

structure MaterializeEffect (engine : QueryEngine Provider Schema DataFrame)
    (outcome : Outcomes Provider Schema DataFrame Rows) (aliasName : String)
    (retainedSql : Option String) (s : ScopeState Provider)
    (result : Except CacheAliasPhaseFailure (MaterializedCache Provider))
    (s' : ScopeState Provider) : Prop where
  catalog : s'.catalog = s.catalog
  frame : ∀ key, key ≠ Catalog.tableKey aliasName → s'.cached key = s.cached key
  cached : ∀ materialized, result = .ok materialized →
    s'.cached (Catalog.tableKey aliasName) = some materialized.provider ∧
      Materialized engine outcome s.catalog aliasName retainedSql materialized.provider

theorem MaterializeEffect.failed {aliasName : String} {retainedSql : Option String}
    {failure : CacheAliasPhaseFailure} :
    MaterializeEffect engine outcome aliasName retainedSql s (.error failure) s :=
  ⟨rfl, fun _ _ => rfl, nofun⟩

theorem collectCache_meets {aliasName : String} {retainedSql : Option String}
    {dataframe : DataFrame}
    (hfree : ∀ op : SessionOp Provider Schema DataFrame Rows, op.IsFree → allowed s op)
    (hplans : engine.PlansAlias s.catalog aliasName retainedSql dataframe) :
    (scopeProtocol allowed outcome).Meets (collectCache aliasName dataframe) s
      (MaterializeEffect engine outcome aliasName retainedSql s) := by
  refine meets_sessionCall.2 ⟨hfree _ trivial, fun planned _ => ?_⟩
  rcases planned with error | ⟨⟩
  · exact .failed
  refine meets_sessionCall.2 ⟨hfree _ trivial, fun started _ => ?_⟩
  rcases started with error | ⟨⟩
  · exact .failed
  refine meets_sessionCall.2 ⟨hfree _ trivial, fun collected hcollected => ?_⟩
  rcases collected with error | rows
  · exact .failed
  refine meets_sessionCall.2 ⟨hfree _ trivial, fun built hbuilt => ?_⟩
  rcases built with error | provider
  · exact .failed
  refine ⟨rfl, fun key hkey => Function.update_of_ne hkey _ _, ?_⟩
  rintro materialized heq
  cases heq
  exact ⟨Function.update_self _ _ _, dataframe, rows, hplans, hcollected, hbuilt⟩

theorem materializeCacheFromSql_meets {aliasName : String} {retainedSql : Option String}
    {expectedReplanSchema : Option Schema}
    (hfree : ∀ op : SessionOp Provider Schema DataFrame Rows, op.IsFree → allowed s op)
    (hreads : ∀ key ∈ engine.aliasKeys aliasName retainedSql, allowed s (.lookup key)) :
    (scopeProtocol allowed outcome).Meets
      (materializeCacheFromSql engine aliasName retainedSql expectedReplanSchema) s
      (MaterializeEffect engine outcome aliasName retainedSql s) := by
  refine (resolveCacheDataframe_meets hreads).bind ?_
  rintro result s' ⟨rfl, hplans⟩
  rcases result with error | dataframe
  · exact .failed
  · dsimp only
    split
    · exact .failed
    · exact collectCache_meets hfree (hplans dataframe rfl)

end Materialize

def MssqlScopedCacheAliasReplacement.key
    (replacement : MssqlScopedCacheAliasReplacement Provider) : String :=
  Catalog.tableKey replacement.aliasName

/-- Exactly the given aliases are replaced: each by the provider last materialized for it, and
each with its initial provider kept. -/
structure Installed (initial : String → Option Provider) (good : String → Provider → Prop)
    (replacements : List (MssqlScopedCacheAliasReplacement Provider))
    (s : ScopeState Provider) : Prop where
  keys_nodup : (replacements.map (·.key)).Nodup
  original : ∀ replacement ∈ replacements,
    initial replacement.key = some replacement.originalProvider
  replaced : ∀ replacement ∈ replacements, ∃ provider,
    s.catalog.view replacement.key = some provider ∧
      s.cached replacement.key = some provider ∧ good replacement.key provider
  untouched : ∀ key, key ∉ replacements.map (·.key) → s.catalog.view key = initial key

/-- What the environment must grant a run that replaces the aliases `scope`. -/
structure ScopeRules
    (allowed : ScopeState Provider → SessionOp Provider Schema DataFrame Rows → Prop)
    (outcome : Outcomes Provider Schema DataFrame Rows) (initial : String → Option Provider)
    (good : String → Provider → Prop) (scope : String → Prop) : Prop where
  free : ∀ s op, op.IsFree → allowed s op
  deregister : ∀ s name, scope name →
    s.catalog.view (Catalog.tableKey name) = initial (Catalog.tableKey name) ∨
      (s.catalog.view (Catalog.tableKey name)).isSome → allowed s (.deregister name)
  register : ∀ s name provider, scope name → s.catalog.view (Catalog.tableKey name) = none →
    initial (Catalog.tableKey name) = some provider ∨ good (Catalog.tableKey name) provider →
    allowed s (.register name provider)
  /-- The initial provider of an alias is never refused. -/
  accepted : ∀ name provider message, scope name →
    initial (Catalog.tableKey name) = some provider →
    ¬outcome (.register name provider) (.error message)

section Scope
variable {allowed : ScopeState Provider → SessionOp Provider Schema DataFrame Rows → Prop}
  {outcome : Outcomes Provider Schema DataFrame Rows} {initial : String → Option Provider}
  {good : String → Provider → Prop} {scope : String → Prop} {s : ScopeState Provider}
  {replacements : List (MssqlScopedCacheAliasReplacement Provider)}

theorem Installed.reverse (h : Installed initial good replacements s) :
    Installed initial good replacements.reverse s where
  keys_nodup := by
    rw [List.map_reverse]
    exact List.nodup_reverse.2 h.keys_nodup
  original := fun replacement hmem => h.original replacement (List.mem_reverse.1 hmem)
  replaced := fun replacement hmem => h.replaced replacement (List.mem_reverse.1 hmem)
  untouched := by
    intro key hkey
    rw [List.map_reverse, List.mem_reverse] at hkey
    exact h.untouched key hkey

theorem Installed.restored {replacement : MssqlScopedCacheAliasReplacement Provider}
    {s' : ScopeState Provider} (h : Installed initial good (replacement :: replacements) s)
    (hcached : s'.cached = s.cached)
    (hview : s'.catalog.view =
      Function.update s.catalog.view replacement.key (some replacement.originalProvider)) :
    Installed initial good replacements s' := by
  have hnodup := h.keys_nodup
  rw [List.map_cons, List.nodup_cons] at hnodup
  refine ⟨hnodup.2, fun other hother => h.original other (List.mem_cons_of_mem _ hother),
    fun other hother => ?_, fun key hkey => ?_⟩
  · have hne : other.key ≠ replacement.key := by
      intro heq
      exact hnodup.1 (heq ▸ List.mem_map_of_mem hother)
    rw [hcached, hview, Function.update_of_ne hne]
    exact h.replaced other (List.mem_cons_of_mem _ hother)
  · rw [hview]
    by_cases hrestored : key = replacement.key
    · rw [hrestored, Function.update_self, h.original replacement (List.mem_cons_self ..)]
    · rw [Function.update_of_ne hrestored]
      refine h.untouched key ?_
      rw [List.map_cons, List.mem_cons, not_or]
      exact ⟨hrestored, hkey⟩

theorem register_original_meets {α : Type} {name : String} {provider : Provider}
    {f : Except String Unit → SessionProgram Provider Schema DataFrame Rows α}
    {Q : α → ScopeState Provider → Prop}
    (hrules : ScopeRules allowed outcome initial good scope) (hscope : scope name)
    (hinitial : initial (Catalog.tableKey name) = some provider)
    (habsent : s.catalog.view (Catalog.tableKey name) = none)
    (hnext : ∀ s' : ScopeState Provider, s'.cached = s.cached →
      s'.catalog.view = Function.update s.catalog.view (Catalog.tableKey name) (some provider) →
      (scopeProtocol allowed outcome).Meets (f (.ok ())) s' Q) :
    (scopeProtocol allowed outcome).Meets (sessionCall (.register name provider) >>= f) s Q := by
  refine meets_register (hrules.register s name provider hscope habsent (.inl hinitial)) ?_
    fun _ => hnext
  rintro message (hpresent | hrefused)
  · rw [Catalog.tableProvider_eq_view, habsent] at hpresent
    cases hpresent
  · exact absurd hrefused (hrules.accepted name provider message hscope hinitial)

theorem restoreProvider_meets {replacement : MssqlScopedCacheAliasReplacement Provider}
    (hrules : ScopeRules allowed outcome initial good scope) (hscope : scope replacement.aliasName)
    (h : Installed initial good (replacement :: replacements) s) :
    (scopeProtocol allowed outcome).Meets replacement.restoreProvider s fun result s' =>
      result = .ok () ∧ Installed initial good replacements s' := by
  obtain ⟨provider, hcurrent, -, -⟩ := h.replaced replacement (List.mem_cons_self ..)
  have hinitial := h.original replacement (List.mem_cons_self ..)
  have hpresent : s.catalog.tableProvider replacement.aliasName = some provider := hcurrent
  refine meets_deregister (hrules.deregister s _ hscope (.inr ?_)) ?_ ?_
  · rw [← Catalog.tableProvider_eq_view, hpresent]
    rfl
  · intro message habsent
    rw [hpresent] at habsent
    cases habsent
  · intro s₁ hcached₁ hview₁
    refine register_original_meets hrules hscope hinitial ?_ ?_
    · rw [hview₁]
      exact Function.update_self _ _ _
    · intro s' hcached hview'
      rw [hview₁, Function.update_idem] at hview'
      rw [hcached₁] at hcached
      exact ⟨rfl, h.restored hcached hview'⟩

theorem restoreWithReport_meets {replacement : MssqlScopedCacheAliasReplacement Provider}
    (hrules : ScopeRules allowed outcome initial good scope) (hscope : scope replacement.aliasName)
    (h : Installed initial good (replacement :: replacements) s) :
    (scopeProtocol allowed outcome).Meets replacement.restoreWithReport s fun _ s' =>
      Installed initial good replacements s' := by
  refine (restoreProvider_meets hrules hscope h).bind ?_
  rintro result s' ⟨rfl, hinstalled⟩
  exact hinstalled

theorem restoreAllWithReports_meets (hrules : ScopeRules allowed outcome initial good scope)
    (hscope : ∀ replacement ∈ replacements, scope replacement.aliasName)
    (h : Installed initial good replacements s) :
    (scopeProtocol allowed outcome).Meets (restoreAllWithReports replacements) s fun _ s' =>
      Installed initial good [] s' := by
  induction replacements generalizing s with
  | nil => exact h
  | cons replacement replacements ih =>
    refine (restoreWithReport_meets hrules (hscope replacement (List.mem_cons_self ..)) h).bind ?_
    rintro ⟨report, result⟩ s' hinstalled
    refine (ih (fun other hother => hscope other (List.mem_cons_of_mem _ hother))
      hinstalled).bind ?_
    rintro ⟨reports, laterError⟩ s'' hrestored
    exact hrestored

/-- **Restoring** undoes every replacement. -/
theorem restoreMssqlCacheAliasesWithReports_meets
    (hrules : ScopeRules allowed outcome initial good scope)
    (hscope : ∀ replacement ∈ replacements, scope replacement.aliasName)
    (h : Installed initial good replacements s) :
    (scopeProtocol allowed outcome).Meets (restoreMssqlCacheAliasesWithReports replacements) s
      fun _ s' => Installed initial good [] s' := by
  have hscope' : ∀ replacement ∈ replacements.reverse, scope replacement.aliasName :=
    fun replacement hmem => hscope replacement (List.mem_reverse.1 hmem)
  refine (restoreAllWithReports_meets hrules hscope' h.reverse).bind ?_
  rintro ⟨reports, firstError⟩ s' hrestored
  exact hrestored

theorem restoreCacheAliasesAfterFailure_meets
    (hrules : ScopeRules allowed outcome initial good scope)
    (hscope : ∀ replacement ∈ replacements, scope replacement.aliasName)
    (h : Installed initial good replacements s) {source : DeltaFunnelError}
    {failedAlias : Option WriteAllCacheAliasReport} :
    (scopeProtocol allowed outcome).Meets
      (restoreCacheAliasesAfterFailure source replacements failedAlias) s
      fun _ s' => Installed initial good [] s' := by
  refine (restoreMssqlCacheAliasesWithReports_meets hrules hscope h).bind ?_
  rintro ⟨reports, result⟩ s' hrestored
  exact hrestored

/-- What installing a cached provider does to the scope. -/
def InstallEffect (initial : String → Option Provider) (name : String) (provider : Provider)
    (s : ScopeState Provider) (result : Except CacheAliasInstallFailure Provider)
    (s' : ScopeState Provider) : Prop :=
  s'.cached = s.cached ∧
    match result with
    | .ok original => initial (Catalog.tableKey name) = some original ∧
        s'.catalog.view =
          Function.update s.catalog.view (Catalog.tableKey name) (some provider)
    | .error _ => s'.catalog.view = s.catalog.view

theorem installScopedCacheAliasProvider_meets {name : String} {provider : Provider}
    (hrules : ScopeRules allowed outcome initial good scope) (hscope : scope name)
    (hsame : s.catalog.view (Catalog.tableKey name) = initial (Catalog.tableKey name))
    (hgood : good (Catalog.tableKey name) provider) :
    (scopeProtocol allowed outcome).Meets (installScopedCacheAliasProvider name provider) s
      (InstallEffect initial name provider s) := by
  refine meets_deregister (hrules.deregister s name hscope (.inl hsame))
    (fun message _ => ⟨rfl, rfl⟩) ?_
  intro s₁ hcached₁ hview₁
  rcases hfound : s.catalog.tableProvider name with _ | original
  · -- Nothing was registered, so nothing was removed.
    refine ⟨hcached₁, ?_⟩
    rw [hview₁, ← hfound, Catalog.tableProvider_eq_view, Function.update_eq_self]
  · have hinitial : initial (Catalog.tableKey name) = some original := by
      rw [← hsame]
      exact hfound
    have habsent : s₁.catalog.view (Catalog.tableKey name) = none := by
      rw [hview₁]
      exact Function.update_self _ _ _
    refine meets_register (hrules.register s₁ name provider hscope habsent (.inr hgood)) ?_ ?_
    · -- The name is still free, so the original provider can go back.
      intro message _
      refine register_original_meets hrules hscope hinitial habsent ?_
      intro s' hcached hview
      refine ⟨hcached.trans hcached₁, ?_⟩
      rw [hview, hview₁, Function.update_idem, ← hinitial, ← hsame, Function.update_eq_self]
    · intro _ s' hcached hview
      refine ⟨hcached.trans hcached₁, hinitial, ?_⟩
      rw [hview, hview₁, Function.update_idem]

end Scope
end DeltaFunnel
