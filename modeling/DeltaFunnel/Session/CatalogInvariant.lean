import DeltaFunnel.Session.RegistryInvariant

/-! What the catalog of a reachable session holds: catalogs only grow, and every alias keeps the
provider that was planned for it. -/

namespace DeltaFunnel

variable {Provider Schema : Type}

namespace Catalog
variable {catalog catalog' catalog'' : Catalog Provider} {name : String} {provider : Provider}

/-- Every entry of the first catalog is an entry of the second. -/
def Extends (catalog catalog' : Catalog Provider) : Prop :=
  ∀ key provider, catalog.view key = some provider → catalog'.view key = some provider

theorem Extends.refl (catalog : Catalog Provider) : catalog.Extends catalog :=
  fun _ _ h => h

theorem Extends.trans (h : catalog.Extends catalog') (h' : catalog'.Extends catalog'') :
    catalog.Extends catalog'' := by
  intro key provider hfound
  exact h' key provider (h key provider hfound)

theorem view_registerTable (h : catalog.registerTable name provider = .ok catalog') :
    catalog'.view = Function.update catalog.view (tableKey name) (some provider) := by
  obtain ⟨habsent, rfl⟩ := registerTable_eq_ok.1 h
  exact view_append habsent

theorem extends_registerTable (h : catalog.registerTable name provider = .ok catalog') :
    catalog.Extends catalog' := by
  intro key found hfound
  have habsent := (registerTable_eq_ok.1 h).1
  have hne : key ≠ tableKey name := by
    rintro rfl
    rw [habsent] at hfound
    cases hfound
  rw [view_registerTable h, Function.update_of_ne hne, hfound]

end Catalog

namespace Session
variable {session session' : Session Provider Schema} {result : Except DeltaFunnelError LazyTable}

theorem CallEffect.catalog_extends (heffect : CallEffect session result session') :
    session.catalog.Extends session'.catalog := by
  cases heffect with
  | failed error pending hperm => exact .refl _
  | source name schema catalog hvalid hfresh hcatalog =>
    exact Catalog.extends_registerTable hcatalog
  | derived sqlText schema provider references hsql => exact .refl _
  | registered name before pending after catalog hvalid hfresh hpending hcatalog =>
    exact Catalog.extends_registerTable hcatalog

theorem deltaLake_pending (session : Session Provider Schema) (source : DeltaSourceConfig)
    (outcome : SourceOutcome Provider Schema) :
    (session.deltaLake source outcome).2.pendingDerivedTables = session.pendingDerivedTables := by
  unfold deltaLake
  split
  · rfl
  · rfl

theorem registerAlias_pending_subset (session : Session Provider Schema) (name : String)
    (table : LazyTable) (refused : Option String) :
    (session.registerAlias name table refused).2.pendingDerivedTables ⊆
      session.pendingDerivedTables := by
  unfold registerAlias
  split
  · exact List.Subset.refl _
  · split
    · exact List.Subset.refl _
    · next index pending hfound =>
      obtain ⟨index', -, hpending⟩ := Option.bind_eq_some_iff.1 hfound
      obtain ⟨pending', hentry, heq⟩ := Option.map_eq_some_iff.1 hpending
      cases heq
      have hremaining : session.pendingDerivedTables.eraseIdx index ⊆
          session.pendingDerivedTables := List.eraseIdx_subset ..
      dsimp only
      split
      · refine List.append_subset.2 ⟨hremaining, ?_⟩
        intro other hother
        rw [List.mem_singleton.1 hother]
        exact List.mem_of_getElem? hentry
      · exact hremaining

theorem call_pending {call : SessionCall Provider Schema}
    {pending : PendingDerivedTable Provider Schema}
    (hpending : pending ∈ (session.call call).2.pendingDerivedTables) :
    pending ∈ session.pendingDerivedTables ∨
      ∃ sql outcome schema, call = .tableFromSql sql outcome ∧
        outcome.plan = .ok (schema, pending.provider) ∧ pending.sqlText = trimText sql := by
  cases call with
  | deltaLake source outcome =>
    have hsame := deltaLake_pending session source outcome
    rw [← hsame]
    exact .inl hpending
  | registerAlias name table refused =>
    exact .inl (registerAlias_pending_subset session name table refused hpending)
  | tableFromSql sql outcome =>
    simp only [Session.call] at hpending
    unfold tableFromSql at hpending
    dsimp only at hpending
    split_ifs at hpending with hempty
    · exact .inl hpending
    · split at hpending
      · exact .inl hpending
      · next schema provider hplan =>
        rcases List.mem_append.1 hpending with hold | hlast
        · exact .inl hold
        · rw [List.mem_singleton.1 hlast]
          exact .inr ⟨sql, outcome, schema, rfl, hplan, rfl⟩

/-- Every alias has an entry in the catalog, and `P` holds of the catalog, the SQL text and the
provider of every derived table. -/
structure Backed (P : Catalog Provider → String → Provider → Prop)
    (session : Session Provider Schema) : Prop where
  sources : ∀ source ∈ session.sources,
    (session.catalog.view (Catalog.tableKey source.name)).isSome
  derived : ∀ derived ∈ session.derivedTables, ∃ provider,
    session.catalog.view (Catalog.tableKey derived.name) = some provider ∧
      P session.catalog derived.sqlText provider
  pending : ∀ pending ∈ session.pendingDerivedTables,
    P session.catalog pending.sqlText pending.provider

section Backed
variable {P : Catalog Provider → String → Provider → Prop}

theorem fresh_backed : (fresh : Session Provider Schema).Backed P :=
  ⟨nofun, nofun, nofun⟩

theorem Backed.step
    (hmono : ∀ {catalog catalog' sqlText provider}, catalog.Extends catalog' →
      P catalog sqlText provider → P catalog' sqlText provider)
    (h : session.Backed P) (heffect : CallEffect session result session')
    (hpending : ∀ pending ∈ session'.pendingDerivedTables,
      pending ∈ session.pendingDerivedTables ∨
        P session.catalog pending.sqlText pending.provider) : session'.Backed P := by
  have hextends := heffect.catalog_extends
  -- a call only adds names to the catalog, so the tables known before stay backed
  have hold : ∀ derived ∈ session.derivedTables, ∃ provider,
      session'.catalog.view (Catalog.tableKey derived.name) = some provider ∧
        P session'.catalog derived.sqlText provider := by
    intro derived hderived
    obtain ⟨provider, hview, hP⟩ := h.derived derived hderived
    exact ⟨provider, hextends _ _ hview, hmono hextends hP⟩
  have hsources : ∀ source ∈ session.sources,
      (session'.catalog.view (Catalog.tableKey source.name)).isSome := by
    intro source hsource
    obtain ⟨provider, hview⟩ := Option.isSome_iff_exists.1 (h.sources source hsource)
    rw [hextends _ _ hview]
    rfl
  refine ⟨?_, ?_, fun pending hmem => hmono hextends ?_⟩
  · cases heffect with
    | failed error pending hperm => exact hsources
    | derived sqlText schema provider references hsql => exact hsources
    | registered name before pending after catalog hvalid hfresh hsplit hcatalog =>
      exact hsources
    | source name schema catalog hvalid hfresh hcatalog =>
      intro source hsource
      rcases List.mem_append.1 hsource with hmem | hlast
      · exact hsources source hmem
      · rw [List.mem_singleton.1 hlast]
        show (catalog.view (Catalog.tableKey name)).isSome
        rw [Catalog.view_registerTable hcatalog, Function.update_self]
        rfl
  · cases heffect with
    | failed error pending hperm => exact hold
    | source name schema catalog hvalid hfresh hcatalog => exact hold
    | derived sqlText schema provider references hsql => exact hold
    | registered name before pending after catalog hvalid hfresh hsplit hcatalog =>
      intro derived hderived
      rcases List.mem_append.1 hderived with hmem | hlast
      · exact hold derived hmem
      · rw [List.mem_singleton.1 hlast]
        have hmem : pending ∈ session.pendingDerivedTables := by
          rw [hsplit]
          exact List.mem_append_right _ (List.mem_cons_self ..)
        refine ⟨pending.provider, ?_, hmono hextends (h.pending pending hmem)⟩
        show catalog.view (Catalog.tableKey name) = _
        rw [Catalog.view_registerTable hcatalog, Function.update_self]
  · rcases hpending pending hmem with hmem | hP
    · exact h.pending pending hmem
    · exact hP

/-- What the call plans satisfies `P` where it is planned. -/
def PlanSatisfies (P : Catalog Provider → String → Provider → Prop)
    (session : Session Provider Schema) : SessionCall Provider Schema → Prop
  | .tableFromSql sql outcome => ∀ schema provider, outcome.plan = .ok (schema, provider) →
      P session.catalog (trimText sql) provider
  | _ => True

/-- Every call of the history plans what satisfies `P`, where the calls before it have led. -/
def HistorySatisfies (P : Catalog Provider → String → Provider → Prop) :
    Session Provider Schema → List (SessionCall Provider Schema) → Prop
  | _, [] => True
  | session, call :: calls =>
    PlanSatisfies P session call ∧ HistorySatisfies P (session.call call).2 calls

theorem Backed.run
    (hmono : ∀ {catalog catalog' sqlText provider}, catalog.Extends catalog' →
      P catalog sqlText provider → P catalog' sqlText provider)
    (h : session.Backed P) {calls : List (SessionCall Provider Schema)}
    (hcalls : HistorySatisfies P session calls) : (session.run calls).Backed P := by
  induction calls generalizing session with
  | nil => exact h
  | cons call calls ih =>
    obtain ⟨hcall, hrest⟩ := hcalls
    refine ih (h.step hmono (call_effect session call) ?_) hrest
    intro pending hpending
    rcases call_pending hpending with hold | ⟨sql, outcome, schema, rfl, hplan, hsql⟩
    · exact .inl hold
    · rw [hsql]
      exact .inr (hcall schema pending.provider hplan)

theorem HistorySatisfies.of_forall
    (hP : ∀ catalog sqlText provider, P catalog sqlText provider)
    (session : Session Provider Schema) (calls : List (SessionCall Provider Schema)) :
    HistorySatisfies P session calls := by
  induction calls generalizing session with
  | nil => trivial
  | cons call calls ih =>
    refine ⟨?_, ih _⟩
    cases call with
    | deltaLake source outcome => trivial
    | registerAlias name table refused => trivial
    | tableFromSql sql outcome => exact fun _ provider _ => hP _ _ provider

theorem HistorySatisfies.imp {Q : Catalog Provider → String → Provider → Prop}
    (hPQ : ∀ {catalog sqlText provider}, P catalog sqlText provider → Q catalog sqlText provider)
    {calls : List (SessionCall Provider Schema)} (h : HistorySatisfies P session calls) :
    HistorySatisfies Q session calls := by
  induction calls generalizing session with
  | nil => trivial
  | cons call calls ih =>
    refine ⟨?_, ih h.2⟩
    cases call with
    | deltaLake source outcome => trivial
    | registerAlias name table refused => trivial
    | tableFromSql sql outcome =>
      intro schema provider hplan
      exact hPQ (h.1 schema provider hplan)

end Backed
end Session
end DeltaFunnel
