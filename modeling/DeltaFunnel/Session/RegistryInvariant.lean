import Mathlib.Data.List.Induction
import Mathlib.Data.List.Nodup
import Mathlib.Logic.Relation
import DeltaFunnel.Session.Registry

/-! What every reachable session satisfies: ids and names are unique, lineage names registered
tables only, and registration order is dependency order. -/

namespace DeltaFunnel
open Collections

variable {Provider Schema : Type}

inductive SessionCall (Provider Schema : Type) where
  | deltaLake (source : Session.DeltaSourceConfig)
      (outcome : Session.SourceOutcome Provider Schema)
  | tableFromSql (sql : String) (outcome : Session.SqlOutcome Provider Schema)
  | registerAlias (name : String) (table : LazyTable) (refused : Option String)

namespace Session

def call (session : Session Provider Schema) :
    SessionCall Provider Schema → Except DeltaFunnelError LazyTable × Session Provider Schema
  | .deltaLake source outcome => session.deltaLake source outcome
  | .tableFromSql sql outcome => session.tableFromSql sql outcome
  | .registerAlias name table refused => session.registerAlias name table refused

def run (session : Session Provider Schema) (calls : List (SessionCall Provider Schema)) :
    Session Provider Schema :=
  calls.foldl (fun session call => (session.call call).2) session

/-- Every table ever allocated is in exactly one of the three lists. -/
def tableCount (session : Session Provider Schema) : ℕ :=
  session.sources.length + session.derivedTables.length + session.pendingDerivedTables.length

inductive CallEffect (session : Session Provider Schema) :
    Except DeltaFunnelError LazyTable → Session Provider Schema → Prop
  | failed (error : DeltaFunnelError) (pending : List (PendingDerivedTable Provider Schema))
      (hperm : pending.Perm session.pendingDerivedTables) :
      CallEffect session (.error error) { session with pendingDerivedTables := pending }
  | source (name : String) (schema : Schema) (catalog : Catalog Provider)
      (hvalid : validateSourceName name = .ok ())
      (hfresh : session.rejectRegisteredAliasName name = .ok ()) {provider : Provider}
      (hcatalog : session.catalog.registerTable name provider = .ok catalog) :
      CallEffect session (.ok (.deltaSource session.nextTableId name)) { session with
        catalog
        nextTableId := saturatingAdd session.nextTableId 1
        sources := session.sources ++ [⟨.deltaSource session.nextTableId name, schema⟩] }
  | derived (sqlText : String) (schema : Schema) (provider : Provider)
      (references : Except DeltaFunnelError (List TableReference × List TableReference))
      (hsql : trimText sqlText ≠ "") :
      CallEffect session (.ok (.derivedSql session.nextTableId)) { session with
        nextTableId := saturatingAdd session.nextTableId 1
        pendingDerivedTables := session.pendingDerivedTables ++
          [⟨.derivedSql session.nextTableId, provider, schema, sqlText,
            session.deriveTableLineageFromSql references⟩] }
  | registered (name : String) (before : List (PendingDerivedTable Provider Schema))
      (pending : PendingDerivedTable Provider Schema)
      (after : List (PendingDerivedTable Provider Schema)) (catalog : Catalog Provider)
      (hvalid : validateSourceName name = .ok ())
      (hfresh : session.rejectRegisteredAliasName name = .ok ())
      (hpending : session.pendingDerivedTables = before ++ pending :: after)
      (hcatalog : session.catalog.registerTable name pending.provider = .ok catalog) :
      CallEffect session (.ok (pending.table.withName name)) { session with
        catalog
        derivedTables := session.derivedTables ++
          [⟨pending.table.withName name, pending.schema, pending.sqlText, pending.lineage⟩]
        pendingDerivedTables := before ++ after }

theorem registerDeltaSourceWithScanOptions_eq_ok {session : Session Provider Schema}
    {sourceName : String} {table : DeltaTable Schema} {provider : Except String Provider}
    {catalog : Catalog Provider}
    (h : session.registerDeltaSourceWithScanOptions sourceName table provider = .ok catalog) :
    ∃ p, session.catalog.registerTable sourceName p = .ok catalog := by
  obtain ⟨⟨⟩, -, h⟩ := except_bind_eq_ok.1 h
  obtain ⟨⟨⟩, -, h⟩ := except_bind_eq_ok.1 h
  split at h
  · next registered hregistered =>
    obtain ⟨p, -, hp⟩ := except_bind_eq_ok.1 hregistered
    cases h
    exact ⟨p, hp⟩
  · cases h

theorem deltaLake_effect (session : Session Provider Schema) (source : DeltaSourceConfig)
    (outcome : SourceOutcome Provider Schema) :
    CallEffect session (session.deltaLake source outcome).1
      (session.deltaLake source outcome).2 := by
  unfold deltaLake
  rcases hprepared : session.prepareDeltaSource source outcome with error | ⟨deltaTable, catalog⟩
  · exact .failed error _ (.refl _)
  · obtain ⟨⟨⟩, hlocal, hprepared⟩ := except_bind_eq_ok.1 hprepared
    obtain ⟨⟨⟩, hvalid, hlocal⟩ := except_bind_eq_ok.1 hlocal
    obtain ⟨⟨⟩, hfresh, -⟩ := except_bind_eq_ok.1 hlocal
    obtain ⟨⟨⟩, -, hprepared⟩ := except_bind_eq_ok.1 hprepared
    obtain ⟨⟨⟩, -, hprepared⟩ := except_bind_eq_ok.1 hprepared
    obtain ⟨loaded, -, hprepared⟩ := except_bind_eq_ok.1 hprepared
    obtain ⟨registered, hregistered, hresult⟩ := except_bind_eq_ok.1 hprepared
    cases hresult
    obtain ⟨provider, hcatalog⟩ := registerDeltaSourceWithScanOptions_eq_ok hregistered
    exact .source source.name deltaTable.schema catalog
      (validateTableSourceNames_singleton hvalid) hfresh hcatalog

theorem tableFromSql_effect (session : Session Provider Schema) (sql : String)
    (outcome : SqlOutcome Provider Schema) :
    CallEffect session (session.tableFromSql sql outcome).1
      (session.tableFromSql sql outcome).2 := by
  unfold tableFromSql
  dsimp only
  split_ifs with hempty
  · exact .failed _ _ (.refl _)
  · rcases outcome.plan with message | ⟨schema, provider⟩
    · exact .failed _ _ (.refl _)
    · have hsql : trimText sql ≠ "" := by
        intro hblank
        rw [hblank] at hempty
        exact hempty rfl
      exact .derived (trimText sql) schema provider outcome.references
        (trimText_trimText_ne_empty hsql)

theorem eraseIdx_split {α : Type} {xs : List α} {index : ℕ} {x : α} (h : xs[index]? = some x) :
    ∃ before after, xs = before ++ x :: after ∧ xs.eraseIdx index = before ++ after := by
  obtain ⟨hlt, hx⟩ := List.getElem?_eq_some_iff.1 h
  refine ⟨xs.take index, xs.drop (index + 1), ?_, List.eraseIdx_eq_take_drop_succ xs index⟩
  rw [← hx, ← List.drop_eq_getElem_cons hlt, List.take_append_drop]

theorem registerAlias_effect (session : Session Provider Schema) (name : String)
    (table : LazyTable) (refused : Option String) :
    CallEffect session (session.registerAlias name table refused).1
      (session.registerAlias name table refused).2 := by
  unfold registerAlias
  split
  · exact .failed _ _ (.refl _)
  · next hlocal =>
    obtain ⟨⟨⟩, hvalid, hfresh⟩ := except_bind_eq_ok.1 hlocal
    split
    · exact .failed _ _ (.refl _)
    · next index pending hfound =>
      obtain ⟨index', -, hpending⟩ := Option.bind_eq_some_iff.1 hfound
      obtain ⟨pending', hentry, heq⟩ := Option.map_eq_some_iff.1 hpending
      cases heq
      obtain ⟨before, after, hsplit, herase⟩ := eraseIdx_split hentry
      dsimp only
      rw [herase]
      split
      · refine .failed _ _ ?_
        rw [hsplit, List.append_assoc]
        exact List.Perm.append_left before List.perm_append_comm
      · next catalog hregistered =>
        cases refused with
        | some message => cases hregistered
        | none =>
          exact .registered name before pending after catalog
            (validateTableSourceNames_singleton hvalid) hfresh hsplit hregistered

theorem call_effect (session : Session Provider Schema) (call : SessionCall Provider Schema) :
    CallEffect session (session.call call).1 (session.call call).2 := by
  cases call with
  | deltaLake source outcome => exact deltaLake_effect session source outcome
  | tableFromSql sql outcome => exact tableFromSql_effect session sql outcome
  | registerAlias name table refused => exact registerAlias_effect session name table refused

def tableIds (session : Session Provider Schema) : List ℕ :=
  session.sources.map (·.table.id) ++ session.derivedTables.map (·.table.id) ++
    session.pendingDerivedTables.map (·.table.id)

def aliasNames (session : Session Provider Schema) : List String :=
  session.sources.map (·.name) ++ session.derivedTables.map (·.name)

/-- The dependency names a table of the given registries, allocated before table `id`. -/
def Resolves (sources : List (RegisteredSessionSource Schema))
    (derivedTables : List (RegisteredDerivedTable Schema)) (id : ℕ) :
    DerivedTableDependency → Prop
  | .registeredSource tableId name =>
    tableId < id ∧ ∃ source ∈ sources, source.table.id = tableId ∧ source.name = name
  | .registeredDerived tableId name =>
    tableId < id ∧ ∃ derived ∈ derivedTables, derived.table.id = tableId ∧ derived.name = name

def LineageResolves (sources : List (RegisteredSessionSource Schema))
    (derivedTables : List (RegisteredDerivedTable Schema)) (id : ℕ)
    (lineage : DerivedTableLineage) : Prop :=
  ∀ dependency ∈ lineage.directDependencies, Resolves sources derivedTables id dependency

/-- The registry invariant. The dependencies of a registered table resolve among the tables
registered before it. -/
structure Consistent (session : Session Provider Schema) : Prop where
  allocated : session.nextTableId = session.tableCount
  ids_nodup : session.tableIds.Nodup
  ids_lt : ∀ id ∈ session.tableIds, id < session.nextTableId
  names_nodup : (session.aliasNames.map toAsciiLowercase).Nodup
  names_valid : ∀ name ∈ session.aliasNames, validateSourceName name = .ok ()
  ordered : ∀ before derived after, session.derivedTables = before ++ derived :: after →
    LineageResolves session.sources before derived.table.id derived.lineage
  pending_resolves : ∀ pending ∈ session.pendingDerivedTables,
    LineageResolves session.sources session.derivedTables pending.table.id pending.lineage
  derived_sql : ∀ derived ∈ session.derivedTables,
    derived.table.kind = .derivedSql ∧ trimText derived.sqlText ≠ ""
  pending_sql : ∀ pending ∈ session.pendingDerivedTables,
    pending.table.kind = .derivedSql ∧ trimText pending.sqlText ≠ ""

theorem fresh_consistent : (fresh : Session Provider Schema).Consistent where
  allocated := rfl
  ids_nodup := List.nodup_nil
  ids_lt := by simp [fresh, tableIds]
  names_nodup := List.nodup_nil
  names_valid := by simp [fresh, aliasNames]
  ordered := by simp [fresh]
  pending_resolves := by simp [fresh]
  derived_sql := by simp [fresh]
  pending_sql := by simp [fresh]

theorem Resolves.mono {sources sources' : List (RegisteredSessionSource Schema)}
    {derivedTables derivedTables' : List (RegisteredDerivedTable Schema)} {id : ℕ}
    {dependency : DerivedTableDependency} (h : Resolves sources derivedTables id dependency)
    (hsources : sources ⊆ sources') (hderived : derivedTables ⊆ derivedTables') :
    Resolves sources' derivedTables' id dependency := by
  cases dependency with
  | registeredSource tableId name =>
    obtain ⟨hlt, source, hmem, hsource⟩ := h
    exact ⟨hlt, source, hsources hmem, hsource⟩
  | registeredDerived tableId name =>
    obtain ⟨hlt, derived, hmem, hderived'⟩ := h
    exact ⟨hlt, derived, hderived hmem, hderived'⟩

theorem lowercase_not_mem_of_fresh {session : Session Provider Schema} {name : String}
    (h : session.rejectRegisteredAliasName name = .ok ()) :
    toAsciiLowercase name ∉ session.aliasNames.map toAsciiLowercase := by
  unfold rejectRegisteredAliasName at h
  split_ifs at h with htaken
  intro hmem
  apply htaken
  rw [aliasNames, List.map_append, List.mem_append] at hmem
  rcases hmem with hmem | hmem
  · obtain ⟨name', hname', heq⟩ := List.mem_map.1 hmem
    obtain ⟨source, hsource, rfl⟩ := List.mem_map.1 hname'
    refine .inl (List.find?_isSome.2 ⟨source, hsource, ?_⟩)
    rw [eqIgnoreAsciiCase_iff, heq]
  · obtain ⟨name', hname', heq⟩ := List.mem_map.1 hmem
    obtain ⟨derived, hderived, rfl⟩ := List.mem_map.1 hname'
    refine .inr (List.find?_isSome.2 ⟨derived, hderived, ?_⟩)
    rw [eqIgnoreAsciiCase_iff, heq]

theorem Consistent.lineageDependency_resolves {session : Session Provider Schema}
    (h : session.Consistent) {name : String} {dependency : DerivedTableDependency}
    (hdependency : session.lineageDependency name = some dependency) :
    Resolves session.sources session.derivedTables session.nextTableId dependency := by
  unfold lineageDependency at hdependency
  split at hdependency
  · next derived hfound =>
    have hmem : derived ∈ session.derivedTables := List.mem_of_find?_eq_some hfound
    rw [← Option.some.inj hdependency]
    refine ⟨h.ids_lt _ ?_, derived, hmem, rfl, rfl⟩
    simp only [tableIds, List.mem_append, List.mem_map]
    exact .inl (.inr ⟨derived, hmem, rfl⟩)
  · obtain ⟨source, hfound, rfl⟩ := Option.map_eq_some_iff.1 hdependency
    have hmem : source ∈ session.sources := List.mem_of_find?_eq_some hfound
    refine ⟨h.ids_lt _ ?_, source, hmem, rfl, rfl⟩
    simp only [tableIds, List.mem_append, List.mem_map]
    exact .inl (.inl ⟨source, hmem, rfl⟩)

theorem mem_classifyLineageReference {session : Session Provider Schema}
    {localReferences : List String} {found : List DerivedTableDependency × List String}
    {relation : TableReference} {dependency : DerivedTableDependency}
    (h : dependency ∈ (session.classifyLineageReference localReferences found relation).1) :
    dependency ∈ found.1 ∨ ∃ name, session.lineageDependency name = some dependency := by
  unfold classifyLineageReference at h
  split at h
  · exact .inl h
  · next name _ =>
    split_ifs at h with hlocal
    · exact .inl h
    · split at h
      · next added hadded =>
        rcases (BTreeSet.mem_insert DerivedTableDependency.eq_of_cmp_eq).1 h with rfl | hold
        · exact .inr ⟨name, hadded⟩
        · exact .inl hold
      · exact .inl h

theorem mem_deriveTableLineageFromSql {session : Session Provider Schema}
    {references : Except DeltaFunnelError (List TableReference × List TableReference)}
    {dependency : DerivedTableDependency}
    (h : dependency ∈ (session.deriveTableLineageFromSql references).directDependencies) :
    ∃ name, session.lineageDependency name = some dependency := by
  rcases references with error | ⟨relations, ctes⟩
  · cases h
  · have hfold : ∀ found, dependency ∈ (relations.foldl
        (session.classifyLineageReference (sortedReferenceStrings ctes)) found).1 →
        dependency ∈ found.1 ∨ ∃ name, session.lineageDependency name = some dependency := by
      clear h
      induction relations with
      | nil => exact fun found hmem => .inl hmem
      | cons relation relations ih =>
        intro found hmem
        rcases ih _ hmem with hmem | hname
        · exact mem_classifyLineageReference hmem
        · exact .inr hname
    rcases hfold ([], []) h with hnil | hname
    · cases hnil
    · exact hname

section Step
variable {session session' : Session Provider Schema}
  {result : Except DeltaFunnelError LazyTable}

theorem CallEffect.tableIds_perm (heffect : CallEffect session result session') :
    session'.tableIds.Perm session.tableIds ∧ session'.nextTableId = session.nextTableId ∨
      session'.tableIds.Perm (session.nextTableId :: session.tableIds) ∧
        session'.nextTableId = saturatingAdd session.nextTableId 1 := by
  cases heffect with
  | failed error pending hperm =>
    exact .inl ⟨(hperm.map fun entry => entry.table.id).append_left _, rfl⟩
  | source name schema catalog hvalid hfresh =>
    refine .inr ⟨?_, rfl⟩
    simp only [tableIds, List.map_append, List.map_cons, List.map_nil, List.append_assoc]
    exact List.perm_middle
  | derived sqlText schema provider references hsql =>
    refine .inr ⟨?_, rfl⟩
    simp only [tableIds, List.map_append, List.map_cons, List.map_nil, ← List.append_assoc]
    exact List.perm_append_singleton _ _
  | registered name before pending after catalog hvalid hfresh hpending =>
    refine .inl ⟨?_, rfl⟩
    simp only [tableIds, hpending, List.map_append, List.map_cons, List.map_nil,
      List.append_assoc]
    refine (List.Perm.append_left _ ?_).append_left _
    show (pending.table.id :: (before.map _ ++ after.map _)).Perm _
    exact List.perm_middle.symm

theorem tableCount_eq_length (session : Session Provider Schema) :
    session.tableCount = session.tableIds.length := by
  simp [tableCount, tableIds, Nat.add_assoc]

theorem CallEffect.tableCount_le (heffect : CallEffect session result session') :
    session.tableCount ≤ session'.tableCount := by
  rw [tableCount_eq_length, tableCount_eq_length]
  rcases heffect.tableIds_perm with ⟨hperm, -⟩ | ⟨hperm, -⟩
  · rw [hperm.length_eq]
  · rw [hperm.length_eq, List.length_cons]
    omega

theorem Consistent.ids_step (h : session.Consistent)
    (heffect : CallEffect session result session') (hbound : session'.tableCount < u64Max) :
    session'.nextTableId = session'.tableCount ∧ session'.tableIds.Nodup ∧
      ∀ id ∈ session'.tableIds, id < session'.nextTableId := by
  rw [tableCount_eq_length] at hbound ⊢
  have hallocated := h.allocated
  rw [tableCount_eq_length] at hallocated
  rcases heffect.tableIds_perm with ⟨hperm, hnext⟩ | ⟨hperm, hnext⟩
  · rw [hnext, hperm.length_eq]
    refine ⟨hallocated, hperm.nodup_iff.2 h.ids_nodup, fun id hid => ?_⟩
    exact h.ids_lt id (hperm.mem_iff.1 hid)
  · have hlength := hperm.length_eq
    rw [List.length_cons] at hlength
    have hsucc : session'.nextTableId = session.nextTableId + 1 := by
      rw [hnext]
      exact saturatingAdd_eq_of_le (by omega)
    refine ⟨by omega, ?_, fun id hid => ?_⟩
    · rw [hperm.nodup_iff, List.nodup_cons]
      exact ⟨fun hmem => absurd (h.ids_lt _ hmem) (lt_irrefl _), h.ids_nodup⟩
    · rcases List.mem_cons.1 (hperm.mem_iff.1 hid) with rfl | hold
      · omega
      · have hlt := h.ids_lt id hold
        omega

theorem CallEffect.aliasNames_perm (heffect : CallEffect session result session') :
    session'.aliasNames = session.aliasNames ∨
      ∃ name, validateSourceName name = .ok () ∧
        session.rejectRegisteredAliasName name = .ok () ∧
        session'.aliasNames.Perm (name :: session.aliasNames) := by
  cases heffect with
  | failed error pending hperm => exact .inl rfl
  | source name schema catalog hvalid hfresh =>
    refine .inr ⟨name, hvalid, hfresh, ?_⟩
    simp only [aliasNames, List.map_append, List.map_cons, List.map_nil, List.append_assoc]
    exact List.perm_middle
  | derived sqlText schema provider references hsql => exact .inl rfl
  | registered name before pending after catalog hvalid hfresh hpending =>
    refine .inr ⟨name, hvalid, hfresh, ?_⟩
    simp only [aliasNames, List.map_append, List.map_cons, List.map_nil, ← List.append_assoc]
    exact List.perm_append_singleton _ _

theorem Consistent.names_step (h : session.Consistent)
    (heffect : CallEffect session result session') :
    (session'.aliasNames.map toAsciiLowercase).Nodup ∧
      ∀ name ∈ session'.aliasNames, validateSourceName name = .ok () := by
  rcases heffect.aliasNames_perm with hsame | ⟨name, hvalid, hfresh, hperm⟩
  · rw [hsame]
    exact ⟨h.names_nodup, h.names_valid⟩
  · constructor
    · rw [(hperm.map toAsciiLowercase).nodup_iff, List.map_cons, List.nodup_cons]
      exact ⟨lowercase_not_mem_of_fresh hfresh, h.names_nodup⟩
    · intro other hother
      rcases List.mem_cons.1 (hperm.mem_iff.1 hother) with rfl | hold
      · exact hvalid
      · exact h.names_valid other hold

theorem CallEffect.registries_grow (heffect : CallEffect session result session') :
    session.sources ⊆ session'.sources ∧ session.derivedTables ⊆ session'.derivedTables := by
  cases heffect with
  | failed error pending hperm => exact ⟨List.Subset.refl _, List.Subset.refl _⟩
  | source name schema catalog hvalid hfresh =>
    exact ⟨List.subset_append_left _ _, List.Subset.refl _⟩
  | derived sqlText schema provider references hsql =>
    exact ⟨List.Subset.refl _, List.Subset.refl _⟩
  | registered name before pending after catalog hvalid hfresh hpending =>
    exact ⟨List.Subset.refl _, List.subset_append_left _ _⟩

theorem CallEffect.mem_pending (heffect : CallEffect session result session')
    {pending : PendingDerivedTable Provider Schema}
    (hpending : pending ∈ session'.pendingDerivedTables) :
    pending ∈ session.pendingDerivedTables ∨
      pending.table = .derivedSql session.nextTableId ∧ trimText pending.sqlText ≠ "" ∧
        ∃ references, pending.lineage = session.deriveTableLineageFromSql references := by
  cases heffect with
  | failed error entries hperm => exact .inl (hperm.mem_iff.1 hpending)
  | source name schema catalog hvalid hfresh => exact .inl hpending
  | derived sqlText schema provider references hsql =>
    rcases List.mem_append.1 hpending with hold | hnew
    · exact .inl hold
    · rw [List.mem_singleton.1 hnew]
      exact .inr ⟨rfl, hsql, references, rfl⟩
  | registered name before entry after catalog hvalid hfresh hsplit =>
    rw [hsplit]
    simp only [List.mem_append, List.mem_cons] at hpending ⊢
    tauto

theorem CallEffect.derivedTables_cases (heffect : CallEffect session result session') :
    session'.derivedTables = session.derivedTables ∨
      ∃ name, ∃ pending ∈ session.pendingDerivedTables,
        session'.derivedTables = session.derivedTables ++
          [⟨pending.table.withName name, pending.schema, pending.sqlText, pending.lineage⟩] := by
  cases heffect with
  | failed error pending hperm => exact .inl rfl
  | source name schema catalog hvalid hfresh => exact .inl rfl
  | derived sqlText schema provider references hsql => exact .inl rfl
  | registered name before pending after catalog hvalid hfresh hpending =>
    exact .inr ⟨name, pending, by simp [hpending], rfl⟩

theorem Consistent.pending_step (h : session.Consistent)
    (heffect : CallEffect session result session') :
    ∀ pending ∈ session'.pendingDerivedTables,
      LineageResolves session'.sources session'.derivedTables pending.table.id
        pending.lineage := by
  intro pending hpending dependency hdependency
  obtain ⟨hsources, hderived⟩ := heffect.registries_grow
  refine Resolves.mono ?_ hsources hderived
  rcases heffect.mem_pending hpending with hold | ⟨htable, -, references, hlineage⟩
  · exact h.pending_resolves pending hold dependency hdependency
  · rw [hlineage] at hdependency
    obtain ⟨name, hname⟩ := mem_deriveTableLineageFromSql hdependency
    rw [htable]
    exact h.lineageDependency_resolves hname

theorem Consistent.ordered_step (h : session.Consistent)
    (heffect : CallEffect session result session') :
    ∀ before derived after, session'.derivedTables = before ++ derived :: after →
      LineageResolves session'.sources before derived.table.id derived.lineage := by
  intro before derived after hsplit dependency hdependency
  have hsources := heffect.registries_grow.1
  rcases heffect.derivedTables_cases with hsame | ⟨name, pending, hpending, hnew⟩
  · rw [hsame] at hsplit
    exact (h.ordered before derived after hsplit dependency hdependency).mono hsources
      (List.Subset.refl _)
  · -- The table at the split is the appended one, or one that was there before.
    rw [hnew] at hsplit
    rcases List.eq_nil_or_concat after with rfl | ⟨after', last, rfl⟩
    · obtain ⟨rfl, heq⟩ := List.append_inj' hsplit rfl
      cases heq
      exact (h.pending_resolves pending hpending dependency hdependency).mono hsources
        (List.Subset.refl _)
    · rw [List.concat_eq_append, ← List.cons_append, ← List.append_assoc] at hsplit
      obtain ⟨hold, -⟩ := List.append_inj' hsplit rfl
      exact (h.ordered before derived after' hold dependency hdependency).mono hsources
        (List.Subset.refl _)

theorem Consistent.sql_step (h : session.Consistent)
    (heffect : CallEffect session result session') :
    (∀ derived ∈ session'.derivedTables,
      derived.table.kind = .derivedSql ∧ trimText derived.sqlText ≠ "") ∧
    ∀ pending ∈ session'.pendingDerivedTables,
      pending.table.kind = .derivedSql ∧ trimText pending.sqlText ≠ "" := by
  constructor
  · intro derived hderived
    rcases heffect.derivedTables_cases with hsame | ⟨name, pending, hpending, hnew⟩
    · rw [hsame] at hderived
      exact h.derived_sql derived hderived
    · rw [hnew] at hderived
      rcases List.mem_append.1 hderived with hold | hlast
      · exact h.derived_sql derived hold
      · rw [List.mem_singleton.1 hlast]
        exact h.pending_sql pending hpending
  · intro pending hpending
    rcases heffect.mem_pending hpending with hold | ⟨htable, hsql, -⟩
    · exact h.pending_sql pending hold
    · rw [htable]
      exact ⟨rfl, hsql⟩

theorem Consistent.step (h : session.Consistent) (heffect : CallEffect session result session')
    (hbound : session'.tableCount < u64Max) : session'.Consistent where
  allocated := (h.ids_step heffect hbound).1
  ids_nodup := (h.ids_step heffect hbound).2.1
  ids_lt := (h.ids_step heffect hbound).2.2
  names_nodup := (h.names_step heffect).1
  names_valid := (h.names_step heffect).2
  ordered := h.ordered_step heffect
  pending_resolves := h.pending_step heffect
  derived_sql := (h.sql_step heffect).1
  pending_sql := (h.sql_step heffect).2

end Step

theorem run_snoc (session : Session Provider Schema) (calls : List (SessionCall Provider Schema))
    (call : SessionCall Provider Schema) :
    session.run (calls ++ [call]) = ((session.run calls).call call).2 := by
  rw [run, List.foldl_append]
  rfl

theorem run_consistent (calls : List (SessionCall Provider Schema))
    (hbound : (fresh.run calls).tableCount < u64Max) : (fresh.run calls).Consistent := by
  induction calls using List.reverseRecOn with
  | nil => exact fresh_consistent
  | append_singleton calls call ih =>
    rw [run_snoc] at hbound ⊢
    have heffect := call_effect (fresh.run calls) call
    have hle := heffect.tableCount_le
    exact (ih (by omega)).step heffect hbound

/-- Table `a` carries a lineage with a dependency on table `b`. -/
def DependsOn (session : Session Provider Schema) (a b : ℕ) : Prop :=
  (∃ derived ∈ session.derivedTables, derived.table.id = a ∧
    ∃ dependency ∈ derived.lineage.directDependencies, dependency.tableId = b) ∨
  ∃ pending ∈ session.pendingDerivedTables, pending.table.id = a ∧
    ∃ dependency ∈ pending.lineage.directDependencies, dependency.tableId = b

theorem Resolves.lt {sources : List (RegisteredSessionSource Schema)}
    {derivedTables : List (RegisteredDerivedTable Schema)} {id : ℕ}
    {dependency : DerivedTableDependency} (h : Resolves sources derivedTables id dependency) :
    dependency.tableId < id := by
  cases dependency with
  | registeredSource tableId name => exact h.1
  | registeredDerived tableId name => exact h.1

theorem Consistent.derived_resolves {session : Session Provider Schema} (h : session.Consistent)
    {derived : RegisteredDerivedTable Schema} (hmem : derived ∈ session.derivedTables) :
    LineageResolves session.sources session.derivedTables derived.table.id derived.lineage := by
  intro dependency hdependency
  obtain ⟨before, after, hsplit⟩ := List.append_of_mem hmem
  refine (h.ordered before derived after hsplit dependency hdependency).mono
    (List.Subset.refl _) ?_
  rw [hsplit]
  exact List.subset_append_left _ _

theorem Consistent.dependsOn_lt {session : Session Provider Schema} (h : session.Consistent)
    {a b : ℕ} (hdepends : session.DependsOn a b) : b < a := by
  rcases hdepends with ⟨derived, hmem, rfl, dependency, hdependency, rfl⟩ |
    ⟨pending, hmem, rfl, dependency, hdependency, rfl⟩
  · exact (h.derived_resolves hmem dependency hdependency).lt
  · exact (h.pending_resolves pending hmem dependency hdependency).lt

theorem Consistent.acyclic {session : Session Provider Schema} (h : session.Consistent) (a : ℕ) :
    ¬Relation.TransGen session.DependsOn a a := by
  have hlt : ∀ b c, Relation.TransGen session.DependsOn b c → c < b := by
    intro b c hpath
    induction hpath with
    | single hstep => exact h.dependsOn_lt hstep
    | tail _ hstep ih => exact (h.dependsOn_lt hstep).trans ih
  intro hcycle
  exact lt_irrefl a (hlt a a hcycle)

theorem failed_call_unchanged (session : Session Provider Schema)
    (call : SessionCall Provider Schema) {error : DeltaFunnelError}
    (herror : (session.call call).1 = .error error) :
    (session.call call).2.sources = session.sources ∧
    (session.call call).2.derivedTables = session.derivedTables ∧
    (session.call call).2.nextTableId = session.nextTableId ∧
    (session.call call).2.catalog = session.catalog ∧
    (session.call call).2.pendingDerivedTables.Perm session.pendingDerivedTables := by
  have heffect := call_effect session call
  rw [herror] at heffect
  generalize (session.call call).2 = session' at heffect ⊢
  cases heffect with
  | failed _ pending hperm => exact ⟨rfl, rfl, rfl, rfl, hperm⟩

/-- **Registry invariant.** After any calls on a fresh session, with fewer than `u64::MAX`
tables allocated, ids and names are unique, lineage resolves to earlier tables in registration
order, and a further call that fails leaves the registries as they are. -/
theorem registries_stay_consistent (calls : List (SessionCall Provider Schema))
    (hbound : (fresh.run calls).tableCount < u64Max) :
    ((fresh.run calls).tableIds.Nodup ∧
      ∀ id ∈ (fresh.run calls).tableIds, id < (fresh.run calls).nextTableId) ∧
    (((fresh.run calls).aliasNames.map toAsciiLowercase).Nodup ∧
      ∀ name ∈ (fresh.run calls).aliasNames, validateSourceName name = .ok ()) ∧
    ((∀ pending ∈ (fresh.run calls).pendingDerivedTables,
        LineageResolves (fresh.run calls).sources (fresh.run calls).derivedTables
          pending.table.id pending.lineage) ∧
      (∀ before derived after, (fresh.run calls).derivedTables = before ++ derived :: after →
        LineageResolves (fresh.run calls).sources before derived.table.id derived.lineage) ∧
      ∀ id, ¬Relation.TransGen (fresh.run calls).DependsOn id id) ∧
    ∀ call error, ((fresh.run calls).call call).1 = .error error →
      ((fresh.run calls).call call).2.sources = (fresh.run calls).sources ∧
      ((fresh.run calls).call call).2.derivedTables = (fresh.run calls).derivedTables ∧
      ((fresh.run calls).call call).2.nextTableId = (fresh.run calls).nextTableId ∧
      ((fresh.run calls).call call).2.catalog = (fresh.run calls).catalog ∧
      ((fresh.run calls).call call).2.pendingDerivedTables.Perm
        (fresh.run calls).pendingDerivedTables := by
  have h := run_consistent calls hbound
  exact ⟨⟨h.ids_nodup, h.ids_lt⟩, ⟨h.names_nodup, h.names_valid⟩,
    ⟨h.pending_resolves, h.ordered, h.acyclic⟩, fun call _ => failed_call_unchanged _ call⟩

end Session

def sampleSource (name : String) : SessionCall String Unit :=
  .deltaLake ⟨name, "s3://lake/" ++ name⟩ ⟨.ok (), .ok (), .ok ⟨"s3://lake/" ++ name, ()⟩, .ok name⟩

def sampleQuery (reads : List String) : SessionCall String Unit :=
  .tableFromSql "SELECT * FROM input" ⟨.ok ((), "view"), .ok (reads.map .bare, [])⟩

/-- Registers the pending table `id` under a name. -/
def sampleAlias (id : ℕ) (name : String) : SessionCall String Unit :=
  .registerAlias name (.derivedSql id) none

/-- Two queries over one source; the second alias is registered first, a third call fails. -/
def ordersCalls : List (SessionCall String Unit) :=
  [sampleSource "orders", sampleQuery ["orders"], sampleQuery ["ORDERS"], sampleAlias 2 "late",
    sampleQuery ["late", "orders"], sampleAlias 1 "Late"]

theorem orders_session_is_consistent :
    (Session.fresh.run ordersCalls).tableIds.Nodup ∧
      (Session.fresh.run ordersCalls).tableIds = [0, 2, 1, 3] :=
  ⟨(Session.registries_stay_consistent ordersCalls (by decide)).1.1, by decide⟩

end DeltaFunnel
