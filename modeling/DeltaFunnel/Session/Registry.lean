import DeltaFunnel.Collections.BTreeSet
import DeltaFunnel.Session.Catalog

/-! The session: its registries of Delta sources and SQL-derived tables, and the calls that
extend them. What a call learns from outside the session comes with the call. -/

namespace DeltaFunnel
open Collections

inductive LazyTableKind where
  | deltaSource
  | derivedSql
  deriving DecidableEq, Repr

structure LazyTable where
  id : ℕ
  kind : LazyTableKind
  name : String
  deriving DecidableEq, Repr

namespace LazyTable

def deltaSource (id : ℕ) (name : String) : LazyTable := ⟨id, .deltaSource, name⟩

def derivedSql (id : ℕ) : LazyTable := ⟨id, .derivedSql, "table_" ++ toString id⟩

def withName (table : LazyTable) (name : String) : LazyTable := { table with name }

end LazyTable

inductive DerivedTableDependency where
  | registeredSource (tableId : ℕ) (name : String)
  | registeredDerived (tableId : ℕ) (name : String)
  deriving DecidableEq, Repr

namespace DerivedTableDependency

def tableId : DerivedTableDependency → ℕ
  | .registeredSource tableId _ => tableId
  | .registeredDerived tableId _ => tableId

/-- The derived order: sources before derived tables, then by id, then by name. -/
def cmp : DerivedTableDependency → DerivedTableDependency → Ordering
  | .registeredSource a m, .registeredSource b n => (compare a b).then (compare m n)
  | .registeredSource _ _, .registeredDerived _ _ => .lt
  | .registeredDerived _ _, .registeredSource _ _ => .gt
  | .registeredDerived a m, .registeredDerived b n => (compare a b).then (compare m n)

theorem eq_of_cmp_eq (a b : DerivedTableDependency) (h : cmp a b = .eq) : a = b := by
  cases a <;> cases b <;> simp_all [cmp, Ordering.then_eq_eq]

end DerivedTableDependency

/-- Lineage whose extraction failed has no dependencies. -/
structure DerivedTableLineage where
  directDependencies : List DerivedTableDependency
  localReferences : List String
  unknownReferences : List String
  incompleteReason : Option String
  incomplete_empty : incompleteReason.isSome → directDependencies = []
  deriving DecidableEq

namespace DerivedTableLineage

def complete (directDependencies : List DerivedTableDependency)
    (localReferences unknownReferences : List String) : DerivedTableLineage :=
  ⟨directDependencies, localReferences, unknownReferences, none, nofun⟩

def incomplete (message : String) : DerivedTableLineage :=
  ⟨[], [], [], some message, fun _ => rfl⟩

def isComplete (lineage : DerivedTableLineage) : Bool := lineage.incompleteReason.isNone

end DerivedTableLineage

inductive TableReference where
  | bare (table : String)
  | partialReference (schema table : String)
  | full (catalog schema table : String)
  deriving DecidableEq, Repr

def TableReference.display : TableReference → String
  | .bare table => table
  | .partialReference schema table => schema ++ "." ++ table
  | .full catalog schema table => catalog ++ "." ++ schema ++ "." ++ table

/-- Qualified names are never taken for a session alias. -/
def bareTableReferenceName : TableReference → Option String
  | .bare table => some table
  | .partialReference _ _ => none
  | .full _ _ _ => none

def sortedReferenceStrings (references : List TableReference) : List String :=
  BTreeSet.ofList compare (references.map TableReference.display)

structure RegisteredSessionSource (Schema : Type) where
  table : LazyTable
  schema : Schema
  deriving DecidableEq

structure RegisteredDerivedTable (Schema : Type) where
  table : LazyTable
  schema : Schema
  sqlText : String
  lineage : DerivedTableLineage
  deriving DecidableEq

structure PendingDerivedTable (Provider Schema : Type) where
  table : LazyTable
  provider : Provider
  schema : Schema
  sqlText : String
  lineage : DerivedTableLineage
  deriving DecidableEq

structure Session (Provider Schema : Type) where
  catalog : Catalog Provider
  nextTableId : ℕ
  sources : List (RegisteredSessionSource Schema)
  derivedTables : List (RegisteredDerivedTable Schema)
  pendingDerivedTables : List (PendingDerivedTable Provider Schema)

variable {Provider Schema : Type}

def RegisteredSessionSource.name (source : RegisteredSessionSource Schema) : String :=
  source.table.name

def RegisteredDerivedTable.name (derived : RegisteredDerivedTable Schema) : String :=
  derived.table.name

def unknownLazyTableError (table : LazyTable) : DeltaFunnelError :=
  .mssqlWorkflowPlanning
    ("lazy table `" ++ sanitizeTextForDisplay table.name ++ "` is not registered in this session")

namespace Session

def fresh : Session Provider Schema := ⟨[], 0, [], [], []⟩

variable (session : Session Provider Schema)

def registeredSource (name : String) : Option (RegisteredSessionSource Schema) :=
  session.sources.find? fun source => eqIgnoreAsciiCase source.name name

def registeredDerivedTable (name : String) : Option (RegisteredDerivedTable Schema) :=
  session.derivedTables.find? fun derived => eqIgnoreAsciiCase derived.name name

def registeredDerivedTableById (tableId : ℕ) : Option (RegisteredDerivedTable Schema) :=
  session.derivedTables.find? fun derived => derived.table.id = tableId

def pendingDerivedTableById (tableId : ℕ) : Option (PendingDerivedTable Provider Schema) :=
  session.pendingDerivedTables.find? fun pending => pending.table.id = tableId

def rejectRegisteredAliasName (name : String) : Except DeltaFunnelError Unit :=
  if (session.registeredSource name).isSome ∨ (session.registeredDerivedTable name).isSome then
    .error (.duplicateSourceName name)
  else .ok ()

def allocateDeltaSourceTable (name : String) : LazyTable × Session Provider Schema :=
  (.deltaSource session.nextTableId name,
    { session with nextTableId := saturatingAdd session.nextTableId 1 })

def allocateDerivedSqlTable : LazyTable × Session Provider Schema :=
  (.derivedSql session.nextTableId,
    { session with nextTableId := saturatingAdd session.nextTableId 1 })

structure DeltaSourceConfig where
  name : String
  tableUri : String
  deriving DecidableEq, Repr

structure DeltaTable (Schema : Type) where
  tableUrl : String
  schema : Schema

/-- What one `delta_lake` call meets outside: the snapshot load, the protocol preflight, the
conversion into a table, and the provider or the reason of a failed registration. -/
structure SourceOutcome (Provider Schema : Type) where
  snapshot : Except DeltaFunnelError Unit
  protocol : Except DeltaFunnelError Unit
  table : Except DeltaFunnelError (DeltaTable Schema)
  provider : Except String Provider

def validateDeltaSourceRegistration (source : DeltaSourceConfig) :
    Except DeltaFunnelError Unit := do
  validateTableSourceNames [source.name]
  session.rejectRegisteredAliasName source.name
  rejectExistingDeltaRegistrationName session.catalog source.name source.tableUri

/-- Checks the name against the catalog again, and registers the table. -/
def registerDeltaSourceWithScanOptions (sourceName : String) (table : DeltaTable Schema)
    (provider : Except String Provider) : Except DeltaFunnelError (Catalog Provider) := do
  validateTableSourceNames [sourceName]
  rejectExistingDeltaRegistrationName session.catalog sourceName table.tableUrl
  match provider >>= session.catalog.registerTable sourceName with
  | .ok catalog => .ok catalog
  | .error reason =>
    .error (.dataFusionRegistration sourceName (sanitizeUriForDisplay table.tableUrl) reason)

def prepareDeltaSource (source : DeltaSourceConfig) (outcome : SourceOutcome Provider Schema) :
    Except DeltaFunnelError (DeltaTable Schema × Catalog Provider) := do
  session.validateDeltaSourceRegistration source
  outcome.snapshot
  outcome.protocol
  let table ← outcome.table
  let catalog ← session.registerDeltaSourceWithScanOptions source.name table outcome.provider
  return (table, catalog)

def deltaLake (source : DeltaSourceConfig) (outcome : SourceOutcome Provider Schema) :
    Except DeltaFunnelError LazyTable × Session Provider Schema :=
  match session.prepareDeltaSource source outcome with
  | .error error => (.error error, session)
  | .ok (deltaTable, catalog) =>
    let (table, allocated) := session.allocateDeltaSourceTable source.name
    (.ok table, { allocated with
      catalog
      sources := session.sources ++ [⟨table, deltaTable.schema⟩] })

/-- What one `table_from_sql` call meets outside: the planned view or the planner's error, and
the table references of the parsed statement or the parser's error. -/
structure SqlOutcome (Provider Schema : Type) where
  plan : Except String (Schema × Provider)
  references : Except DeltaFunnelError (List TableReference × List TableReference)

def classifySqlErrorPhase (error : String) : SqlTablePhase :=
  if containsText "DDL not supported" error || containsText "DML not supported" error ||
      containsText "Statement not supported" error ||
      containsText "only supports a single SQL statement" error then .validateSql
  else .planSql

/-- The dependency a bare name stands for; derived tables are looked up first. -/
def lineageDependency (name : String) : Option DerivedTableDependency :=
  match session.registeredDerivedTable name with
  | some derived => some (.registeredDerived derived.table.id derived.name)
  | none => (session.registeredSource name).map fun source =>
      .registeredSource source.table.id source.name

/-- Adds one relation to the dependencies or to the unknown references found so far. -/
def classifyLineageReference (localReferences : List String)
    (found : List DerivedTableDependency × List String) (relation : TableReference) :
    List DerivedTableDependency × List String :=
  match bareTableReferenceName relation with
  | none => (found.1, BTreeSet.insert compare relation.display found.2)
  | some name =>
    if name ∈ localReferences then found
    else
      match session.lineageDependency name with
      | some dependency => (BTreeSet.insert DerivedTableDependency.cmp dependency found.1, found.2)
      | none => (found.1, BTreeSet.insert compare relation.display found.2)

def classifyLineageReferences (relations ctes : List TableReference) : DerivedTableLineage :=
  let localReferences := sortedReferenceStrings ctes
  let found := relations.foldl (session.classifyLineageReference localReferences) ([], [])
  .complete found.1 localReferences found.2

/-- A failed extraction leaves an incomplete lineage and does not fail the call. -/
def deriveTableLineageFromSql
    (references : Except DeltaFunnelError (List TableReference × List TableReference)) :
    DerivedTableLineage :=
  match references with
  | .ok (relations, ctes) => session.classifyLineageReferences relations ctes
  | .error error => .incomplete error.display

def tableFromSql (sql : String) (outcome : SqlOutcome Provider Schema) :
    Except DeltaFunnelError LazyTable × Session Provider Schema :=
  let sqlText := trimText sql
  if sqlText.isEmpty then (.error (.sqlTable .validateSql "SQL text must not be empty"), session)
  else
    match outcome.plan with
    | .error message => (.error (.sqlTable (classifySqlErrorPhase message) message), session)
    | .ok (schema, provider) =>
      let lineage := session.deriveTableLineageFromSql outcome.references
      let (table, allocated) := session.allocateDerivedSqlTable
      (.ok table, { allocated with
        pendingDerivedTables := session.pendingDerivedTables ++
          [⟨table, provider, schema, sqlText, lineage⟩] })

def findPendingDerivedTable (table : LazyTable) : Option ℕ :=
  if table.kind ≠ .derivedSql then none
  else session.pendingDerivedTables.findIdx? fun pending => pending.table.id = table.id

/-- `refused` is the query engine's own reason to refuse the name, if it has one. -/
def registerAlias (name : String) (table : LazyTable) (refused : Option String) :
    Except DeltaFunnelError LazyTable × Session Provider Schema :=
  match validateTableSourceNames [name] >>= fun _ => session.rejectRegisteredAliasName name with
  | .error error => (.error error, session)
  | .ok () =>
    match (session.findPendingDerivedTable table).bind fun index =>
        (session.pendingDerivedTables[index]?).map fun pending => (index, pending) with
    | none =>
      (.error (.sqlTable .registerDerivedAlias
        "lazy table is not a pending SQL-derived table owned by this session"), session)
    | some (index, pending) =>
      let remaining := session.pendingDerivedTables.eraseIdx index
      let registered : Except String (Catalog Provider) := match refused with
        | some message => .error message
        | none => session.catalog.registerTable name pending.provider
      match registered with
      | .error message =>
        -- The pending table goes back to the end of the list.
        (.error (.sqlTable .registerDerivedAlias message),
          { session with pendingDerivedTables := remaining ++ [pending] })
      | .ok catalog =>
        let aliasTable := pending.table.withName name
        (.ok aliasTable, { session with
          catalog
          derivedTables := session.derivedTables ++
            [⟨aliasTable, pending.schema, pending.sqlText, pending.lineage⟩]
          pendingDerivedTables := remaining })

end Session
end DeltaFunnel
