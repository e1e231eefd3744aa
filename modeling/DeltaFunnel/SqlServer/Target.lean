import DeltaFunnel.Report

/-! SQL Server targets, and the values that cross the `arrow_sql_server` boundary. -/

namespace DeltaFunnel

inductive LoadMode where
  | appendExisting
  | createAndLoad
  | replace
  deriving DecidableEq, Repr, Inhabited

inductive MssqlConnectionSource where
  | targetOverride
  | contextDefault
  deriving DecidableEq, Repr

structure MssqlConnectionSummary where
  displayLabel : Option String
  deriving DecidableEq, Repr

structure MssqlTargetTable where
  schema : Option String
  table : String
  deriving DecidableEq, Repr

structure MssqlTargetSummary where
  outputName : String
  table : MssqlTargetTable
  loadMode : LoadMode
  connectionSource : MssqlConnectionSource
  connection : MssqlConnectionSummary
  deriving DecidableEq, Repr

/-- A connection string that is not blank, with a label that is no secret. -/
structure MssqlConnectionConfig where
  connectionString : String
  displayLabel : Option String
  not_blank : trimText connectionString ≠ ""
  deriving DecidableEq, Repr

def MssqlConnectionConfig.summary (connection : MssqlConnectionConfig) : MssqlConnectionSummary :=
  ⟨connection.displayLabel⟩

structure MssqlTargetConfig where
  table : MssqlTargetTable
  loadMode : LoadMode
  connection : Option MssqlConnectionConfig
  deriving DecidableEq, Repr

structure ResolvedMssqlTarget where
  outputName : String
  table : MssqlTargetTable
  loadMode : LoadMode
  connection : MssqlConnectionConfig
  connectionSource : MssqlConnectionSource
  deriving DecidableEq, Repr

def ResolvedMssqlTarget.summary (target : ResolvedMssqlTarget) : MssqlTargetSummary :=
  ⟨target.outputName, target.table, target.loadMode, target.connectionSource,
    target.connection.summary⟩

structure MssqlWriteDiagnosticField where
  index : ℕ
  name : String
  deriving DecidableEq, Repr

structure MssqlWriteDiagnostic where
  severity : String
  code : String
  message : String
  field : Option MssqlWriteDiagnosticField
  row : Option ℕ
  deriving DecidableEq, Repr

/-- Error classes of the driver that this crate distinguishes. -/
inductive ArrowErrorClass where
  | sqlExecution (code : Option ℕ)
  | targetRowCountQuery
  | targetRowCountUnexpectedResult
  | valueConversion
  | other
  deriving DecidableEq, Repr

/-- A driver error: its display text, its `safe_error_info`, and its diagnostics. -/
structure ArrowError where
  errorClass : ArrowErrorClass
  display : String
  safePhase : Option String
  safeSummary : String
  safeKind : String
  diagnostics : List MssqlWriteDiagnostic
  deriving DecidableEq, Repr

structure SchemaMapping where
  index : ℕ
  name : String
  arrowType : String
  nullable : Bool
  mssqlType : String
  deriving DecidableEq, Repr

/-- What the write loop reads of an Arrow batch. Both functions belong to the driver. -/
class RecordBatch (Batch : Type) where
  numRows : Batch → ℕ
  validateSchemaAgainstMappings : Batch → List SchemaMapping → Except ArrowError Unit

class ArrowSqlServer where
  validateIdentifier : String → Except ArrowError Unit

structure TableName where
  schema : Option String
  table : String
  deriving DecidableEq, Repr

namespace TableName

def unqualified [ArrowSqlServer] (table : String) : Except ArrowError TableName := do
  ArrowSqlServer.validateIdentifier table
  return ⟨none, table⟩

def new [ArrowSqlServer] (schema table : String) : Except ArrowError TableName := do
  ArrowSqlServer.validateIdentifier schema
  ArrowSqlServer.validateIdentifier table
  return ⟨some schema, table⟩

/-- The constructor for an optional schema, as target tables carry it. -/
def ofParts [ArrowSqlServer] (schema : Option String) (table : String) :
    Except ArrowError TableName :=
  match schema with
  | some schema => new schema table
  | none => unqualified table

theorem ofParts_eq_ok [ArrowSqlServer] {schema : Option String} {table : String}
    {name : TableName} (h : ofParts schema table = .ok name) : name = ⟨schema, table⟩ := by
  cases schema with
  | none =>
    obtain ⟨_, -, hname⟩ := except_bind_eq_ok.1 h
    exact (Except.ok.inj hname).symm
  | some schema =>
    obtain ⟨_, -, hrest⟩ := except_bind_eq_ok.1 h
    obtain ⟨_, -, hname⟩ := except_bind_eq_ok.1 hrest
    exact (Except.ok.inj hname).symm

def quoteIdentifier (text : String) : String :=
  "[" ++ String.ofList (text.toList.flatMap fun c => if c = ']' then [']', ']'] else [c]) ++ "]"

/-- `TableName::quoted_sql` of the driver: each part in brackets, with `]` doubled. -/
def quotedSql (name : TableName) : String :=
  match name.schema with
  | some schema => quoteIdentifier schema ++ "." ++ quoteIdentifier name.table
  | none => quoteIdentifier name.table

end TableName

example : TableName.quotedSql ⟨some "select", "order]items"⟩ = "[select].[order]]items]" := by
  decide

end DeltaFunnel
