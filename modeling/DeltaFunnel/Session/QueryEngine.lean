import DeltaFunnel.Interaction.Program
import DeltaFunnel.Session.Dependencies

/-! The session's query engine as an environment: reads and changes of its catalog, planning
against it, and the execution of plans. -/

namespace DeltaFunnel
open Interaction

/-- What the session uses of the query engine, apart from its catalog. -/
structure QueryEngine (Provider Schema DataFrame : Type) where
  /-- The catalog keys that planning a statement looks up, or the parser's error. A quoted
  reference is its own key, one into another schema is never a key of the session's catalog. -/
  references : String → Except String (List String)
  /-- Plans a statement over the tables its references resolved to. -/
  planSql : String → List (String × Option Provider) → Except String DataFrame
  /-- A scan of one provider. -/
  readTable : Provider → Except String DataFrame
  /-- The error text for a table that is not in the catalog. -/
  noTableNamed : String → String
  schema : DataFrame → Schema
  /-- `schemas_compatible_for_cache_alias_replan`. -/
  schemasCompatible : Schema → Schema → Bool
  /-- `bounded_schema_mismatch_for_nested_error`. -/
  schemaMismatch : Schema → Schema → String
  /-- The driver's check of a schema against the mappings of a planned output. -/
  validateSchemaAgainstMappings : Schema → List SchemaMapping → Except ArrowError Unit
  /-- The text of a failed check, with the differences of the expected and the new schema. -/
  replanDiagnostic : DeltaFunnelError → Schema → Schema → String

inductive SessionOp (Provider Schema DataFrame Rows : Type) where
  | lookup (key : String)
  | deregister (name : String)
  | register (name : String) (provider : Provider)
  | hasCacheFactory
  | createPhysicalPlan (dataframe : DataFrame)
  | startPartitionStreams (dataframe : DataFrame)
  | collectPartitions (dataframe : DataFrame)
  /-- Builds the in-memory table for the alias. -/
  | memTable (aliasName : String) (rows : Rows)
  | startOutputStream (dataframe : DataFrame)
  | writeOutput (schema : Schema) (target : MssqlTargetSummary) (stream : DataFrame)

/-- The reply of each operation. A collected partition stream and an output stream carry
errors of the crate, the engine's own errors are texts. -/
def SessionOp.Reply {Provider Schema DataFrame Rows : Type} :
    SessionOp Provider Schema DataFrame Rows → Type
  | .lookup _ => Option Provider
  | .deregister _ => Except String (Option Provider)
  | .register _ _ => Except String Unit
  | .hasCacheFactory => Bool
  | .createPhysicalPlan _ => Except String Unit
  | .startPartitionStreams _ => Except String Unit
  | .collectPartitions _ => Except DeltaFunnelError Rows
  | .memTable _ _ => Except String Provider
  | .startOutputStream _ => Except DeltaFunnelError Unit
  | .writeOutput _ _ _ => Except DeltaFunnelError MssqlWriteReport

def sessionSignature (Provider Schema DataFrame Rows : Type) : Signature :=
  ⟨SessionOp Provider Schema DataFrame Rows, SessionOp.Reply⟩

abbrev SessionProgram (Provider Schema DataFrame Rows α : Type) : Type :=
  Program (sessionSignature Provider Schema DataFrame Rows) α

variable {Provider Schema DataFrame Rows : Type}

def sessionCall (op : SessionOp Provider Schema DataFrame Rows) :
    SessionProgram Provider Schema DataFrame Rows op.Reply :=
  .call op .ret

namespace QueryEngine
variable (engine : QueryEngine Provider Schema DataFrame)

def lookupAll : List String →
    SessionProgram Provider Schema DataFrame Rows (List (String × Option Provider))
  | [] => return []
  | key :: keys => do
    let provider ← sessionCall (.lookup key)
    let rest ← lookupAll keys
    return (key, provider) :: rest

/-- `sql_with_options`. -/
def sqlWithOptions (sql : String) :
    SessionProgram Provider Schema DataFrame Rows (Except String DataFrame) :=
  match engine.references sql with
  | .error error => return .error error
  | .ok keys => do
    let resolved ← lookupAll keys
    return engine.planSql sql resolved

/-- `SessionContext::table`. -/
def table (name : String) :
    SessionProgram Provider Schema DataFrame Rows (Except String DataFrame) := do
  match ← sessionCall (.lookup (Catalog.tableKey name)) with
  | none => return .error (engine.noTableNamed name)
  | some provider => return engine.readTable provider

end QueryEngine
end DeltaFunnel
