import DeltaFunnel.WriteAll.Report

/-! The crate's error type. `other` stands for the variants that the modelled code only
passes along; it keeps their display text. -/

namespace DeltaFunnel

inductive SqlTablePhase where
  | validateSql
  | planSql
  | registerDerivedAlias
  deriving DecidableEq, Repr

def SqlTablePhase.display : SqlTablePhase → String
  | .validateSql => "SQL validation"
  | .planSql => "SQL planning"
  | .registerDerivedAlias => "derived alias registration"

inductive BatchPipelinePhase where
  | configuration
  | handoffSetup
  deriving DecidableEq, Repr

def BatchPipelinePhase.display : BatchPipelinePhase → String
  | .configuration => "configuration"
  | .handoffSetup => "handoff setup"

inductive DeltaFunnelError where
  | config (message : String)
  | writeAllCache (failure : WriteAllCacheFailure) (source : DeltaFunnelError)
  | invalidSourceName (name reason : String)
  | duplicateSourceName (name : String)
  | dataFusionRegistration (sourceName tableUri reason : String)
  | sqlTable (phase : SqlTablePhase) (message : String)
  | batchPipeline (phase : BatchPipelinePhase) (option message : String)
  | mssqlDdlTargetIdentifier (outputName : String) (source : ArrowError)
  | mssqlDdlPlanning (outputName message : String)
  | mssqlLifecyclePlanning (outputName message : String)
  | mssqlWritePhase (context : MssqlWriteFailureContext) (message : String)
  | mssqlQueryPhase (context : MssqlWriteFailureContext) (source : DeltaFunnelError)
  | mssqlBatchSchemaValidation (context : MssqlWriteFailureContext) (source : ArrowError)
  | mssqlWorkflowPlanning (message : String)
  | other (display : String)
  deriving DecidableEq, Repr

namespace DeltaFunnelError

def mssqlWriteDisplay (context : MssqlWriteFailureContext) (reason : String) : String :=
  "MSSQL write error for output `" ++ sanitizeTextForDisplay context.report.outputName ++
    "` during " ++ context.phase.display ++ ": " ++ sanitizeTextForDisplay reason

/-- `to_string`. -/
def display : DeltaFunnelError → String
  | .config message => "configuration error: " ++ message
  | .writeAllCache _ source => "write_all cache failed: " ++ sanitizeTextForDisplay source.display
  | .invalidSourceName name reason =>
    "invalid Delta source name `" ++ sanitizeTextForDisplay name ++ "`: " ++ reason
  | .duplicateSourceName name =>
    "duplicate Delta source name `" ++ sanitizeTextForDisplay name ++ "`"
  | .dataFusionRegistration sourceName tableUri reason =>
    "DataFusion registration error for source `" ++ sanitizeTextForDisplay sourceName ++ "` (" ++
      sanitizeUriForDisplay tableUri ++ "): " ++ sanitizeTextForDisplay reason
  | .sqlTable phase message =>
    "SQL table error during " ++ phase.display ++ ": " ++ sanitizeTextForDisplay message
  | .batchPipeline phase option message =>
    "batch pipeline " ++ phase.display ++ " error for option `" ++ option ++ "`: " ++
      sanitizeTextForDisplay message
  | .mssqlDdlTargetIdentifier outputName source =>
    "MSSQL DDL planning error for output `" ++ sanitizeTextForDisplay outputName ++ "`: " ++
      sanitizeTextForDisplay source.display
  | .mssqlDdlPlanning outputName message =>
    "MSSQL DDL planning error for output `" ++ sanitizeTextForDisplay outputName ++ "`: " ++
      sanitizeTextForDisplay message
  | .mssqlLifecyclePlanning outputName message =>
    "MSSQL lifecycle planning error for output `" ++ sanitizeTextForDisplay outputName ++ "`: " ++
      sanitizeTextForDisplay message
  | .mssqlWritePhase context message => mssqlWriteDisplay context message
  | .mssqlQueryPhase context source => mssqlWriteDisplay context source.display
  | .mssqlBatchSchemaValidation context source => mssqlWriteDisplay context source.display
  | .mssqlWorkflowPlanning message =>
    "MSSQL workflow planning error: " ++ sanitizeTextForDisplay message
  | .other display => display

end DeltaFunnelError
end DeltaFunnel
