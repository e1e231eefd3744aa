import DeltaFunnel.SqlServer.WriteReport

/-! What `write_all` reports about its shared caches. -/

namespace DeltaFunnel

inductive WriteAllCacheAliasStatus where
  | selected
  | materializedAndRestored
  | failed
  deriving DecidableEq, Repr

structure WriteAllCacheAliasReport where
  tableId : ℕ
  aliasName : String
  outputIndexes : List ℕ
  status : WriteAllCacheAliasStatus
  phaseTimings : List PhaseTimingReport
  failedPhase : Option String
  deriving DecidableEq, Repr

structure WriteAllCacheFailure where
  aliases : List WriteAllCacheAliasReport
  primaryFailedAliasTableId : Option ℕ
  workflow : Option MssqlWorkflowWriteReport
  deriving DecidableEq, Repr

end DeltaFunnel
