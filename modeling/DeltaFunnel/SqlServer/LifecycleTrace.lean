import DeltaFunnel.SqlServer.Lifecycle

/-! What preparation, cleanup and swap leave in the trace of lifecycle statements. -/

namespace DeltaFunnel
open Interaction Program

abbrev LifecycleEvent := Event LifecycleSig

namespace LifecycleOp

def isDrop : LifecycleOp → Bool
  | .executeStatement (.dropTable _) => true
  | _ => false

def isProbe : LifecycleOp → Bool
  | .tableExists _ => true
  | _ => false

end LifecycleOp

theorem availableReplaceTable_runs {candidate : ℕ → Except DeltaFunnelError TableName}
    {probeError : ArrowError → DeltaFunnelError} {exhausted : DeltaFunnelError}
    {attempts : List ℕ} {trace : List LifecycleEvent} {result : Except DeltaFunnelError TableName}
    (h : Runs (availableReplaceTable candidate probeError exhausted attempts) trace result) :
    (∀ e ∈ trace, LifecycleOp.isProbe e.op) ∧
      ∀ name, result = .ok name → ∃ attempt ∈ attempts, candidate attempt = .ok name := by
  induction attempts generalizing trace with
  | nil =>
    obtain ⟨rfl, rfl⟩ := runs_ret.1 h
    simp
  | cons attempt attempts ih =>
    unfold availableReplaceTable at h
    rcases hcandidate : candidate attempt with error | tableName
    · simp only [hcandidate] at h
      obtain ⟨rfl, rfl⟩ := runs_ret.1 h
      simp
    · simp only [hcandidate] at h
      obtain ⟨reply, rest, rfl, hrest⟩ := runs_tableExists.1 h
      rcases reply with source | _ | _
      · obtain ⟨rfl, rfl⟩ := runs_ret.1 hrest
        simp [LifecycleOp.isProbe]
      · obtain ⟨rfl, rfl⟩ := runs_ret.1 hrest
        refine ⟨by simp [LifecycleOp.isProbe], ?_⟩
        rintro name ⟨⟩
        exact ⟨attempt, List.mem_cons_self .., hcandidate⟩
      · obtain ⟨hprobes, hname⟩ := ih hrest
        refine ⟨by simpa [LifecycleOp.isProbe] using hprobes, fun name hok => ?_⟩
        obtain ⟨found, hmem, hfound⟩ := hname name hok
        exact ⟨found, List.mem_cons_of_mem _ hmem, hfound⟩

theorem LifecycleOp.not_isDrop_of_isProbe {trace : List LifecycleEvent}
    (h : ∀ e ∈ trace, LifecycleOp.isProbe e.op) : ∀ e ∈ trace, ¬LifecycleOp.isDrop e.op := by
  intro e he
  have hprobe := h e he
  rcases hop : e.op <;> simp_all [LifecycleOp.isProbe, LifecycleOp.isDrop]

variable [ArrowSqlServer]

theorem fromTableName_eq_ok {plan : MssqlTargetOutputPlan} {name : TableName}
    {action : MssqlPreparedTargetAction} {target : MssqlPreparedTarget}
    (h : MssqlPreparedTarget.fromTableName plan name action = .ok target) :
    target.tableName = name ∧ target.report.action = action ∧
      preparedTargetMatchesOutputPlan plan target := by
  obtain ⟨report, hreport, h⟩ := except_bind_eq_ok.1 h
  obtain ⟨_, -, hreport⟩ := except_bind_eq_ok.1 hreport
  cases hreport
  cases h
  simp [preparedTargetMatchesOutputPlan]

/-- A target prepared for `plan`: its table was verified, or created by this very trace. -/
inductive PreparedIn (plan : MssqlTargetOutputPlan) (trace : List LifecycleEvent)
    (target : MssqlPreparedTarget) : Prop
  | verified (hmode : plan.loadMode = .appendExisting)
      (haction : target.report.action = .verifiedExisting)
  | created (hmode : plan.loadMode ≠ .appendExisting) (mappings : List SchemaMapping)
      (hcreate : ⟨.executeStatement (.createTable target.tableName mappings), .ok ()⟩ ∈ trace)

theorem prepareMssqlAppendExistingTarget_runs {plan : MssqlTargetOutputPlan}
    {trace : List LifecycleEvent} {result : Except DeltaFunnelError MssqlPreparedTarget}
    (hmode : plan.loadMode = .appendExisting)
    (h : Runs (prepareMssqlAppendExistingTarget plan) trace result) :
    (∀ e ∈ trace, ¬LifecycleOp.isDrop e.op) ∧
      ∀ target, result = .ok target → PreparedIn plan trace target := by
  unfold prepareMssqlAppendExistingTarget at h
  split at h
  · obtain ⟨rfl, rfl⟩ := runs_ret.1 h
    simp
  · obtain ⟨reply, rest, rfl, hrest⟩ := runs_tableExists.1 h
    rcases reply with source | _ | _
    · obtain ⟨rfl, rfl⟩ := runs_ret.1 hrest
      simp [LifecycleOp.isDrop]
    · obtain ⟨rfl, rfl⟩ := runs_ret.1 hrest
      simp [LifecycleOp.isDrop]
    · obtain ⟨rfl, rfl⟩ := runs_ret.1 hrest
      refine ⟨by simp [LifecycleOp.isDrop], fun target hok => ?_⟩
      obtain ⟨name, -, hname⟩ := except_bind_eq_ok.1 hok
      exact .verified hmode (fromTableName_eq_ok hname).2.1

theorem prepareMssqlCreateAndLoadTarget_runs {plan : MssqlTargetOutputPlan}
    {trace : List LifecycleEvent} {result : Except DeltaFunnelError MssqlPreparedTarget}
    (hmode : plan.loadMode = .createAndLoad)
    (h : Runs (prepareMssqlCreateAndLoadTarget plan) trace result) :
    (∀ e ∈ trace, ¬LifecycleOp.isDrop e.op) ∧
      ∀ target, result = .ok target → PreparedIn plan trace target := by
  unfold prepareMssqlCreateAndLoadTarget at h
  split at h
  · obtain ⟨rfl, rfl⟩ := runs_ret.1 h
    simp
  · obtain ⟨reply, rest, rfl, hrest⟩ := runs_tableExists.1 h
    rcases reply with source | _ | _
    · obtain ⟨rfl, rfl⟩ := runs_ret.1 hrest
      simp [LifecycleOp.isDrop]
    · have hsql := plan.createTableSql_of_createAndLoad hmode
      simp only [hsql] at hrest
      obtain ⟨created, tail, rfl, htail⟩ := runs_executeStatement.1 hrest
      rcases created with source | _
      · obtain ⟨rfl, rfl⟩ := runs_ret.1 htail
        simp [LifecycleOp.isDrop]
      · obtain ⟨rfl, rfl⟩ := runs_ret.1 htail
        refine ⟨by simp [LifecycleOp.isDrop], fun target hok => ?_⟩
        obtain ⟨name, hname, htarget⟩ := except_bind_eq_ok.1 hok
        -- The planned statement and the prepared target name the table independently.
        have htable : target.tableName = plan.finalTableName := by
          rw [(fromTableName_eq_ok htarget).1, tableNameFromTarget_eq_ok hname]
          rfl
        exact .created (by simp [hmode]) plan.schemaMappings (by simp [htable])
    · obtain ⟨rfl, rfl⟩ := runs_ret.1 hrest
      simp [LifecycleOp.isDrop]

theorem prepareMssqlReplaceTarget_runs {plan : MssqlTargetOutputPlan}
    {trace : List LifecycleEvent} {result : Except DeltaFunnelError MssqlPreparedTarget}
    (hmode : plan.loadMode = .replace) (h : Runs (prepareMssqlReplaceTarget plan) trace result) :
    (∀ e ∈ trace, ¬LifecycleOp.isDrop e.op) ∧
      ∀ target, result = .ok target → PreparedIn plan trace target := by
  unfold prepareMssqlReplaceTarget at h
  split at h
  · obtain ⟨rfl, rfl⟩ := runs_ret.1 h
    simp
  · obtain ⟨reply, rest, rfl, hrest⟩ := runs_tableExists.1 h
    rcases reply with source | exists_
    · obtain ⟨rfl, rfl⟩ := runs_ret.1 hrest
      simp [LifecycleOp.isDrop]
    · obtain ⟨probes, available, tail, rfl, hprobes, htail⟩ := runs_bind.1 hrest
      have hnoDrop := LifecycleOp.not_isDrop_of_isProbe (availableReplaceTable_runs hprobes).1
      rcases available with error | stagingTableName
      · obtain ⟨rfl, rfl⟩ := runs_ret.1 htail
        exact ⟨by simpa [LifecycleOp.isDrop] using hnoDrop, by simp⟩
      · obtain ⟨created, last, rfl, hlast⟩ := runs_executeStatement.1 htail
        rcases created with source | _
        · obtain ⟨rfl, rfl⟩ := runs_ret.1 hlast
          refine ⟨?_, by simp⟩
          simpa [LifecycleOp.isDrop, or_imp, forall_and] using hnoDrop
        · obtain ⟨rfl, rfl⟩ := runs_ret.1 hlast
          refine ⟨by simpa [LifecycleOp.isDrop, or_imp, forall_and] using hnoDrop, ?_⟩
          intro target hok
          have htable := (fromTableName_eq_ok hok).1
          exact .created (by simp [hmode]) plan.schemaMappings (by simp [htable])

theorem prepareMssqlTargetLifecycle_runs {plan : MssqlTargetOutputPlan}
    {trace : List LifecycleEvent} {result : Except DeltaFunnelError MssqlPreparedTarget}
    (h : Runs (prepareMssqlTargetLifecycle plan) trace result) :
    (∀ e ∈ trace, ¬LifecycleOp.isDrop e.op) ∧
      ∀ target, result = .ok target → PreparedIn plan trace target := by
  unfold prepareMssqlTargetLifecycle at h
  rcases hmode : plan.loadMode
  · simp only [hmode] at h
    exact prepareMssqlAppendExistingTarget_runs hmode h
  · simp only [hmode] at h
    exact prepareMssqlCreateAndLoadTarget_runs hmode h
  · simp only [hmode] at h
    exact prepareMssqlReplaceTarget_runs hmode h

theorem cleanupMssqlPreparedTarget_runs {plan : MssqlTargetOutputPlan}
    {target : MssqlPreparedTarget} {trace : List LifecycleEvent}
    {result : Except DeltaFunnelError MssqlTargetCleanupStatus}
    (h : Runs (cleanupMssqlPreparedTarget plan (some target)) trace result) :
    trace = [] ∨ target.report.action ≠ .verifiedExisting ∧
      ∃ reply, trace = [⟨.executeStatement (.dropTable target.tableName), reply⟩] := by
  unfold cleanupMssqlPreparedTarget at h
  by_cases hmatches : preparedTargetMatchesOutputPlan plan target
  · simp only [hmatches] at h
    rcases haction : target.report.action
    · simp only [haction] at h
      exact .inl (runs_ret.1 h).1
    all_goals
      simp only [haction] at h
      obtain ⟨reply, rest, rfl, hrest⟩ := runs_executeStatement.1 h
      refine .inr ⟨by simp, reply, ?_⟩
      rcases reply with source | _ <;> rw [(runs_ret.1 hrest).1]
  · simp only [hmatches] at h
    exact .inl (runs_ret.1 h).1

theorem swapMssqlReplaceTarget_runs {plan : MssqlTargetOutputPlan} {target : MssqlPreparedTarget}
    {trace : List LifecycleEvent} {result : Except DeltaFunnelError Unit}
    (h : Runs (swapMssqlReplaceTarget plan target) trace result) :
    ∀ e ∈ trace, ¬LifecycleOp.isDrop e.op := by
  unfold swapMssqlReplaceTarget at h
  split at h
  · rw [(runs_ret.1 h).1]
    simp
  · obtain ⟨probes, available, tail, rfl, hprobes, htail⟩ := runs_bind.1 h
    have hnoDrop := LifecycleOp.not_isDrop_of_isProbe (availableReplaceTable_runs hprobes).1
    rcases available with error | backupTableName
    · rw [(runs_ret.1 htail).1]
      simpa using hnoDrop
    · obtain ⟨reply, last, rfl, hlast⟩ := runs_executeStatement.1 htail
      have hnil : last = [] := by
        rcases reply with source | _ <;> exact (runs_ret.1 hlast).1
      subst hnil
      simpa [LifecycleOp.isDrop, or_imp, forall_and] using hnoDrop

/-- Preparation followed by the cleanup of what it prepared. -/
def prepareThenCleanup (plan : MssqlTargetOutputPlan) :
    Program LifecycleSig (Except DeltaFunnelError MssqlTargetCleanupStatus) := do
  match ← prepareMssqlTargetLifecycle plan with
  | .error error => return .error error
  | .ok target => cleanupMssqlPreparedTarget plan (some target)

/-- A `DROP TABLE` stands only after an accepted `CREATE TABLE` of the same name. -/
def DropsOnlyCreated (plan : MssqlTargetOutputPlan) (trace : List LifecycleEvent) : Prop :=
  ∀ before table reply after,
    trace = before ++ ⟨.executeStatement (.dropTable table), reply⟩ :: after →
      plan.loadMode ≠ .appendExisting ∧
        ∃ mappings, ⟨.executeStatement (.createTable table mappings), .ok ()⟩ ∈ before

theorem dropsOnlyCreated_of_not_isDrop {plan : MssqlTargetOutputPlan}
    {trace : List LifecycleEvent} (h : ∀ e ∈ trace, ¬LifecycleOp.isDrop e.op) :
    DropsOnlyCreated plan trace := by
  rintro before table reply after rfl
  exact absurd rfl (h ⟨.executeStatement (.dropTable table), reply⟩ (by simp))

theorem dropsOnlyCreated_cleanup {plan : MssqlTargetOutputPlan} {target : MssqlPreparedTarget}
    {prepared middle cleanup : List LifecycleEvent}
    {result : Except DeltaFunnelError MssqlTargetCleanupStatus}
    (hprepare : Runs (prepareMssqlTargetLifecycle plan) prepared (.ok target))
    (hmiddle : ∀ e ∈ middle, ¬LifecycleOp.isDrop e.op)
    (hcleanup : Runs (cleanupMssqlPreparedTarget plan (some target)) cleanup result) :
    DropsOnlyCreated plan (prepared ++ middle ++ cleanup) := by
  obtain ⟨hnoDrop, htarget⟩ := prepareMssqlTargetLifecycle_runs hprepare
  have hbefore : ∀ e ∈ prepared ++ middle, ¬LifecycleOp.isDrop e.op := by
    intro e he
    rcases List.mem_append.1 he with hprepared | hmid
    · exact hnoDrop e hprepared
    · exact hmiddle e hmid
  rcases cleanupMssqlPreparedTarget_runs hcleanup with rfl | ⟨haction, reply, rfl⟩
  · rw [List.append_nil]
    exact dropsOnlyCreated_of_not_isDrop hbefore
  · intro before table reply' after heq
    obtain ⟨rfl, hdrop, -⟩ := split_unique hbefore (by simp) (by rfl) heq
    cases hdrop
    rcases htarget target rfl with ⟨-, hverified⟩ | ⟨hmode, mappings, hcreate⟩
    · exact absurd hverified haction
    · exact ⟨hmode, mappings, List.mem_append_left _ hcreate⟩

theorem prepareThenCleanup_dropsOnlyCreated {plan : MssqlTargetOutputPlan}
    {trace : List LifecycleEvent} {result : Except DeltaFunnelError MssqlTargetCleanupStatus}
    (h : Runs (prepareThenCleanup plan) trace result) : DropsOnlyCreated plan trace := by
  obtain ⟨prepared, preparation, cleanup, rfl, hprepare, hcleanup⟩ := runs_bind.1 h
  rcases preparation with error | target
  · rw [(runs_ret.1 hcleanup).1, List.append_nil]
    exact dropsOnlyCreated_of_not_isDrop (prepareMssqlTargetLifecycle_runs hprepare).1
  · have hnone : ∀ e ∈ ([] : List LifecycleEvent), ¬LifecycleOp.isDrop e.op := by simp
    simpa using dropsOnlyCreated_cleanup hprepare hnone hcleanup

end DeltaFunnel
