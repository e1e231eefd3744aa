import DeltaFunnel.SqlServer.Server
import DeltaFunnel.SqlServer.SinkSafety

/-! Cleanup discipline of the one-output sink, at the level of connection operations and at
the level of the statements they issue. -/

namespace DeltaFunnel
open Interaction Program

section Discipline
variable {Batch : Type}

/-- The lifecycle calls among the calls on the server. -/
def lifecycleEvents (trace : List (Event (ServerSig Batch))) : List LifecycleEvent :=
  trace.filterMap fun
    | ⟨.lifecycle op, reply⟩ => some ⟨op, reply⟩
    | _ => none

@[simp] theorem lifecycleEvents_append (first second : List (Event (ServerSig Batch))) :
    lifecycleEvents (first ++ second) = lifecycleEvents first ++ lifecycleEvents second :=
  List.filterMap_append ..

theorem runs_lifecycleClient {α : Type} {p : Program LifecycleSig α}
    {trace : List (Event (ServerSig Batch))} {a : α} (h : Runs (lifecycleClient p) trace a) :
    Runs p (lifecycleEvents trace) a := by
  obtain ⟨calls, hcalls, hexpands⟩ := Runs.expands h
  have heq : lifecycleEvents trace = calls := by
    clear h hcalls
    induction hexpands with
    | nil => rfl
    | cons head tail ih =>
      obtain ⟨reply, rest, rfl, hrest⟩ := runs_call.1 head
      obtain ⟨rfl, rfl⟩ := runs_ret.1 hrest
      rw [lifecycleEvents_append, ih]
      rfl
  rwa [heq]

theorem lifecycleEvents_eq_nil {trace : List (Event (ServerSig Batch))}
    (h : ∀ e ∈ trace, ¬ServerOp.isLifecycle e.op) : lifecycleEvents trace = [] := by
  refine List.filterMap_eq_nil_iff.2 ?_
  rintro ⟨op, reply⟩ he
  cases op with
  | lifecycle op => exact absurd rfl (h _ he)
  | _ => rfl

variable [ArrowSqlServer]

/-- The operations that begin and end the life of a prepared target. -/
def SinkOp.preparesOrCleans : SinkOp Batch → Bool
  | .prepareTargetLifecycle _ => true
  | .cleanupPreparedTarget _ _ => true
  | _ => false

theorem KeepsTables.not_preparesOrCleans {trace : List (SinkEvent Batch)}
    (h : KeepsTables trace) : ∀ e ∈ trace, ¬SinkOp.preparesOrCleans e.op := by
  intro e he hop
  have hkeeps := h e he
  rcases hcase : e.op <;> simp_all [SinkOp.preparesOrCleans, SinkOp.keepsTables]

theorem connectedClient_uses_no_lifecycle {op : SinkOp Batch} (hop : op.keepsTables) :
    (connectedClient op).Uses fun call => ¬ServerOp.isLifecycle call := by
  cases op with
  | prepareTargetLifecycle => cases hop
  | cleanupPreparedTarget => cases hop
  | swapPreparedReplaceTarget => cases hop
  | enableBulkLoadTableLock plan target =>
    refine uses_serverCall.2 ⟨by simp [ServerOp.isLifecycle], fun reply => ?_⟩
    rcases reply with source | _
    · dsimp only
      split <;> trivial
    · trivial
  | initializeWriter plan target options =>
    dsimp only [connectedClient]
    split
    · trivial
    · refine uses_serverCall.2 ⟨by simp [ServerOp.isLifecycle], fun reply => ?_⟩
      rcases reply with source | _ <;> trivial
  | nextBatch item => trivial
  | _ =>
    refine ⟨by simp [ServerOp.isLifecycle], fun reply => ?_⟩
    rcases reply with source | _ <;> trivial

theorem connectedClient_not_isDrop {e : SinkEvent Batch} {trace : List (Event (ServerSig Batch))}
    (hop : ¬SinkOp.preparesOrCleans e.op) (h : Runs (connectedClient e.op) trace e.reply) :
    ∀ call ∈ lifecycleEvents trace, ¬LifecycleOp.isDrop call.op := by
  by_cases hkeeps : SinkOp.keepsTables e.op
  · rw [lifecycleEvents_eq_nil ((connectedClient_uses_no_lifecycle hkeeps).mem h)]
    simp
  · obtain ⟨op, reply⟩ := e
    cases op with
    | swapPreparedReplaceTarget plan target =>
      exact swapMssqlReplaceTarget_runs (runs_lifecycleClient h)
    | _ => simp_all [SinkOp.preparesOrCleans, SinkOp.keepsTables]

theorem expands_not_isDrop {trace : List (SinkEvent Batch)}
    {calls : List (Event (ServerSig Batch))} (h : Interaction.Expands connectedClient trace calls)
    (htrace : ∀ e ∈ trace, ¬SinkOp.preparesOrCleans e.op) :
    ∀ call ∈ lifecycleEvents calls, ¬LifecycleOp.isDrop call.op := by
  induction h with
  | nil => simp [lifecycleEvents]
  | @cons op reply trace first second head tail ih =>
    intro call hcall
    rw [lifecycleEvents_append] at hcall
    rcases List.mem_append.1 hcall with hfirst | hsecond
    · have hop := htrace ⟨op, reply⟩ (List.mem_cons_self ..)
      exact connectedClient_not_isDrop (e := ⟨op, reply⟩) hop head call hfirst
    · exact ih (fun e he => htrace e (List.mem_cons_of_mem _ he)) call hsecond

variable [RecordBatch Batch]

/-- A run whose prepared target, if there is one, is cleaned up exactly when the run fails. -/
inductive Disciplined (plan : MssqlTargetOutputPlan) (trace : List (SinkEvent Batch))
    (result : Except DeltaFunnelError MssqlWriteReport) : Prop
  | unprepared (error failed : DeltaFunnelError)
      (htrace : trace = [⟨.prepareTargetLifecycle plan, .error error⟩])
      (hresult : result = .error failed)
  | succeeded (target : MssqlPreparedTarget) (middle : List (SinkEvent Batch))
      (report : MssqlWriteReport) (hmiddle : ∀ e ∈ middle, ¬SinkOp.preparesOrCleans e.op)
      (htrace : trace = ⟨.prepareTargetLifecycle plan, .ok target⟩ :: middle)
      (hresult : result = .ok report)
  | cleaned (target : MssqlPreparedTarget) (middle : List (SinkEvent Batch))
      (failed : DeltaFunnelError) (reply : Except DeltaFunnelError MssqlTargetCleanupStatus)
      (hmiddle : ∀ e ∈ middle, ¬SinkOp.preparesOrCleans e.op)
      (htrace : trace = ⟨.prepareTargetLifecycle plan, .ok target⟩ :: middle ++
        [⟨.cleanupPreparedTarget plan (some target), reply⟩])
      (hresult : result = .error failed)

theorem runPreparedOutput_not_preparesOrCleans {plan : MssqlTargetOutputPlan}
    {target : MssqlPreparedTarget} {stream : List (Except DeltaFunnelError Batch)}
    {options : MssqlWriteBackend} {validationOptions : ValidationOptions}
    {phaseTimings : List PhaseTimingReport} {trace : List (SinkEvent Batch)}
    {result : Except DeltaFunnelError MssqlWriteReport}
    (h : Runs (runPreparedOutput plan target stream options validationOptions phaseTimings) trace
      result) : ∀ e ∈ trace, ¬SinkOp.preparesOrCleans e.op := by
  rcases runPreparedOutput_runs h with
    ⟨hkeeps, -⟩ | ⟨writer, batches, locked, reply, -, -, -, -, rfl, -⟩
  · exact hkeeps.not_preparesOrCleans
  · intro e he
    rcases List.mem_append.1 he with hpublish | hswap
    · have hkeeps := publishTrace_keepsTables plan target options writer batches locked
      exact hkeeps.not_preparesOrCleans e hpublish
    · rw [List.mem_singleton.1 hswap]
      simp [SinkOp.preparesOrCleans]

theorem disciplined_of_runs {plan : MssqlTargetOutputPlan}
    {stream : List (Except DeltaFunnelError Batch)} {options : MssqlWriteBackend}
    {validationOptions : ValidationOptions} {phaseTimings : List PhaseTimingReport}
    {trace : List (SinkEvent Batch)} {result : Except DeltaFunnelError MssqlWriteReport}
    (h : Runs (runMssqlOutputBatchesOnConnection plan stream options validationOptions
      phaseTimings) trace result) : Disciplined plan trace result := by
  rcases runMssqlOutputBatchesOnConnection_runs h with
    ⟨error, failed, htrace, hresult⟩ | ⟨target, middle, body, hbody, hend⟩
  · exact .unprepared error failed htrace hresult
  · have hmiddle := runPreparedOutput_not_preparesOrCleans hbody
    rcases hend with ⟨report, -, hresult, htrace⟩ | ⟨error, failed, reply, -, hresult, htrace⟩
    · exact .succeeded target middle report hmiddle htrace hresult
    · exact .cleaned target middle failed reply hmiddle htrace hresult

theorem runMssqlOutputOnServer_dropsOnlyCreated {plan : MssqlTargetOutputPlan}
    {stream : List (Except DeltaFunnelError Batch)} {options : MssqlWriteBackend}
    {validationOptions : ValidationOptions} {phaseTimings : List PhaseTimingReport}
    {calls : List (Event (ServerSig Batch))} {result : Except DeltaFunnelError MssqlWriteReport}
    (h : Runs (runMssqlOutputOnServer plan stream options validationOptions phaseTimings) calls
      result) : DropsOnlyCreated plan (lifecycleEvents calls) := by
  obtain ⟨trace, htrace, hexpands⟩ := Runs.expands h
  rcases disciplined_of_runs htrace with
    ⟨error, failed, rfl, -⟩ | ⟨target, middle, report, hmiddle, rfl, -⟩ |
      ⟨target, middle, failed, reply, hmiddle, rfl, -⟩
  all_goals
    obtain ⟨prepared, rest, rfl, hprepare, hrest⟩ := hexpands.of_cons
    have hprepare := runs_lifecycleClient hprepare
    rw [lifecycleEvents_append]
  · cases hrest
    have hnothing : lifecycleEvents ([] : List (Event (ServerSig Batch))) = [] := rfl
    rw [hnothing, List.append_nil]
    exact dropsOnlyCreated_of_not_isDrop (prepareMssqlTargetLifecycle_runs hprepare).1
  · refine dropsOnlyCreated_of_not_isDrop fun call hcall => ?_
    rcases List.mem_append.1 hcall with hfirst | hsecond
    · exact (prepareMssqlTargetLifecycle_runs hprepare).1 call hfirst
    · exact expands_not_isDrop hrest hmiddle call hsecond
  · obtain ⟨between, last, rfl, hbetween, hlast⟩ := hrest.of_append
    obtain ⟨cleanup, nothing, rfl, hcleanup, hnothing⟩ := hlast.of_cons
    cases hnothing
    rw [lifecycleEvents_append, List.append_nil, ← List.append_assoc]
    exact dropsOnlyCreated_cleanup hprepare (expands_not_isDrop hbetween hmiddle)
      (runs_lifecycleClient hcleanup)

/-- **Cleanup discipline.** Every run of the sink is disciplined, and no statement it issues
through a connected client, nor a preparation followed by its cleanup, drops a table other than
the one this run has created. -/
theorem sink_cleans_up_exactly_what_it_created (plan : MssqlTargetOutputPlan)
    (stream : List (Except DeltaFunnelError Batch)) (options : MssqlWriteBackend)
    (validationOptions : ValidationOptions) (phaseTimings : List PhaseTimingReport) :
    (∀ trace result, Runs (runMssqlOutputBatchesOnConnection plan stream options
      validationOptions phaseTimings) trace result → Disciplined plan trace result) ∧
    (∀ calls result, Runs (prepareThenCleanup plan) calls result → DropsOnlyCreated plan calls) ∧
    ∀ calls result, Runs (runMssqlOutputOnServer plan stream options validationOptions
      phaseTimings) calls result → DropsOnlyCreated plan (lifecycleEvents calls) :=
  ⟨fun _ _ => disciplined_of_runs, fun _ _ => prepareThenCleanup_dropsOnlyCreated,
    fun _ _ => runMssqlOutputOnServer_dropsOnlyCreated⟩

end Discipline

def ordersCreated : LifecycleStatement :=
  .createTable ⟨some "dbo", "orders"⟩ (ordersSchemaPlan .createAndLoad).mappings

def ordersCreatePlan : @MssqlTargetOutputPlan acceptingDriver :=
  letI := acceptingDriver
  { schemaPlan := ordersSchemaPlan .createAndLoad
    ddlPlan := ⟨(ordersSchemaPlan .createAndLoad).target, true, some ordersCreated⟩
    lifecyclePlan :=
      ⟨(ordersSchemaPlan .createAndLoad).target, .absent, true, true, true,
        .allowedAfterPlanning, createAndLoadExecutionGuardrails⟩
    ddl_planned := rfl
    lifecycle_planned := rfl }

/-- A failed row count under required validation: the appended table is never dropped. A stream that
fails behind its first batch: the table that the run has created is dropped. -/
theorem failed_orders_drop_only_what_they_created :
    letI := acceptingDriver
    letI := countedBatch
    (∃ calls result, Runs (runMssqlOutputOnServer ordersAppendPlan [.ok 2] .directRawBulk
        { targetValidationMode := .require } []) calls result ∧
      (∃ error, result = .error error) ∧
      ∀ call ∈ lifecycleEvents calls, ¬LifecycleOp.isDrop call.op) ∧
    ∃ calls result, Runs (runMssqlOutputOnServer ordersCreatePlan
        [.ok 2, .error (.other "reader failed")] .directRawBulk {} []) calls result ∧
      (∃ error, result = .error error) ∧
      ∃ before drop, lifecycleEvents calls = before ++ [drop] ∧
        drop.op = .executeStatement (.dropTable ⟨some "dbo", "orders"⟩) ∧
        ∃ mappings, ⟨.executeStatement (.createTable ⟨some "dbo", "orders"⟩ mappings), .ok ()⟩ ∈
          before := by
  let _ := acceptingDriver
  let _ := countedBatch
  constructor
  · have hruns : ∃ error, Runs (runMssqlOutputOnServer ordersAppendPlan [.ok 2] .directRawBulk
        { targetValidationMode := .require } [])
        [⟨.lifecycle (.tableExists ⟨some "dbo", "orders"⟩), .ok true⟩,
          ⟨.targetRowCount ⟨some "dbo", "orders"⟩, .error
            ⟨.targetRowCountQuery, "permission denied", none, "row count", "query", []⟩⟩]
        (.error error) := ⟨_, .call (.call (.refl _))⟩
    obtain ⟨error, hrun⟩ := hruns
    refine ⟨_, _, hrun, ⟨error, rfl⟩, fun call hcall hdrop => ?_⟩
    -- a drop would need a table that the run has created
    have hdrops := (sink_cleans_up_exactly_what_it_created ordersAppendPlan [.ok 2] .directRawBulk
      { targetValidationMode := .require } []).2.2 _ _ hrun
    obtain ⟨before, after, heq⟩ := List.append_of_mem hcall
    obtain ⟨op, reply⟩ := call
    rcases op with table | ⟨_, _⟩ | table | _
    · cases hdrop
    · cases hdrop
    · exact (hdrops before table reply after heq).1 rfl
    · cases hdrop
  · have hruns : ∃ error, Runs (runMssqlOutputOnServer ordersCreatePlan
        [.ok 2, .error (.other "reader failed")] .directRawBulk {} [])
        [⟨.lifecycle (.tableExists ⟨some "dbo", "orders"⟩), .ok false⟩,
          ⟨.lifecycle (.executeStatement ordersCreated), .ok ()⟩,
          ⟨.bulkWriter ⟨some "dbo", "orders"⟩ ordersCreatePlan.schemaMappings .directRawBulk,
            .ok ()⟩,
          ⟨.writeBatch ⟨some "dbo", "orders"⟩ 2, .ok ()⟩,
          ⟨.lifecycle (.executeStatement (.dropTable ⟨some "dbo", "orders"⟩)), .ok ()⟩]
        (.error error) :=
      ⟨_, .call (.call (.call (.call (.call (.refl _)))))⟩
    obtain ⟨error, hrun⟩ := hruns
    have hdrops := (sink_cleans_up_exactly_what_it_created ordersCreatePlan
      [.ok 2, .error (.other "reader failed")] .directRawBulk {} []).2.2 _ _ hrun
    exact ⟨_, _, hrun, ⟨error, rfl⟩, [_, _], _, rfl, rfl, (hdrops _ _ _ [] rfl).2⟩

end DeltaFunnel
