import DeltaFunnel.WriteAll.Execution
import DeltaFunnel.WriteAll.IssuedOperations

/-! What a `write_all` hands to its writer: the planned outputs in their order, each at most once,
up to the first that fails. -/

namespace DeltaFunnel
open Collections Interaction

variable {Provider Schema DataFrame Rows : Type}

/-- The targets of the outputs handed to the writer, in order. -/
def writtenTargets (trace : List (Event (sessionSignature Provider Schema DataFrame Rows))) :
    List MssqlTargetSummary := trace.filterMap fun event => SessionOp.writtenTarget event.op

/-- No output is handed to the writer, whatever the session answers. -/
def WritesNothing {α : Type} (p : SessionProgram Provider Schema DataFrame Rows α) : Prop :=
  p.Uses fun op => SessionOp.writtenTarget op = none

theorem writtenTargets_append
    (first second : List (Event (sessionSignature Provider Schema DataFrame Rows))) :
    writtenTargets (first ++ second) = writtenTargets first ++ writtenTargets second :=
  List.filterMap_append

theorem WritesNothing.writtenTargets_eq {α : Type}
    {p : SessionProgram Provider Schema DataFrame Rows α}
    {trace : List (Event (sessionSignature Provider Schema DataFrame Rows))} {a : α}
    (hp : WritesNothing p) (hruns : Runs p trace a) : writtenTargets trace = [] :=
  List.filterMap_eq_nil_iff.2 (Program.Uses.mem hp hruns)

theorem free_writesNothing {op : SessionOp Provider Schema DataFrame Rows} (hop : op.IsFree) :
    op.writtenTarget = none := by
  cases op with
  | writeOutput schema target stream => exact hop.elim
  | _ => rfl

theorem replaceable_writesNothing (name : String) :
    Replaceable (fun op : SessionOp Provider Schema DataFrame Rows => op.writtenTarget = none)
      name := ⟨rfl, fun _ => rfl⟩

section Catalog
variable (engine : QueryEngine Provider Schema DataFrame) (session : Session Provider Schema)

theorem replaceMssqlCacheAliasesFrom_writesNothing
    (replacements : List (MssqlScopedCacheAliasReplacement Provider))
    (cacheAliases : List MssqlDerivedCacheAliasPlan) :
    WritesNothing (session.replaceMssqlCacheAliasesFrom engine replacements cacheAliases :
      SessionProgram Provider Schema DataFrame Rows _) := by
  induction cacheAliases generalizing replacements with
  | nil => trivial
  | cons cacheAlias cacheAliases ih =>
    have hfailed : ∀ (source : DeltaFunnelError) (failedAlias : Option WriteAllCacheAliasReport),
        WritesNothing (do
          let error ← restoreCacheAliasesAfterFailure source replacements failedAlias
          return .error error : SessionProgram Provider Schema DataFrame Rows
            (Except DeltaFunnelError (List (MssqlScopedCacheAliasReplacement Provider)))) := by
      intro source failedAlias
      apply (restoreCacheAliasesAfterFailure_uses (fun _ _ => replaceable_writesNothing _) source
        failedAlias).bind
      intro error
      trivial
    unfold Session.replaceMssqlCacheAliasesFrom
    split
    · exact hfailed _ _
    · next registered hregistered =>
      split
      · exact hfailed _ _
      · have hid : session.registeredDerivedTableById registered.table.id = some registered := by
          rw [(Session.mem_of_registeredDerivedTableById hregistered).2]
          exact hregistered
        refine (replaceAttempt_uses (fun _ => free_writesNothing) hid (fun _ _ => rfl)
          (fun _ => replaceable_writesNothing _)).bind_except (fun _ => hfailed _ _) ?_
        intro replacement
        exact ih _

end Catalog

section Jobs
variable [ArrowSqlServer] {engine : QueryEngine Provider Schema DataFrame}
  {session : Session Provider Schema}

/-- One job for each output, whose query writes nothing. -/
structure JobsFor (plannedOutputs : List PlannedMssqlOutput)
    (jobs : List (MssqlOutputWriteJob (sessionSignature Provider Schema DataFrame Rows) Schema
      DataFrame)) : Prop where
  targets : jobs.map (·.target) = plannedOutputs.map (·.resolvedTarget.summary)
  queries : ∀ job ∈ jobs, WritesNothing job.createQueryExecution

theorem JobsFor.nil : JobsFor ([] : List PlannedMssqlOutput)
    ([] : List (MssqlOutputWriteJob (sessionSignature Provider Schema DataFrame Rows) Schema
      DataFrame)) := ⟨rfl, fun _ hjob => absurd hjob List.not_mem_nil⟩

theorem JobsFor.cons {planned : PlannedMssqlOutput} {plannedOutputs : List PlannedMssqlOutput}
    {jobs : List (MssqlOutputWriteJob (sessionSignature Provider Schema DataFrame Rows) Schema
      DataFrame)} (hjobs : JobsFor plannedOutputs jobs) (outputSchema : Schema)
    {createQueryExecution : SessionProgram Provider Schema DataFrame Rows
      (Except MssqlOutputQueryError (MssqlOutputQueryExecution DataFrame))}
    (hquery : WritesNothing createQueryExecution) :
    JobsFor (planned :: plannedOutputs)
      (Session.buildWriteAllJob planned outputSchema createQueryExecution :: jobs) where
  targets := by
    rw [List.map_cons, List.map_cons, hjobs.targets]
    rfl
  queries := by
    intro job hjob
    rcases List.mem_cons.1 hjob with rfl | hjob
    · exact hquery
    · exact hjobs.queries job hjob

theorem buildWriteAllUncachedJobs_jobsFor {setup : WriteAllSetup Provider Schema DataFrame}
    {plannedOutputs : List PlannedMssqlOutput}
    {jobs : List (MssqlOutputWriteJob (sessionSignature Provider Schema DataFrame Rows) Schema
      DataFrame)} (hjobs : setup.buildWriteAllUncachedJobs plannedOutputs = .ok jobs) :
    JobsFor plannedOutputs jobs := by
  induction plannedOutputs generalizing jobs with
  | nil =>
    obtain rfl := Except.ok.inj hjobs
    exact .nil
  | cons planned plannedOutputs ih =>
    unfold WriteAllSetup.buildWriteAllUncachedJobs at hjobs
    obtain ⟨outputSchema, -, hjobs⟩ := except_bind_eq_ok.1 hjobs
    obtain ⟨later, hlater, hjobs⟩ := except_bind_eq_ok.1 hjobs
    obtain rfl := Except.ok.inj hjobs
    exact (ih hlater).cons outputSchema 
      (queryExecution_uses (fun _ => free_writesNothing) fun _ _ => rfl)

theorem buildWriteAllCachedJobs_jobsFor {activeAliases : List MssqlDerivedCacheAliasPlan}
    {plannedOutputs : List PlannedMssqlOutput}
    {jobs : List (MssqlOutputWriteJob (sessionSignature Provider Schema DataFrame Rows) Schema
      DataFrame)}
    (hjobs : session.buildWriteAllCachedJobs engine activeAliases plannedOutputs = .ok jobs) :
    JobsFor plannedOutputs jobs := by
  induction plannedOutputs generalizing jobs with
  | nil =>
    obtain rfl := Except.ok.inj hjobs
    exact .nil
  | cons planned plannedOutputs ih =>
    unfold Session.buildWriteAllCachedJobs at hjobs
    obtain ⟨outputSchema, -, hjobs⟩ := except_bind_eq_ok.1 hjobs
    obtain ⟨factory, hfactory, hjobs⟩ := except_bind_eq_ok.1 hjobs
    obtain ⟨later, hlater, hjobs⟩ := except_bind_eq_ok.1 hjobs
    obtain rfl := Except.ok.inj hjobs
    exact (ih hlater).cons outputSchema 
      (cachedOutputQueryFactory_uses (fun _ => free_writesNothing) hfactory fun _ _ => rfl)

end Jobs

/-- What of the targets was handed to the writer, by the statuses of their outputs. -/
inductive OutputsWritten :
    List MssqlTargetSummary → List MssqlTargetSummary → List MssqlOutputWriteStatus → Prop
  | nil : OutputsWritten [] [] []
  | succeeded {target : MssqlTargetSummary} {targets written : List MssqlTargetSummary}
      {statuses : List MssqlOutputWriteStatus} (report : MssqlWriteReport) :
      OutputsWritten targets written statuses →
      OutputsWritten (target :: targets) (target :: written) (.succeeded report :: statuses)
  -- the query of the output failed, or its write
  | failed {written : List MssqlTargetSummary} (failure : MssqlWriteFailureReport)
      (skipped : List MssqlWriteSkippedReport) :
      written = [] ∨ written = [failure.target] →
      OutputsWritten (failure.target :: skipped.map (·.target)) written
        (.failed failure :: skipped.map .skipped)

theorem OutputsWritten.inOrder {targets written : List MssqlTargetSummary}
    {statuses : List MssqlOutputWriteStatus} (h : OutputsWritten targets written statuses) :
    written <+: targets := by
  induction h with
  | nil => exact List.nil_prefix
  | succeeded report _ ih => exact (List.prefix_cons_inj _).2 ih
  | failed failure skipped hwritten =>
    rcases hwritten with rfl | rfl
    · exact List.nil_prefix
    · exact ⟨skipped.map (·.target), rfl⟩

/-- What a route hands to the writer, and the workflow it reports: it stops before its first output,
or its outputs have these statuses. -/
def RouteWritten [ArrowSqlServer] (plannedOutputs : List PlannedMssqlOutput)
    (written : List MssqlTargetSummary)
    (workflow : Except DeltaFunnelError MssqlWorkflowWriteReport) : Prop :=
  (written = [] ∧ ∃ error, workflow = .error error) ∨
    ∃ statuses, OutputsWritten (plannedOutputs.map (·.resolvedTarget.summary)) written statuses ∧
      ∀ report, workflow = .ok report → report.outputs = statuses

theorem RouteWritten.inOrder [ArrowSqlServer] {plannedOutputs : List PlannedMssqlOutput}
    {written : List MssqlTargetSummary}
    {workflow : Except DeltaFunnelError MssqlWorkflowWriteReport}
    (h : RouteWritten plannedOutputs written workflow) :
    written <+: plannedOutputs.map (·.resolvedTarget.summary) := by
  obtain ⟨rfl, -⟩ | ⟨statuses, hwritten, -⟩ := h
  · exact List.nil_prefix
  · exact hwritten.inOrder

theorem RouteWritten.behind [ArrowSqlServer] {plannedOutputs : List PlannedMssqlOutput}
    {written : List MssqlTargetSummary}
    {workflow workflow' : Except DeltaFunnelError MssqlWorkflowWriteReport}
    (h : RouteWritten plannedOutputs written workflow)
    (hreported : ∀ report, workflow' = .ok report → workflow = .ok report) :
    RouteWritten plannedOutputs written workflow' := by
  obtain ⟨hwritten, error, herror⟩ | ⟨statuses, hwritten, hstatuses⟩ := h
  · refine .inl ⟨hwritten, ?_⟩
    cases workflow' with
    | error error' => exact ⟨error', rfl⟩
    | ok report =>
      have hok := hreported report rfl
      rw [herror] at hok
      cases hok
  · exact .inr ⟨statuses, hwritten, fun report hok => hstatuses report (hreported report hok)⟩

section Workflow
variable {trace : List (Event (sessionSignature Provider Schema DataFrame Rows))}
  {jobs : List (MssqlOutputWriteJob (sessionSignature Provider Schema DataFrame Rows) Schema
    DataFrame)} {reportsSqlWritePhase : Bool}

theorem writeMssqlOutputJob_written
    {job : MssqlOutputWriteJob (sessionSignature Provider Schema DataFrame Rows) Schema DataFrame}
    {status : MssqlOutputWriteStatus} (hquery : WritesNothing job.createQueryExecution)
    (hruns : Runs (writeMssqlOutputJob (Session.sessionWriter reportsSqlWritePhase) job) trace
      status) :
    (∃ report, status = .succeeded report ∧ writtenTargets trace = [job.target]) ∨
      ∃ failure, status = .failed failure ∧ failure.target = job.target ∧
        (writtenTargets trace = [] ∨ writtenTargets trace = [job.target]) := by
  unfold writeMssqlOutputJob at hruns
  obtain ⟨first, result, second, rfl, hfirst, hsecond⟩ := runs_bind.1 hruns
  have hnone := hquery.writtenTargets_eq hfirst
  rw [writtenTargets_append, hnone, List.nil_append]
  cases result with
  | error failure =>
    obtain ⟨rfl, rfl⟩ := runs_ret.1 hsecond
    exact .inr ⟨_, rfl, rfl, .inl rfl⟩
  | ok execution =>
    obtain ⟨reply, rest, rfl, hrest⟩ := runs_call.1 hsecond
    simp only [Program.bind] at hrest
    split at hrest
    · obtain ⟨rfl, rfl⟩ := runs_ret.1 hrest
      exact .inl ⟨_, rfl, rfl⟩
    · obtain ⟨rfl, rfl⟩ := runs_ret.1 hrest
      exact .inr ⟨_, rfl, rfl, .inr rfl⟩

theorem writeJobs_skips {failedOutputName : String} {statuses : List MssqlOutputWriteStatus}
    (hruns : Runs (writeJobs (Session.sessionWriter reportsSqlWritePhase) (some failedOutputName)
      jobs) trace statuses) :
    trace = [] ∧ statuses = jobs.map fun skipped => .skipped
      (.previousOutputFailed skipped.target failedOutputName skipped.phaseTimings) := by
  induction jobs generalizing trace statuses with
  | nil => exact runs_ret.1 hruns
  | cons job jobs ih =>
    obtain ⟨first, later, second, rfl, hlater, hresult⟩ := runs_bind.1 hruns
    obtain ⟨rfl, rfl⟩ := ih hlater
    obtain ⟨rfl, rfl⟩ := runs_ret.1 hresult
    exact ⟨rfl, rfl⟩

theorem writeJobs_written {statuses : List MssqlOutputWriteStatus}
    (hqueries : ∀ job ∈ jobs, WritesNothing job.createQueryExecution)
    (hruns : Runs (writeJobs (Session.sessionWriter reportsSqlWritePhase) none jobs) trace
      statuses) :
    OutputsWritten (jobs.map (·.target)) (writtenTargets trace) statuses := by
  induction jobs generalizing trace statuses with
  | nil =>
    obtain ⟨rfl, rfl⟩ := runs_ret.1 hruns
    exact .nil
  | cons job jobs ih =>
    obtain ⟨first, status, behind, rfl, hstatus, hbehind⟩ := runs_bind.1 hruns
    obtain ⟨second, later, third, rfl, hlater, hresult⟩ := runs_bind.1 hbehind
    obtain ⟨rfl, rfl⟩ := runs_ret.1 hresult
    have hlaterQueries : ∀ job ∈ jobs, WritesNothing job.createQueryExecution :=
      fun other hother => hqueries other (List.mem_cons_of_mem _ hother)
    rw [List.append_nil, writtenTargets_append, List.map_cons]
    obtain ⟨report, rfl, hwritten⟩ | ⟨failure, rfl, htarget, hwritten⟩ :=
      writeMssqlOutputJob_written (hqueries job (List.mem_cons_self ..)) hstatus
    · -- the jobs behind a success go on
      rw [hwritten, List.singleton_append]
      exact .succeeded report (ih hlaterQueries hlater)
    · -- behind a failure nothing is started
      obtain ⟨rfl, rfl⟩ := writeJobs_skips hlater
      have hnothing : writtenTargets ([] : List (Event (sessionSignature Provider Schema DataFrame
          Rows))) = [] := rfl
      rw [hnothing, List.append_nil]
      rw [← htarget] at hwritten ⊢
      have hskipped := OutputsWritten.failed failure (jobs.map fun skipped =>
        .previousOutputFailed skipped.target failure.target.outputName skipped.phaseTimings) hwritten
      rw [List.map_map, List.map_map] at hskipped
      exact hskipped

theorem writeMssqlOutputsWithWriter_written [ArrowSqlServer]
    {plannedOutputs : List PlannedMssqlOutput} {options : MssqlWorkflowWriteOptions}
    {result : Except DeltaFunnelError MssqlWorkflowWriteReport}
    (hjobs : JobsFor plannedOutputs jobs)
    (hruns : Runs (writeMssqlOutputsWithWriter jobs options
      (Session.sessionWriter reportsSqlWritePhase)) trace result) :
    RouteWritten plannedOutputs (writtenTargets trace) result := by
  unfold writeMssqlOutputsWithWriter at hruns
  split at hruns
  · obtain ⟨rfl, rfl⟩ := runs_ret.1 hruns
    exact .inl ⟨rfl, _, rfl⟩
  · obtain ⟨first, statuses, second, rfl, hfirst, hsecond⟩ := runs_bind.1 hruns
    obtain ⟨rfl, rfl⟩ := runs_ret.1 hsecond
    have hwritten := writeJobs_written hjobs.queries hfirst
    rw [hjobs.targets] at hwritten
    rw [List.append_nil]
    refine .inr ⟨statuses, hwritten, ?_⟩
    intro report hreport
    rw [← Except.ok.inj hreport]

end Workflow

section Routes
variable [ArrowSqlServer] {setup : WriteAllSetup Provider Schema DataFrame}
  {plannedOutputs : List PlannedMssqlOutput}
  {trace : List (Event (sessionSignature Provider Schema DataFrame Rows))}

theorem writeAllUncached_written {result : Except DeltaFunnelError MssqlWorkflowWriteReport}
    (hruns : Runs (setup.writeAllUncached plannedOutputs) trace result) :
    RouteWritten plannedOutputs (writtenTargets trace) result := by
  unfold WriteAllSetup.writeAllUncached at hruns
  split at hruns
  · obtain ⟨rfl, rfl⟩ := runs_ret.1 hruns
    exact .inl ⟨rfl, _, rfl⟩
  · next jobs hjobs =>
    exact writeMssqlOutputsWithWriter_written (buildWriteAllUncachedJobs_jobsFor hjobs) hruns

theorem writeAllCached_written {cacheAliases : List MssqlDerivedCacheAliasPlan}
    {result : Except DeltaFunnelError (MssqlWorkflowWriteReport × List WriteAllCacheAliasReport)}
    (hruns : Runs (setup.session.writeAllCached setup.engine plannedOutputs cacheAliases
      setup.workflowOptions setup.reportsSqlWritePhase) trace result) :
    RouteWritten plannedOutputs (writtenTargets trace) (result.map Prod.fst) := by
  have hreplaces : WritesNothing (setup.session.replaceMssqlCacheAliases setup.engine cacheAliases :
      SessionProgram Provider Schema DataFrame Rows _) :=
    replaceMssqlCacheAliasesFrom_writesNothing setup.engine setup.session [] cacheAliases
  obtain ⟨error, rfl, hreplaced⟩ | ⟨first, replacements, hfirst, hbuilt⟩ :=
    writeAllCached_cases hruns
  · exact .inl ⟨hreplaces.writtenTargets_eq hreplaced, error, rfl⟩
  · have hreplaced := hreplaces.writtenTargets_eq hfirst
    obtain ⟨buildError, error, last, rfl, rfl, hlast⟩ |
      ⟨jobs, writing, writeResult, last, restored, rfl, hjobs, hwriting, hlast, hreported⟩ := hbuilt
    · have hrestored := WritesNothing.writtenTargets_eq (restoreCacheAliasesAfterFailure_uses
        (fun _ _ => replaceable_writesNothing _) buildError none) hlast
      rw [writtenTargets_append, hreplaced, hrestored]
      exact .inl ⟨rfl, error, rfl⟩
    · have hrestored := WritesNothing.writtenTargets_eq
        (restoreMssqlCacheAliasesWithReports_uses fun _ _ => replaceable_writesNothing _) hlast
      rw [writtenTargets_append, writtenTargets_append, hreplaced, hrestored, List.nil_append,
        List.append_nil]
      have hwritten :=
        writeMssqlOutputsWithWriter_written (buildWriteAllCachedJobs_jobsFor hjobs) hwriting
      refine hwritten.behind ?_
      intro report hok
      cases result with
      | error error => cases hok
      | ok reported =>
        obtain rfl := Except.ok.inj hok
        exact hreported reported.1 reported.2 rfl

theorem executeRoute_written {cachePlan : Option MssqlOutputCachePlan}
    {result : Except DeltaFunnelError (MssqlWorkflowWriteReport × WriteAllCacheReport)}
    (hruns : Runs (setup.executeRoute plannedOutputs cachePlan) trace result) :
    RouteWritten plannedOutputs (writtenTargets trace) (result.map Prod.fst) := by
  have huncached : ∀ cache : WriteAllCacheReport,
      Runs (do
        let workflow ← setup.writeAllUncached plannedOutputs
        return workflow.map fun workflow => (workflow, cache) :
          SessionProgram Provider Schema DataFrame Rows _) trace result →
        RouteWritten plannedOutputs (writtenTargets trace) (result.map Prod.fst) := by
    intro cache huncached
    obtain ⟨first, workflow, second, rfl, hfirst, hsecond⟩ := runs_bind.1 huncached
    obtain ⟨rfl, rfl⟩ := runs_ret.1 hsecond
    rw [List.append_nil]
    have hwritten := writeAllUncached_written hfirst
    cases workflow with
    | error error => exact hwritten
    | ok workflow => exact hwritten
  unfold WriteAllSetup.executeRoute at hruns
  split at hruns
  · exact huncached _ hruns
  · split at hruns
    · exact huncached _ hruns
    · obtain ⟨first, executed, second, rfl, hfirst, hsecond⟩ := runs_bind.1 hruns
      obtain ⟨rfl, rfl⟩ := runs_ret.1 hsecond
      rw [List.append_nil]
      have hwritten := writeAllCached_written hfirst
      cases executed with
      | error error => exact hwritten
      | ok executed => exact hwritten

end Routes

section Acceptance
variable [ArrowSqlServer] (setup : WriteAllSetup Provider Schema DataFrame)

/-- Aliases are named, at least one, exactly where caching is explicit. -/
def WriteAllOptions.Usable (options : WriteAllOptions) : Prop :=
  options.cacheAliases ≠ some [] ∧
    (options.cacheMode = .explicit ↔ options.cacheAliases.isSome = true)

/-- What is decided before anything is done, in its order: the first refusal counts. -/
def WriteAllSetup.accept (requests : List OutputWritePlan) (options : WriteAllOptions) :
    Except DeltaFunnelError
      (List PlannedMssqlOutput × Option MssqlOutputCachePlan × PhaseTimingReport) := do
  validateWriteAllOptions options
  validateWriteAllRequests requests
  let plannedOutputs ← setup.planWriteOutputs requests
  let cachePlanned ← setup.planCache requests options
  return (plannedOutputs, cachePlanned)

/-- A `write_all` that is not refused. -/
structure WriteAllSetup.Accepts (requests : List OutputWritePlan) (options : WriteAllOptions)
    (plannedOutputs : List PlannedMssqlOutput) (cachePlan : Option MssqlOutputCachePlan)
    (cacheTiming : PhaseTimingReport) : Prop where
  usable : options.Usable
  unique : (requests.map (·.target.outputName)).Nodup
  executed : ∀ request ∈ requests, request.target.runMode = .execute
  planned : setup.planWriteOutputs requests = .ok plannedOutputs
  cachePlanned : setup.planCache requests options = .ok (cachePlan, cacheTiming)

omit [ArrowSqlServer] in
theorem validateWriteAllOptions_eq_ok {options : WriteAllOptions} :
    validateWriteAllOptions options = .ok () ↔ options.Usable := by
  obtain ⟨cacheMode, cacheAliases⟩ := options
  unfold validateWriteAllOptions WriteAllOptions.Usable
  dsimp only
  by_cases hempty : cacheAliases = some []
  · rw [if_pos hempty]
    exact iff_of_false nofun fun h => h.1 hempty
  · rw [if_neg hempty]
    cases cacheMode <;> cases cacheAliases <;> simp_all

omit [ArrowSqlServer] in
theorem uniqueOutputNamesFrom_eq_ok {names : List String} {requests : List OutputWritePlan} :
    uniqueOutputNamesFrom names requests = .ok () ↔
      (requests.map (·.target.outputName)).Nodup ∧
        ∀ request ∈ requests, request.target.outputName ∉ names := by
  induction requests generalizing names with
  | nil => exact iff_of_true rfl ⟨.nil, fun _ hrequest => absurd hrequest List.not_mem_nil⟩
  | cons request requests ih =>
    unfold uniqueOutputNamesFrom
    rw [List.map_cons, List.nodup_cons, List.forall_mem_cons]
    split
    · next hknown => exact iff_of_false nofun fun h => h.2.1 hknown
    · next hnew =>
      have hinsert : ∀ name, name ∈ BTreeSet.insert compare request.target.outputName names ↔
          name = request.target.outputName ∨ name ∈ names :=
        fun name => BTreeSet.mem_insert fun a b => Std.LawfulEqCmp.eq_of_compare
      rw [ih]
      constructor
      · rintro ⟨hnodup, hfresh⟩
        refine ⟨⟨?_, hnodup⟩, hnew, ?_⟩
        · intro hagain
          obtain ⟨other, hother, hname⟩ := List.mem_map.1 hagain
          exact hfresh other hother ((hinsert _).2 (.inl hname))
        · exact fun other hother hknown => hfresh other hother ((hinsert _).2 (.inr hknown))
      · rintro ⟨⟨hlater, hnodup⟩, -, hfresh⟩
        refine ⟨hnodup, ?_⟩
        intro other hother hknown
        rcases (hinsert _).1 hknown with hname | hknown
        · exact hlater (List.mem_map.2 ⟨other, hother, hname⟩)
        · exact hfresh other hother hknown

omit [ArrowSqlServer] in
theorem validateWriteAllRequests_eq_ok {requests : List OutputWritePlan} :
    validateWriteAllRequests requests = .ok () ↔
      (requests.map (·.target.outputName)).Nodup ∧
        ∀ request ∈ requests, request.target.runMode = .execute := by
  have hmode : ∀ mode : RunMode, ensureWriteAllExecuteRunMode mode = .ok () ↔ mode = .execute := by
    intro mode
    cases mode with
    | execute => exact iff_of_true rfl rfl
    | dryRun => exact iff_of_false nofun nofun
  have hunique : ensureUniqueWriteAllOutputNames requests = .ok () ↔
      (requests.map (·.target.outputName)).Nodup := by
    unfold ensureUniqueWriteAllOutputNames
    rw [uniqueOutputNamesFrom_eq_ok]
    exact and_iff_left fun _ _ => List.not_mem_nil
  rw [← hunique]
  unfold validateWriteAllRequests
  constructor
  · intro h
    obtain ⟨⟨⟩, hnames, hmodes⟩ := except_bind_eq_ok.1 h
    refine ⟨hnames, ?_⟩
    intro request hrequest
    exact (hmode _).1 (except_forM_eq_ok.1 hmodes request hrequest)
  · rintro ⟨hnames, hmodes⟩
    rw [hnames]
    exact except_forM_eq_ok.2 fun request hrequest => (hmode _).2 (hmodes request hrequest)

theorem accept_eq_ok {requests : List OutputWritePlan} {options : WriteAllOptions}
    {plannedOutputs : List PlannedMssqlOutput} {cachePlan : Option MssqlOutputCachePlan}
    {cacheTiming : PhaseTimingReport} :
    setup.accept requests options = .ok (plannedOutputs, cachePlan, cacheTiming) ↔
      setup.Accepts requests options plannedOutputs cachePlan cacheTiming := by
  unfold WriteAllSetup.accept
  constructor
  · intro h
    obtain ⟨⟨⟩, hoptions, h⟩ := except_bind_eq_ok.1 h
    obtain ⟨⟨⟩, hrequests, h⟩ := except_bind_eq_ok.1 h
    obtain ⟨planned, hplanned, h⟩ := except_bind_eq_ok.1 h
    obtain ⟨cachePlanned, hcache, h⟩ := except_bind_eq_ok.1 h
    obtain ⟨rfl, rfl⟩ := Prod.mk.inj (Except.ok.inj h)
    obtain ⟨hunique, hexecuted⟩ := validateWriteAllRequests_eq_ok.1 hrequests
    exact ⟨validateWriteAllOptions_eq_ok.1 hoptions, hunique, hexecuted, hplanned, hcache⟩
  · intro h
    rw [validateWriteAllOptions_eq_ok.2 h.usable,
      validateWriteAllRequests_eq_ok.2 ⟨h.unique, h.executed⟩, h.planned, h.cachePlanned]
    rfl

end Acceptance

section Run
variable [ArrowSqlServer] {setup : WriteAllSetup Provider Schema DataFrame}

theorem planOutput_outputName {request : OutputWritePlan} {planned : PlannedMssqlOutput}
    (h : setup.planOutput request = .ok planned) :
    planned.resolvedTarget.outputName = request.target.outputName := by
  unfold WriteAllSetup.planOutput at h
  obtain ⟨mappings, target, planned', hplannable, hfor, hok⟩ | ⟨-, error, herror, -⟩ :=
    planMssqlOutput_cases setup.planner setup.session setup.tableTimings setup.defaultConnection
      request
  · rw [hok] at h
    obtain rfl := Except.ok.inj h
    rw [hfor.resolved, hplannable.resolved]
    rfl
  · rw [herror] at h
    cases h

theorem planWriteOutputs_outputNames {requests : List OutputWritePlan}
    {plannedOutputs : List PlannedMssqlOutput}
    (h : setup.planWriteOutputs requests = .ok plannedOutputs) :
    plannedOutputs.map (·.resolvedTarget.outputName) = requests.map (·.target.outputName) := by
  unfold WriteAllSetup.planWriteOutputs at h
  induction requests generalizing plannedOutputs with
  | nil =>
    obtain rfl := Except.ok.inj h
    rfl
  | cons request requests ih =>
    rw [List.mapM_cons] at h
    obtain ⟨planned, hplanned, h⟩ := except_bind_eq_ok.1 h
    obtain ⟨later, hlater, h⟩ := except_bind_eq_ok.1 h
    obtain rfl := Except.ok.inj h
    rw [List.map_cons, List.map_cons, planOutput_outputName hplanned, ih hlater]

/-- What an accepted run hands to the writer, and what it reports. -/
structure WriteAllSetup.Writes (setup : WriteAllSetup Provider Schema DataFrame)
    (requests : List OutputWritePlan) (plannedOutputs : List PlannedMssqlOutput)
    (written : List MssqlTargetSummary) (result : Except DeltaFunnelError WriteAllReport) : Prop where
  named : plannedOutputs.map (·.resolvedTarget.outputName) = requests.map (·.target.outputName)
  onceEach : (written.map (·.outputName)).Nodup
  outputs : RouteWritten plannedOutputs written (result.map (·.workflow))
  sources : ∀ report, result = .ok report →
    setup.sourceReports plannedOutputs = .ok report.sources

theorem executeWriteAllWithWriter_eq (requests : List OutputWritePlan) (options : WriteAllOptions) :
    (setup.executeWriteAllWithWriter requests options :
      Program (sessionSignature Provider Schema DataFrame Rows) _) =
      match setup.accept requests options with
      | .error error => return .error error
      | .ok (plannedOutputs, cachePlan, cacheTiming) => do
        match ← setup.executeRoute plannedOutputs cachePlan with
        | .error error => return .error error
        | .ok executed => return setup.reportWriteAll plannedOutputs cacheTiming executed := by
  unfold WriteAllSetup.executeWriteAllWithWriter WriteAllSetup.runWriteAll WriteAllSetup.accept
  cases validateWriteAllOptions options with
  | error error => rfl
  | ok _ =>
    cases validateWriteAllRequests requests with
    | error error => rfl
    | ok _ =>
      cases setup.planWriteOutputs requests with
      | error error => rfl
      | ok plannedOutputs =>
        dsimp only
        cases hcache : setup.planCache requests options with
        | error error => rfl
        | ok cachePlanned => rfl

theorem acceptedRun_writes {requests : List OutputWritePlan} {options : WriteAllOptions}
    {plannedOutputs : List PlannedMssqlOutput} {cachePlan : Option MssqlOutputCachePlan}
    {cacheTiming : PhaseTimingReport}
    {trace : List (Event (sessionSignature Provider Schema DataFrame Rows))}
    {result : Except DeltaFunnelError WriteAllReport}
    (haccepts : setup.Accepts requests options plannedOutputs cachePlan cacheTiming)
    (hruns : Runs (do
      match ← setup.executeRoute plannedOutputs cachePlan with
      | .error error => return .error error
      | .ok executed => return setup.reportWriteAll plannedOutputs cacheTiming executed) trace
      result) :
    setup.Writes requests plannedOutputs (writtenTargets trace) result := by
  obtain ⟨first, executed, second, rfl, hfirst, hsecond⟩ := runs_bind.1 hruns
  have hroute := executeRoute_written hfirst
  have hnamed := planWriteOutputs_outputNames haccepts.planned
  -- names are unique among the requests, and written is a part of them in order
  have honce : ((writtenTargets first).map (·.outputName)).Nodup := by
    have hnames := hroute.inOrder.map (·.outputName)
    rw [List.map_map] at hnames
    have hnodup := haccepts.unique
    rw [← hnamed] at hnodup
    exact hnodup.sublist hnames.sublist
  cases executed with
  | error error =>
    obtain ⟨rfl, rfl⟩ := runs_ret.1 hsecond
    rw [List.append_nil]
    exact ⟨hnamed, honce, hroute, nofun⟩
  | ok executed =>
    obtain ⟨rfl, hresult⟩ := runs_ret.1 hsecond
    rw [List.append_nil]
    have hreported : ∀ report, result = .ok report → report.workflow = executed.1 ∧
        setup.sourceReports plannedOutputs = .ok report.sources := by
      intro report hreport
      rw [hreport] at hresult
      obtain ⟨sources, hsources, hmade⟩ := except_bind_eq_ok.1 hresult.symm
      obtain rfl := Except.ok.inj hmade
      exact ⟨rfl, hsources⟩
    refine ⟨hnamed, honce, hroute.behind ?_, fun report hreport => (hreported report hreport).2⟩
    intro workflow hworkflow
    cases result with
    | error error => cases hworkflow
    | ok report =>
      obtain rfl := Except.ok.inj hworkflow
      exact congrArg Except.ok (hreported report rfl).1.symm

end Run

def warehouseSetup : WriteAllSetup SampleTable Unit ℕ where
  engine := sampleEngine
  planner := ⟨fun _ => ["order_id"], fun _ => .ok [⟨0, "order_id", "Int64", false, "bigint"⟩]⟩
  session := Session.fresh.run layeredCalls
  tableTimings _ := []
  defaultConnection := some ⟨"Server=warehouse;Database=sales", some "warehouse-primary", by decide⟩
  workflowOptions := {}
  reportsSqlWritePhase := true

/-- The environment that caches every alias and loses the connection in one of the outputs. -/
def losingAnswer (lost : String) (s : ScopeState SampleTable)
    (op : SessionOp SampleTable Unit ℕ ℕ) : op.Reply :=
  match op with
  | .writeOutput schema target stream =>
    if target.outputName = lost then .error (.other "connection lost")
    else sampleAnswer ("cached_deep", 0) s (.writeOutput schema target stream)
  | op => sampleAnswer ("cached_deep", 0) s op

def warehouseRun (requests : List OutputWritePlan) :
    List (Event (sessionSignature SampleTable Unit ℕ ℕ)) × Except DeltaFunnelError WriteAllReport :=
  (catalogProtocol (refusing ("cached_deep", 0))).drive (losingAnswer "b")
    (@WriteAllSetup.executeWriteAllWithWriter acceptingDriver SampleTable Unit ℕ ℕ warehouseSetup
      requests ⟨.auto, none⟩)
    warehouseSetup.session.scopeState

end DeltaFunnel
