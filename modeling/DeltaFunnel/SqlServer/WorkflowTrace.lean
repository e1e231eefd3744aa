import DeltaFunnel.SqlServer.Workflow

/-! The calls of a multi-output workflow: which query factories and writers run, in which order,
and how the report follows from what they answer. -/

namespace DeltaFunnel
open Interaction

/-- The calls a workflow makes: the query factory of a job, and its writer. -/
inductive WorkflowOp (Schema Stream : Type) where
  | createQueryExecution (index : ℕ)
  | writeOutput (schema : Schema) (target : MssqlTargetSummary) (stream : Stream)

def WorkflowOp.Reply {Schema Stream : Type} : WorkflowOp Schema Stream → Type
  | .createQueryExecution _ => Except MssqlOutputQueryError (MssqlOutputQueryExecution Stream)
  | .writeOutput _ _ _ => Except DeltaFunnelError MssqlWriteReport

def workflowSignature (Schema Stream : Type) : Signature :=
  ⟨WorkflowOp Schema Stream, WorkflowOp.Reply⟩

abbrev WorkflowCall (Schema Stream : Type) : Type := Event (workflowSignature Schema Stream)

section Calls
variable {σ : Signature} {Schema Stream : Type}

def answerCall (jobs : List (MssqlOutputWriteJob σ Schema Stream))
    (writer : MssqlWorkflowOutputWriter σ Schema Stream) :
    (op : (workflowSignature Schema Stream).Op) →
      Program σ ((workflowSignature Schema Stream).Reply op)
  | .createQueryExecution index =>
    match jobs[index]? with
    | some job => job.createQueryExecution
    | none => .ret (.error ⟨.mssqlWorkflowPlanning "no such job", []⟩)
  | .writeOutput schema target stream => writer.writeOutput schema target stream

/-- The job with its query factory recorded as one call. -/
def MssqlOutputWriteJob.observed (job : MssqlOutputWriteJob σ Schema Stream) (index : ℕ) :
    MssqlOutputWriteJob (workflowSignature Schema Stream) Schema Stream where
  outputSchema := job.outputSchema
  target := job.target
  createQueryExecution := .perform (σ := workflowSignature Schema Stream)
    (WorkflowOp.createQueryExecution index)
  phaseTimings := job.phaseTimings

/-- The jobs numbered from `index` on, their query factories recorded. -/
def observedJobs (index : ℕ) : List (MssqlOutputWriteJob σ Schema Stream) →
    List (MssqlOutputWriteJob (workflowSignature Schema Stream) Schema Stream)
  | [] => []
  | job :: jobs => job.observed index :: observedJobs (index + 1) jobs

def MssqlWorkflowOutputWriter.observed (writer : MssqlWorkflowOutputWriter σ Schema Stream) :
    MssqlWorkflowOutputWriter (workflowSignature Schema Stream) Schema Stream where
  reportsSqlWritePhase := writer.reportsSqlWritePhase
  writeOutput := fun schema target stream => .perform (σ := workflowSignature Schema Stream)
    (WorkflowOp.writeOutput schema target stream)

/-- A run of the workflow seen through its calls: the same workflow over recorded jobs and a
recorded writer. -/
def observedWorkflow (jobs : List (MssqlOutputWriteJob σ Schema Stream))
    (options : MssqlWorkflowWriteOptions) (writer : MssqlWorkflowOutputWriter σ Schema Stream) :
    Program (workflowSignature Schema Stream) (Except DeltaFunnelError MssqlWorkflowWriteReport) :=
  writeMssqlOutputsWithWriter (observedJobs 0 jobs) options writer.observed

variable {jobs rest : List (MssqlOutputWriteJob σ Schema Stream)}
  {writer : MssqlWorkflowOutputWriter σ Schema Stream}

theorem answerCall_createQueryExecution {job : MssqlOutputWriteJob σ Schema Stream} {index : ℕ}
    (hjob : jobs[index]? = some job) :
    answerCall jobs writer (WorkflowOp.createQueryExecution index) = job.createQueryExecution := by
  show (match jobs[index]? with
    | some job => job.createQueryExecution
    | none => .ret (.error ⟨.mssqlWorkflowPlanning "no such job", []⟩)) = job.createQueryExecution
  rw [hjob]

theorem writeMssqlOutputJob_handle {job : MssqlOutputWriteJob σ Schema Stream} {index : ℕ}
    (hjob : jobs[index]? = some job) :
    (writeMssqlOutputJob writer.observed (job.observed index)).handle (answerCall jobs writer) =
      writeMssqlOutputJob writer job := by
  unfold writeMssqlOutputJob
  show (answerCall jobs writer (WorkflowOp.createQueryExecution index) >>= fun result =>
    Program.handle (answerCall jobs writer) _) = _
  rw [answerCall_createQueryExecution hjob]
  congr 1
  funext result
  rcases result with failure | execution
  · rfl
  · show (writer.writeOutput job.outputSchema job.target execution.stream >>= fun writeResult =>
      Program.handle (answerCall jobs writer) _) = _
    congr 1
    funext writeResult
    show Program.handle (answerCall jobs writer) ((Program.ret writeResult).bind _) = _
    simp only [Program.bind]
    rcases execution.attachProfile writeResult with error | report
    · rfl
    · rfl

theorem writeJobs_handle (before : List (MssqlOutputWriteJob σ Schema Stream))
    (hsplit : jobs = before ++ rest) (failedOutputName : Option String) :
    (writeJobs writer.observed failedOutputName (observedJobs before.length rest)).handle
      (answerCall jobs writer) = writeJobs writer failedOutputName rest := by
  induction rest generalizing before failedOutputName with
  | nil => rcases failedOutputName with _ | name <;> rfl
  | cons job rest ih =>
    have hjob : jobs[before.length]? = some job := by simp [hsplit]
    have hrest : ∀ name, (writeJobs writer.observed name
        (observedJobs (before.length + 1) rest)).handle (answerCall jobs writer) =
        writeJobs writer name rest := by
      intro name
      rw [← ih (before ++ [job]) (by simp [hsplit]) name]
      rw [List.length_append, List.length_singleton]
    rcases failedOutputName with _ | name
    · rw [observedJobs, writeJobs, Program.handle_bind, writeMssqlOutputJob_handle hjob, writeJobs]
      congr 1
      funext status
      rw [Program.handle_bind, hrest]
      rfl
    · rw [observedJobs, writeJobs, Program.handle_bind, hrest, writeJobs]
      rfl

theorem observedWorkflow_handle (options : MssqlWorkflowWriteOptions) :
    (observedWorkflow jobs options writer).handle (answerCall jobs writer) =
      writeMssqlOutputsWithWriter jobs options writer := by
  unfold observedWorkflow writeMssqlOutputsWithWriter
  split
  · rfl
  · rw [Program.handle_bind]
    have hjobs : (writeJobs writer.observed none (observedJobs 0 jobs)).handle
        (answerCall jobs writer) = writeJobs writer none jobs := writeJobs_handle [] rfl none
    rw [hjobs]
    rfl

/-- The calls for one attempted job, and the status they lead to. -/
inductive JobCalls (reportsSqlWritePhase : Bool) (job : MssqlOutputWriteJob σ Schema Stream)
    (index : ℕ) : List (WorkflowCall Schema Stream) → MssqlOutputWriteStatus → Prop
  | setupFailed (failure : MssqlOutputQueryError) :
      JobCalls reportsSqlWritePhase job index [⟨.createQueryExecution index, .error failure⟩]
        (.failed (.fromError job.target failure.error (streamSetupFailurePhaseTimings
          (job.phaseTimings ++ failure.queryPhaseTimings) (.failed outputStreamSetupPhase))))
  | succeeded (execution : MssqlOutputQueryExecution Stream)
      (writeResult : Except DeltaFunnelError MssqlWriteReport) (report : MssqlWriteReport)
      (hwritten : execution.attachProfile writeResult = .ok report) :
      JobCalls reportsSqlWritePhase job index [⟨.createQueryExecution index, .ok execution⟩,
          ⟨.writeOutput job.outputSchema job.target execution.stream, writeResult⟩]
        (.succeeded (report.withPhaseTimings (outputWritePhaseTimings
          (job.phaseTimings ++ execution.queryPhaseTimings) (.completed outputStreamSetupPhase)
          (sqlWriteTiming reportsSqlWritePhase (.ok report)))))
  | writeFailed (execution : MssqlOutputQueryExecution Stream)
      (writeResult : Except DeltaFunnelError MssqlWriteReport) (error : DeltaFunnelError)
      (hwritten : execution.attachProfile writeResult = .error error) :
      JobCalls reportsSqlWritePhase job index [⟨.createQueryExecution index, .ok execution⟩,
          ⟨.writeOutput job.outputSchema job.target execution.stream, writeResult⟩]
        (.failed (.fromError job.target error (outputWriteFailurePhaseTimings
          (job.phaseTimings ++ execution.queryPhaseTimings) (.completed outputStreamSetupPhase)
          (sqlWriteTiming reportsSqlWritePhase (.error error)))))

/-- The calls for a list of jobs, and the statuses they lead to: the first failure skips the
jobs after it. -/
inductive WorkflowCalls (reportsSqlWritePhase : Bool) :
    ℕ → List (MssqlOutputWriteJob σ Schema Stream) → List (WorkflowCall Schema Stream) →
      List MssqlOutputWriteStatus → Prop
  | nil (index : ℕ) : WorkflowCalls reportsSqlWritePhase index [] [] []
  | succeeded {index : ℕ} {job : MssqlOutputWriteJob σ Schema Stream}
      {jobs : List (MssqlOutputWriteJob σ Schema Stream)}
      {first rest : List (WorkflowCall Schema Stream)} {report : MssqlWriteReport}
      {statuses : List MssqlOutputWriteStatus}
      (head : JobCalls reportsSqlWritePhase job index first (.succeeded report))
      (tail : WorkflowCalls reportsSqlWritePhase (index + 1) jobs rest statuses) :
      WorkflowCalls reportsSqlWritePhase index (job :: jobs) (first ++ rest)
        (.succeeded report :: statuses)
  | failed {index : ℕ} {job : MssqlOutputWriteJob σ Schema Stream}
      {jobs : List (MssqlOutputWriteJob σ Schema Stream)}
      {calls : List (WorkflowCall Schema Stream)} {failure : MssqlWriteFailureReport}
      (head : JobCalls reportsSqlWritePhase job index calls (.failed failure)) :
      WorkflowCalls reportsSqlWritePhase index (job :: jobs) calls
        (.failed failure :: jobs.map fun skipped => .skipped
          (.previousOutputFailed skipped.target failure.target.outputName skipped.phaseTimings))

theorem writeMssqlOutputJob_calls {job : MssqlOutputWriteJob σ Schema Stream} {index : ℕ}
    {calls : List (WorkflowCall Schema Stream)} {status : MssqlOutputWriteStatus}
    (hruns : Runs (writeMssqlOutputJob writer.observed (job.observed index)) calls status) :
    JobCalls writer.reportsSqlWritePhase job index calls status := by
  obtain ⟨result, afterFactory, rfl, hrest⟩ := runs_call.1 hruns
  rcases result with failure | execution
  · obtain ⟨rfl, rfl⟩ := runs_ret.1 hrest
    exact .setupFailed failure
  · obtain ⟨writeResult, afterWrite, rfl, hreport⟩ := runs_call.1 hrest
    simp only [Program.bind] at hreport
    rcases hwritten : execution.attachProfile writeResult with error | report
    · rw [hwritten] at hreport
      obtain ⟨rfl, rfl⟩ := runs_ret.1 hreport
      exact .writeFailed execution writeResult error hwritten
    · rw [hwritten] at hreport
      obtain ⟨rfl, rfl⟩ := runs_ret.1 hreport
      exact .succeeded execution writeResult report hwritten

theorem writeJobs_skipped {failedOutputName : String} {index : ℕ}
    {calls : List (WorkflowCall Schema Stream)} {statuses : List MssqlOutputWriteStatus}
    (hruns : Runs (writeJobs writer.observed (some failedOutputName) (observedJobs index rest))
      calls statuses) :
    calls = [] ∧ statuses = rest.map fun skipped => .skipped
      (.previousOutputFailed skipped.target failedOutputName skipped.phaseTimings) := by
  induction rest generalizing index calls statuses with
  | nil => exact runs_ret.1 hruns
  | cons job rest ih =>
    obtain ⟨first, later, second, rfl, hlater, hresult⟩ := runs_bind.1 hruns
    obtain ⟨rfl, rfl⟩ := ih hlater
    obtain ⟨rfl, rfl⟩ := runs_ret.1 hresult
    exact ⟨rfl, rfl⟩

theorem JobCalls.not_skipped {reportsSqlWritePhase : Bool} {index : ℕ}
    {job : MssqlOutputWriteJob σ Schema Stream} {calls : List (WorkflowCall Schema Stream)}
    {skipped : MssqlWriteSkippedReport} :
    ¬JobCalls reportsSqlWritePhase job index calls (.skipped skipped) := nofun

theorem writeJobs_calls {index : ℕ} {calls : List (WorkflowCall Schema Stream)}
    {statuses : List MssqlOutputWriteStatus}
    (hruns : Runs (writeJobs writer.observed none (observedJobs index jobs)) calls statuses) :
    WorkflowCalls writer.reportsSqlWritePhase index jobs calls statuses := by
  induction jobs generalizing index calls statuses with
  | nil =>
    obtain ⟨rfl, rfl⟩ := runs_ret.1 hruns
    exact .nil index
  | cons job jobs ih =>
    obtain ⟨first, status, second, rfl, hstatus, hrest⟩ := runs_bind.1 hruns
    obtain ⟨third, later, fourth, rfl, hlater, hresult⟩ := runs_bind.1 hrest
    obtain ⟨rfl, rfl⟩ := runs_ret.1 hresult
    have hown := writeMssqlOutputJob_calls hstatus
    rw [List.append_nil]
    cases status with
    | succeeded report => exact .succeeded hown (ih hlater)
    | failed failure =>
      obtain ⟨rfl, rfl⟩ := writeJobs_skipped hlater
      rw [List.append_nil]
      exact .failed hown
    | skipped skipped => exact absurd hown JobCalls.not_skipped

/-- The jobs whose query factory was called, in call order. -/
def factoryCalls (calls : List (WorkflowCall Schema Stream)) : List ℕ :=
  calls.filterMap fun call => match call.op with
    | .createQueryExecution index => some index
    | .writeOutput _ _ _ => none

/-- The jobs whose query factory answered with an execution, in call order. -/
def startedExecutions (calls : List (WorkflowCall Schema Stream)) :
    List (ℕ × MssqlOutputQueryExecution Stream) :=
  calls.filterMap fun
    | ⟨.createQueryExecution index, .ok execution⟩ => some (index, execution)
    | _ => none

def writerCalls (calls : List (WorkflowCall Schema Stream)) :
    List (Schema × MssqlTargetSummary × Stream) :=
  calls.filterMap fun call => match call.op with
    | .createQueryExecution _ => none
    | .writeOutput schema target stream => some (schema, target, stream)

/-- Successes up to the first failure, if there is one, and only skipped outputs after it. -/
def StopsAtFailure (statuses : List MssqlOutputWriteStatus) : Prop :=
  ∃ (written : List MssqlWriteReport) (rest : List MssqlOutputWriteStatus),
    statuses = written.map .succeeded ++ rest ∧
      (rest = [] ∨ ∃ (failure : MssqlWriteFailureReport) (skipped : List MssqlWriteSkippedReport),
        rest = .failed failure :: skipped.map .skipped)

/-- The report and the calls of a run that stops at its first failure. -/
structure SequentialReport (reportsSqlWritePhase : Bool)
    (jobs : List (MssqlOutputWriteJob σ Schema Stream)) (calls : List (WorkflowCall Schema Stream))
    (report : MssqlWorkflowWriteReport) : Prop where
  oneStatusEach : report.outputs.length = jobs.length
  stopsAtFailure : StopsAtFailure report.outputs
  factoryOnce : ∀ index status, report.outputs[index]? = some status →
    (factoryCalls calls).count index = if status.isSkipped then 0 else 1
  factoriesInOrder : (factoryCalls calls).Pairwise (· < ·)
  writesInOrder : ((startedExecutions calls).map Prod.fst).Pairwise (· < ·)
  writesStarted : writerCalls calls = (startedExecutions calls).filterMap fun started =>
    jobs[started.1]?.map fun job => (job.outputSchema, job.target, started.2.stream)
  ownCalls : ∀ index job status, jobs[index]? = some job → report.outputs[index]? = some status →
    status.isSkipped = false → ∃ before own after, calls = before ++ own ++ after ∧
      JobCalls reportsSqlWritePhase job index own status ∧ (status.isFailed = true → after = [])
  skippedAfterFailure : ∀ (index : ℕ) (job : MssqlOutputWriteJob σ Schema Stream)
    (skipped : MssqlWriteSkippedReport), jobs[index]? = some job →
    report.outputs[index]? = some (.skipped skipped) →
      skipped.target = job.target ∧ skipped.outputRowCount = .unavailable ∧
      skipped.targetRowCount = .unavailable ∧ job.phaseTimings <+: skipped.phaseTimings ∧
      ∃ failedIndex failedJob failure, failedIndex < index ∧ jobs[failedIndex]? = some failedJob ∧
        report.outputs[failedIndex]? = some (.failed failure) ∧
        skipped.reason = .previousOutputFailed failedJob.target.outputName
  countsAdd : report.succeededCount + report.failedCount + report.skippedCount = jobs.length
  allSucceeded : report.allSucceeded = true ↔ report.failedCount = 0

section Reports
variable {reportsSqlWritePhase : Bool} {index : ℕ} {job : MssqlOutputWriteJob σ Schema Stream}
  {calls first second : List (WorkflowCall Schema Stream)} {status : MssqlOutputWriteStatus}
  {statuses : List MssqlOutputWriteStatus}

theorem factoryCalls_append :
    factoryCalls (first ++ second) = factoryCalls first ++ factoryCalls second :=
  List.filterMap_append

theorem startedExecutions_append :
    startedExecutions (first ++ second) = startedExecutions first ++ startedExecutions second :=
  List.filterMap_append

theorem writerCalls_append :
    writerCalls (first ++ second) = writerCalls first ++ writerCalls second :=
  List.filterMap_append

theorem startedExecutions_sublist :
    ((startedExecutions calls).map Prod.fst).Sublist (factoryCalls calls) := by
  induction calls with
  | nil => exact .slnil
  | cons call calls ih =>
    obtain ⟨op, reply⟩ := call
    cases op with
    | createQueryExecution at_ =>
      rcases (reply : Except MssqlOutputQueryError (MssqlOutputQueryExecution Stream)) with
        failure | execution
      · exact ih.cons at_
      · exact ih.cons_cons at_
    | writeOutput schema target stream => exact ih

theorem JobCalls.factoryCalls_eq (hcalls : JobCalls reportsSqlWritePhase job index calls status) :
    factoryCalls calls = [index] := by
  cases hcalls <;> rfl

theorem JobCalls.writerCalls_eq (hcalls : JobCalls reportsSqlWritePhase job index calls status) :
    writerCalls calls = (startedExecutions calls).map fun started =>
      (job.outputSchema, job.target, started.2.stream) := by
  cases hcalls <;> rfl

theorem JobCalls.started_index (hcalls : JobCalls reportsSqlWritePhase job index calls status) :
    ∀ started ∈ startedExecutions calls, started.1 = index := by
  intro started hstarted
  have hmem := startedExecutions_sublist.subset (List.mem_map_of_mem (f := Prod.fst) hstarted)
  rw [hcalls.factoryCalls_eq] at hmem
  exact List.mem_singleton.1 hmem

theorem JobCalls.failed_target {failure : MssqlWriteFailureReport}
    (hcalls : JobCalls reportsSqlWritePhase job index calls (.failed failure)) :
    failure.target = job.target := by
  cases hcalls <;> rfl

namespace WorkflowCalls

theorem length_eq (hcalls : WorkflowCalls reportsSqlWritePhase index jobs calls statuses) :
    statuses.length = jobs.length := by
  induction hcalls with
  | nil index => rfl
  | succeeded head tail ih => simp [ih]
  | failed head => simp

theorem stopsAtFailure (hcalls : WorkflowCalls reportsSqlWritePhase index jobs calls statuses) :
    StopsAtFailure statuses := by
  induction hcalls with
  | nil index => exact ⟨[], [], rfl, .inl rfl⟩
  | @succeeded index job jobs first rest report statuses head tail ih =>
    obtain ⟨written, rest, rfl, hrest⟩ := ih
    exact ⟨report :: written, rest, rfl, hrest⟩
  | @failed index job jobs calls failure head =>
    refine ⟨[], _, rfl, .inr ⟨failure, jobs.map fun skipped => .previousOutputFailed
      skipped.target failure.target.outputName skipped.phaseTimings, ?_⟩⟩
    rw [List.map_map]
    rfl

theorem index_le (hcalls : WorkflowCalls reportsSqlWritePhase index jobs calls statuses) :
    ∀ called ∈ factoryCalls calls, index ≤ called := by
  induction hcalls with
  | nil index => simp [factoryCalls]
  | succeeded head tail ih =>
    intro called hcalled
    rw [factoryCalls_append, head.factoryCalls_eq] at hcalled
    rcases List.mem_cons.1 hcalled with rfl | hcalled
    · exact Nat.le_refl called
    · exact Nat.le_of_succ_le (ih called hcalled)
  | failed head => simp [head.factoryCalls_eq]

theorem factoriesInOrder (hcalls : WorkflowCalls reportsSqlWritePhase index jobs calls statuses) :
    (factoryCalls calls).Pairwise (· < ·) := by
  induction hcalls with
  | nil index => exact .nil
  | succeeded head tail ih =>
    rw [factoryCalls_append, head.factoryCalls_eq]
    exact .cons tail.index_le ih
  | failed head => simp [head.factoryCalls_eq]

theorem factoryOnce (hcalls : WorkflowCalls reportsSqlWritePhase index jobs calls statuses)
    {position : ℕ} (hstatus : statuses[position]? = some status) :
    (factoryCalls calls).count (index + position) = if status.isSkipped then 0 else 1 := by
  induction hcalls generalizing position with
  | nil index => simp at hstatus
  | @succeeded index job jobs first rest report statuses head tail ih =>
    rw [factoryCalls_append, head.factoryCalls_eq, List.count_append]
    cases position with
    | zero =>
      obtain rfl : .succeeded report = status := by simpa using hstatus
      have hlater : index ∉ factoryCalls rest :=
        fun hmem => Nat.not_succ_le_self index (tail.index_le index hmem)
      simp [List.count_eq_zero_of_not_mem hlater, MssqlOutputWriteStatus.isSkipped]
    | succ position =>
      have hown : List.count (index + (position + 1)) [index] = 0 := by
        simp
      rw [hown, Nat.zero_add, Nat.add_comm position 1, ← Nat.add_assoc]
      exact ih (by simpa using hstatus)
  | @failed index job jobs calls failure head =>
    rw [head.factoryCalls_eq]
    cases position with
    | zero =>
      obtain rfl : .failed failure = status := by simpa using hstatus
      simp [MssqlOutputWriteStatus.isSkipped]
    | succ position =>
      simp only [List.getElem?_cons_succ, List.getElem?_map, Option.map_eq_some_iff] at hstatus
      obtain ⟨skipped, -, rfl⟩ := hstatus
      simp [MssqlOutputWriteStatus.isSkipped]

theorem writesStarted (hcalls : WorkflowCalls reportsSqlWritePhase index jobs calls statuses) :
    writerCalls calls = (startedExecutions calls).filterMap fun started =>
      jobs[started.1 - index]?.map fun job => (job.outputSchema, job.target, started.2.stream) := by
  have hown : ∀ {index : ℕ} {job : MssqlOutputWriteJob σ Schema Stream}
      {jobs : List (MssqlOutputWriteJob σ Schema Stream)}
      {calls : List (WorkflowCall Schema Stream)} {status : MssqlOutputWriteStatus},
      JobCalls reportsSqlWritePhase job index calls status →
      writerCalls calls = (startedExecutions calls).filterMap fun started =>
        (job :: jobs)[started.1 - index]?.map fun job =>
          (job.outputSchema, job.target, started.2.stream) := by
    intro index job jobs calls status head
    rw [head.writerCalls_eq, ← List.filterMap_eq_map]
    apply List.filterMap_congr
    intro started hstarted
    rw [head.started_index started hstarted]
    simp
  induction hcalls with
  | nil index => rfl
  | @succeeded index job jobs first rest report statuses head tail ih =>
    rw [writerCalls_append, startedExecutions_append, List.filterMap_append, ← hown head, ih]
    congr 1
    apply List.filterMap_congr
    intro started hstarted
    have hle : index + 1 ≤ started.1 := tail.index_le _
      (startedExecutions_sublist.subset (List.mem_map_of_mem hstarted))
    have hposition : started.1 - index = started.1 - (index + 1) + 1 := by omega
    rw [hposition, List.getElem?_cons_succ]
  | failed head => exact hown head

theorem ownCalls (hcalls : WorkflowCalls reportsSqlWritePhase index jobs calls statuses)
    {position : ℕ} (hjob : jobs[position]? = some job)
    (hstatus : statuses[position]? = some status) (hattempted : status.isSkipped = false) :
    ∃ before own after, calls = before ++ own ++ after ∧
      JobCalls reportsSqlWritePhase job (index + position) own status ∧
      (status.isFailed = true → after = []) := by
  induction hcalls generalizing position with
  | nil index => simp at hjob
  | @succeeded index headJob jobs first rest report statuses head tail ih =>
    cases position with
    | zero =>
      obtain rfl : headJob = job := by simpa using hjob
      obtain rfl : .succeeded report = status := by simpa using hstatus
      exact ⟨[], first, rest, rfl, head, nofun⟩
    | succ position =>
      obtain ⟨before, own, after, rfl, hown, hlast⟩ :=
        ih (by simpa using hjob) (by simpa using hstatus)
      refine ⟨first ++ before, own, after, by simp, ?_, hlast⟩
      rw [Nat.add_comm position 1, ← Nat.add_assoc]
      exact hown
  | @failed index headJob jobs calls failure head =>
    cases position with
    | zero =>
      obtain rfl : headJob = job := by simpa using hjob
      obtain rfl : .failed failure = status := by simpa using hstatus
      exact ⟨[], calls, [], by simp, head, fun _ => rfl⟩
    | succ position =>
      simp only [List.getElem?_cons_succ, List.getElem?_map, Option.map_eq_some_iff] at hstatus
      obtain ⟨skipped, -, rfl⟩ := hstatus
      simp [MssqlOutputWriteStatus.isSkipped] at hattempted

theorem skippedAfterFailure
    (hcalls : WorkflowCalls reportsSqlWritePhase index jobs calls statuses)
    {position : ℕ} {skipped : MssqlWriteSkippedReport} (hjob : jobs[position]? = some job)
    (hstatus : statuses[position]? = some (.skipped skipped)) :
    ∃ failedPosition failedJob failure, failedPosition < position ∧
      jobs[failedPosition]? = some failedJob ∧ statuses[failedPosition]? = some (.failed failure) ∧
      skipped = .previousOutputFailed job.target failedJob.target.outputName job.phaseTimings := by
  induction hcalls generalizing position with
  | nil index => simp at hjob
  | @succeeded index headJob jobs first rest report statuses head tail ih =>
    cases position with
    | zero => simp at hstatus
    | succ position =>
      obtain ⟨failedPosition, failedJob, failure, hlt, hfailedJob, hfailed, hskipped⟩ :=
        ih (by simpa using hjob) (by simpa using hstatus)
      exact ⟨failedPosition + 1, failedJob, failure, Nat.succ_lt_succ hlt, by simpa using hfailedJob,
        by simpa using hfailed, hskipped⟩
  | @failed index headJob jobs calls failure head =>
    cases position with
    | zero => simp at hstatus
    | succ position =>
      simp only [List.getElem?_cons_succ] at hjob
      simp only [List.getElem?_cons_succ, List.getElem?_map, hjob, Option.map_some,
        Option.some.injEq, MssqlOutputWriteStatus.skipped.injEq] at hstatus
      refine ⟨0, headJob, failure, Nat.succ_pos position, rfl, rfl, ?_⟩
      rw [← hstatus, head.failed_target]

end WorkflowCalls

theorem StopsAtFailure.countsAdd {report : MssqlWorkflowWriteReport}
    (hstops : StopsAtFailure report.outputs) :
    report.succeededCount + report.failedCount + report.skippedCount = report.outputs.length := by
  obtain ⟨written, rest, houtputs, hrest⟩ := hstops
  unfold MssqlWorkflowWriteReport.succeededCount MssqlWorkflowWriteReport.failedCount
    MssqlWorkflowWriteReport.skippedCount
  rw [houtputs]
  rcases hrest with rfl | ⟨failure, skipped, rfl⟩
  · simp [List.filter_map, Function.comp_def, MssqlOutputWriteStatus.isSucceeded,
      MssqlOutputWriteStatus.isFailed, MssqlOutputWriteStatus.isSkipped]
  · simp [List.filter_map, Function.comp_def, MssqlOutputWriteStatus.isSucceeded,
      MssqlOutputWriteStatus.isFailed, MssqlOutputWriteStatus.isSkipped]
    omega

theorem StopsAtFailure.allSucceeded_iff {report : MssqlWorkflowWriteReport}
    (hstops : StopsAtFailure report.outputs) :
    report.allSucceeded = true ↔ report.failedCount = 0 := by
  obtain ⟨written, rest, houtputs, hrest⟩ := hstops
  unfold MssqlWorkflowWriteReport.allSucceeded MssqlWorkflowWriteReport.failedCount
  rw [houtputs]
  rcases hrest with rfl | ⟨failure, skipped, rfl⟩
  · simp [List.filter_map, Function.comp_def, MssqlOutputWriteStatus.isSucceeded,
      MssqlOutputWriteStatus.isFailed]
  · simp [MssqlOutputWriteStatus.isSucceeded, MssqlOutputWriteStatus.isFailed]

theorem WorkflowCalls.sequentialReport
    (hcalls : WorkflowCalls reportsSqlWritePhase 0 jobs calls statuses) :
    SequentialReport reportsSqlWritePhase jobs calls ⟨statuses⟩ where
  oneStatusEach := hcalls.length_eq
  stopsAtFailure := hcalls.stopsAtFailure
  factoryOnce := fun position status hstatus => by
    have hcount := hcalls.factoryOnce hstatus
    rwa [Nat.zero_add] at hcount
  factoriesInOrder := hcalls.factoriesInOrder
  writesInOrder := hcalls.factoriesInOrder.sublist startedExecutions_sublist
  writesStarted := hcalls.writesStarted
  ownCalls := fun position job status hjob hstatus hattempted => by
    have hown := hcalls.ownCalls hjob hstatus hattempted
    rwa [Nat.zero_add] at hown
  skippedAfterFailure := fun position job skipped hjob hstatus => by
    obtain ⟨failedPosition, failedJob, failure, hlt, hfailedJob, hfailed, rfl⟩ :=
      hcalls.skippedAfterFailure hjob hstatus
    exact ⟨rfl, rfl, rfl, List.prefix_append _ _, failedPosition, failedJob, failure, hlt,
      hfailedJob, hfailed, rfl⟩
  countsAdd := hcalls.stopsAtFailure.countsAdd.trans hcalls.length_eq
  allSucceeded := hcalls.stopsAtFailure.allSucceeded_iff

/-- Whatever the query factories and the writer do, the workflow answers one status for each job
and starts nothing after the first failure. -/
theorem workflow_stops_at_first_failure {options : MssqlWorkflowWriteOptions}
    {trace : List (Event σ)} {result : Except DeltaFunnelError MssqlWorkflowWriteReport}
    (hvalid : options.validate = .ok ())
    (hruns : Runs (writeMssqlOutputsWithWriter jobs options writer) trace result) :
    ∃ calls report, result = .ok report ∧ Runs (observedWorkflow jobs options writer) calls result ∧
      Interaction.Expands (answerCall jobs writer) calls trace ∧
      SequentialReport writer.reportsSqlWritePhase jobs calls report := by
  rw [← observedWorkflow_handle] at hruns
  obtain ⟨calls, hobserved, hexpands⟩ := hruns.expands
  have hworkflow := hobserved
  unfold observedWorkflow writeMssqlOutputsWithWriter at hworkflow
  rw [hvalid] at hworkflow
  obtain ⟨first, statuses, second, rfl, hstatuses, hresult⟩ := runs_bind.1 hworkflow
  obtain ⟨rfl, rfl⟩ := runs_ret.1 hresult
  rw [List.append_nil] at hobserved hexpands
  exact ⟨first, ⟨statuses⟩, rfl, hobserved, hexpands,
    (writeJobs_calls hstatuses).sequentialReport⟩

end Reports
end Calls

def sampleJob (index : ℕ) (outputName : String) :
    MssqlOutputWriteJob (workflowSignature Unit Unit) Unit Unit :=
  { outputSchema := ()
    target := ⟨outputName, ⟨none, outputName⟩, .appendExisting, .contextDefault, ⟨none⟩⟩
    createQueryExecution := .perform (σ := workflowSignature Unit Unit)
      (WorkflowOp.createQueryExecution index)
    phaseTimings := [.completed "output_planning"] }

def sampleJobs : List (MssqlOutputWriteJob (workflowSignature Unit Unit) Unit Unit) :=
  [sampleJob 0 "orders", sampleJob 1 "lines", sampleJob 2 "totals"]

def sampleWriter : MssqlWorkflowOutputWriter (workflowSignature Unit Unit) Unit Unit :=
  ⟨true, fun schema target stream => .perform (σ := workflowSignature Unit Unit)
    (WorkflowOp.writeOutput schema target stream)⟩

def emptyWrite (target : MssqlTargetSummary) : MssqlWriteReport :=
  { outputName := target.outputName
    targetTable := target.table
    loadMode := target.loadMode
    connectionSource := target.connectionSource
    connection := target.connection
    outputSchema := []
    outputRowCount := .unavailable
    targetRowCountBeforeWrite := .unavailable
    targetRowCount := .unavailable
    validationStatus := .skipped .notExecuted
    batchShaping := .notStarted .notExecuted
    phaseTimings := []
    stats := ⟨target.outputName, 0, 0⟩
    partialWritePossible := false
    cleanup := .notApplicable }

/-- The first output is written, the second one has no query, the third one is never started. -/
def sampleCalls : List (WorkflowCall Unit Unit) :=
  [⟨.createQueryExecution 0, .ok ⟨(), [], none⟩⟩,
    ⟨.writeOutput () (sampleJob 0 "orders").target (), .ok (emptyWrite (sampleJob 0 "orders").target)⟩,
    ⟨.createQueryExecution 1, .error ⟨.mssqlWorkflowPlanning "no query", []⟩⟩]

theorem second_failure_skips_the_third :
    ∃ calls report result, result = .ok report ∧
      Runs (observedWorkflow sampleJobs {} sampleWriter) calls result ∧
      Interaction.Expands (answerCall sampleJobs sampleWriter) calls sampleCalls ∧
      SequentialReport true sampleJobs calls report := by
  have hruns : ∃ report, Runs (writeMssqlOutputsWithWriter sampleJobs {} sampleWriter) sampleCalls
      (.ok report) := ⟨_, .call (.call (.call (.refl _)))⟩
  obtain ⟨written, hruns⟩ := hruns
  obtain ⟨calls, report, hresult, hobserved, hexpands, hreport⟩ :=
    workflow_stops_at_first_failure rfl hruns
  exact ⟨calls, report, _, hresult, hobserved, hexpands, hreport⟩

end DeltaFunnel
