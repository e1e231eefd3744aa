import DeltaFunnel.SqlServer.Server
import DeltaFunnel.SqlServer.WriteAccounting
import Mathlib.Algebra.GroupWithZero.Nat

/-! The verdict of the row counts: for every load mode and validation mode, what the counts read
around a write say about it. -/

namespace DeltaFunnel
open Interaction Program

/-- The rows before and after the write, once every count that the load mode needs was read. A
table that the run created itself was empty before. -/
def neededCounts : LoadMode → List (Except MssqlTargetRowCountFailure ℕ) → Option (ℕ × ℕ)
  | .appendExisting, [.ok before, .ok after] => some (before, after)
  | .createAndLoad, [.ok after] => some (0, after)
  | .replace, [.ok after] => some (0, after)
  | _, _ => none

def CountsMatch (loadMode : LoadMode) (rows : ℕ)
    (counts : List (Except MssqlTargetRowCountFailure ℕ)) : Prop :=
  ∃ before after, neededCounts loadMode counts = some (before, after) ∧
    (after : ℤ) - (before : ℤ) = rows

def CountsDiffer (loadMode : LoadMode) (rows : ℕ)
    (counts : List (Except MssqlTargetRowCountFailure ℕ)) : Prop :=
  ∃ before after, neededCounts loadMode counts = some (before, after) ∧ after ≠ before + rows

theorem countsMatch_iff {loadMode : LoadMode} {rows before after : ℕ}
    {counts : List (Except MssqlTargetRowCountFailure ℕ)}
    (h : neededCounts loadMode counts = some (before, after)) :
    CountsMatch loadMode rows counts ↔ before ≤ after ∧ after - before = rows := by
  constructor
  · rintro ⟨before', after', hcounts, hdelta⟩
    obtain ⟨rfl, rfl⟩ := Prod.mk.inj (Option.some.inj (h.symm.trans hcounts))
    omega
  · intro hdelta
    exact ⟨before, after, h, by omega⟩

theorem countsDiffer_iff {loadMode : LoadMode} {rows before after : ℕ}
    {counts : List (Except MssqlTargetRowCountFailure ℕ)}
    (h : neededCounts loadMode counts = some (before, after)) :
    CountsDiffer loadMode rows counts ↔ ¬(before ≤ after ∧ after - before = rows) := by
  constructor
  · rintro ⟨before', after', hcounts, hdiffer⟩
    obtain ⟨rfl, rfl⟩ := Prod.mk.inj (Option.some.inj (h.symm.trans hcounts))
    omega
  · intro hdiffer
    exact ⟨before, after, h, by omega⟩

theorem not_countsMatch {loadMode : LoadMode} {rows : ℕ}
    {counts : List (Except MssqlTargetRowCountFailure ℕ)}
    (h : neededCounts loadMode counts = none) : ¬CountsMatch loadMode rows counts := by
  rintro ⟨before, after, hcounts, -⟩
  rw [h] at hcounts
  cases hcounts

theorem not_countsDiffer {loadMode : LoadMode} {rows : ℕ}
    {counts : List (Except MssqlTargetRowCountFailure ℕ)}
    (h : neededCounts loadMode counts = none) : ¬CountsDiffer loadMode rows counts := by
  rintro ⟨before, after, hcounts, -⟩
  rw [h] at hcounts
  cases hcounts

structure AcceptedVerdict (loadMode : LoadMode) (mode : TargetValidationMode) (rows : ℕ)
    (counts : List (Except MssqlTargetRowCountFailure ℕ)) (status : ValidationStatus) : Prop where
  passed : status = .passed ↔ mode ≠ .disabled ∧ CountsMatch loadMode rows counts
  disabled : ∀ reason, status = .disabled reason → mode = .disabled
  unavailable : ∀ reason, status = .unavailable reason → mode = .validateIfPossible ∧
    (∃ failure, .error failure ∈ counts) ∧ loadMode ≠ .replace
  required : mode = .require → status = .passed

/-- The phase and the validation status that an error reports. -/
def verdictOf (error : DeltaFunnelError) : Option (MssqlWritePhase × ValidationStatus) :=
  (failureContext error).map fun context => (context.phase, context.report.validationStatus)

def NotValidation (error : DeltaFunnelError) : Prop :=
  ∀ status, verdictOf error ≠ some (.validation, status)

theorem notValidation_of_phase {error : DeltaFunnelError} {context : MssqlWriteFailureContext}
    (hcontext : failureContext error = some context) (hphase : context.phase ≠ .validation) :
    NotValidation error := by
  intro status hverdict
  rw [verdictOf, hcontext] at hverdict
  exact hphase (Prod.mk.inj (Option.some.inj hverdict)).1

theorem notValidation_of_none {error : DeltaFunnelError} (hcontext : failureContext error = none) :
    NotValidation error := by
  intro status hverdict
  rw [verdictOf, hcontext] at hverdict
  cases hverdict

@[simp] theorem verdictOf_errorWithPhaseTimings (error : DeltaFunnelError)
    (timings : List PhaseTimingReport) :
    verdictOf (errorWithPhaseTimings error timings) = verdictOf error := by
  cases error <;> rfl

@[simp] theorem verdictOf_errorWithAppendedPhaseTimings (error : DeltaFunnelError)
    (timings : List PhaseTimingReport) :
    verdictOf (errorWithAppendedPhaseTimings error timings) = verdictOf error := by
  cases error <;> rfl

section Verdict
variable [ArrowSqlServer] {Batch : Type}

@[simp] theorem verdictOf_errorWithCleanup (plan : MssqlTargetOutputPlan)
    (error : DeltaFunnelError) (cleanup : MssqlTargetCleanupStatus) :
    verdictOf (errorWithCleanup plan error cleanup) = verdictOf error := by
  cases error <;> rfl

@[simp] theorem verdictOf_errorWithCleanupFailure (plan : MssqlTargetOutputPlan)
    (error cleanupError : DeltaFunnelError) :
    verdictOf (errorWithCleanupFailure plan error cleanupError) = verdictOf error := by
  cases error <;> rfl

theorem verdictOf_validationError (plan : MssqlTargetOutputPlan) (report : MssqlWriteReport)
    (message : String) :
    verdictOf (validationError plan report message) =
      some (.validation, report.validationStatus) := rfl

/-- A writer was initialized or used, or the stream was polled. -/
def startsWrite (trace : List (SinkEvent Batch)) : Bool :=
  trace.any fun
    | ⟨.initializeWriter _ _ _, _⟩ => true
    | ⟨.nextBatch _, _⟩ => true
    | ⟨.writeBatch _ _, _⟩ => true
    | ⟨.finish _, _⟩ => true
    | _ => false

theorem startsWrite_append {first second : List (SinkEvent Batch)} :
    startsWrite (first ++ second) = (startsWrite first || startsWrite second) :=
  List.any_append

theorem failAfterPreparation_verdict {α : Type} {plan : MssqlTargetOutputPlan}
    {target : MssqlPreparedTarget} {error : DeltaFunnelError} {trace : List (SinkEvent Batch)}
    {result : Except DeltaFunnelError α}
    (hruns : Runs (failAfterPreparation plan target error) trace result) :
    startsWrite trace = false ∧
      ∃ failed, result = .error failed ∧ verdictOf failed = verdictOf error := by
  obtain ⟨first, failed, second, rfl, hcleanup, hrest⟩ := runs_bind.1 hruns
  obtain ⟨rfl, rfl⟩ := runs_ret.1 hrest
  obtain ⟨reply, rest, rfl, hreply⟩ := runs_sinkCall.1 hcleanup
  rcases reply with cleanupError | cleanup
  · obtain ⟨rfl, rfl⟩ := runs_ret.1 hreply
    exact ⟨rfl, _, rfl, by simp⟩
  · obtain ⟨rfl, rfl⟩ := runs_ret.1 hreply
    exact ⟨rfl, _, rfl, by simp⟩

/-- The verdict on a write of `rows` rows, for the counts read. -/
inductive ValidationVerdict (loadMode : LoadMode) (mode : TargetValidationMode) (rows : ℕ)
    (counts : List (Except MssqlTargetRowCountFailure ℕ)) :
    Except DeltaFunnelError MssqlWriteReport → Prop
  | accepted {report : MssqlWriteReport}
      (hverdict : AcceptedVerdict loadMode mode rows counts report.validationStatus) :
      ValidationVerdict loadMode mode rows counts (.ok report)
  | rejected {error : DeltaFunnelError} {status : ValidationStatus}
      (hstatus : verdictOf error = some (.validation, status))
      (hfailed : status = .failed ↔ CountsDiffer loadMode rows counts) :
      ValidationVerdict loadMode mode rows counts (.error error)

/-- A needed count could not be read: the verdict stays open unless the mode or a replace
insists. -/
theorem ValidationVerdict.unread {plan : MssqlTargetOutputPlan} {mode : TargetValidationMode}
    (henabled : mode ≠ .disabled) {rows : ℕ}
    {counts : List (Except MssqlTargetRowCountFailure ℕ)}
    (hunread : neededCounts plan.loadMode counts = none)
    {failure : MssqlTargetRowCountFailure} (hfailure : .error failure ∈ counts)
    (report : MssqlWriteReport) (reason : ReportReasonCode) (message : String) :
    ValidationVerdict plan.loadMode mode rows counts
      (validationUnavailableOrRequiredFailure plan report reason (decide (mode = .require))
        message) := by
  unfold validationUnavailableOrRequiredFailure
  by_cases hrequired : mode = .require
  · simp only [hrequired, decide_true, unavailableOrRequiredStatus, if_true, true_or]
    refine .rejected (verdictOf_validationError ..) ?_
    exact iff_of_false nofun (not_countsDiffer hunread)
  · simp only [hrequired, decide_false, unavailableOrRequiredStatus, Bool.false_eq_true, if_false,
      false_or]
    split_ifs with hmode
    · refine .rejected (verdictOf_validationError ..) ?_
      exact iff_of_false nofun (not_countsDiffer hunread)
    · refine .accepted ⟨iff_of_false nofun fun h => not_countsMatch hunread h.2, nofun, ?_,
        fun h => absurd h hrequired⟩
      intro _ _
      refine ⟨?_, ⟨failure, hfailure⟩, hmode⟩
      cases mode with
      | disabled => exact absurd rfl henabled
      | validateIfPossible => rfl
      | require => exact absurd rfl hrequired

/-- The count before the write: what was read, and how it is remembered. -/
inductive CountedBefore (plan : MssqlTargetOutputPlan) (target : MssqlPreparedTarget)
    (mode : TargetValidationMode) :
    List (SinkEvent Batch) → Except DeltaFunnelError TargetRowCountBeforeWrite → Prop
  | skipped (hskip : mode = .disabled ∨ plan.loadMode ≠ .appendExisting) :
      CountedBefore plan target mode [] (.ok .notRequired)
  | read {rows : ℕ} (henabled : mode ≠ .disabled) (happend : plan.loadMode = .appendExisting) :
      CountedBefore plan target mode [⟨.targetRowCount plan target, .ok rows⟩] (.ok (.exact rows))
  | optional {failure : MssqlTargetRowCountFailure} (henabled : mode ≠ .disabled)
      (hoptional : mode ≠ .require) (happend : plan.loadMode = .appendExisting) :
      CountedBefore plan target mode [⟨.targetRowCount plan target, .error failure⟩]
        (.ok (.unavailable failure.reason failure.message))
  | required {failure : MssqlTargetRowCountFailure} (happend : plan.loadMode = .appendExisting) :
      CountedBefore plan target mode [⟨.targetRowCount plan target, .error failure⟩]
        (.error (preWriteRequiredValidationError plan target failure.reason failure.message))

theorem targetRowCountBeforeAppendWrite_counted {plan : MssqlTargetOutputPlan}
    {target : MssqlPreparedTarget} {validationOptions : ValidationOptions}
    {trace : List (SinkEvent Batch)} {result : Except DeltaFunnelError TargetRowCountBeforeWrite}
    (hruns : Runs (targetRowCountBeforeAppendWrite plan target validationOptions) trace result) :
    CountedBefore plan target validationOptions.targetValidationMode trace result := by
  unfold targetRowCountBeforeAppendWrite at hruns
  by_cases hskip : validationOptions.targetValidationMode = .disabled ∨
      plan.loadMode ≠ .appendExisting
  · rw [if_pos hskip] at hruns
    obtain ⟨rfl, rfl⟩ := runs_ret.1 hruns
    exact .skipped hskip
  · rw [if_neg hskip] at hruns
    obtain ⟨henabled, happend⟩ := not_or.1 hskip
    rw [not_not] at happend
    obtain ⟨reply, rest, rfl, hrest⟩ := runs_sinkCall.1 hruns
    rcases reply with failure | rows
    · dsimp only at hrest
      split_ifs at hrest with hrequired
      · obtain ⟨rfl, rfl⟩ := runs_ret.1 hrest
        exact .required happend
      · obtain ⟨rfl, rfl⟩ := runs_ret.1 hrest
        exact .optional henabled hrequired happend
    · obtain ⟨rfl, rfl⟩ := runs_ret.1 hrest
      exact .read henabled happend

/-- The counts of a write that is validated, and the verdict on it. -/
structure Validated (plan : MssqlTargetOutputPlan) (mode : TargetValidationMode) (rows : ℕ)
    (countTrace trace : List (SinkEvent Batch))
    (result : Except DeltaFunnelError MssqlWriteReport) : Prop where
  accepts : acceptedBatches trace = []
  verdict : ValidationVerdict plan.loadMode mode rows (rowCounts countTrace ++ rowCounts trace)
    result

theorem rowCounts_then_count (plan : MssqlTargetOutputPlan) (target : MssqlPreparedTarget)
    {countTrace : List (SinkEvent Batch)} {counts : List (Except MssqlTargetRowCountFailure ℕ)}
    (hcounts : rowCounts countTrace = counts) (reply : Except MssqlTargetRowCountFailure ℕ) :
    rowCounts countTrace ++
      rowCounts ([⟨.targetRowCount plan target, reply⟩] : List (SinkEvent Batch)) =
      counts ++ [reply] := by
  rw [hcounts]
  rfl

theorem validateAppendExistingTargetDelta_validated {plan : MssqlTargetOutputPlan}
    (happend : plan.loadMode = .appendExisting) {target : MssqlPreparedTarget}
    {report : MssqlWriteReport} {mode : TargetValidationMode} (henabled : mode ≠ .disabled)
    {rowsBefore outputRows : ℕ} {countTrace trace : List (SinkEvent Batch)}
    (hcounts : rowCounts countTrace = [.ok rowsBefore])
    {result : Except DeltaFunnelError MssqlWriteReport}
    (hruns : Runs (validateAppendExistingTargetDelta plan target report
      (decide (mode = .require)) (.exact rowsBefore) outputRows) trace result) :
    Validated plan mode outputRows countTrace trace result := by
  obtain ⟨reply, rest, rfl, hrest⟩ := runs_sinkCall.1 hruns
  -- the second count: not read, or read and compared with the rows written
  rcases reply with failure | rowsAfter
  · obtain ⟨rfl, rfl⟩ := runs_ret.1 hrest
    refine ⟨rfl, ?_⟩
    have hread := rowCounts_then_count plan target hcounts (.error failure)
    have hunread : neededCounts plan.loadMode [.ok rowsBefore, .error failure] = none := by
      rw [happend]
      rfl
    rw [hread]
    unfold targetDeltaValidationUnavailableOrRequiredFailure
    by_cases hrequired : mode = .require
    · simp only [hrequired, decide_true, unavailableOrRequiredStatus, if_true]
      refine .rejected (verdictOf_validationError ..) ?_
      exact iff_of_false nofun (not_countsDiffer hunread)
    · simp only [hrequired, decide_false, unavailableOrRequiredStatus, Bool.false_eq_true, if_false]
      refine .accepted ⟨iff_of_false nofun fun h => not_countsMatch hunread h.2, nofun, ?_,
        fun h => absurd h hrequired⟩
      intro _ _
      refine ⟨?_, ⟨failure, by simp⟩, by simp [happend]⟩
      cases mode with
      | disabled => exact absurd rfl henabled
      | validateIfPossible => rfl
      | require => exact absurd rfl hrequired
  · have hread := rowCounts_then_count plan target hcounts (.ok rowsAfter)
    have hneeded : neededCounts plan.loadMode [.ok rowsBefore, .ok rowsAfter] =
        some (rowsBefore, rowsAfter) := by
      rw [happend]
      rfl
    dsimp only at hrest
    split_ifs at hrest with hagree
    · obtain ⟨rfl, rfl⟩ := runs_ret.1 hrest
      refine ⟨rfl, ?_⟩
      rw [hread]
      refine .accepted ⟨iff_of_true rfl ⟨henabled, (countsMatch_iff hneeded).2 hagree⟩, nofun, nofun,
        fun _ => rfl⟩
    · obtain ⟨rfl, rfl⟩ := runs_ret.1 hrest
      refine ⟨rfl, ?_⟩
      rw [hread]
      exact .rejected (verdictOf_validationError ..)
        (iff_of_true rfl ((countsDiffer_iff hneeded).2 hagree))

theorem validateCreatedTargetRows_validated {plan : MssqlTargetOutputPlan}
    (hcreated : ∀ after, neededCounts plan.loadMode [.ok after] = some (0, after))
    (hunread : ∀ failure, neededCounts plan.loadMode [.error failure] = none)
    {target : MssqlPreparedTarget} {report : MssqlWriteReport} {mode : TargetValidationMode}
    (henabled : mode ≠ .disabled) {outputRows : ℕ} {countTrace trace : List (SinkEvent Batch)}
    (hcounts : rowCounts countTrace = []) {result : Except DeltaFunnelError MssqlWriteReport}
    (hruns : Runs (validateCreatedTargetRows plan target report (decide (mode = .require))
      outputRows) trace result) :
    Validated plan mode outputRows countTrace trace result := by
  obtain ⟨reply, rest, rfl, hrest⟩ := runs_sinkCall.1 hruns
  rcases reply with failure | targetRows
  · obtain ⟨rfl, rfl⟩ := runs_ret.1 hrest
    refine ⟨rfl, ?_⟩
    rw [rowCounts_then_count plan target hcounts (.error failure)]
    exact ValidationVerdict.unread henabled (hunread failure) (List.mem_singleton_self _) _ _ _
  · have hread := rowCounts_then_count plan target hcounts (.ok targetRows)
    dsimp only at hrest
    split_ifs at hrest with hagree
    · obtain ⟨rfl, rfl⟩ := runs_ret.1 hrest
      refine ⟨rfl, ?_⟩
      rw [hread]
      refine .accepted ⟨iff_of_true rfl ⟨henabled, (countsMatch_iff (hcreated _)).2 ?_⟩, nofun, nofun,
        fun _ => rfl⟩
      omega
    · obtain ⟨rfl, rfl⟩ := runs_ret.1 hrest
      refine ⟨rfl, ?_⟩
      rw [hread]
      refine .rejected (verdictOf_validationError ..)
        (iff_of_true rfl ((countsDiffer_iff (hcreated _)).2 ?_))
      omega

theorem validateWrittenTarget_validated {plan : MssqlTargetOutputPlan}
    {target : MssqlPreparedTarget} {report : MssqlWriteReport}
    {validationOptions : ValidationOptions} {before : TargetRowCountBeforeWrite} {outputRows : ℕ}
    (hrows : report.outputRowCount = .exact outputRows)
    {countTrace trace : List (SinkEvent Batch)} {result : Except DeltaFunnelError MssqlWriteReport}
    (hcount : CountedBefore plan target validationOptions.targetValidationMode countTrace
      (.ok before))
    (hruns : Runs (validateWrittenTarget plan target report validationOptions before) trace
      result) :
    Validated plan validationOptions.targetValidationMode outputRows countTrace trace result := by
  unfold validateWrittenTarget at hruns
  by_cases hdisabled : validationOptions.targetValidationMode = .disabled
  · -- Nothing is counted, and nothing is claimed; only a replace cannot go on without.
    have hcounts : rowCounts countTrace = [] := by
      cases hcount with
      | skipped _ => rfl
      | read henabled _ => exact absurd hdisabled henabled
      | optional henabled _ _ => exact absurd hdisabled henabled
    have hunread : neededCounts plan.loadMode [] = none := by
      cases plan.loadMode <;> rfl
    rw [if_pos hdisabled] at hruns
    split_ifs at hruns with hreplace
    · obtain ⟨rfl, rfl⟩ := runs_ret.1 hruns
      refine ⟨rfl, ?_⟩
      rw [hcounts]
      refine .rejected (verdictOf_validationError ..) ?_
      exact iff_of_false nofun (not_countsDiffer hunread)
    · obtain ⟨rfl, rfl⟩ := runs_ret.1 hruns
      refine ⟨rfl, ?_⟩
      rw [hcounts, hdisabled]
      exact .accepted ⟨iff_of_false nofun fun h => h.1 rfl, fun _ _ => rfl, nofun, nofun⟩
  · rw [if_neg hdisabled] at hruns
    -- the output counted its rows, so the target decides the verdict
    simp only [hrows, RowCount.exactValue_exact] at hruns
    cases hmode : plan.loadMode with
    | appendExisting =>
      simp only [hmode] at hruns
      cases hcount with
      | skipped hskip => exact absurd hmode (hskip.resolve_left hdisabled)
      | read henabled happend =>
        exact validateAppendExistingTargetDelta_validated happend henabled rfl hruns
      | @optional failure henabled hoptional happend =>
        obtain ⟨rfl, rfl⟩ := runs_ret.1 hruns
        have hunread : neededCounts plan.loadMode [.error failure] = none := by
          rw [happend]
          rfl
        exact ⟨rfl, .unread henabled hunread (List.mem_singleton_self _) _ _ _⟩
    | createAndLoad =>
      simp only [hmode] at hruns
      -- only an append counts before the write
      have hcounts : rowCounts countTrace = [] := by
        cases hcount with
        | skipped _ => rfl
        | read _ happend => simp [hmode] at happend
        | optional _ _ happend => simp [hmode] at happend
      refine validateCreatedTargetRows_validated ?_ ?_ hdisabled hcounts hruns
      · rw [hmode]
        exact fun _ => rfl
      · rw [hmode]
        exact fun _ => rfl
    | replace =>
      simp only [hmode] at hruns
      have hcounts : rowCounts countTrace = [] := by
        cases hcount with
        | skipped _ => rfl
        | read _ happend => simp [hmode] at happend
        | optional _ _ happend => simp [hmode] at happend
      refine validateCreatedTargetRows_validated ?_ ?_ hdisabled hcounts hruns
      · rw [hmode]
        exact fun _ => rfl
      · rw [hmode]
        exact fun _ => rfl

/-- The error of a failed call on the connection that leaves the run as it is. -/
def connectionError : SinkEvent Batch → Option DeltaFunnelError
  | ⟨.prepareTargetLifecycle _, .error error⟩ => some error
  | ⟨.enableBulkLoadTableLock _ _, .error error⟩ => some error
  | ⟨.initializeWriter _ _ _, .error error⟩ => some error
  | _ => none

/-- No call on the connection failed with a verdict of its own. -/
def NoForeignVerdict (trace : List (SinkEvent Batch)) : Prop :=
  ∀ e ∈ trace, ∀ error, connectionError e = some error → NotValidation error

theorem NoForeignVerdict.of_append {first second : List (SinkEvent Batch)}
    (h : NoForeignVerdict (first ++ second)) :
    NoForeignVerdict first ∧ NoForeignVerdict second :=
  ⟨fun e he => h e (List.mem_append_left _ he), fun e he => h e (List.mem_append_right _ he)⟩

theorem swapFailure_notValidation (plan : MssqlTargetOutputPlan) (report : MssqlWriteReport)
    (error : DeltaFunnelError) : NotValidation (swapFailure plan report error) := by
  intro status hverdict
  have hswap : verdictOf (swapFailure plan report error) =
      some (.swapTarget, report.validationStatus) := rfl
  rw [hswap] at hverdict
  cases hverdict

theorem swapReplaceTargetAfterValidation_verdict {plan : MssqlTargetOutputPlan}
    {target : MssqlPreparedTarget} {report : MssqlWriteReport} {locked : Bool}
    (hpassed : plan.loadMode = .replace → report.validationStatus = .passed)
    {trace : List (SinkEvent Batch)} {result : Except DeltaFunnelError MssqlWriteReport}
    (hruns : Runs (swapReplaceTargetAfterValidation plan target report locked) trace result) :
    rowCounts trace = [] ∧ acceptedBatches trace = [] ∧
      (∀ final, result = .ok final → final.validationStatus = report.validationStatus) ∧
      ∀ error, result = .error error → NotValidation error := by
  have hstaged : ∀ {trace : List (SinkEvent Batch)} {result},
      Runs (swapStagedTarget plan target report) trace result → rowCounts trace = [] ∧ acceptedBatches trace = [] ∧
      (∀ final, result = .ok final → final.validationStatus = report.validationStatus) ∧
      ∀ error, result = .error error → NotValidation error := by
    intro trace result hruns
    obtain ⟨reply, rest, rfl, hrest⟩ := runs_sinkCall.1 hruns
    rcases reply with error | _
    · obtain ⟨rfl, rfl⟩ := runs_ret.1 hrest
      refine ⟨rfl, rfl, (fun final hfinal => by cases hfinal), ?_⟩
      rintro _ ⟨⟩
      exact swapFailure_notValidation plan report error
    · obtain ⟨rfl, rfl⟩ := runs_ret.1 hrest
      refine ⟨rfl, rfl, ?_, fun error herror => by cases herror⟩
      rintro _ ⟨⟩
      rfl
  unfold swapReplaceTargetAfterValidation at hruns
  by_cases hreplace : plan.loadMode = .replace
  · rw [if_neg (not_not.2 hreplace), if_neg (not_not.2 (hpassed hreplace))] at hruns
    split_ifs at hruns
    · obtain ⟨reply, rest, rfl, hrest⟩ := runs_sinkCall.1 hruns
      rcases reply with error | _
      · obtain ⟨rfl, rfl⟩ := runs_ret.1 hrest
        refine ⟨rfl, rfl, (fun final hfinal => by cases hfinal), ?_⟩
        rintro _ ⟨⟩
        exact swapFailure_notValidation plan report error
      · obtain ⟨hcounts, haccepted, hresult⟩ := hstaged hrest
        exact ⟨hcounts, haccepted, hresult⟩
    · exact hstaged hruns
  · rw [if_pos hreplace] at hruns
    obtain ⟨rfl, rfl⟩ := runs_ret.1 hruns
    refine ⟨rfl, rfl, ?_, fun error herror => by cases herror⟩
    rintro _ ⟨⟩
    rfl

variable [RecordBatch Batch]

theorem WriteFailure.phase_ne_validation {plan : MssqlTargetOutputPlan}
    {writer : MssqlBulkLoadWriter} {stream : List (Except DeltaFunnelError Batch)}
    {accepted failing : List Batch} {tail : List (SinkEvent Batch)} {phase : MssqlWritePhase}
    (h : WriteFailure plan writer stream accepted tail phase failing) :
    phase ≠ .validation ∧ rowCounts tail = [] := by
  cases h with
  | poll => exact ⟨nofun, rfl⟩
  | schema => exact ⟨nofun, rfl⟩
  | write => exact ⟨nofun, rfl⟩
  | finalize => exact ⟨nofun, rfl⟩

omit [RecordBatch Batch] in
theorem rowCounts_acceptedEvents (writer : MssqlBulkLoadWriter) (batches : List Batch) :
    rowCounts (acceptedEvents writer batches) = [] := by
  induction batches with
  | nil => rfl
  | cons batch batches ih => exact ih

theorem writePreparedBatches_verdict {plan : MssqlTargetOutputPlan} {target : MssqlPreparedTarget}
    {stream : List (Except DeltaFunnelError Batch)} {options : MssqlWriteBackend}
    {trace : List (SinkEvent Batch)} {result : Except DeltaFunnelError MssqlWriteReport}
    (hruns : Runs (writePreparedBatches plan target stream options) trace result) :
    rowCounts trace = [] ∧
      ∀ error, result = .error error → NoForeignVerdict trace → NotValidation error := by
  obtain ⟨reply, rest, rfl, hrest⟩ := runs_sinkCall.1 hruns
  cases reply with
  | error source =>
    obtain ⟨rfl, rfl⟩ := runs_ret.1 hrest
    refine ⟨rfl, ?_⟩
    rintro _ ⟨⟩ hforeign status
    rw [verdictOf_errorWithPhaseTimings]
    exact hforeign _ (List.mem_singleton_self _) source rfl status
  | ok writer =>
    obtain ⟨first, written, second, rfl, hwrite, htail⟩ := runs_bind.1 hrest
    obtain ⟨accepted, tail, rfl, -, hends⟩ := writeMssqlBatchesWithWriter_ends hwrite
    cases hends with
    | completed hstream htotals =>
      obtain ⟨rfl, rfl⟩ := runs_ret.1 htail
      refine ⟨?_, fun error herror => by cases herror⟩
      show rowCounts (acceptedEvents writer accepted ++ _ ++ []) = []
      rw [List.append_nil, rowCounts_append, rowCounts_acceptedEvents]
      rfl
    | failed hcontext hfailure htotals =>
      obtain ⟨rfl, rfl⟩ := runs_ret.1 htail
      obtain ⟨hphase, hcounts⟩ := hfailure.phase_ne_validation
      refine ⟨?_, ?_⟩
      · show rowCounts (acceptedEvents writer accepted ++ tail ++ []) = []
        rw [List.append_nil, rowCounts_append, rowCounts_acceptedEvents, hcounts]
        rfl
      · rintro _ ⟨⟩ - status
        rw [verdictOf_errorWithPhaseTimings]
        exact notValidation_of_phase hcontext hphase status

/-- What the result of a run says, for the batches and the counts that its trace shows. -/
structure RunVerdict (plan : MssqlTargetOutputPlan) (mode : TargetValidationMode)
    (trace : List (SinkEvent Batch)) (result : Except DeltaFunnelError MssqlWriteReport) :
    Prop where
  accepted : ∀ report, result = .ok report →
    AcceptedVerdict plan.loadMode mode (rowSum (acceptedBatches trace)) (rowCounts trace)
      report.validationStatus
  rejected : NoForeignVerdict trace → ∀ error status, result = .error error →
    verdictOf error = some (.validation, status) →
    (status = .failed ↔
      CountsDiffer plan.loadMode (rowSum (acceptedBatches trace)) (rowCounts trace))
  first_count : mode = .require → plan.loadMode = .appendExisting →
    ∀ failure rest, rowCounts trace = .error failure :: rest → startsWrite trace = false

theorem RunVerdict.stopped {plan : MssqlTargetOutputPlan} {mode : TargetValidationMode}
    {trace : List (SinkEvent Batch)} {error : DeltaFunnelError}
    (hforeign : NoForeignVerdict trace → NotValidation error)
    (hwriter : startsWrite trace = false) : RunVerdict plan mode trace (.error error) where
  accepted := fun report hreport => by cases hreport
  rejected := by
    rintro hclean _ status ⟨⟩ hstatus
    exact absurd hstatus (hforeign hclean status)
  first_count := fun _ _ _ _ _ => hwriter

omit [RecordBatch Batch] in
theorem enableReplaceTableLock_verdict {plan : MssqlTargetOutputPlan} {target : MssqlPreparedTarget}
    {trace : List (SinkEvent Batch)} {result : Except DeltaFunnelError Bool}
    (hruns : Runs (enableReplaceTableLock plan target) trace result) :
    rowCounts trace = [] ∧ acceptedBatches trace = [] ∧ startsWrite trace = false ∧
      ∀ error, result = .error error → NoForeignVerdict trace → NotValidation error := by
  unfold enableReplaceTableLock at hruns
  split_ifs at hruns
  · obtain ⟨reply, rest, rfl, hrest⟩ := runs_call.1 hruns
    obtain ⟨rfl, rfl⟩ := runs_ret.1 hrest
    refine ⟨rfl, rfl, rfl, ?_⟩
    rintro error rfl hforeign
    exact hforeign _ (List.mem_singleton_self _) error rfl
  · obtain ⟨rfl, rfl⟩ := runs_ret.1 hruns
    exact ⟨rfl, rfl, rfl, fun error herror => by cases herror⟩

theorem RunVerdict.uncounted {plan : MssqlTargetOutputPlan} {target : MssqlPreparedTarget}
    {mode : TargetValidationMode} {lockTrace countTrace : List (SinkEvent Batch)}
    {error : DeltaFunnelError} (hcounts : rowCounts lockTrace = [])
    (hwriter : startsWrite lockTrace = false)
    (hcounted : CountedBefore plan target mode countTrace (.error error))
    (timings : List PhaseTimingReport) :
    RunVerdict plan mode (lockTrace ++ countTrace)
      (.error (errorWithPhaseTimings error timings)) := by
  cases hcounted with
  | @required failure happend =>
    have hread : rowCounts (lockTrace ++ [⟨.targetRowCount plan target, .error failure⟩]) =
        [.error failure] := by
      rw [rowCounts_append, hcounts]
      rfl
    refine ⟨(fun report hreport => by cases hreport), ?_, ?_⟩
    · rintro - _ status ⟨⟩ hstatus
      rw [verdictOf_errorWithPhaseTimings] at hstatus
      obtain ⟨-, rfl⟩ := Prod.mk.inj (Option.some.inj hstatus)
      rw [hread, happend]
      exact iff_of_false (fun h => by cases h) (not_countsDiffer rfl)
    · intro _ _ _ _ _
      rw [startsWrite_append, hwriter]
      rfl

omit [RecordBatch Batch] in
theorem CountedBefore.first_count {plan : MssqlTargetOutputPlan} {target : MssqlPreparedTarget}
    {mode : TargetValidationMode} {countTrace : List (SinkEvent Batch)}
    {before : TargetRowCountBeforeWrite}
    (hcounted : CountedBefore plan target mode countTrace (.ok before)) (hrequired : mode = .require)
    (happend : plan.loadMode = .appendExisting) (counts : List (Except MssqlTargetRowCountFailure ℕ))
    (failure : MssqlTargetRowCountFailure) (rest : List (Except MssqlTargetRowCountFailure ℕ)) :
    rowCounts countTrace ++ counts ≠ .error failure :: rest := by
  intro heq
  cases hcounted with
  | skipped hskip =>
    rcases hskip with hdisabled | hother
    · rw [hrequired] at hdisabled
      cases hdisabled
    · exact hother happend
  | read _ _ => cases heq
  | optional _ hoptional _ => exact hoptional hrequired

omit [ArrowSqlServer] in
theorem saturatingRowSum_of_le {stream : List (Except DeltaFunnelError Batch)} {batches : List Batch}
    (hrows : rowSum (okBatches stream) ≤ u64Max) (hstream : stream = batches.map .ok) :
    saturatingRowSum batches = rowSum batches := by
  have hok : okBatches (batches.map .ok) = batches := by
    have happend := okBatches_append_ok batches []
    rwa [List.append_nil, show okBatches [] = ([] : List Batch) from rfl, List.append_nil]
      at happend
  rw [hstream, hok] at hrows
  exact Nat.min_eq_left hrows

/-- Validation and swap behind a write of `batches`: the verdict is that on the counts of the whole
run. -/
theorem validatedWrite_verdict {plan : MssqlTargetOutputPlan} {target : MssqlPreparedTarget}
    {validationOptions : ValidationOptions} {before : TargetRowCountBeforeWrite} {locked : Bool}
    {report : MssqlWriteReport} {batches : List Batch}
    (hrows : report.outputRowCount = .exact (rowSum batches))
    {countTrace front trace : List (SinkEvent Batch)}
    (hcounted : CountedBefore plan target validationOptions.targetValidationMode countTrace
      (.ok before))
    (hcounts : rowCounts front = rowCounts countTrace) (haccepted : acceptedBatches front = batches)
    {result : Except DeltaFunnelError MssqlWriteReport}
    (hruns : Runs (do
      match ← validateWrittenTarget plan target report validationOptions before with
      | .error error => return .error error
      | .ok report => swapReplaceTargetAfterValidation plan target report locked) trace result) :
    RunVerdict plan validationOptions.targetValidationMode (front ++ trace) result := by
  obtain ⟨validateTrace, validated, swapTrace, rfl, hvalidate, hruns⟩ := runs_bind.1 hruns
  obtain ⟨hvalidateAccepted, hverdict⟩ := validateWrittenTarget_validated hrows hcounted hvalidate
  have hreplacePassed := (validateWrittenTarget_runs hvalidate).2
  -- the calls of the validation and the swap write no batch, and the swap counts nothing
  have hallAccepted : ∀ tail, acceptedBatches tail = [] →
      acceptedBatches (front ++ (validateTrace ++ tail)) = batches := by
    intro tail htail
    simp [haccepted, hvalidateAccepted, htail]
  have hallCounts : ∀ tail, rowCounts tail = [] → rowCounts (front ++ (validateTrace ++ tail)) =
      rowCounts countTrace ++ rowCounts validateTrace := by
    intro tail htail
    simp [hcounts, htail]
  have hfirst : ∀ tail, rowCounts tail = [] →
      validationOptions.targetValidationMode = .require → plan.loadMode = .appendExisting →
      ∀ failure rest, rowCounts (front ++ (validateTrace ++ tail)) = .error failure :: rest →
        startsWrite (front ++ (validateTrace ++ tail)) = false := by
    intro tail htail hrequired happend failure rest heq
    rw [hallCounts tail htail] at heq
    exact absurd heq (hcounted.first_count hrequired happend _ failure rest)
  cases hverdict with
  | @rejected error status hstatus hfailed =>
    obtain ⟨rfl, rfl⟩ := runs_ret.1 hruns
    rw [← hallAccepted [] rfl, ← hallCounts [] rfl] at hfailed
    refine ⟨(fun report hreport => by cases hreport), ?_, hfirst [] rfl⟩
    rintro - _ status' ⟨⟩ hstatus'
    obtain ⟨-, rfl⟩ := Prod.mk.inj (Option.some.inj (hstatus.symm.trans hstatus'))
    exact hfailed
  | @accepted validReport hverdict =>
    -- a swap that fails reports an error of its own phase, and one that succeeds keeps the status
    have hpassed : plan.loadMode = .replace → validReport.validationStatus = .passed :=
      fun hreplace => (hreplacePassed hreplace validReport rfl).2.1
    obtain ⟨hswapCounts, hswapAccepted, hswapOk, hswapError⟩ :=
      swapReplaceTargetAfterValidation_verdict hpassed hruns
    rw [← hallAccepted _ hswapAccepted, ← hallCounts _ hswapCounts] at hverdict
    refine ⟨?_, ?_, hfirst _ hswapCounts⟩
    · intro final hfinal
      rw [hswapOk final hfinal]
      exact hverdict
    · intro _ error status herror hstatus
      exact absurd hstatus (hswapError error herror status)

theorem runPreparedOutput_verdict {plan : MssqlTargetOutputPlan} {target : MssqlPreparedTarget}
    {stream : List (Except DeltaFunnelError Batch)} {options : MssqlWriteBackend}
    {validationOptions : ValidationOptions} {phaseTimings : List PhaseTimingReport}
    (hrows : rowSum (okBatches stream) ≤ u64Max)
    {trace : List (SinkEvent Batch)} {result : Except DeltaFunnelError MssqlWriteReport}
    (hruns : Runs (runPreparedOutput plan target stream options validationOptions phaseTimings)
      trace result) :
    RunVerdict plan validationOptions.targetValidationMode trace result := by
  obtain ⟨lockTrace, lockResult, afterLock, rfl, hlock, hruns⟩ := runs_bind.1 hruns
  obtain ⟨hlockCounts, hlockAccepted, hlockWriter, hlockError⟩ :=
    enableReplaceTableLock_verdict hlock
  rcases lockResult with error | locked
  · obtain ⟨rfl, rfl⟩ := runs_ret.1 hruns
    rw [List.append_nil]
    refine .stopped (fun hforeign status => ?_) hlockWriter
    rw [verdictOf_errorWithPhaseTimings]
    exact hlockError error rfl hforeign status
  obtain ⟨countTrace, countResult, afterCount, rfl, hcount, hruns⟩ := runs_bind.1 hruns
  have hcounted := targetRowCountBeforeAppendWrite_counted hcount
  rcases countResult with error | rowsBefore
  · obtain ⟨rfl, rfl⟩ := runs_ret.1 hruns
    rw [List.append_nil]
    exact .uncounted hlockCounts hlockWriter hcounted _
  have hcountAccepted : acceptedBatches countTrace = [] := by
    cases hcounted <;> rfl
  obtain ⟨writeTrace, writeResult, afterWrite, rfl, hwrite, hruns⟩ := runs_bind.1 hruns
  obtain ⟨hwriteCounts, hwriteError⟩ := writePreparedBatches_verdict hwrite
  rcases writeResult with error | report
  · obtain ⟨rfl, rfl⟩ := runs_ret.1 hruns
    refine ⟨(fun report hreport => by cases hreport), ?_, ?_⟩
    · rintro hforeign _ status ⟨⟩ hstatus
      rw [verdictOf_errorWithPhaseTimings] at hstatus
      rw [List.append_nil] at hforeign
      have hclean := hforeign.of_append.2.of_append.2
      exact absurd hstatus (hwriteError error rfl hclean status)
    · intro hrequired happend failure rest heq
      rw [rowCounts_append, hlockCounts, rowCounts_append] at heq
      exact absurd heq (hcounted.first_count hrequired happend _ failure rest)
  · obtain ⟨writer, batches, hstream, -, hwritten, hexact⟩ :=
      (writePreparedBatches_runs hwrite).2 report rfl
    have hbatches : acceptedBatches writeTrace = batches := by
      rw [hwritten, acceptedBatches_writtenTrace]
    rw [saturatingRowSum_of_le hrows hstream] at hexact
    have hreportRows : ((report.withCleanup target.report.cleanup).withPhaseTimings
        (phaseTimings ++ [.completed "prepare_target_lifecycle"])).outputRowCount =
        .exact (rowSum batches) := hexact
    -- the write itself counts nothing, so the counts before it are those before the validation
    have hfrontCounts : rowCounts (lockTrace ++ (countTrace ++ writeTrace)) =
        rowCounts countTrace := by
      simp [hlockCounts, hwriteCounts]
    have hfrontAccepted : acceptedBatches (lockTrace ++ (countTrace ++ writeTrace)) = batches := by
      simp [hlockAccepted, hcountAccepted, hbatches]
    have hverdict := validatedWrite_verdict hreportRows hcounted hfrontCounts hfrontAccepted hruns
    rwa [List.append_assoc, List.append_assoc] at hverdict

section Client
omit [RecordBatch Batch]

def Unjudged {α : Type} (reply : Except DeltaFunnelError α) : Prop :=
  ∀ error, reply = .error error → NotValidation error

omit [ArrowSqlServer] in
theorem unjudged_ok {α : Type} (a : α) : Unjudged (.ok a : Except DeltaFunnelError α) :=
  fun error herror => by cases herror

omit [ArrowSqlServer] in
theorem unjudged_error {α : Type} {error : DeltaFunnelError} (h : NotValidation error) :
    Unjudged (.error error : Except DeltaFunnelError α) := by
  rintro _ ⟨⟩
  exact h

omit [ArrowSqlServer] in
theorem unjudged_bind {α β : Type} {x : Except DeltaFunnelError α}
    {f : α → Except DeltaFunnelError β} (hx : Unjudged x) (hf : ∀ a, Unjudged (f a)) :
    Unjudged (x >>= f) := by
  cases x with
  | error error => exact unjudged_error (hx error rfl)
  | ok a => exact hf a

theorem tableNameFromTarget_unjudged (outputName : String) (table : MssqlTargetTable) :
    Unjudged (tableNameFromTarget outputName table) := by
  unfold tableNameFromTarget
  split
  · exact unjudged_ok _
  · exact unjudged_error (notValidation_of_none rfl)

theorem checkedTableName_unjudged (plan : MssqlTargetOutputPlan) (mode : LoadMode)
    (message : String) (guardrails : List MssqlLifecycleExecutionGuardrail) :
    Unjudged (checkedTableName plan (ensureLoadMode plan mode message) guardrails) := by
  have hmode : Unjudged (ensureLoadMode plan mode message) := by
    unfold ensureLoadMode
    split_ifs
    · exact unjudged_ok _
    · exact unjudged_error (notValidation_of_none rfl)
  have hguardrails : Unjudged (guardrails.forM (ensureLifecycleGuardrail plan)) := by
    induction guardrails with
    | nil => exact unjudged_ok ()
    | cons guardrail guardrails ih =>
      refine unjudged_bind ?_ fun _ => ih
      unfold ensureLifecycleGuardrail
      split_ifs
      · exact unjudged_ok _
      · exact unjudged_error (notValidation_of_none rfl)
  exact unjudged_bind hmode fun _ => unjudged_bind hguardrails fun _ =>
    tableNameFromTarget_unjudged _ _

theorem fromTableName_unjudged (plan : MssqlTargetOutputPlan) (tableName : TableName)
    (action : MssqlPreparedTargetAction) :
    Unjudged (MssqlPreparedTarget.fromTableName plan tableName action) := by
  have haction : Unjudged (ensureActionMatchesLoadMode plan action) := by
    unfold ensureActionMatchesLoadMode
    split_ifs
    · exact unjudged_ok _
    · exact unjudged_error (notValidation_of_none rfl)
  exact unjudged_bind (unjudged_bind haction fun _ => unjudged_ok _) fun _ => unjudged_ok _

theorem fromOutputPlan_unjudged (plan : MssqlTargetOutputPlan)
    (action : MssqlPreparedTargetAction) :
    Unjudged (MssqlPreparedTarget.fromOutputPlan plan action) :=
  unjudged_bind (tableNameFromTarget_unjudged _ _) fun name => fromTableName_unjudged plan name action

theorem prepareTargetLifecycleError_unjudged {α : Type} (plan : MssqlTargetOutputPlan)
    (message : String) :
    Unjudged (.error (prepareTargetLifecycleError plan message) : Except DeltaFunnelError α) :=
  unjudged_error (notValidation_of_phase rfl fun h => by cases h)

theorem availableReplaceStagingTable_unjudged (plan : MssqlTargetOutputPlan) :
    (availableReplaceStagingTable plan).Returns Unjudged := by
  unfold availableReplaceStagingTable
  generalize List.range 100 = attempts
  induction attempts with
  | nil => exact prepareTargetLifecycleError_unjudged plan _
  | cons attempt attempts ih =>
    unfold availableReplaceTable
    split
    · next error hcandidate =>
      unfold replaceStagingTableName replaceAuxiliaryTableName at hcandidate
      dsimp only at hcandidate
      split at hcandidate
      · cases hcandidate
      · cases hcandidate
        exact unjudged_error (notValidation_of_none rfl)
    · intro reply
      match reply with
      | .error source => exact prepareTargetLifecycleError_unjudged plan _
      | .ok false => exact unjudged_ok _
      | .ok true => exact ih

theorem prepareMssqlTargetLifecycle_unjudged (plan : MssqlTargetOutputPlan) :
    (prepareMssqlTargetLifecycle plan).Returns Unjudged := by
  have hchecked := checkedTableName_unjudged plan
  unfold prepareMssqlTargetLifecycle
  split
  · unfold prepareMssqlAppendExistingTarget
    split
    · next error heq => exact unjudged_error (hchecked _ _ _ error heq)
    · intro reply
      match reply with
      | .error source => exact prepareTargetLifecycleError_unjudged plan _
      | .ok false => exact prepareTargetLifecycleError_unjudged plan _
      | .ok true => exact fromOutputPlan_unjudged plan _
  · unfold prepareMssqlCreateAndLoadTarget
    split
    · next error heq => exact unjudged_error (hchecked _ _ _ error heq)
    · intro reply
      match reply with
      | .error source => exact prepareTargetLifecycleError_unjudged plan _
      | .ok true => exact prepareTargetLifecycleError_unjudged plan _
      | .ok false =>
        rcases hsql : plan.createTableSql with _ | createTableSql
        · exact prepareTargetLifecycleError_unjudged plan _
        · intro reply
          match reply with
          | .error source => exact prepareTargetLifecycleError_unjudged plan _
          | .ok () => exact fromOutputPlan_unjudged plan _
  · unfold prepareMssqlReplaceTarget
    split
    · next error heq => exact unjudged_error (hchecked _ _ _ error heq)
    · intro reply
      match reply with
      | .error source => exact prepareTargetLifecycleError_unjudged plan _
      | .ok _ =>
        refine (availableReplaceStagingTable_unjudged plan).bind fun staging hstaging => ?_
        match staging with
        | .error error => exact unjudged_error (hstaging error rfl)
        | .ok stagingTableName =>
          intro reply
          match reply with
          | .error source => exact prepareTargetLifecycleError_unjudged plan _
          | .ok () => exact fromTableName_unjudged plan _ _

theorem connectedClient_unjudged (op : SinkOp Batch) :
    (connectedClient op).Returns fun reply =>
      ∀ error, connectionError ⟨op, reply⟩ = some error → NotValidation error := by
  cases op with
  | prepareTargetLifecycle plan =>
    -- every error that the client builds here has a phase other than the validation
    have hprepare : (lifecycleClient (prepareMssqlTargetLifecycle plan) :
        Program (ServerSig Batch) _).Returns Unjudged :=
      (prepareMssqlTargetLifecycle_unjudged plan).handle _
    refine hprepare.mono fun reply hreply error herror => ?_
    cases reply with
    | error source => exact hreply error (congrArg Except.error (Option.some.inj herror))
    | ok target => cases herror
  | enableBulkLoadTableLock plan target =>
    intro reply
    cases reply with
    | ok _ => exact fun error herror => by cases herror
    | error source =>
      rcases hcode : bulkLoadTableLockNonfatalErrorCode source with _ | code
      · simp only [Program.bind, hcode]
        rintro _ ⟨⟩
        exact notValidation_of_phase rfl fun h => by cases h
      · simp only [Program.bind, hcode]
        exact fun error herror => by cases herror
  | initializeWriter plan target options =>
    have hallowed : Unjudged (ensurePreparedTargetAllowsWriter plan target) := by
      unfold ensurePreparedTargetAllowsWriter
      have hwriter : ∀ message, NotValidation (mssqlWriterInitializationError plan
          target.report.action target.report.cleanup message) :=
        fun message => notValidation_of_phase rfl fun h => by cases h
      split_ifs
      · exact unjudged_error (hwriter _)
      · exact unjudged_ok _
      · exact unjudged_error (hwriter _)
    cases hensure : ensurePreparedTargetAllowsWriter plan target with
    | error source =>
      simp only [connectedClient, hensure]
      rintro _ ⟨⟩
      exact hallowed source hensure
    | ok _ =>
      simp only [connectedClient, hensure]
      intro reply
      cases reply with
      | ok _ => exact fun error herror => by cases herror
      | error source =>
        rintro _ ⟨⟩
        exact notValidation_of_phase rfl fun h => by cases h
  | disableBulkLoadTableLock plan target => exact returns_of_forall (fun _ _ h => by cases h) _
  | nextBatch item => exact returns_of_forall (fun _ _ h => by cases h) _
  | writeBatch writer batch => exact returns_of_forall (fun _ _ h => by cases h) _
  | finish writer => exact returns_of_forall (fun _ _ h => by cases h) _
  | cleanupPreparedTarget plan target => exact returns_of_forall (fun _ _ h => by cases h) _
  | targetRowCount plan target => exact returns_of_forall (fun _ _ h => by cases h) _
  | swapPreparedReplaceTarget plan target => exact returns_of_forall (fun _ _ h => by cases h) _

end Client

theorem runMssqlOutputBatchesOnConnection_verdict {plan : MssqlTargetOutputPlan}
    {stream : List (Except DeltaFunnelError Batch)} {options : MssqlWriteBackend}
    {validationOptions : ValidationOptions} {phaseTimings : List PhaseTimingReport}
    (hrows : rowSum (okBatches stream) ≤ u64Max)
    {trace : List (SinkEvent Batch)} {result : Except DeltaFunnelError MssqlWriteReport}
    (hruns : Runs (runMssqlOutputBatchesOnConnection plan stream options validationOptions
      phaseTimings) trace result) :
    RunVerdict plan validationOptions.targetValidationMode trace result := by
  rw [runMssqlOutputBatchesOnConnection_eq] at hruns
  obtain ⟨reply, rest, rfl, hrest⟩ := runs_sinkCall.1 hruns
  rcases reply with error | target
  · obtain ⟨rfl, rfl⟩ := runs_ret.1 hrest
    refine .stopped (fun hforeign status => ?_) rfl
    rw [verdictOf_errorWithPhaseTimings]
    exact hforeign _ (List.mem_singleton_self _) error rfl status
  · obtain ⟨middle, body, tail, rfl, hbody, htail⟩ := runs_bind.1 hrest
    have hverdict := runPreparedOutput_verdict hrows hbody
    rcases body with error | report
    · obtain ⟨haccepted, hcounts, -, -⟩ := failAfterPreparation_reportedRows htail
      obtain ⟨hwrite, failed, rfl, hsame⟩ := failAfterPreparation_verdict htail
      -- Cleanup keeps the verdict, and neither writes nor counts.
      have hacceptedAll : acceptedBatches (⟨.prepareTargetLifecycle plan, .ok target⟩ ::
          (middle ++ tail)) = acceptedBatches middle := by
        show acceptedBatches (middle ++ tail) = acceptedBatches middle
        rw [acceptedBatches_append, haccepted, List.append_nil]
      have hcountsAll : rowCounts (⟨.prepareTargetLifecycle plan, .ok target⟩ ::
          (middle ++ tail)) = rowCounts middle := by
        show rowCounts (middle ++ tail) = rowCounts middle
        rw [rowCounts_append, hcounts, List.append_nil]
      refine ⟨(fun report hreport => by cases hreport), ?_, ?_⟩
      · rintro hforeign _ status ⟨⟩ hstatus
        rw [hsame] at hstatus
        rw [hacceptedAll, hcountsAll]
        have hclean : NoForeignVerdict middle := by
          intro e he
          exact hforeign e (List.mem_cons_of_mem _ (List.mem_append_left _ he))
        exact hverdict.rejected hclean error status rfl hstatus
      · intro hrequired happend failure counts hfirst
        rw [hcountsAll] at hfirst
        show startsWrite (middle ++ tail) = false
        rw [startsWrite_append, hwrite, hverdict.first_count hrequired happend failure counts hfirst]
        rfl
    · obtain ⟨rfl, rfl⟩ := runs_ret.1 htail
      rw [List.append_nil]
      exact ⟨hverdict.accepted, (fun _ error status herror => by cases herror),
        hverdict.first_count⟩

/-- The law of the verdict: `accepted` is about every run, `rejected` about those whose calls are
answered by the connected client. -/
structure RowCountLaw (plan : MssqlTargetOutputPlan) (mode : TargetValidationMode)
    (trace : List (SinkEvent Batch)) (result : Except DeltaFunnelError MssqlWriteReport) :
    Prop where
  accepted : ∀ report, result = .ok report →
    AcceptedVerdict plan.loadMode mode (rowSum (acceptedBatches trace)) (rowCounts trace)
      report.validationStatus
  rejected : ∀ expanded, Interaction.Expands connectedClient trace expanded →
    ∀ error status, result = .error error → verdictOf error = some (.validation, status) →
    (status = .failed ↔
      CountsDiffer plan.loadMode (rowSum (acceptedBatches trace)) (rowCounts trace))
  first_count : mode = .require → plan.loadMode = .appendExisting →
    ∀ failure rest, rowCounts trace = .error failure :: rest → startsWrite trace = false

/-- **No false verdict.** In every load mode and validation mode, whatever the counts, the writer
and the lifecycle answer. -/
theorem rowCount_verdict_sound {plan : MssqlTargetOutputPlan}
    {stream : List (Except DeltaFunnelError Batch)} {options : MssqlWriteBackend}
    {validationOptions : ValidationOptions} {phaseTimings : List PhaseTimingReport}
    (hrows : rowSum (okBatches stream) < 2 ^ 64)
    {trace : List (SinkEvent Batch)} {result : Except DeltaFunnelError MssqlWriteReport}
    (hruns : Runs (runMssqlOutputBatchesOnConnection plan stream options validationOptions
      phaseTimings) trace result) :
    RowCountLaw plan validationOptions.targetValidationMode trace result := by
  have hfits : rowSum (okBatches stream) ≤ u64Max := by
    unfold u64Max
    omega
  have hverdict := runMssqlOutputBatchesOnConnection_verdict hfits hruns
  refine ⟨hverdict.accepted, fun expanded hexpands => ?_, hverdict.first_count⟩
  exact hverdict.rejected (hexpands.returns connectedClient_unjudged)

end Verdict

/-- The target held ten rows, two are appended, and twelve are counted. -/
theorem orders_append_passes :
    letI := acceptingDriver
    letI := countedBatch
    ∃ trace report, Runs (runMssqlOutputBatchesOnConnection ordersAppendPlan [.ok 2]
        .directRawBulk {} []) trace (.ok report) ∧ rowCounts trace = [.ok 10, .ok 12] ∧
      report.validationStatus = .passed ∧
      RowCountLaw ordersAppendPlan ({} : ValidationOptions).targetValidationMode trace
        (.ok report) := by
  let _ := acceptingDriver
  let _ := countedBatch
  have hruns : ∃ report, Runs (runMssqlOutputBatchesOnConnection ordersAppendPlan [.ok 2]
      .directRawBulk {} [])
      [⟨.prepareTargetLifecycle ordersAppendPlan, .ok ordersExisting⟩,
        ⟨.targetRowCount ordersAppendPlan ordersExisting, .ok 10⟩,
        ⟨.initializeWriter ordersAppendPlan ordersExisting .directRawBulk,
          .ok ⟨ordersExisting.tableName⟩⟩,
        ⟨.nextBatch (some (.ok 2)), ()⟩, ⟨.writeBatch ⟨ordersExisting.tableName⟩ 2, .ok ()⟩,
        ⟨.nextBatch none, ()⟩, ⟨.finish ⟨ordersExisting.tableName⟩, .ok ()⟩,
        ⟨.targetRowCount ordersAppendPlan ordersExisting, .ok 12⟩]
      (.ok report) ∧ report.validationStatus = .passed :=
    ⟨_, .call (.call (.call (.call (.call (.call (.call (.call (.refl _)))))))), rfl⟩
  obtain ⟨report, hpassed, hstatus⟩ := hruns
  exact ⟨_, report, hpassed, rfl, hstatus, rowCount_verdict_sound (by decide) hpassed⟩

end DeltaFunnel
