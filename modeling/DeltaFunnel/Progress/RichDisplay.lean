import DeltaFunnel.Interaction.Program
import Mathlib.Data.Nat.Notation

/-! The Rich display of one action: the progress it shows, and its calls into Rich for every
progress event and at the end of the action. -/

namespace DeltaFunnel
open Interaction

inductive ProgressOperation where
  | registerDeltaSource
  | previewTable
  | writeToMssql
  | dryRunToMssql
  | writeAllToMssql
  | dryRunAllToMssql
  deriving DecidableEq, Repr

inductive ProgressPhase where
  | loadingDeltaMetadata
  | validatingDeltaProtocol
  | preparingDeltaProvider
  | registeringDeltaSource
  | preparingPreview
  | collectingPreview
  | formattingPreview
  | planningOutput
  | settingUpStream
  | materializingCache
  | restoringCache
  | connecting
  | preparingTarget
  | writing
  | validating
  | swappingTarget
  | cleaningUp
  | reportingSources
  deriving DecidableEq, Repr

inductive ProgressEventKind where
  | started
  | phaseChanged
  | progress
  | completed
  | completedWithFailures
  | failed
  | cancelled
  deriving DecidableEq, Repr

structure ProgressOutputPosition where
  index : ℕ
  count : ℕ
  index_pos : 0 < index
  index_le : index ≤ count
  deriving DecidableEq, Repr

structure DeltaFileProgress where
  handled : ℕ
  total : ℕ
  runtimePruned : ℕ
  planningPruned : Option ℕ
  total_pos : 0 < total
  handled_le : handled ≤ total
  runtimePruned_le : runtimePruned ≤ handled
  deriving DecidableEq, Repr

structure ProgressMetrics where
  rows : ℕ
  batches : ℕ
  deriving DecidableEq, Repr

structure ProgressSnapshot where
  phase : ProgressPhase
  outputName : Option String
  outputPosition : Option ProgressOutputPosition
  fileProgress : Option DeltaFileProgress
  metrics : Option ProgressMetrics
  deriving DecidableEq, Repr

inductive ProgressEvent where
  | started (operation : ProgressOperation)
  | phaseChanged (snapshot : ProgressSnapshot)
  | progress (snapshot : ProgressSnapshot)
  | completed
  | completedWithFailures
  | failed
  | cancelled
  deriving DecidableEq, Repr

namespace ProgressEvent

def kind : ProgressEvent → ProgressEventKind
  | .started _ => .started
  | .phaseChanged _ => .phaseChanged
  | .progress _ => .progress
  | .completed => .completed
  | .completedWithFailures => .completedWithFailures
  | .failed => .failed
  | .cancelled => .cancelled

def operation : ProgressEvent → Option ProgressOperation
  | .started operation => some operation
  | _ => none

def snapshot : ProgressEvent → Option ProgressSnapshot
  | .phaseChanged snapshot => some snapshot
  | .progress snapshot => some snapshot
  | _ => none

def phase (event : ProgressEvent) : Option ProgressPhase := event.snapshot.map (·.phase)

def outputName (event : ProgressEvent) : Option String := event.snapshot.bind (·.outputName)

/-- `output_index` and `output_count`, which an event has together or not at all. -/
def outputPosition (event : ProgressEvent) : Option (ℕ × ℕ) :=
  (event.snapshot.bind (·.outputPosition)).map fun position => (position.index, position.count)

def fileProgress (event : ProgressEvent) : Option DeltaFileProgress :=
  event.snapshot.bind (·.fileProgress)

def metrics (event : ProgressEvent) : Option ProgressMetrics := event.snapshot.bind (·.metrics)

end ProgressEvent

/-- Whether the action sends no more progress after such an event. -/
def endsAction : ProgressEventKind → Bool
  | .completed | .completedWithFailures | .failed | .cancelled => true
  | .started | .phaseChanged | .progress => false

def operationLabel : Option ProgressOperation → String
  | some .registerDeltaSource => "Loading Delta source"
  | some .previewTable => "Previewing table"
  | some .writeToMssql => "Writing to SQL Server"
  | some .dryRunToMssql => "Planning SQL Server write"
  | some .writeAllToMssql => "Writing outputs to SQL Server"
  | some .dryRunAllToMssql => "Planning SQL Server outputs"
  | none => "Running SQL Server action"

def phaseLabel : ProgressPhase → String
  | .loadingDeltaMetadata => "Loading Delta metadata"
  | .validatingDeltaProtocol => "Validating Delta protocol"
  | .preparingDeltaProvider => "Preparing Delta provider"
  | .registeringDeltaSource => "Registering Delta source"
  | .preparingPreview => "Preparing preview"
  | .collectingPreview => "Collecting preview"
  | .formattingPreview => "Formatting preview"
  | .planningOutput => "Planning output"
  | .settingUpStream => "Preparing data stream"
  | .materializingCache => "Caching shared data"
  | .restoringCache => "Restoring shared cache"
  | .connecting => "Connecting to SQL Server"
  | .preparingTarget => "Preparing target table"
  | .writing => "Writing to SQL Server"
  | .validating => "Validating write"
  | .swappingTarget => "Swapping target table"
  | .cleaningUp => "Cleaning up"
  | .reportingSources => "Preparing source reports"

def terminalLabel : ProgressEventKind → String
  | .completed => "Completed"
  | .completedWithFailures => "Completed with failures"
  | .failed => "Failed"
  | .cancelled => "Cancelled"
  | _ => "Finished"

def countLabel (count : ℕ) (singular plural : String) : String :=
  if count = 1 then singular else plural

/-- Large counts in thousands or millions, rounded to two decimal places. -/
def compactRowCount (rows : ℕ) : String :=
  if rows < 1000 then toString rows
  else
    let roundedHundredths := fun divisor => (rows * 100 + divisor / 2) / divisor
    let thousands := roundedHundredths 1000
    let (value, suffix) :=
      if thousands < 100000 then (thousands, "K") else (roundedHundredths 1000000, "M")
    let hundredths := value % 100
    toString (value / 100) ++ "." ++ (if hundredths < 10 then "0" else "") ++
      toString hundredths ++ suffix

/-- The values to show, kept also while their display is throttled. -/
structure VisibleProgress where
  phase : Option ProgressPhase
  outputName : Option String
  outputPosition : Option (ℕ × ℕ)
  filesHandled : Option ℕ
  filesTotal : Option ℕ
  filesRuntimePruned : Option ℕ
  filesPlanningPruned : Option ℕ
  rows : Option ℕ
  batches : Option ℕ
  deriving DecidableEq, Repr

/-- A new unnamed phase is unrelated work, except for formatting a collected preview. -/
def startsNewUnnamedMetricScope (current : Option ProgressPhase) (next : ProgressPhase) : Bool :=
  next = .materializingCache ||
    (current ≠ some next &&
      !(current = some .collectingPreview && next = .formattingPreview))

namespace VisibleProgress

def new : VisibleProgress := ⟨none, none, none, none, none, none, none, none, none⟩

/-- Whether the event must stop using the current counters. -/
def scopeChanges (visible : VisibleProgress) (event : ProgressEvent) : Bool :=
  match event.phase with
  | none => false
  | some phase =>
    visible.outputName ≠ event.outputName || visible.outputPosition ≠ event.outputPosition ||
      (event.kind = .phaseChanged && event.outputName.isNone &&
        startsNewUnnamedMetricScope visible.phase phase)

def clearMetrics (visible : VisibleProgress) : VisibleProgress :=
  { visible with
    filesHandled := none
    filesTotal := none
    filesRuntimePruned := none
    filesPlanningPruned := none
    rows := none
    batches := none }

def metricValues (visible : VisibleProgress) : List (Option ℕ) :=
  [visible.filesHandled, visible.filesTotal, visible.filesRuntimePruned,
    visible.filesPlanningPruned, visible.rows, visible.batches]

/-- Counters never go back, and the first total stays. -/
def incorporateFileProgress (visible : VisibleProgress) (progress : DeltaFileProgress) :
    VisibleProgress :=
  let fixedTotal := visible.filesTotal.getD progress.total
  let handled := max (visible.filesHandled.getD 0) (min progress.handled fixedTotal)
  { visible with
    filesTotal := some fixedTotal
    filesHandled := some handled
    filesRuntimePruned :=
      some (min handled (max (visible.filesRuntimePruned.getD 0) progress.runtimePruned))
    filesPlanningPruned :=
      match progress.planningPruned with
      | some pruned => some (max (visible.filesPlanningPruned.getD 0) pruned)
      | none => visible.filesPlanningPruned }

def incorporateWriteProgress (visible : VisibleProgress) (metrics : ProgressMetrics) :
    VisibleProgress :=
  { visible with
    rows := some (max (visible.rows.getD 0) metrics.rows)
    batches := some (max (visible.batches.getD 0) metrics.batches) }

/-- Also whether a counter changed. -/
def incorporateMetrics (visible : VisibleProgress) (fileProgress : Option DeltaFileProgress)
    (writeProgress : Option ProgressMetrics) : VisibleProgress × Bool :=
  let withFiles := fileProgress.elim visible visible.incorporateFileProgress
  let withWrites := writeProgress.elim withFiles withFiles.incorporateWriteProgress
  (withWrites, withWrites.metricValues ≠ visible.metricValues)

def incorporate (visible : VisibleProgress) (event : ProgressEvent) : VisibleProgress × Bool :=
  let entered :=
    match event.phase with
    | none => visible
    | some phase =>
      let kept := if visible.scopeChanges event then visible.clearMetrics else visible
      { kept with
        phase := some phase
        outputName := event.outputName
        outputPosition := event.outputPosition }
  entered.incorporateMetrics event.fileProgress event.metrics

def fileProgressText (visible : VisibleProgress) : Option String :=
  match visible.filesHandled, visible.filesTotal, visible.filesRuntimePruned with
  | some handled, some total, some runtimePruned =>
    let start := s!"Delta files {handled}/{total}"
    match runtimePruned, visible.filesPlanningPruned.filter (0 < ·) with
    | 0, none => some start
    | runtime, none => some s!"{start} | pruned {runtime} at runtime"
    | 0, some planning => some s!"{start} | pruned ~{planning} in planning"
    | runtime, some planning =>
      some s!"{start} | pruned {runtime} at runtime, ~{planning} in planning"
  | _, _, _ => none

def description (visible : VisibleProgress) (kind : ProgressEventKind) : String :=
  let label :=
    if endsAction kind then terminalLabel kind else visible.phase.elim "Working" phaseLabel
  let position :=
    match visible.outputPosition with
    | some (index, count) => s!"Output {index}/{count} - {label}"
    | none => label
  let named := visible.outputName.elim position fun name => position ++ ": " ++ name
  match visible.rows, visible.batches with
  | some rows, some batches =>
    let rowLabel := countLabel rows "row" "rows"
    let batchLabel := countLabel batches "batch" "batches"
    let rows := compactRowCount rows
    named ++ s!" - {rows} {rowLabel}, {batches} {batchLabel}"
  | _, _ => named

end VisibleProgress

/-- In nanoseconds. -/
def metricRenderInterval : ℕ := 250000000

structure MetricRenderThrottle where
  /-- When metrics were last part of an update. -/
  lastMetricsShownAt : Option ℕ
  metricsWaitingToRender : Bool
  deriving DecidableEq, Repr

namespace MetricRenderThrottle

def new : MetricRenderThrottle := ⟨none, false⟩

/-- Also whether the event updates Rich now. -/
def shouldRender (throttle : MetricRenderThrottle) (kind : ProgressEventKind)
    (visibleMetricsChanged : Bool) (now : ℕ) : MetricRenderThrottle × Bool :=
  let waiting := throttle.metricsWaitingToRender || visibleMetricsChanged
  if kind ≠ .progress then
    (if waiting then ⟨some now, false⟩ else ⟨throttle.lastMetricsShownAt, waiting⟩, true)
  else if !waiting then (⟨throttle.lastMetricsShownAt, waiting⟩, false)
  else if throttle.lastMetricsShownAt.any fun last => now - last < metricRenderInterval then
    (⟨throttle.lastMetricsShownAt, waiting⟩, false)
  else (⟨some now, false⟩, true)

def hasPendingUpdate (throttle : MetricRenderThrottle) : Bool := throttle.metricsWaitingToRender

end MetricRenderThrottle

inductive ProgressMode where
  | automatic
  | forced
  deriving DecidableEq, Repr

inductive ProgressOutput where
  | stderr
  | stdoutInNotebook
  deriving DecidableEq, Repr

structure ProgressSettings where
  mode : ProgressMode
  output : ProgressOutput
  deriving DecidableEq, Repr

inductive TaskColumns where
  | indeterminate
  | terminal
  | determinate
  deriving DecidableEq, Repr

/-- One update of the task, always with a refresh. -/
structure TaskUpdate where
  columns : TaskColumns
  description : String
  completed : ℕ
  total : Option ℕ
  fileProgress : String
  deriving DecidableEq, Repr

/-- How a call into Rich ends: an ordinary exception, or Python not being available, is a
failure, any other exception an interruption. -/
inductive PythonCall (Interruption T : Type) where
  | succeeded (value : T)
  | failed
  | interrupted (error : Interruption)
  deriving DecidableEq, Repr

inductive RichOp (Renderer : Type) where
  /-- Builds the display and its task; there is no renderer where it should stay hidden. -/
  | create (settings : ProgressSettings) (label : String)
  | start (renderer : Renderer)
  | update (renderer : Renderer) (update : TaskUpdate)
  | stop (renderer : Renderer)
  deriving DecidableEq, Repr

def RichOp.Reply {Renderer : Type} (Interruption : Type) : RichOp Renderer → Type
  | .create _ _ => PythonCall Interruption (Option Renderer)
  | .start _ => PythonCall Interruption Unit
  | .update _ _ => PythonCall Interruption Unit
  | .stop _ => PythonCall Interruption Unit

def richSignature (Renderer Interruption : Type) : Signature where
  Op := RichOp Renderer
  Reply := RichOp.Reply Interruption

variable {Renderer Interruption OperationError Report T : Type}

abbrev RichProgram (Renderer Interruption α : Type) :=
  Program (richSignature Renderer Interruption) α

def createRenderer (settings : ProgressSettings) (event : ProgressEvent) :
    RichProgram Renderer Interruption (PythonCall Interruption (Option Renderer)) :=
  Program.perform (σ := richSignature Renderer Interruption)
    (.create settings (operationLabel event.operation))

def startRenderer (renderer : Renderer) :
    RichProgram Renderer Interruption (PythonCall Interruption Unit) :=
  Program.perform (σ := richSignature Renderer Interruption) (.start renderer)

def updateRenderer (renderer : Renderer) (kind : ProgressEventKind) (description : String)
    (visible : VisibleProgress) : RichProgram Renderer Interruption (PythonCall Interruption Unit) :=
  let columns : TaskColumns :=
    if visible.filesTotal.isSome then .determinate
    else if endsAction kind then .terminal
    else .indeterminate
  let (completed, total) :=
    match visible.filesHandled, visible.filesTotal with
    | some handled, some total => (handled, some total)
    | _, _ => (0, none)
  let fileProgress := visible.fileProgressText.getD ""
  Program.perform (σ := richSignature Renderer Interruption)
    (.update renderer ⟨columns, description, completed, total, fileProgress⟩)

def stopRenderer (renderer : Renderer) :
    RichProgram Renderer Interruption (PythonCall Interruption Unit) :=
  Program.perform (σ := richSignature Renderer Interruption) (.stop renderer)

inductive RenderState (Renderer : Type) where
  | pending (settings : ProgressSettings)
  | active (renderer : Renderer) (updatesEnabled : Bool)
  /-- What other callbacks would find while Rich runs. -/
  | busy
  | done
  deriving DecidableEq, Repr

structure ProgressState (Renderer Interruption : Type) where
  render : RenderState Renderer
  pendingInterruption : Option Interruption
  finalEvent : Option ProgressEventKind
  visible : VisibleProgress
  metricThrottle : MetricRenderThrottle
  deriving DecidableEq, Repr

def ProgressState.new (render : RenderState Renderer) : ProgressState Renderer Interruption :=
  ⟨render, none, none, .new, .new⟩

def pythonValueOrSaveInterruption (call : PythonCall Interruption T)
    (pendingInterruption : Option Interruption) : Option T × Option Interruption :=
  match call with
  | .succeeded value => (some value, pendingInterruption)
  | .failed => (none, pendingInterruption)
  | .interrupted error => (none, pendingInterruption.or (some error))

/-- An update with the given values, after which updates stay enabled if it succeeded. -/
def showVisible (renderer : Renderer) (kind : ProgressEventKind) (visible : VisibleProgress)
    (pendingInterruption : Option Interruption) :
    RichProgram Renderer Interruption (RenderState Renderer × Option Interruption) := do
  let call ← updateRenderer renderer kind (visible.description kind) visible
  let (updated, pendingInterruption) := pythonValueOrSaveInterruption call pendingInterruption
  pure (.active renderer updated.isSome, pendingInterruption)

def flushPreviousMetrics (render : RenderState Renderer)
    (previousVisible : Option VisibleProgress) (pendingInterruption : Option Interruption) :
    RichProgram Renderer Interruption (RenderState Renderer × Option Interruption) :=
  match render, previousVisible with
  | .active renderer true, some previousVisible =>
    showVisible renderer .progress previousVisible pendingInterruption
  | render, _ => pure (render, pendingInterruption)

/-- A started renderer is kept even if its start fails, so that it is stopped at the end. -/
def startAction (settings : ProgressSettings) (event : ProgressEvent)
    (pendingInterruption : Option Interruption) :
    RichProgram Renderer Interruption (RenderState Renderer × Option Interruption) := do
  let call ← createRenderer settings event
  let (created, pendingInterruption) := pythonValueOrSaveInterruption call pendingInterruption
  match created.join with
  | none => pure (.done, pendingInterruption)
  | some renderer => do
    let call ← startRenderer renderer
    let (started, pendingInterruption) := pythonValueOrSaveInterruption call pendingInterruption
    pure (.active renderer started.isSome, pendingInterruption)

/-- The event's own part of `render_event`, after the flush. -/
def renderCurrent (render : RenderState Renderer) (event : ProgressEvent)
    (visible : VisibleProgress) (pendingInterruption : Option Interruption) :
    RichProgram Renderer Interruption (RenderState Renderer × Option Interruption) :=
  match render with
  | .pending settings =>
    if event.kind = .started then startAction settings event pendingInterruption
    else pure (.pending settings, pendingInterruption)
  | .active renderer updatesEnabled =>
    if endsAction event.kind then
      if updatesEnabled then showVisible renderer event.kind visible pendingInterruption
      else pure (.active renderer false, pendingInterruption)
    else if updatesEnabled ∧ (event.kind = .phaseChanged ∨ event.kind = .progress) then
      showVisible renderer event.kind visible pendingInterruption
    else pure (.active renderer updatesEnabled, pendingInterruption)
  | .done => pure (.done, pendingInterruption)
  | .busy => pure (.done, pendingInterruption)

/-- The shared state after one event. In between it is a new busy one. -/
def renderEvent (state : ProgressState Renderer Interruption) (event : ProgressEvent) (now : ℕ) :
    RichProgram Renderer Interruption (ProgressState Renderer Interruption) :=
  let previousVisible :=
    if state.visible.scopeChanges event && state.metricThrottle.hasPendingUpdate then
      some state.visible
    else none
  let (visible, visibleMetricsChanged) := state.visible.incorporate event
  let (metricThrottle, rendered) :=
    state.metricThrottle.shouldRender event.kind visibleMetricsChanged now
  if !rendered && previousVisible.isNone then pure { state with visible, metricThrottle }
  else do
    let finalEvent := if endsAction event.kind then some event.kind else state.finalEvent
    let (render, pendingInterruption) ←
      flushPreviousMetrics state.render previousVisible state.pendingInterruption
    let (render, pendingInterruption) ← renderCurrent render event visible pendingInterruption
    pure { render, pendingInterruption, finalEvent, visible, metricThrottle }

def actionStatus (finalEvent : Option ProgressEventKind) (failed : Bool) : String :=
  match finalEvent with
  | some .completed => "completed"
  | some .completedWithFailures => "completed_with_failures"
  | some .failed => "failed"
  | some .cancelled => "cancelled"
  | _ => if failed then "failed" else "completed"

/-- The interruption that is raised, with what is attached to it. -/
structure RaisedInterruption (Interruption OperationError Report : Type) where
  error : Interruption
  status : String
  operationError : Option OperationError
  operationReport : Option Report
  deriving DecidableEq, Repr

/-- Stops the display if there is one; the first interruption after that. -/
def stopDisplay (state : ProgressState Renderer Interruption) :
    RichProgram Renderer Interruption (Option Interruption) :=
  match state.render with
  | .active renderer _ => do
    let call ← stopRenderer renderer
    pure (pythonValueOrSaveInterruption call state.pendingInterruption).2
  | _ => pure state.pendingInterruption

def finish (state : ProgressState Renderer Interruption) (operationError : Option OperationError)
    (operationReport : Option Report) :
    RichProgram Renderer Interruption
      (Except (RaisedInterruption Interruption OperationError Report) Unit) := do
  let pendingInterruption ← stopDisplay state
  let status := actionStatus state.finalEvent operationError.isSome
  match pendingInterruption with
  | some error =>
    let operationReport :=
      if state.finalEvent = some .completedWithFailures then operationReport else none
    pure (.error { error, status, operationError, operationReport })
  | none => pure (.ok ())

end DeltaFunnel
