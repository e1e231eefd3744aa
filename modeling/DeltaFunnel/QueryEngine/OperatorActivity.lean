import DeltaFunnel.Support

/-! Operator activity spans: the worker lanes of a query, the budget of an operation, and the
stack of active spans of every thread, under any interleaving of the threads. -/

namespace DeltaFunnel

inductive ActivityWorkerKind where
  | coordinator
  | runtime
  | external
  deriving DecidableEq, Repr

structure ActivityWorkerLane where
  id : ℕ
  kind : ActivityWorkerKind
  deriving DecidableEq, Repr

structure ActivityWorkerLaneState where
  lane : ActivityWorkerLane
  active : Bool
  deriving DecidableEq, Repr

structure OperatorActivityIdentityState where
  nextWorkerLaneId : ℕ
  workerLanes : List ActivityWorkerLaneState
  deriving DecidableEq, Repr

def OperatorActivityIdentityState.default : OperatorActivityIdentityState := ⟨1, []⟩

/-- A vector never has more than `isize::MAX` elements: the next push panics. -/
def vecCapacityLimit : ℕ := 9223372036854775807

def activateInactive (kind : ActivityWorkerKind) :
    List ActivityWorkerLaneState → Option (ActivityWorkerLane × List ActivityWorkerLaneState)
  | [] => none
  | state :: states =>
    if state.lane.kind = kind ∧ state.active = false then
      some (state.lane, { state with active := true } :: states)
    else (activateInactive kind states).map fun (lane, states) => (lane, state :: states)

def deactivate (lane : ActivityWorkerLane) :
    List ActivityWorkerLaneState → List ActivityWorkerLaneState
  | [] => []
  | state :: states =>
    if state.lane = lane then { state with active := false } :: states
    else state :: deactivate lane states

namespace OperatorActivityIdentityState

/-- Reuses an inactive lane of the kind, or adds one. -/
def acquireWorkerLane (identities : OperatorActivityIdentityState) (kind : ActivityWorkerKind) :
    Option (ActivityWorkerLane × OperatorActivityIdentityState) :=
  match activateInactive kind identities.workerLanes with
  | some (lane, workerLanes) => some (lane, { identities with workerLanes })
  | none =>
    let lane := ⟨identities.nextWorkerLaneId, kind⟩
    if identities.workerLanes.length < vecCapacityLimit then
      some (lane,
        { nextWorkerLaneId := saturatingAdd identities.nextWorkerLaneId 1
          workerLanes := identities.workerLanes ++ [⟨lane, true⟩] })
    else none

def releaseWorkerLane (identities : OperatorActivityIdentityState) (lane : ActivityWorkerLane) :
    OperatorActivityIdentityState :=
  { identities with workerLanes := deactivate lane identities.workerLanes }

end OperatorActivityIdentityState

structure OperatorActivityBudget where
  maximumSpans : ℕ
  remainingSpans : ℕ
  truncationReported : Bool
  deriving DecidableEq, Repr

namespace OperatorActivityBudget

def new (maximumSpans : ℕ) : OperatorActivityBudget := ⟨maximumSpans, maximumSpans, false⟩

/-- The update of the remaining spans, if there are any. -/
def fetchUpdate (budget : OperatorActivityBudget) : Option OperatorActivityBudget :=
  if budget.remainingSpans = 0 then none
  else some { budget with remainingSpans := budget.remainingSpans - 1 }

/-- The swap of the report flag, and whether this call should report. -/
def swapReported (budget : OperatorActivityBudget) : OperatorActivityBudget × Bool :=
  ({ budget with truncationReported := true }, !budget.truncationReported)

end OperatorActivityBudget

/-- The operation and the query execution that a recorder belongs to. -/
structure ActivityQuery where
  operationId : ℕ
  queryExecutionId : ℕ
  deriving DecidableEq, Repr

structure ActiveOperatorActivitySpan where
  operationId : ℕ
  queryExecutionId : ℕ
  workerLane : ActivityWorkerLane
  ownsWorkerLane : Bool
  deriving DecidableEq, Repr

def ActiveOperatorActivitySpan.query (span : ActiveOperatorActivitySpan) : ActivityQuery :=
  ⟨span.operationId, span.queryExecutionId⟩

/-- An entry of a thread's stack. The code does not keep the number of the push. -/
structure ActivityStackEntry where
  push : ℕ
  span : ActiveOperatorActivitySpan
  deriving DecidableEq, Repr

/-- A live recorder or task scope: the query whose lanes it shares, and the entry it pushed. -/
structure ActivityGuard where
  query : ActivityQuery
  entry : ActivityStackEntry
  deriving DecidableEq, Repr

/-- A call on a thread that is under way: the inner `execute` or poll of an instrumented
operator, with the recorder of its span if there is one, or the work of a spawned task. -/
inductive ActivityFrame where
  | operator (query : ActivityQuery) (recorder : Option ActivityGuard)
  | task (guard : ActivityGuard)
  deriving DecidableEq, Repr

def ActivityFrame.guard : ActivityFrame → Option ActivityGuard
  | .operator _ recorder => recorder
  | .task guard => some guard

/-- What `start_span` knows once it has its execution context. -/
structure SpanStart where
  query : ActivityQuery
  workerLane : ActivityWorkerLane
  ownsWorkerLane : Bool
  processParentActive : Bool
  deriving DecidableEq, Repr

/-- Where a thread is between two atomic steps. -/
inductive ActivityCall where
  | idle
  /-- In `start_span`, before the reservation. -/
  | starting (start : SpanStart)
  /-- In `start_span`, after a failed reservation. -/
  | limited (start : SpanStart)
  /-- In `start_delta_scan_output_wait`, after a failed reservation. -/
  | waitLimited (operationId : ℕ)
  deriving DecidableEq, Repr

/-- The stack of active spans with its top first, and the calls under way, innermost first. -/
structure ActivityThread where
  stack : List ActivityStackEntry
  frames : List ActivityFrame
  call : ActivityCall
  pushes : ℕ
  deriving DecidableEq, Repr

def ActivityThread.new : ActivityThread := ⟨[], [], .idle, 0⟩

/-- The lane, whether it is owned, and the identities of the query afterwards. -/
def executionContext (stack : List ActivityStackEntry) (identities : OperatorActivityIdentityState)
    (query : ActivityQuery) (partition : ℕ) (isRuntimeTask allowCoordinator : Bool) :
    Option (ActivityWorkerLane × Bool × OperatorActivityIdentityState) :=
  match stack.find? fun parent => parent.span.query = query with
  | some parent => some (parent.span.workerLane, false, identities)
  | none =>
    if allowCoordinator ∧ isRuntimeTask = false ∧ partition = 0 then
      some (⟨0, .coordinator⟩, false, identities)
    else
      let kind := if isRuntimeTask then .runtime else .external
      (identities.acquireWorkerLane kind).map fun (lane, identities) => (lane, true, identities)

def processParentActive (stack : List ActivityStackEntry) (query : ActivityQuery)
    (lane : ActivityWorkerLane) : Bool :=
  stack.head?.any fun parent => parent.span.query = query && parent.span.workerLane.id = lane.id

namespace ActivityThread

/-- Pushes a span and keeps what will pop it. -/
def pushSpan (thread : ActivityThread) (query : ActivityQuery) (lane : ActivityWorkerLane)
    (ownsWorkerLane : Bool) (frame : ActivityGuard → ActivityFrame) : ActivityThread :=
  let entry : ActivityStackEntry :=
    ⟨thread.pushes, ⟨query.operationId, query.queryExecutionId, lane, ownsWorkerLane⟩⟩
  { stack := entry :: thread.stack
    frames := frame ⟨query, entry⟩ :: thread.frames
    call := .idle
    pushes := thread.pushes + 1 }

end ActivityThread

structure ActivitySystem where
  threads : List ActivityThread
  identities : ActivityQuery → OperatorActivityIdentityState
  budgets : ℕ → OperatorActivityBudget
  /-- The operations of the successful reservations. -/
  reservations : List ℕ
  /-- The operations of the truncation events, with the maximum they report. -/
  truncations : List (ℕ × ℕ)

inductive ActivityAction where
  /-- `start_span` up to its execution context. -/
  | startSpan (query : ActivityQuery) (partition : ℕ) (isRuntimeTask : Bool)
  /-- The reservation of a `start_span`, and its end if that succeeds. -/
  | reserve
  /-- The report flag of a `start_span` without a reservation, and its end. -/
  | reportLimit
  /-- The start of `in_process_scope`. -/
  | enterTask (query : ActivityQuery) (partition : ℕ) (isRuntimeTask : Bool)
  /-- The innermost call returns and drops its recorder or scope. -/
  | endFrame
  | scanOutputWait (operationId : ℕ)
  | reportWaitLimit
  deriving DecidableEq, Repr

namespace ActivitySystem

def new (threads : ℕ) (maximumSpans : ℕ → ℕ) : ActivitySystem where
  threads := List.replicate threads .new
  identities _ := .default
  budgets operationId := .new (maximumSpans operationId)
  reservations := []
  truncations := []

variable (system : ActivitySystem)

def setThread (index : ℕ) (thread : ActivityThread) : ActivitySystem :=
  { system with threads := system.threads.set index thread }

def setIdentities (query : ActivityQuery) (identities : OperatorActivityIdentityState) :
    ActivitySystem :=
  { system with identities := Function.update system.identities query identities }

def setBudget (operationId : ℕ) (budget : OperatorActivityBudget) : ActivitySystem :=
  { system with budgets := Function.update system.budgets operationId budget }

def releaseWorkerLane (query : ActivityQuery) (lane : ActivityWorkerLane) : ActivitySystem :=
  system.setIdentities query ((system.identities query).releaseWorkerLane lane)

/-- The end of `start_span`, then the inner call. Without details and below a span of its own
query on the same lane nothing is recorded. -/
def completeSpan (index : ℕ) (thread : ActivityThread) (start : SpanStart)
    (recordsDetail : Bool) : ActivitySystem :=
  if recordsDetail || !start.processParentActive then
    system.setThread index (thread.pushSpan start.query start.workerLane start.ownsWorkerLane
      fun recorder => .operator start.query (some recorder))
  else
    let returned := system.setThread index
      { thread with frames := .operator start.query none :: thread.frames, call := .idle }
    if start.ownsWorkerLane then returned.releaseWorkerLane start.query start.workerLane
    else returned

def reserved (operationId : ℕ) (budget : OperatorActivityBudget) : ActivitySystem :=
  { system.setBudget operationId budget with
    reservations := system.reservations ++ [operationId] }

/-- Takes the report flag of an operation, and reports the truncation the first time. -/
def reportTruncation (operationId : ℕ) : ActivitySystem :=
  let (budget, shouldReport) := (system.budgets operationId).swapReported
  { system.setBudget operationId budget with
    truncations :=
      if shouldReport then system.truncations ++ [(operationId, budget.maximumSpans)]
      else system.truncations }

/-- One atomic step of the thread at `index`. -/
def step (index : ℕ) (action : ActivityAction) : Option ActivitySystem := do
  let thread ← system.threads[index]?
  match action, thread.call with
  | .startSpan query partition isRuntimeTask, .idle => do
    let (workerLane, ownsWorkerLane, identities) ←
      executionContext thread.stack (system.identities query) query partition isRuntimeTask true
    let start : SpanStart :=
      { query, workerLane, ownsWorkerLane
        processParentActive := processParentActive thread.stack query workerLane }
    some ((system.setIdentities query identities).setThread index
      { thread with call := .starting start })
  | .reserve, .starting start =>
    match (system.budgets start.query.operationId).fetchUpdate with
    | some budget =>
      some ((system.reserved start.query.operationId budget).completeSpan index thread start true)
    | none => some (system.setThread index { thread with call := .limited start })
  | .reportLimit, .limited start =>
    some ((system.reportTruncation start.query.operationId).completeSpan index thread start false)
  | .enterTask query partition isRuntimeTask, .idle => do
    let (workerLane, ownsWorkerLane, identities) ←
      executionContext thread.stack (system.identities query) query partition isRuntimeTask false
    some ((system.setIdentities query identities).setThread index
      (thread.pushSpan query workerLane ownsWorkerLane .task))
  | .endFrame, .idle =>
    match thread.frames with
    | [] => none
    | frame :: frames =>
      match frame.guard with
      | none => some (system.setThread index { thread with frames })
      | some guard =>
        let dropped := system.setThread index
          { thread with stack := thread.stack.tail, frames }
        some (if guard.entry.span.ownsWorkerLane then
          dropped.releaseWorkerLane guard.query guard.entry.span.workerLane else dropped)
  | .scanOutputWait operationId, .idle =>
    match (system.budgets operationId).fetchUpdate with
    | some budget => some (system.reserved operationId budget)
    | none => some (system.setThread index { thread with call := .waitLimited operationId })
  | .reportWaitLimit, .waitLimited operationId =>
    some ((system.reportTruncation operationId).setThread index { thread with call := .idle })
  | _, _ => none

/-- The state after some steps, each of the named thread. -/
def run : ActivitySystem → List (ℕ × ActivityAction) → Option ActivitySystem
  | system, [] => some system
  | system, (index, action) :: actions => (system.step index action).bind fun next =>
    next.run actions

end ActivitySystem
end DeltaFunnel
