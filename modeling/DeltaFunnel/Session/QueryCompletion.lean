import DeltaFunnel.Error
import Mathlib.Data.Finset.Card
import Mathlib.Data.Finset.Range

/-! The end of a tracked query execution: the wrappers around its batch streams, and the one
finalization of its read statistics and profile, under any interleaving of polls and drops. -/

namespace DeltaFunnel

inductive DeltaProviderScanOutcome where
  | success
  | error
  | cancelled
  deriving DecidableEq, Repr

variable {Handle Shared Consumer Snapshot Batch : Type}

structure DeltaProviderReadStats (Handle Snapshot : Type) where
  snapshot : Handle → Snapshot
  sourceName : Handle → Option String
  sameInstance : Handle → Handle → Bool

/-- One snapshot for each distinct handle, the first of its kind. -/
def deltaProviderReadStatsSnapshotSet (stats : DeltaProviderReadStats Handle Snapshot)
    (handles : List Handle) (snapshots : List Snapshot) : List (Handle × Snapshot) :=
  (handles.zip snapshots).foldl (fun unique pair =>
    if unique.any fun existing => stats.sameInstance existing.1 pair.1 then unique
    else unique ++ [pair]) []

/-- What one finalization does outside: snapshots for the shared list, one summary for each
handle, and the profile that its consumer builds. -/
structure FinalizationEffects (Handle Shared Consumer Snapshot : Type) where
  retained : Option (Shared × List (String × Snapshot))
  summaries : List (Option String × Snapshot × DeltaProviderScanOutcome)
  consumed : Option (Consumer × DeltaProviderScanOutcome × List (Handle × Snapshot))

/-- The arguments of one call of `finalize_tracked_query_execution`. -/
structure FinalizationCall (Handle Shared Consumer : Type) where
  readStatsHandles : List Handle
  providerStatsSnapshots : Option Shared
  profileConsumer : Option Consumer
  outcome : DeltaProviderScanOutcome
  deriving DecidableEq

def finalizeTrackedQueryExecution (stats : DeltaProviderReadStats Handle Snapshot)
    (call : FinalizationCall Handle Shared Consumer) :
    FinalizationEffects Handle Shared Consumer Snapshot :=
  let snapshots := call.readStatsHandles.map stats.snapshot
  let terminalSnapshots := deltaProviderReadStatsSnapshotSet stats call.readStatsHandles snapshots
  if terminalSnapshots.isEmpty && call.profileConsumer.isNone then ⟨none, [], none⟩
  else
    { retained := call.providerStatsSnapshots.map fun shared =>
        (shared, terminalSnapshots.map fun (handle, snapshot) =>
          ((stats.sourceName handle).getD "", snapshot))
      summaries := terminalSnapshots.map fun (handle, snapshot) =>
        (stats.sourceName handle, snapshot, call.outcome)
      consumed := call.profileConsumer.map fun consumer =>
        (consumer, call.outcome, terminalSnapshots) }

inductive StreamPoll (Batch : Type) where
  | pending
  | ready (item : Option (Except DeltaFunnelError Batch))
  deriving DecidableEq

/-- What happens to one stream; `stream` is its place among the returned ones. -/
inductive StreamEvent (Batch : Type) where
  | poll (stream : ℕ) (reply : StreamPoll Batch)
  | drop (stream : ℕ)
  deriving DecidableEq

def strongestProviderScanOutcome : DeltaProviderScanOutcome → DeltaProviderScanOutcome →
    DeltaProviderScanOutcome
  | .error, _ | _, .error => .error
  | .cancelled, _ | _, .cancelled => .cancelled
  | _, _ => .success

structure PartitionExecutionState (Handle Consumer : Type) where
  remainingStreams : ℕ
  outcome : DeltaProviderScanOutcome
  readStatsHandles : List Handle
  profileConsumer : Option Consumer

/-- The last terminal stream takes what is to be finalized. -/
def PartitionExecutionState.recordStreamTerminal (state : PartitionExecutionState Handle Consumer)
    (outcome : DeltaProviderScanOutcome) :
    PartitionExecutionState Handle Consumer × Option (FinalizationCall Handle Shared Consumer) :=
  if state.remainingStreams = 0 then (state, none)
  else
    let strongest := strongestProviderScanOutcome state.outcome outcome
    let remaining := state.remainingStreams - 1
    if remaining ≠ 0 then
      ({ state with remainingStreams := remaining, outcome := strongest }, none)
    else
      (⟨remaining, strongest, [], none⟩,
        some ⟨state.readStatsHandles, none, state.profileConsumer, strongest⟩)

/-- Whether a partition stream still holds the coordinator it shares with the others. -/
structure PartitionExecutionStream where
  coordinated : Bool
  deriving DecidableEq

/-- The coordinator and the streams that were returned for it. Dropped streams stay in the list,
without the coordinator. -/
structure PartitionedExecution (Handle Consumer : Type) where
  state : PartitionExecutionState Handle Consumer
  streams : List PartitionExecutionStream

/-- A run so far: the calls of the finalizer, and what the polls returned. -/
structure CompletionRun (Execution Handle Shared Consumer Batch : Type) where
  execution : Execution
  calls : List (FinalizationCall Handle Shared Consumer)
  forwarded : List (ℕ × StreamPoll Batch)

namespace PartitionedExecution

/-- Taking the coordinator records the terminal outcome of the stream once. -/
def recordTerminalOnce (execution : PartitionedExecution Handle Consumer) (stream : ℕ)
    (outcome : DeltaProviderScanOutcome) :
    PartitionedExecution Handle Consumer × Option (FinalizationCall Handle Shared Consumer) :=
  match execution.streams[stream]? with
  | some ⟨true⟩ =>
    let (state, call) := execution.state.recordStreamTerminal outcome
    (⟨state, execution.streams.set stream ⟨false⟩⟩, call)
  | some ⟨false⟩ => (execution, none)
  | none => (execution, none)

def pollNext (execution : PartitionedExecution Handle Consumer) (stream : ℕ) :
    StreamPoll Batch →
      (PartitionedExecution Handle Consumer × Option (FinalizationCall Handle Shared Consumer)) ×
        StreamPoll Batch
  | .ready none => (execution.recordTerminalOnce stream .success, .ready none)
  | .ready (some (.error error)) =>
    (execution.recordTerminalOnce stream .error, .ready (some (.error error)))
  | other => ((execution, none), other)

/-- One event, from the calls and the forwarded replies before it. -/
def step (run : CompletionRun (PartitionedExecution Handle Consumer) Handle Shared Consumer Batch) :
    StreamEvent Batch →
      CompletionRun (PartitionedExecution Handle Consumer) Handle Shared Consumer Batch
  | .poll stream reply =>
    let ((execution, call), forwarded) := run.execution.pollNext stream reply
    ⟨execution, run.calls ++ call.toList, run.forwarded ++ [(stream, forwarded)]⟩
  | .drop stream =>
    let (execution, call) := run.execution.recordTerminalOnce stream .cancelled
    ⟨execution, run.calls ++ call.toList, run.forwarded⟩

def run (execution : PartitionedExecution Handle Consumer) (events : List (StreamEvent Batch)) :
    CompletionRun (PartitionedExecution Handle Consumer) Handle Shared Consumer Batch :=
  events.foldl step ⟨execution, [], []⟩

end PartitionedExecution

/-- The result of adding a tracker: the streams as they came, the streams after an immediate
finalization, or wrapped streams. -/
inductive TrackedExecution (Execution Handle Shared Consumer : Type) where
  | untracked
  | finalized (call : FinalizationCall Handle Shared Consumer)
  | tracked (execution : Execution)

def trackPartitionedQueryExecutionCompletion (streamCount : ℕ) (readStatsHandles : List Handle)
    (profileConsumer : Option Consumer) :
    TrackedExecution (PartitionedExecution Handle Consumer) Handle Shared Consumer :=
  if readStatsHandles.isEmpty && profileConsumer.isNone then .untracked
  else if streamCount = 0 then .finalized ⟨readStatsHandles, none, profileConsumer, .success⟩
  else
    .tracked ⟨⟨streamCount, .success, readStatsHandles, profileConsumer⟩,
      List.replicate streamCount ⟨true⟩⟩

/-- Taking the handles records the single terminal transition. -/
structure QueryExecutionTerminalStream (Handle Shared Consumer : Type) where
  readStatsHandles : Option (List Handle)
  providerStatsSnapshots : Option Shared
  profileConsumer : Option Consumer

namespace QueryExecutionTerminalStream

def finalizeIfNeeded (stream : QueryExecutionTerminalStream Handle Shared Consumer)
    (outcome : DeltaProviderScanOutcome) :
    QueryExecutionTerminalStream Handle Shared Consumer ×
      Option (FinalizationCall Handle Shared Consumer) :=
  match stream.readStatsHandles with
  | none => (stream, none)
  | some readStatsHandles =>
    (⟨none, none, none⟩,
      some ⟨readStatsHandles, stream.providerStatsSnapshots, stream.profileConsumer, outcome⟩)

def pollNext (stream : QueryExecutionTerminalStream Handle Shared Consumer) :
    StreamPoll Batch →
      (QueryExecutionTerminalStream Handle Shared Consumer ×
        Option (FinalizationCall Handle Shared Consumer)) × StreamPoll Batch
  | .ready none => (stream.finalizeIfNeeded .success, .ready none)
  | .ready (some (.error error)) =>
    (stream.finalizeIfNeeded .error, .ready (some (.error error)))
  | other => ((stream, none), other)

def step
    (run : CompletionRun (QueryExecutionTerminalStream Handle Shared Consumer) Handle Shared Consumer
      Batch) :
    StreamEvent Batch →
      CompletionRun (QueryExecutionTerminalStream Handle Shared Consumer) Handle Shared Consumer Batch
  | .poll stream reply =>
    let ((execution, call), forwarded) := run.execution.pollNext reply
    ⟨execution, run.calls ++ call.toList, run.forwarded ++ [(stream, forwarded)]⟩
  | .drop _ =>
    let (execution, call) := run.execution.finalizeIfNeeded .cancelled
    ⟨execution, run.calls ++ call.toList, run.forwarded⟩

def run (stream : QueryExecutionTerminalStream Handle Shared Consumer)
    (events : List (StreamEvent Batch)) :
    CompletionRun (QueryExecutionTerminalStream Handle Shared Consumer) Handle Shared Consumer Batch :=
  events.foldl step ⟨stream, [], []⟩

end QueryExecutionTerminalStream

def trackQueryExecutionCompletion (readStatsHandles : List Handle)
    (providerStatsSnapshots : Option Shared) (profileConsumer : Option Consumer) :
    TrackedExecution (QueryExecutionTerminalStream Handle Shared Consumer) Handle Shared Consumer :=
  if readStatsHandles.isEmpty && profileConsumer.isNone then .untracked
  else .tracked ⟨some readStatsHandles, providerStatsSnapshots, profileConsumer⟩

namespace StreamEvent

def stream : StreamEvent Batch → ℕ
  | .poll stream _ => stream
  | .drop stream => stream

def polled : StreamEvent Batch → Option (ℕ × StreamPoll Batch)
  | .poll stream reply => some (stream, reply)
  | .drop _ => none

def outcome : StreamEvent Batch → Option DeltaProviderScanOutcome
  | .poll _ (.ready none) => some .success
  | .poll _ (.ready (some (.error _))) => some .error
  | .poll _ (.ready (some (.ok _))) => none
  | .poll _ .pending => none
  | .drop _ => some .cancelled

def terminal (stream : ℕ) (event : StreamEvent Batch) : Option DeltaProviderScanOutcome :=
  if event.stream = stream then event.outcome else none

end StreamEvent

/-- How the first terminal event of the stream ended it. -/
def firstTerminal (events : List (StreamEvent Batch)) (stream : ℕ) :
    Option DeltaProviderScanOutcome :=
  events.findSome? (StreamEvent.terminal stream)

def AllTerminal (streamCount : ℕ) (events : List (StreamEvent Batch)) : Prop :=
  ∀ stream < streamCount, (firstTerminal events stream).isSome

instance (streamCount : ℕ) (events : List (StreamEvent Batch)) :
    Decidable (AllTerminal streamCount events) :=
  inferInstanceAs (Decidable (∀ stream < streamCount, (firstTerminal events stream).isSome))

def EndsWith (streamCount : ℕ) (events : List (StreamEvent Batch))
    (outcome : DeltaProviderScanOutcome) : Prop :=
  ∃ stream < streamCount, firstTerminal events stream = some outcome

instance (streamCount : ℕ) (events : List (StreamEvent Batch))
    (outcome : DeltaProviderScanOutcome) : Decidable (EndsWith streamCount events outcome) :=
  inferInstanceAs (Decidable (∃ stream < streamCount, firstTerminal events stream = some outcome))

/-- An error outweighs a drop, and a drop a stream that reached its end. -/
def executionOutcome (streamCount : ℕ) (events : List (StreamEvent Batch)) :
    DeltaProviderScanOutcome :=
  if EndsWith streamCount events .error then .error
  else if EndsWith streamCount events .cancelled then .cancelled
  else .success

def pendingStreams (streamCount : ℕ) (events : List (StreamEvent Batch)) : Finset ℕ :=
  (Finset.range streamCount).filter fun stream => (firstTerminal events stream).isNone

section Events
variable {streamCount : ℕ} {events later : List (StreamEvent Batch)}

theorem firstTerminal_concat (event : StreamEvent Batch) (stream : ℕ) :
    firstTerminal (events ++ [event]) stream =
      (firstTerminal events stream).or (event.terminal stream) := by
  rw [firstTerminal, List.findSome?_append, List.findSome?_singleton]
  rfl

theorem allTerminal_iff : AllTerminal streamCount events ↔ (pendingStreams streamCount events).card = 0 := by
  rw [Finset.card_eq_zero, pendingStreams, Finset.filter_eq_empty_iff]
  simp only [Finset.mem_range, AllTerminal, Option.isNone_iff_eq_none, ← Option.isSome_iff_ne_none,
    ← ne_eq]

theorem executionOutcome_congr
    (h : ∀ stream < streamCount, firstTerminal later stream = firstTerminal events stream) :
    executionOutcome streamCount later = executionOutcome streamCount events := by
  have hends : ∀ outcome, EndsWith streamCount later outcome ↔ EndsWith streamCount events outcome := by
    intro outcome
    constructor
    · rintro ⟨stream, hlt, hfirst⟩
      exact ⟨stream, hlt, (h stream hlt).symm.trans hfirst⟩
    · rintro ⟨stream, hlt, hfirst⟩
      exact ⟨stream, hlt, (h stream hlt).trans hfirst⟩
  simp only [executionOutcome, hends]

theorem pendingStreams_congr
    (h : ∀ stream < streamCount, firstTerminal later stream = firstTerminal events stream) :
    pendingStreams streamCount later = pendingStreams streamCount events := by
  ext stream
  simp only [pendingStreams, Finset.mem_filter, Finset.mem_range]
  refine and_congr_right fun hlt => ?_
  rw [h stream hlt]

structure Ends (streamCount : ℕ) (events later : List (StreamEvent Batch)) (stream : ℕ)
    (outcome : DeltaProviderScanOutcome) : Prop where
  lt : stream < streamCount
  before : firstTerminal events stream = none
  after : firstTerminal later stream = some outcome
  others : ∀ other, other ≠ stream → firstTerminal later other = firstTerminal events other

theorem Ends.pendingStreams {stream : ℕ} {outcome : DeltaProviderScanOutcome}
    (h : Ends streamCount events later stream outcome) :
    (DeltaFunnel.pendingStreams streamCount later).card + 1 =
      (DeltaFunnel.pendingStreams streamCount events).card := by
  have hmem : stream ∈ DeltaFunnel.pendingStreams streamCount events := by
    simp [DeltaFunnel.pendingStreams, h.lt, h.before]
  have herase : DeltaFunnel.pendingStreams streamCount later =
      (DeltaFunnel.pendingStreams streamCount events).erase stream := by
    ext other
    simp only [DeltaFunnel.pendingStreams, Finset.mem_erase, Finset.mem_filter, Finset.mem_range]
    by_cases heq : other = stream
    · simp [heq, h.after]
    · simp [heq, h.others other heq]
  rw [herase, Finset.card_erase_add_one hmem]

theorem Ends.endsWith_iff {stream : ℕ} {outcome : DeltaProviderScanOutcome}
    (h : Ends streamCount events later stream outcome) (any : DeltaProviderScanOutcome) :
    EndsWith streamCount later any ↔ EndsWith streamCount events any ∨ any = outcome := by
  constructor
  · rintro ⟨other, hlt, hfirst⟩
    by_cases heq : other = stream
    · rw [heq, h.after] at hfirst
      exact .inr (Option.some.inj hfirst).symm
    · exact .inl ⟨other, hlt, (h.others other heq).symm.trans hfirst⟩
  · rintro (⟨other, hlt, hfirst⟩ | rfl)
    · refine ⟨other, hlt, (h.others other ?_).trans hfirst⟩
      rintro rfl
      rw [h.before] at hfirst
      cases hfirst
    · exact ⟨stream, h.lt, h.after⟩

theorem Ends.executionOutcome {stream : ℕ} {outcome : DeltaProviderScanOutcome}
    (h : Ends streamCount events later stream outcome) :
    DeltaFunnel.executionOutcome streamCount later =
      strongestProviderScanOutcome (DeltaFunnel.executionOutcome streamCount events) outcome := by
  simp only [DeltaFunnel.executionOutcome, h.endsWith_iff]
  by_cases herror : EndsWith streamCount events .error
  · simp [herror, strongestProviderScanOutcome]
  · by_cases hcancelled : EndsWith streamCount events .cancelled
    · cases outcome <;> simp [herror, hcancelled, strongestProviderScanOutcome]
    · cases outcome <;> simp [herror, hcancelled, strongestProviderScanOutcome]

end Events

namespace PartitionedExecution

/-- The effect of an event on the execution: a terminal one is recorded. -/
def recordEvent (execution : PartitionedExecution Handle Consumer) (event : StreamEvent Batch) :
    PartitionedExecution Handle Consumer × Option (FinalizationCall Handle Shared Consumer) :=
  match event.outcome with
  | some outcome => execution.recordTerminalOnce event.stream outcome
  | none => (execution, none)

theorem step_eq
    (run : CompletionRun (PartitionedExecution Handle Consumer) Handle Shared Consumer Batch)
    (event : StreamEvent Batch) :
    step run event =
      let recorded := run.execution.recordEvent event
      ⟨recorded.1, run.calls ++ recorded.2.toList, run.forwarded ++ event.polled.toList⟩ := by
  cases event with
  | drop stream =>
    rw [show (StreamEvent.drop stream : StreamEvent Batch).polled = none from rfl,
      Option.toList_none, List.append_nil]
    rfl
  | poll stream reply =>
    cases reply with
    | pending => rfl
    | ready item =>
      cases item with
      | none => rfl
      | some item => cases item <;> rfl

theorem run_concat (execution : PartitionedExecution Handle Consumer)
    (events : List (StreamEvent Batch)) (event : StreamEvent Batch) :
    (execution.run (events ++ [event]) :
      CompletionRun _ Handle Shared Consumer Batch) = step (execution.run events) event := by
  rw [run, List.foldl_append]
  rfl

structure Tracks (streamCount : ℕ) (handles : List Handle) (consumer : Option Consumer)
    (events : List (StreamEvent Batch)) (execution : PartitionedExecution Handle Consumer) :
    Prop where
  streams : ∀ stream, execution.streams[stream]? =
    if stream < streamCount then some ⟨(firstTerminal events stream).isNone⟩ else none
  remaining : execution.state.remainingStreams = (pendingStreams streamCount events).card
  outcome : execution.state.outcome = executionOutcome streamCount events
  held : ¬AllTerminal streamCount events →
    execution.state.readStatsHandles = handles ∧ execution.state.profileConsumer = consumer

/-- The call that finalizes an execution after the events. -/
def finalCall (streamCount : ℕ) (handles : List Handle) (retained : Option Shared)
    (consumer : Option Consumer) (events : List (StreamEvent Batch)) :
    FinalizationCall Handle Shared Consumer :=
  ⟨handles, retained, consumer, executionOutcome streamCount events⟩

variable {streamCount : ℕ} {handles : List Handle} {consumer : Option Consumer}
  {events : List (StreamEvent Batch)} {execution : PartitionedExecution Handle Consumer}

theorem Tracks.start (handles : List Handle) (consumer : Option Consumer) :
    Tracks streamCount handles consumer ([] : List (StreamEvent Batch))
      ⟨⟨streamCount, .success, handles, consumer⟩, List.replicate streamCount ⟨true⟩⟩ where
  streams := fun stream => List.getElem?_replicate
  remaining := by
    have hpending : pendingStreams streamCount ([] : List (StreamEvent Batch)) =
        Finset.range streamCount := Finset.filter_true_of_mem fun _ _ => rfl
    rw [hpending, Finset.card_range]
  outcome := by
    have hnone : ∀ outcome, ¬EndsWith streamCount ([] : List (StreamEvent Batch)) outcome := by
      rintro outcome ⟨stream, -, hfirst⟩
      cases hfirst
    rw [executionOutcome, if_neg (hnone _), if_neg (hnone _)]
  held := fun _ => ⟨rfl, rfl⟩

theorem Tracks.unchanged (h : Tracks streamCount handles consumer events execution)
    {later : List (StreamEvent Batch)}
    (hsame : ∀ stream < streamCount, firstTerminal later stream = firstTerminal events stream) :
    Tracks streamCount handles consumer later execution where
  streams := by
    intro stream
    rw [h.streams stream]
    split_ifs with hlt
    · rw [hsame stream hlt]
    · rfl
  remaining := by rw [h.remaining, pendingStreams_congr hsame]
  outcome := by rw [h.outcome, executionOutcome_congr hsame]
  held := by
    intro hpending
    rw [allTerminal_iff, pendingStreams_congr hsame, ← allTerminal_iff] at hpending
    exact h.held hpending

variable (Shared) in
theorem Tracks.ended (h : Tracks streamCount handles consumer events execution)
    {later : List (StreamEvent Batch)} {stream : ℕ} {outcome : DeltaProviderScanOutcome}
    (hends : Ends streamCount events later stream outcome) :
    let recorded : _ × Option (FinalizationCall Handle Shared Consumer) :=
      execution.recordTerminalOnce stream outcome
    Tracks streamCount handles consumer later recorded.1 ∧
      recorded.2 =
        if AllTerminal streamCount later then
          some (finalCall streamCount handles none consumer later)
        else none := by
  intro recorded
  have hattached : execution.streams[stream]? = some ⟨true⟩ := by
    rw [h.streams, if_pos hends.lt, hends.before]
    rfl
  have hcard := hends.pendingStreams
  have hsome : execution.state.remainingStreams ≠ 0 := by
    rw [h.remaining]
    omega
  -- not all have ended before, so the execution still holds its handles and its consumer
  have hheld := h.held (by rw [allTerminal_iff]; omega)
  have hstrongest : strongestProviderScanOutcome execution.state.outcome outcome =
      executionOutcome streamCount later := by
    rw [h.outcome, hends.executionOutcome]
  have hremaining : execution.state.remainingStreams - 1 =
      (pendingStreams streamCount later).card := by
    rw [h.remaining]
    omega
  have hstreams : ∀ other, (execution.streams.set stream ⟨false⟩)[other]? =
      if other < streamCount then some ⟨(firstTerminal later other).isNone⟩ else none := by
    intro other
    rw [List.getElem?_set]
    by_cases heq : stream = other
    · subst heq
      have hlength : stream < execution.streams.length := by
        rw [List.getElem?_eq_some_iff] at hattached
        exact hattached.1
      rw [if_pos rfl, if_pos hlength, if_pos hends.lt, hends.after]
      rfl
    · rw [if_neg heq, h.streams, hends.others other (Ne.symm heq)]
  -- the last stream takes handles and consumer, any other leaves them
  by_cases hlast : AllTerminal streamCount later
  · have hzero : execution.state.remainingStreams - 1 = 0 := by
      rw [hremaining]
      exact allTerminal_iff.1 hlast
    simp only [recorded, recordTerminalOnce, hattached, PartitionExecutionState.recordStreamTerminal,
      if_neg hsome, hzero, ne_eq, not_true_eq_false, if_false, hstrongest, if_pos hlast]
    refine ⟨⟨hstreams, ?_, rfl, fun hpending => absurd hlast hpending⟩, ?_⟩
    · exact (allTerminal_iff.1 hlast).symm
    · rw [hheld.1, hheld.2]
      rfl
  · have hpositive : execution.state.remainingStreams - 1 ≠ 0 := by
      rw [hremaining]
      exact fun hzero => hlast (allTerminal_iff.2 hzero)
    simp only [recorded, recordTerminalOnce, hattached, PartitionExecutionState.recordStreamTerminal,
      if_neg hsome, if_pos hpositive, hstrongest, if_neg hlast]
    exact ⟨⟨hstreams, hremaining, rfl, fun _ => hheld⟩, trivial⟩

theorem recordEvent_cases (streamCount : ℕ) (events : List (StreamEvent Batch))
    (event : StreamEvent Batch) :
    (∃ outcome, event.outcome = some outcome ∧
      Ends streamCount events (events ++ [event]) event.stream outcome) ∨
    (∀ stream < streamCount,
        firstTerminal (events ++ [event]) stream = firstTerminal events stream) ∧
      (event.outcome = none ∨ streamCount ≤ event.stream ∨
        (firstTerminal events event.stream).isSome) := by
  have hother : ∀ other, other ≠ event.stream →
      firstTerminal (events ++ [event]) other = firstTerminal events other := by
    intro other hne
    rw [firstTerminal_concat, StreamEvent.terminal, if_neg (Ne.symm hne), Option.or_none]
  have hown : firstTerminal (events ++ [event]) event.stream =
      (firstTerminal events event.stream).or event.outcome := by
    rw [firstTerminal_concat, StreamEvent.terminal, if_pos rfl]
  -- an event counts when it is the first terminal one of a stream of the execution
  by_cases hlt : event.stream < streamCount
  · rcases hbefore : firstTerminal events event.stream with _ | first
    · rw [hbefore, Option.none_or] at hown
      rcases houtcome : event.outcome with _ | outcome
      · refine .inr ⟨fun stream _ => ?_, .inl rfl⟩
        by_cases heq : stream = event.stream
        · rw [heq, hown, houtcome, hbefore]
        · exact hother stream heq
      · exact .inl ⟨outcome, rfl, hlt, hbefore, hown.trans houtcome, hother⟩
    · refine .inr ⟨fun stream _ => ?_, .inr (.inr rfl)⟩
      by_cases heq : stream = event.stream
      · rw [heq, hown, hbefore, Option.some_or]
      · exact hother stream heq
  · refine .inr ⟨fun stream hstream => hother stream ?_, .inr (.inl (not_lt.1 hlt))⟩
    omega

/-- The run so far: the finalizer is called once all streams have ended. -/
structure RunTracks (streamCount : ℕ) (handles : List Handle) (consumer : Option Consumer)
    (events : List (StreamEvent Batch))
    (run : CompletionRun (PartitionedExecution Handle Consumer) Handle Shared Consumer Batch) :
    Prop where
  execution : Tracks streamCount handles consumer events run.execution
  calls : run.calls = if AllTerminal streamCount events then
    [finalCall streamCount handles none consumer events] else []
  forwarded : run.forwarded = events.filterMap StreamEvent.polled

theorem RunTracks.step
    {run : CompletionRun (PartitionedExecution Handle Consumer) Handle Shared Consumer Batch}
    (h : RunTracks streamCount handles consumer events run) (event : StreamEvent Batch) :
    RunTracks streamCount handles consumer (events ++ [event])
      (PartitionedExecution.step run event) := by
  have hforwarded : run.forwarded ++ event.polled.toList =
      (events ++ [event]).filterMap StreamEvent.polled := by
    rw [List.filterMap_append, h.forwarded]
    cases event <;> rfl
  rw [step_eq]
  rcases recordEvent_cases streamCount events event with ⟨outcome, houtcome, hends⟩ |
    ⟨hsame, hidle⟩
  · obtain ⟨htracks, hcall⟩ := h.execution.ended Shared hends
    have hbefore : ¬AllTerminal streamCount events := by
      intro hall
      have hended := hall _ hends.lt
      rw [hends.before] at hended
      cases hended
    have hrecord : (run.execution.recordEvent event : _ × Option (FinalizationCall Handle Shared _)) =
        run.execution.recordTerminalOnce event.stream outcome := by
      rw [recordEvent, houtcome]
    dsimp only
    rw [hrecord]
    refine ⟨htracks, ?_, hforwarded⟩
    rw [hcall, h.calls, if_neg hbefore]
    split_ifs <;> rfl
  · have hrecord : (run.execution.recordEvent event : _ × Option (FinalizationCall Handle Shared _)) =
        (run.execution, none) := by
      unfold recordEvent
      rcases houtcome : event.outcome with _ | outcome
      · rfl
      · have hdetached : run.execution.streams[event.stream]? = none ∨
            run.execution.streams[event.stream]? = some ⟨false⟩ := by
          rw [h.execution.streams]
          rcases hidle with hnone | hout | hended
          · rw [houtcome] at hnone
            cases hnone
          · exact .inl (if_neg (not_lt.2 hout))
          · by_cases hlt : event.stream < streamCount
            · rw [if_pos hlt, Option.isNone_eq_false_iff.2 hended]
              exact .inr rfl
            · exact .inl (if_neg hlt)
        rcases hdetached with hdetached | hdetached <;> simp only [recordTerminalOnce, hdetached]
    dsimp only
    rw [hrecord, Option.toList_none, List.append_nil]
    refine ⟨h.execution.unchanged hsame, ?_, hforwarded⟩
    rw [h.calls, finalCall, finalCall, executionOutcome_congr hsame]
    simp only [allTerminal_iff, pendingStreams_congr hsame]

theorem run_tracks (hcount : 0 < streamCount) (handles : List Handle) (consumer : Option Consumer)
    (events : List (StreamEvent Batch)) :
    RunTracks streamCount handles consumer events
      (run ⟨⟨streamCount, .success, handles, consumer⟩, List.replicate streamCount ⟨true⟩⟩ events :
        CompletionRun _ Handle Shared Consumer Batch) := by
  induction events using List.reverseRecOn with
  | nil =>
    refine ⟨.start handles consumer, ?_, rfl⟩
    rw [if_neg]
    · rfl
    · intro hall
      cases hall 0 hcount
  | append_singleton events event ih =>
    rw [run_concat]
    exact ih.step event

end PartitionedExecution

namespace QueryExecutionTerminalStream

theorem run_concat (stream : QueryExecutionTerminalStream Handle Shared Consumer)
    (events : List (StreamEvent Batch)) (event : StreamEvent Batch) :
    stream.run (events ++ [event]) = step (stream.run events) event := by
  rw [run, List.foldl_append]
  rfl

def recordEvent (stream : QueryExecutionTerminalStream Handle Shared Consumer)
    (event : StreamEvent Batch) :
    QueryExecutionTerminalStream Handle Shared Consumer ×
      Option (FinalizationCall Handle Shared Consumer) :=
  match event.outcome with
  | some outcome => stream.finalizeIfNeeded outcome
  | none => (stream, none)

theorem step_eq
    (run : CompletionRun (QueryExecutionTerminalStream Handle Shared Consumer) Handle Shared Consumer
      Batch) (event : StreamEvent Batch) :
    step run event =
      let recorded := run.execution.recordEvent event
      ⟨recorded.1, run.calls ++ recorded.2.toList, run.forwarded ++ event.polled.toList⟩ := by
  cases event with
  | drop stream =>
    rw [show (StreamEvent.drop stream : StreamEvent Batch).polled = none from rfl,
      Option.toList_none, List.append_nil]
    rfl
  | poll stream reply =>
    cases reply with
    | pending => rfl
    | ready item =>
      cases item with
      | none => rfl
      | some item => cases item <;> rfl

structure RunTracks (handles : List Handle) (retained : Option Shared) (consumer : Option Consumer)
    (events : List (StreamEvent Batch))
    (run : CompletionRun (QueryExecutionTerminalStream Handle Shared Consumer) Handle Shared Consumer
      Batch) : Prop where
  execution : run.execution = if AllTerminal 1 events then ⟨none, none, none⟩
    else ⟨some handles, retained, consumer⟩
  calls : run.calls = if AllTerminal 1 events then
    [PartitionedExecution.finalCall 1 handles retained consumer events] else []
  forwarded : run.forwarded = events.filterMap StreamEvent.polled

theorem RunTracks.step {handles : List Handle} {retained : Option Shared}
    {consumer : Option Consumer} {events : List (StreamEvent Batch)}
    {run : CompletionRun (QueryExecutionTerminalStream Handle Shared Consumer) Handle Shared Consumer
      Batch}
    (h : RunTracks handles retained consumer events run) {event : StreamEvent Batch}
    (hstream : event.stream = 0) :
    RunTracks handles retained consumer (events ++ [event])
      (QueryExecutionTerminalStream.step run event) := by
  have hforwarded : run.forwarded ++ event.polled.toList =
      (events ++ [event]).filterMap StreamEvent.polled := by
    rw [List.filterMap_append, h.forwarded]
    cases event <;> rfl
  rw [step_eq]
  rcases PartitionedExecution.recordEvent_cases 1 events event with
    ⟨outcome, houtcome, hends⟩ | ⟨hsame, hidle⟩
  · have honly : ∀ stream < 1, stream = event.stream := by
      intro stream hlt
      omega
    have hbefore : ¬AllTerminal 1 events := by
      intro hall
      have hended := hall _ hends.lt
      rw [hends.before] at hended
      cases hended
    have hafter : AllTerminal 1 (events ++ [event]) := by
      intro stream hlt
      rw [honly stream hlt, hends.after]
      rfl
    have hnone : ∀ any, ¬EndsWith 1 events any := by
      rintro any ⟨stream, hlt, hfirst⟩
      rw [honly stream hlt, hends.before] at hfirst
      cases hfirst
    have hfinal : executionOutcome 1 (events ++ [event]) = outcome := by
      rw [hends.executionOutcome, executionOutcome, if_neg (hnone _), if_neg (hnone _)]
      cases outcome <;> rfl
    have hexecution := h.execution
    rw [if_neg hbefore] at hexecution
    have hrecord : run.execution.recordEvent event =
        (⟨none, none, none⟩, some ⟨handles, retained, consumer, outcome⟩) := by
      rw [recordEvent, houtcome, hexecution]
      rfl
    dsimp only
    rw [hrecord]
    refine ⟨(if_pos hafter).symm, ?_, hforwarded⟩
    rw [h.calls, if_neg hbefore, if_pos hafter, PartitionedExecution.finalCall, hfinal]
    rfl
  · have hidleRecord : run.execution.recordEvent event = (run.execution, none) := by
      unfold recordEvent
      rcases houtcome : event.outcome with _ | outcome
      · rfl
      · have hended : AllTerminal 1 events := by
          intro stream hlt
          rcases hidle with hnone | hout | hended
          · rw [houtcome] at hnone
            cases hnone
          · omega
          · have heq : stream = event.stream := by omega
            rw [heq]
            exact hended
        rw [h.execution, if_pos hended]
        rfl
    dsimp only
    rw [hidleRecord, Option.toList_none, List.append_nil]
    have hall : AllTerminal 1 (events ++ [event]) ↔ AllTerminal 1 events := by
      rw [allTerminal_iff, pendingStreams_congr hsame, ← allTerminal_iff]
    refine ⟨?_, ?_, hforwarded⟩
    · rw [h.execution]
      simp only [hall]
    · rw [h.calls, PartitionedExecution.finalCall, PartitionedExecution.finalCall,
        executionOutcome_congr hsame]
      simp only [hall]

theorem run_tracks (handles : List Handle) (retained : Option Shared) (consumer : Option Consumer)
    {events : List (StreamEvent Batch)} (hstreams : ∀ event ∈ events, event.stream = 0) :
    RunTracks handles retained consumer events (run ⟨some handles, retained, consumer⟩ events) := by
  induction events using List.reverseRecOn with
  | nil =>
    have hnone : ¬AllTerminal 1 ([] : List (StreamEvent Batch)) := fun hall => by cases hall 0 Nat.one_pos
    exact ⟨(if_neg hnone).symm, (if_neg hnone).symm, rfl⟩
  | append_singleton events event ih =>
    rw [run_concat]
    refine (ih fun other hother => hstreams other (List.mem_append_left _ hother)).step ?_
    exact hstreams event (by simp)

end QueryExecutionTerminalStream

theorem finalizeTrackedQueryExecution_consumed (stats : DeltaProviderReadStats Handle Snapshot)
    (call : FinalizationCall Handle Shared Consumer) :
    (finalizeTrackedQueryExecution stats call).consumed.map Prod.fst = call.profileConsumer := by
  unfold finalizeTrackedQueryExecution
  dsimp only
  split_ifs with hnothing
  · rw [Bool.and_eq_true, Option.isNone_iff_eq_none] at hnothing
    exact hnothing.2.symm
  · rw [Option.map_map]
    exact Option.map_id_apply

/-- What holds of a tracked execution after the events, whatever their order. -/
structure CompletionLaw (streamCount : ℕ) (handles : List Handle) (consumer : Option Consumer)
    (execution : PartitionedExecution Handle Consumer) (events : List (StreamEvent Batch))
    (run : CompletionRun (PartitionedExecution Handle Consumer) Handle Shared Consumer Batch) :
    Prop where
  calls : run.calls =
    if AllTerminal streamCount events then
      [⟨handles, none, consumer, executionOutcome streamCount events⟩]
    else []
  called_by_last : ∀ event,
    (∃ call, (execution.run (events ++ [event])).calls = run.calls ++ [call]) ↔
      ¬AllTerminal streamCount events ∧ AllTerminal streamCount (events ++ [event])
  consumed : ∀ {Snapshot : Type} (stats : DeltaProviderReadStats Handle Snapshot),
    (run.calls.filterMap fun call =>
      (finalizeTrackedQueryExecution stats call).consumed.map Prod.fst) =
      if AllTerminal streamCount events then consumer.toList else []
  forwarded : run.forwarded = events.filterMap StreamEvent.polled
  merged : streamCount = 1 → (∀ event ∈ events, event.stream = 0) → ∀ retained : Option Shared,
    ∃ merged, trackQueryExecutionCompletion handles retained consumer = .tracked merged ∧
      (merged.run events).calls =
        run.calls.map (fun call => { call with providerStatsSnapshots := retained }) ∧
      (merged.run events).forwarded = run.forwarded

/-- **Finalized exactly once.** The last of the streams to end, fail or be dropped finalizes the
execution, with the strongest of their first outcomes; a merged stream is the case of one. -/
theorem queryExecution_finalized_once {streamCount : ℕ} (hcount : 0 < streamCount)
    (handles : List Handle) (consumer : Option Consumer)
    (htracked : handles ≠ [] ∨ consumer.isSome) :
    ∃ execution, (trackPartitionedQueryExecutionCompletion streamCount handles consumer :
        TrackedExecution _ Handle Shared Consumer) = .tracked execution ∧
      ∀ events : List (StreamEvent Batch),
        CompletionLaw streamCount handles consumer execution events
          (execution.run events : CompletionRun _ Handle Shared Consumer Batch) := by
  have hsome : ¬(handles.isEmpty && consumer.isNone) = true := by
    rw [Bool.and_eq_true, List.isEmpty_iff, Option.isNone_iff_eq_none]
    rintro ⟨hhandles, hconsumer⟩
    rcases htracked with hne | hconsumed
    · exact hne hhandles
    · rw [hconsumer] at hconsumed
      cases hconsumed
  refine ⟨_, (if_neg hsome).trans (if_neg hcount.ne'), fun events => ?_⟩
  have htracks : PartitionedExecution.RunTracks streamCount handles consumer events
      (PartitionedExecution.run _ events : CompletionRun _ Handle Shared Consumer Batch) :=
    PartitionedExecution.run_tracks hcount handles consumer events
  refine ⟨htracks.calls, fun event => ?_, fun stats => ?_, htracks.forwarded, ?_⟩
  · have hlater : PartitionedExecution.RunTracks streamCount handles consumer (events ++ [event])
        (PartitionedExecution.run _ _ : CompletionRun _ Handle Shared Consumer Batch) :=
      PartitionedExecution.run_tracks hcount handles consumer (events ++ [event])
    -- what has ended stays ended, so only the event that ends the last stream adds a call
    have hkept : AllTerminal streamCount events → AllTerminal streamCount (events ++ [event]) := by
      intro hall stream hlt
      rw [firstTerminal_concat, Option.isSome_or, hall stream hlt, Bool.true_or]
    rw [hlater.calls, htracks.calls]
    by_cases hbefore : AllTerminal streamCount events
    · rw [if_pos hbefore, if_pos (hkept hbefore)]
      refine iff_of_false ?_ fun h => h.1 hbefore
      rintro ⟨call, hcall⟩
      cases congrArg List.length hcall
    · rw [if_neg hbefore]
      by_cases hafter : AllTerminal streamCount (events ++ [event])
      · rw [if_pos hafter]
        exact iff_of_true ⟨_, rfl⟩ ⟨hbefore, hafter⟩
      · rw [if_neg hafter]
        refine iff_of_false ?_ fun h => hafter h.2
        rintro ⟨call, hcall⟩
        cases hcall
  · simp only [finalizeTrackedQueryExecution_consumed]
    rw [htracks.calls]
    split_ifs
    · cases consumer <;> rfl
    · rfl
  · rintro rfl hstreams retained
    have hmerged := QueryExecutionTerminalStream.run_tracks handles retained consumer hstreams
    refine ⟨_, if_neg hsome, ?_, ?_⟩
    · rw [hmerged.calls, htracks.calls]
      split_ifs <;> rfl
    · rw [hmerged.forwarded, htracks.forwarded]

/-- Two partitions: one is dropped, then the other fails. -/
theorem two_partitions_finalized_once :
    (∃ execution, (trackPartitionedQueryExecutionCompletion 2 ["orders"] (none : Option Unit) :
        TrackedExecution _ String Unit Unit) = .tracked execution ∧
      ∀ events : List (StreamEvent ℕ), CompletionLaw 2 ["orders"] none execution events
        (execution.run events : CompletionRun _ String Unit Unit ℕ)) ∧
    executionOutcome 2 [.drop 1, .poll 0 (.ready (some (.error (.other "read")))),
      (.poll 0 (.ready none) : StreamEvent ℕ)] = .error :=
  ⟨queryExecution_finalized_once (by decide) _ _ (.inl (by decide)), by decide⟩

end DeltaFunnel
