import DeltaFunnel.Interaction.Narration
import DeltaFunnel.Progress.RichDisplay
import DeltaFunnel.Support

/-! Progress events as the core emits them: their constructors, reporters that stand for one output
of several, and file progress sampled from the counters of the scans. -/

namespace DeltaFunnel
open Interaction

def ProgressSnapshot.new (phase : ProgressPhase) (outputName : Option String) : ProgressSnapshot :=
  ⟨phase, outputName.map sanitizeTextForDisplay, none, none, none⟩

def ProgressOutputPosition.new (index count : ℕ) : Option ProgressOutputPosition :=
  if h : index = 0 ∨ index > count then none
  else some ⟨index, count, by omega, by omega⟩

namespace ProgressEvent

/-- `phase_changed`. -/
def enteredPhase (phase : ProgressPhase) (outputName : Option String) : ProgressEvent :=
  .phaseChanged (.new phase outputName)

/-- `progress`, with the accepted rows and batches. -/
def acceptedBatches (phase : ProgressPhase) (outputName : Option String) (rows batches : ℕ) :
    ProgressEvent :=
  .progress { ProgressSnapshot.new phase outputName with metrics := some ⟨rows, batches⟩ }

def withOutputPosition (event : ProgressEvent) (index count : ℕ) : Option ProgressEvent :=
  match ProgressOutputPosition.new index count with
  | none => none
  | some position =>
    match event with
    | .phaseChanged snapshot => some (.phaseChanged { snapshot with outputPosition := some position })
    | .progress snapshot => some (.progress { snapshot with outputPosition := some position })
    | _ => none

end ProgressEvent

/-- A reporter without a callback drops every event. -/
structure ProgressReporter where
  callback : Bool
  outputPosition : Option ProgressOutputPosition
  deriving DecidableEq, Repr

namespace ProgressReporter

/-- What the callback is called with for an emitted event. -/
def forwarded (reporter : ProgressReporter) (event : ProgressEvent) : Option ProgressEvent :=
  if reporter.callback = true then
    match reporter.outputPosition with
    | some position => event.withOutputPosition position.index position.count
    | none => some event
  else none

def emit {σ : Signature} (reporter : ProgressReporter) (event : ProgressEvent) :
    Narrated ProgressEvent σ Unit :=
  match reporter.forwarded event with
  | some event => Narrated.say event
  | none => pure ()

/-- A reporter that has a position keeps it. -/
def forOutput (reporter : ProgressReporter) (index count : ℕ) : Option ProgressReporter :=
  (ProgressOutputPosition.new index count).map fun position =>
    ⟨reporter.callback, some (reporter.outputPosition.getD position)⟩

end ProgressReporter

theorem ProgressOutputPosition.new_self (position : ProgressOutputPosition) :
    ProgressOutputPosition.new position.index position.count = some position := by
  have hpos := position.index_pos
  have hle := position.index_le
  exact dif_neg (by omega)

theorem ProgressReporter.forOutput_stays {reporter output : ProgressReporter} {index count : ℕ}
    (h : reporter.forOutput index count = some output) :
    (∀ event forwarded, output.forwarded event = some forwarded →
      event.kind = .phaseChanged ∨ event.kind = .progress) ∧
    ∀ index' count' again, output.forOutput index' count' = some again → again = output := by
  obtain ⟨position, -, rfl⟩ := Option.map_eq_some_iff.1 h
  constructor
  · intro event forwarded hforwarded
    unfold ProgressReporter.forwarded at hforwarded
    split_ifs at hforwarded
    dsimp only at hforwarded
    unfold ProgressEvent.withOutputPosition at hforwarded
    rw [ProgressOutputPosition.new_self] at hforwarded
    cases event with
    | phaseChanged snapshot => exact .inl rfl
    | progress snapshot => exact .inr rfl
    | _ => cases hforwarded
  · intro index' count' again hagain
    obtain ⟨position', -, rfl⟩ := Option.map_eq_some_iff.1 hagain
    rfl

/-- `if let Some(reporter) = reporter { reporter.emit(…) }`. -/
def emitOptional {σ : Signature} (reporter : Option ProgressReporter) (event : ProgressEvent) :
    Narrated ProgressEvent σ Unit :=
  match reporter with
  | some reporter => reporter.emit event
  | none => pure ()

@[simp] theorem silent_emitOptional_bind {σ : Signature} {α : Type}
    (reporter : Option ProgressReporter) (event : ProgressEvent)
    (next : Unit → Narrated ProgressEvent σ α) :
    Narrated.silent (emitOptional reporter event >>= next) = Narrated.silent (next ()) := by
  cases reporter with
  | none => rfl
  | some reporter =>
    unfold emitOptional ProgressReporter.emit
    dsimp only
    cases reporter.forwarded event <;> rfl

def ProgressSnapshot.placed (snapshot : ProgressSnapshot)
    (position : Option ProgressOutputPosition) : ProgressSnapshot :=
  { snapshot with outputPosition := position }

theorem ProgressSnapshot.placed_none {snapshot : ProgressSnapshot}
    (hunplaced : snapshot.outputPosition = none) : snapshot.placed none = snapshot := by
  unfold placed
  rw [← hunplaced]

section Emit
variable {σ : Signature} (position : Option ProgressOutputPosition) {snapshot : ProgressSnapshot}

theorem forwarded_phaseChanged (hunplaced : snapshot.outputPosition = none) :
    ProgressReporter.forwarded ⟨true, position⟩ (.phaseChanged snapshot) =
      some (.phaseChanged (snapshot.placed position)) := by
  unfold ProgressReporter.forwarded ProgressEvent.withOutputPosition
  cases position with
  | none =>
    rw [ProgressSnapshot.placed_none hunplaced]
    rfl
  | some position =>
    dsimp only
    rw [ProgressOutputPosition.new_self]
    rfl

theorem forwarded_progress (hunplaced : snapshot.outputPosition = none) :
    ProgressReporter.forwarded ⟨true, position⟩ (.progress snapshot) =
      some (.progress (snapshot.placed position)) := by
  unfold ProgressReporter.forwarded ProgressEvent.withOutputPosition
  cases position with
  | none =>
    rw [ProgressSnapshot.placed_none hunplaced]
    rfl
  | some position =>
    dsimp only
    rw [ProgressOutputPosition.new_self]
    rfl

theorem emit_phaseChanged (hunplaced : snapshot.outputPosition = none) :
    ProgressReporter.emit ⟨true, position⟩ (.phaseChanged snapshot) =
      (Narrated.say (.phaseChanged (snapshot.placed position)) : Narrated ProgressEvent σ Unit) := by
  unfold ProgressReporter.emit
  rw [forwarded_phaseChanged position hunplaced]

theorem emit_progress (hunplaced : snapshot.outputPosition = none) :
    ProgressReporter.emit ⟨true, position⟩ (.progress snapshot) =
      (Narrated.say (.progress (snapshot.placed position)) : Narrated ProgressEvent σ Unit) := by
  unfold ProgressReporter.emit
  rw [forwarded_progress position hunplaced]

end Emit

/-- The counters of one scan that progress is made from. -/
structure DeltaReadMetricsSnapshot where
  scanMetadataExhausted : Option Bool
  filesPlanned : ℕ
  filesFilteredDuringPlanning : Option ℕ
  filesCompleted : ℕ
  deriving DecidableEq, Repr

structure DeltaDataFusionMetricsSnapshot where
  reader : DeltaReadMetricsSnapshot
  dynamicPartitionFilesPruned : ℕ
  deriving DecidableEq, Repr

/-- `u64::checked_add`. -/
def checkedAddU64 (a b : ℕ) : Option ℕ := if a + b ≤ u64Max then some (a + b) else none

namespace DeltaFileProgress

def new (handled total runtimePruned : ℕ) (planningPruned : Option ℕ) : Option DeltaFileProgress :=
  if h : total = 0 then none
  else
    some
      { handled := if handled > total then total else handled
        total
        runtimePruned :=
          if runtimePruned > (if handled > total then total else handled) then
            (if handled > total then total else handled)
          else runtimePruned
        planningPruned
        total_pos := by omega
        handled_le := by split_ifs <;> omega
        runtimePruned_le := by split_ifs <;> omega }

/-- The files of all scans; `none` unless every scan knows all its files. -/
def fromProviderStats (providerStats : List DeltaDataFusionMetricsSnapshot) :
    Option DeltaFileProgress :=
  if providerStats.isEmpty ∨
      (providerStats.any fun stats => stats.reader.scanMetadataExhausted ≠ some true) = true then
    none
  else do
    let total ← providerStats.foldlM (fun total stats =>
      checkedAddU64 total stats.reader.filesPlanned) 0
    let completed := providerStats.foldl (fun completed stats =>
      saturatingAdd completed stats.reader.filesCompleted) 0
    let pruned := providerStats.foldl (fun pruned stats =>
      saturatingAdd pruned stats.dynamicPartitionFilesPruned) 0
    let planningPruned := providerStats.foldlM (fun total stats =>
      stats.reader.filesFilteredDuringPlanning.bind (checkedAddU64 total)) 0
    new (saturatingAdd completed pruned) total pruned planningPruned

end DeltaFileProgress

def ProgressEvent.fileProgressFromProviderStats (phase : ProgressPhase)
    (outputName : Option String) (providerStats : List DeltaDataFusionMetricsSnapshot) :
    Option ProgressEvent :=
  (DeltaFileProgress.fromProviderStats providerStats).map fun progress =>
    .progress { ProgressSnapshot.new phase outputName with fileProgress := some progress }

structure DeltaFileProgressSampler where
  phase : ProgressPhase
  outputName : Option String
  lastFileProgress : Option (ℕ × ℕ)
  deriving DecidableEq, Repr

/-- `files_handled` and `files_total`, which an event has together. -/
def ProgressEvent.fileCounts (event : ProgressEvent) : Option (ℕ × ℕ) :=
  event.fileProgress.map fun progress => (progress.handled, progress.total)

namespace DeltaFileProgressSampler

def new (phase : ProgressPhase) (outputName : Option String) : DeltaFileProgressSampler :=
  ⟨phase, outputName, none⟩

/-- The event to emit for the counters as they are, and the sampler after it. -/
def emitIfChanged (sampler : DeltaFileProgressSampler)
    (snapshots : List DeltaDataFusionMetricsSnapshot) :
    Option ProgressEvent × DeltaFileProgressSampler :=
  match ProgressEvent.fileProgressFromProviderStats sampler.phase sampler.outputName snapshots with
  | none => (none, sampler)
  | some event =>
    match event.fileCounts with
    | none => (none, sampler)
    | some fileProgress =>
      if sampler.lastFileProgress = some fileProgress then (none, sampler)
      else (some event, { sampler with lastFileProgress := some fileProgress })

end DeltaFileProgressSampler

def DeltaFileProgressSampler.eventFor (sampler : DeltaFileProgressSampler)
    (progress : DeltaFileProgress) : ProgressEvent :=
  .progress { ProgressSnapshot.new sampler.phase sampler.outputName with
    fileProgress := some progress }

theorem DeltaFileProgressSampler.emitIfChanged_cases (sampler : DeltaFileProgressSampler)
    (snapshots : List DeltaDataFusionMetricsSnapshot) :
    (sampler.emitIfChanged snapshots = (none, sampler) ∧
      ∀ progress, DeltaFileProgress.fromProviderStats snapshots = some progress →
        sampler.lastFileProgress = some (progress.handled, progress.total)) ∨
    ∃ progress, DeltaFileProgress.fromProviderStats snapshots = some progress ∧
      sampler.lastFileProgress ≠ some (progress.handled, progress.total) ∧
      sampler.emitIfChanged snapshots = (some (sampler.eventFor progress),
        { sampler with lastFileProgress := some (progress.handled, progress.total) }) := by
  cases hprogress : DeltaFileProgress.fromProviderStats snapshots with
  | none =>
    refine .inl ⟨?_, fun progress hsome => by cases hsome⟩
    unfold emitIfChanged ProgressEvent.fileProgressFromProviderStats
    rw [hprogress]
    rfl
  | some progress =>
    have hevent : ProgressEvent.fileProgressFromProviderStats sampler.phase sampler.outputName
        snapshots = some (sampler.eventFor progress) := by
      unfold ProgressEvent.fileProgressFromProviderStats
      rw [hprogress]
      rfl
    have hcounts : (sampler.eventFor progress).fileCounts =
        some (progress.handled, progress.total) := rfl
    unfold emitIfChanged
    rw [hevent]
    dsimp only
    rw [hcounts]
    dsimp only
    by_cases hsame : sampler.lastFileProgress = some (progress.handled, progress.total)
    · rw [if_pos hsame]
      refine .inl ⟨rfl, ?_⟩
      intro progress' hprogress'
      rw [← Option.some.inj hprogress']
      exact hsame
    · rw [if_neg hsame]
      exact .inr ⟨progress, rfl, hsame, rfl⟩

end DeltaFunnel
