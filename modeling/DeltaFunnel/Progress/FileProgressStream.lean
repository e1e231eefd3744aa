import DeltaFunnel.Progress.ProgressReporter
import DeltaFunnel.Session.QueryCompletion
import Mathlib.Algebra.BigOperators.Group.List.Basic
import Mathlib.Algebra.GroupWithZero.Nat
import Mathlib.Data.List.Destutter

/-! The file progress of a polled stream: which of its polls sample the counters of the scans, what
the samples count, and which of them are announced. -/

namespace DeltaFunnel

/-- The file progress of a stream, with a reporter of its own. -/
structure FileTracker where
  reporter : ProgressReporter
  sampler : DeltaFileProgressSampler
  deriving DecidableEq, Repr

/-- `wrap_stream_with_query_execution_tracking`: without scans no file progress is tracked. -/
def fileTracker (readStatsHandles : Bool) (progress : Option (ProgressReporter × String)) :
    Option FileTracker :=
  (progress.filter fun _ => readStatsHandles).map fun (reporter, outputName) =>
    ⟨reporter, .new .writing (some outputName)⟩

namespace FileTracker
variable {Batch : Type}

/-- What is announced for the counters as they are, and the tracker after it. -/
def emitIfChanged (tracker : FileTracker) (snapshots : List DeltaDataFusionMetricsSnapshot) :
    Option ProgressEvent × FileTracker :=
  let (event, sampler) := tracker.sampler.emitIfChanged snapshots
  (event.bind tracker.reporter.forwarded, { tracker with sampler })

/-- One poll: the inner stream answers `reply`, and leaves the counters at `snapshots`. -/
def pollNext (tracker : FileTracker) (reply : StreamPoll Batch)
    (snapshots : List DeltaDataFusionMetricsSnapshot) :
    (StreamPoll Batch × Option ProgressEvent) × FileTracker :=
  match reply with
  | .ready none =>
    let (announced, tracker) := tracker.emitIfChanged snapshots
    ((.ready none, announced), tracker)
  | .ready (some (.error error)) =>
    let (announced, tracker) := tracker.emitIfChanged snapshots
    ((.ready (some (.error error)), announced), tracker)
  | .ready (some (.ok batch)) =>
    let (announced, tracker) := tracker.emitIfChanged snapshots
    ((.ready (some (.ok batch)), announced), tracker)
  | .pending => ((.pending, none), tracker)

def polls (tracker : FileTracker) :
    List (StreamPoll Batch × List DeltaDataFusionMetricsSnapshot) →
      List (StreamPoll Batch × Option ProgressEvent)
  | [] => []
  | (reply, snapshots) :: rest =>
    let (answered, tracker) := tracker.pollNext reply snapshots
    answered :: tracker.polls rest

end FileTracker

section Counts

def scanSum (count : DeltaDataFusionMetricsSnapshot → ℕ)
    (snapshots : List DeltaDataFusionMetricsSnapshot) : ℕ := (snapshots.map count).sum

/-- The files left out while planning, if every scan knows them and their number is a `u64`. -/
def filteredFiles (snapshots : List DeltaDataFusionMetricsSnapshot) : Option ℕ :=
  ((snapshots.mapM fun scan : DeltaDataFusionMetricsSnapshot =>
    scan.reader.filesFilteredDuringPlanning).map List.sum).filter (· ≤ u64Max)

/-- The files of all scans as they stand, if every scan knows its files, there are some, and their
number is a `u64`. -/
def scannedFiles (snapshots : List DeltaDataFusionMetricsSnapshot) : Option DeltaFileProgress :=
  let total := scanSum (·.reader.filesPlanned) snapshots
  let completed := scanSum (·.reader.filesCompleted) snapshots
  let pruned := scanSum (·.dynamicPartitionFilesPruned) snapshots
  if h : (∀ scan ∈ snapshots, scan.reader.scanMetadataExhausted = some true) ∧ 0 < total ∧
      total ≤ u64Max then
    some
      { handled := min (completed + pruned) total
        total
        runtimePruned := min pruned total
        planningPruned := filteredFiles snapshots
        total_pos := h.2.1
        handled_le := Nat.min_le_right _ _
        runtimePruned_le := by omega }
  else none

theorem foldl_saturatingAdd (count : DeltaDataFusionMetricsSnapshot → ℕ)
    (snapshots : List DeltaDataFusionMetricsSnapshot) (a : ℕ) :
    snapshots.foldl (fun sum scan => saturatingAdd sum (count scan)) (min a u64Max) =
      min (a + scanSum count snapshots) u64Max := by
  induction snapshots generalizing a with
  | nil => rfl
  | cons scan snapshots ih =>
    have hfirst : saturatingAdd (min a u64Max) (count scan) = min (a + count scan) u64Max := by
      unfold saturatingAdd
      omega
    have hsum : scanSum count (scan :: snapshots) = count scan + scanSum count snapshots :=
      List.sum_cons
    rw [List.foldl_cons, hfirst, ih, hsum, Nat.add_assoc]

/-- Sums that are checked at every step are too large in the end if they are too large once. -/
theorem foldlM_checkedAddU64 (count : DeltaDataFusionMetricsSnapshot → Option ℕ)
    (snapshots : List DeltaDataFusionMetricsSnapshot) {a : ℕ} (ha : a ≤ u64Max) :
    snapshots.foldlM (fun sum scan => (count scan).bind (checkedAddU64 sum)) a =
      ((snapshots.mapM count).map fun counts => a + counts.sum).filter (· ≤ u64Max) := by
  induction snapshots generalizing a with
  | nil =>
    have hfits : (some a).filter (· ≤ u64Max) = some a := by
      simp only [Option.filter, ha, decide_true, if_true]
    exact hfits.symm
  | cons scan snapshots ih =>
    rw [List.foldlM_cons, List.mapM_cons]
    cases hcount : count scan with
    | none => rfl
    | some first =>
      simp only [Option.bind_eq_bind, Option.bind_some, Option.pure_def]
      by_cases hfits : a + first ≤ u64Max
      · have hadd : checkedAddU64 a first = some (a + first) := if_pos hfits
        rw [hadd, Option.bind_some, ih hfits]
        cases snapshots.mapM count with
        | none => rfl
        | some counts => simp [Nat.add_assoc]
      · have hadd : checkedAddU64 a first = none := if_neg hfits
        rw [hadd, Option.bind_none]
        cases snapshots.mapM count with
        | none => rfl
        | some counts =>
          have hlarge : ¬a + (first + counts.sum) ≤ u64Max := by omega
          simp only [Option.bind_some, Option.map_some, List.sum_cons, Option.filter, hlarge,
            decide_false, Bool.false_eq_true, if_false]

theorem foldlM_filesPlanned (snapshots : List DeltaDataFusionMetricsSnapshot) :
    snapshots.foldlM (fun total scan => checkedAddU64 total scan.reader.filesPlanned) 0 =
      (some (scanSum (·.reader.filesPlanned) snapshots)).filter (· ≤ u64Max) := by
  have hall : snapshots.mapM (fun scan => some scan.reader.filesPlanned) =
      some (snapshots.map (·.reader.filesPlanned)) := by
    induction snapshots with
    | nil => rfl
    | cons scan snapshots ih =>
      rw [List.mapM_cons, ih]
      rfl
  have hfold := foldlM_checkedAddU64 (fun scan => some scan.reader.filesPlanned) snapshots
    (Nat.zero_le u64Max)
  rw [hall] at hfold
  simp only [Option.bind_some, Option.map_some, Nat.zero_add] at hfold
  exact hfold

theorem fromProviderStats_eq (snapshots : List DeltaDataFusionMetricsSnapshot) :
    DeltaFileProgress.fromProviderStats snapshots = scannedFiles snapshots := by
  have hcompleted := foldl_saturatingAdd (·.reader.filesCompleted) snapshots 0
  have hpruned := foldl_saturatingAdd (·.dynamicPartitionFilesPruned) snapshots 0
  have hfiltered := foldlM_checkedAddU64 (fun scan => scan.reader.filesFilteredDuringPlanning)
    snapshots (Nat.zero_le u64Max)
  rw [Nat.zero_min, Nat.zero_add] at hcompleted hpruned
  simp only [Nat.zero_add] at hfiltered
  unfold DeltaFileProgress.fromProviderStats scannedFiles
  dsimp only
  by_cases hknown : ∀ scan ∈ snapshots, scan.reader.scanMetadataExhausted = some true
  · by_cases hempty : snapshots = []
    · subst hempty
      rfl
    · have hgo : ¬(snapshots.isEmpty ∨ (snapshots.any fun stats =>
          stats.reader.scanMetadataExhausted ≠ some true) = true) := by
        rintro (hnil | hopen)
        · exact hempty (List.isEmpty_iff.1 hnil)
        · obtain ⟨scan, hscan, hunknown⟩ := List.any_eq_true.1 hopen
          exact of_decide_eq_true hunknown (hknown scan hscan)
      rw [if_neg hgo, foldlM_filesPlanned, hcompleted, hpruned, hfiltered, saturatingAdd_min]
      by_cases hfits : scanSum (·.reader.filesPlanned) snapshots ≤ u64Max
      · simp only [Option.filter, hfits, decide_true, if_true, Option.bind_eq_bind,
          Option.bind_some]
        unfold DeltaFileProgress.new
        by_cases hzero : scanSum (·.reader.filesPlanned) snapshots = 0
        · rw [dif_pos hzero, dif_neg (by omega)]
        · rw [dif_neg hzero, dif_pos ⟨hknown, Nat.pos_of_ne_zero hzero, trivial⟩]
          simp only [Option.some.injEq, DeltaFileProgress.mk.injEq, true_and]
          refine ⟨?_, ?_, rfl⟩
          · split_ifs <;> omega
          · split_ifs <;> omega
      · have hlarge : ¬((∀ scan ∈ snapshots, scan.reader.scanMetadataExhausted = some true) ∧
            0 < scanSum (·.reader.filesPlanned) snapshots ∧
            scanSum (·.reader.filesPlanned) snapshots ≤ u64Max) := fun h => hfits h.2.2
        rw [dif_neg hlarge]
        simp [Option.filter, hfits]
  · have hstop : snapshots.isEmpty ∨ (snapshots.any fun stats =>
        stats.reader.scanMetadataExhausted ≠ some true) = true := by
      push Not at hknown
      obtain ⟨scan, hscan, hunknown⟩ := hknown
      exact .inr (List.any_eq_true.2 ⟨scan, hscan, decide_eq_true hunknown⟩)
    have hnot : ¬((∀ scan ∈ snapshots, scan.reader.scanMetadataExhausted = some true) ∧
        0 < scanSum (·.reader.filesPlanned) snapshots ∧
        scanSum (·.reader.filesPlanned) snapshots ≤ u64Max) := fun h => hknown h.1
    rw [if_pos hstop, dif_neg hnot]

end Counts
/-- `files_handled` and `files_total`. -/
def DeltaFileProgress.counts (progress : DeltaFileProgress) : ℕ × ℕ :=
  (progress.handled, progress.total)

/-- The progress of a poll: the counters are sampled when an item or the end is ready. -/
def sampledBy {Batch : Type} :
    StreamPoll Batch × List DeltaDataFusionMetricsSnapshot → Option DeltaFileProgress
  | (.ready _, snapshots) => scannedFiles snapshots
  | (.pending, _) => none

/-- Counts are announced when they are other than those announced last. -/
abbrev CountsChange (earlier later : DeltaFileProgress) : Prop := earlier.counts ≠ later.counts

namespace FileTracker
variable {Batch : Type} {position : Option ProgressOutputPosition} {tracker : FileTracker}

def eventFor (tracker : FileTracker) (progress : DeltaFileProgress) : ProgressEvent :=
  .progress
    { phase := tracker.sampler.phase
      outputName := tracker.sampler.outputName.map sanitizeTextForDisplay
      outputPosition := tracker.reporter.outputPosition
      fileProgress := some progress
      metrics := none }

theorem emitIfChanged_cases (hcallback : tracker.reporter.callback = true)
    (snapshots : List DeltaDataFusionMetricsSnapshot) :
    (tracker.emitIfChanged snapshots = (none, tracker) ∧
      ∀ progress, scannedFiles snapshots = some progress →
        tracker.sampler.lastFileProgress = some progress.counts) ∨
    ∃ progress, scannedFiles snapshots = some progress ∧
      tracker.sampler.lastFileProgress ≠ some progress.counts ∧
      tracker.emitIfChanged snapshots = (some (tracker.eventFor progress),
        ⟨tracker.reporter, { tracker.sampler with
          lastFileProgress := some progress.counts }⟩) := by
  obtain ⟨⟨callback, position⟩, sampler⟩ := tracker
  obtain rfl : callback = true := hcallback
  unfold emitIfChanged
  rw [← fromProviderStats_eq]
  obtain ⟨heq, hsame⟩ | ⟨progress, hprogress, hchanged, heq⟩ :=
    sampler.emitIfChanged_cases snapshots
  · rw [heq]
    exact .inl ⟨rfl, hsame⟩
  · rw [heq]
    refine .inr ⟨progress, hprogress, hchanged, ?_⟩
    dsimp only [Option.bind_some]
    unfold DeltaFileProgressSampler.eventFor
    rw [forwarded_progress position rfl]
    rfl

theorem pollNext_ready (item : Option (Except DeltaFunnelError Batch))
    (snapshots : List DeltaDataFusionMetricsSnapshot) :
    tracker.pollNext (.ready item) snapshots =
      ((.ready item, (tracker.emitIfChanged snapshots).1), (tracker.emitIfChanged snapshots).2) := by
  rcases item with _ | _ | _
  · rfl
  · rfl
  · rfl

theorem polls_answers (rounds : List (StreamPoll Batch × List DeltaDataFusionMetricsSnapshot)) :
    (tracker.polls rounds).map Prod.fst = rounds.map Prod.fst := by
  induction rounds generalizing tracker with
  | nil => rfl
  | cons round rounds ih =>
    obtain ⟨reply, snapshots⟩ := round
    unfold polls
    rw [List.map_cons, List.map_cons, ih]
    cases reply with
    | pending => rfl
    | ready item => rw [pollNext_ready]

theorem polls_take (first second : List (StreamPoll Batch × List DeltaDataFusionMetricsSnapshot)) :
    (tracker.polls (first ++ second)).take first.length = tracker.polls first := by
  induction first generalizing tracker with
  | nil => rfl
  | cons round first ih => exact congrArg (_ :: ·) ih

theorem polls_announced_after (hcallback : tracker.reporter.callback = true)
    (rounds : List (StreamPoll Batch × List DeltaDataFusionMetricsSnapshot))
    {last : DeltaFileProgress} (hlast : tracker.sampler.lastFileProgress = some last.counts) :
    tracker.eventFor last :: (tracker.polls rounds).filterMap Prod.snd =
      ((rounds.filterMap sampledBy).destutter' CountsChange last).map tracker.eventFor := by
  -- over the polls, with the sample announced last
  induction rounds generalizing tracker last with
  | nil => rfl
  | cons round rounds ih =>
    obtain ⟨reply, snapshots⟩ := round
    unfold polls
    cases reply with
    | pending =>
      rw [List.filterMap_cons_none (f := sampledBy) rfl, ← ih hcallback hlast]
      rfl
    | ready item =>
      rw [pollNext_ready]
      dsimp only
      have hsampled : sampledBy (StreamPoll.ready item, snapshots) = scannedFiles snapshots := rfl
      obtain ⟨heq, hsame⟩ | ⟨progress, hprogress, hchanged, heq⟩ :=
        emitIfChanged_cases hcallback snapshots
      · -- the counts are those announced last, if there are any
        rw [heq, List.filterMap_cons_none (f := Prod.snd) rfl, ih hcallback hlast]
        cases hsample : scannedFiles snapshots with
        | none =>
          rw [hsample] at hsampled
          rw [List.filterMap_cons_none hsampled]
        | some progress =>
          rw [hsample] at hsampled
          have hcounts := (hsame progress hsample).symm.trans hlast
          have hkept : ¬CountsChange last progress :=
            not_ne_iff.2 (Option.some.inj hcounts).symm
          rw [List.filterMap_cons_some hsampled, List.destutter'_cons_neg _ hkept]
      · rw [hprogress] at hsampled
        -- the counts have changed, so this sample is the one announced last
        have hnew : CountsChange last progress := by
          intro hsame
          rw [hlast, hsame] at hchanged
          exact hchanged rfl
        let told : FileTracker := ⟨tracker.reporter, { tracker.sampler with
          lastFileProgress := some progress.counts }⟩
        have htold : told.reporter.callback = true := hcallback
        have hrest : told.eventFor progress :: (told.polls rounds).filterMap Prod.snd =
            ((rounds.filterMap sampledBy).destutter' CountsChange progress).map told.eventFor :=
          ih htold rfl
        rw [heq]
        rw [List.filterMap_cons_some hsampled, List.destutter'_cons_pos _ hnew, List.map_cons,
          List.filterMap_cons_some (f := Prod.snd) rfl]
        exact congrArg (tracker.eventFor last :: ·) hrest

theorem polls_announced (hcallback : tracker.reporter.callback = true)
    (rounds : List (StreamPoll Batch × List DeltaDataFusionMetricsSnapshot))
    (hlast : tracker.sampler.lastFileProgress = none) :
    (tracker.polls rounds).filterMap Prod.snd =
      ((rounds.filterMap sampledBy).destutter CountsChange).map tracker.eventFor := by
  induction rounds with
  | nil => rfl
  | cons round rounds ih =>
    obtain ⟨reply, snapshots⟩ := round
    unfold polls
    cases reply with
    | pending =>
      have hsampled : sampledBy ((.pending : StreamPoll Batch), snapshots) = none := rfl
      rw [List.filterMap_cons_none hsampled, ← ih]
      rfl
    | ready item =>
      rw [pollNext_ready]
      dsimp only
      have hsampled : sampledBy (StreamPoll.ready item, snapshots) = scannedFiles snapshots := rfl
      obtain ⟨heq, hsame⟩ | ⟨progress, hprogress, hchanged, heq⟩ :=
        emitIfChanged_cases hcallback snapshots
      · cases hsample : scannedFiles snapshots with
        | none =>
          rw [hsample] at hsampled
          rw [heq, List.filterMap_cons_none hsampled, List.filterMap_cons_none (f := Prod.snd) rfl,
            ih]
        | some progress =>
          rw [hsame progress hsample] at hlast
          cases hlast
      · rw [hprogress] at hsampled
        let told : FileTracker := ⟨tracker.reporter, { tracker.sampler with
          lastFileProgress := some progress.counts }⟩
        have htold : told.reporter.callback = true := hcallback
        have hrest : told.eventFor progress :: (told.polls rounds).filterMap Prod.snd =
            ((rounds.filterMap sampledBy).destutter' CountsChange progress).map told.eventFor :=
          polls_announced_after htold rounds rfl
        rw [heq, List.filterMap_cons_some hsampled, List.destutter_cons',
          List.filterMap_cons_some (f := Prod.snd) rfl]
        exact hrest

end FileTracker

structure DeltaDataFusionMetricsSnapshot.Grows (before after : DeltaDataFusionMetricsSnapshot) :
    Prop where
  exhausted : before.reader.scanMetadataExhausted = some true →
    after.reader.scanMetadataExhausted = some true
  planned : before.reader.scanMetadataExhausted = some true →
    after.reader.filesPlanned = before.reader.filesPlanned
  completed : before.reader.filesCompleted ≤ after.reader.filesCompleted
  pruned : before.dynamicPartitionFilesPruned ≤ after.dynamicPartitionFilesPruned

instance (before after : DeltaDataFusionMetricsSnapshot) : Decidable (before.Grows after) :=
  decidable_of_iff
    ((before.reader.scanMetadataExhausted = some true →
        after.reader.scanMetadataExhausted = some true) ∧
      (before.reader.scanMetadataExhausted = some true →
        after.reader.filesPlanned = before.reader.filesPlanned) ∧
      before.reader.filesCompleted ≤ after.reader.filesCompleted ∧
      before.dynamicPartitionFilesPruned ≤ after.dynamicPartitionFilesPruned)
    ⟨fun ⟨exhausted, planned, completed, pruned⟩ => ⟨exhausted, planned, completed, pruned⟩,
      fun grows => ⟨grows.exhausted, grows.planned, grows.completed, grows.pruned⟩⟩

section Growth
variable {before after : List DeltaDataFusionMetricsSnapshot}

theorem scanSum_le {count : DeltaDataFusionMetricsSnapshot → ℕ}
    (hcount : ∀ a b : DeltaDataFusionMetricsSnapshot, a.Grows b → count a ≤ count b)
    (h : List.Forall₂ DeltaDataFusionMetricsSnapshot.Grows before after) :
    scanSum count before ≤ scanSum count after := by
  unfold scanSum
  induction h with
  | nil => exact Nat.le_refl _
  | cons hgrows _ ih =>
    rw [List.map_cons, List.map_cons, List.sum_cons, List.sum_cons]
    exact Nat.add_le_add (hcount _ _ hgrows) ih

theorem scanSum_planned (h : List.Forall₂ DeltaDataFusionMetricsSnapshot.Grows before after)
    (hexhausted : ∀ scan ∈ before, scan.reader.scanMetadataExhausted = some true) :
    scanSum (·.reader.filesPlanned) after = scanSum (·.reader.filesPlanned) before := by
  unfold scanSum
  induction h with
  | nil => rfl
  | cons hgrows _ ih =>
    obtain ⟨hhead, htail⟩ := List.forall_mem_cons.1 hexhausted
    rw [List.map_cons, List.map_cons, List.sum_cons, List.sum_cons, hgrows.planned hhead, ih htail]

theorem scannedFiles_grow (h : List.Forall₂ DeltaDataFusionMetricsSnapshot.Grows before after)
    {progress progress' : DeltaFileProgress} (hbefore : scannedFiles before = some progress)
    (hafter : scannedFiles after = some progress') :
    progress.handled ≤ progress'.handled ∧ progress.total = progress'.total := by
  unfold scannedFiles at hbefore hafter
  dsimp only at hbefore hafter
  split_ifs at hbefore with hknown
  split_ifs at hafter
  obtain rfl := Option.some.inj hbefore
  obtain rfl := Option.some.inj hafter
  have htotal := scanSum_planned h hknown.1
  have hcompleted : scanSum (·.reader.filesCompleted) before ≤
      scanSum (·.reader.filesCompleted) after := scanSum_le (fun _ _ grows => grows.completed) h
  have hpruned : scanSum (·.dynamicPartitionFilesPruned) before ≤
      scanSum (·.dynamicPartitionFilesPruned) after := scanSum_le (fun _ _ grows => grows.pruned) h
  dsimp only
  constructor
  · rw [htotal]
    omega
  · exact htotal.symm

end Growth

theorem pairwise_lt_of_isChain {announced : List DeltaFileProgress}
    (hkept : announced.Pairwise fun earlier later =>
      earlier.handled ≤ later.handled ∧ earlier.total = later.total)
    (hchanged : announced.IsChain CountsChange) :
    announced.Pairwise fun earlier later =>
      earlier.handled < later.handled ∧ earlier.total = later.total := by
  induction announced with
  | nil => exact .nil
  | cons first rest ih =>
    obtain ⟨hfirst, hrest⟩ := List.pairwise_cons.1 hkept
    refine List.pairwise_cons.2 ⟨?_, ih hrest (List.isChain_of_isChain_cons hchanged)⟩
    cases rest with
    | nil => exact List.forall_mem_nil _
    | cons second rest =>
      have hne := List.rel_of_isChain_cons_cons hchanged
      obtain ⟨hle, htotal⟩ := hfirst second (List.mem_cons_self ..)
      have hlt : first.handled < second.handled := by
        apply Nat.lt_of_le_of_ne hle
        intro hhandled
        exact hne (Prod.ext hhandled htotal)
      intro later hlater
      rcases List.mem_cons.1 hlater with rfl | hlater
      · exact ⟨hlt, htotal⟩
      · obtain ⟨hle', htotal'⟩ := (List.pairwise_cons.1 hrest).1 later hlater
        exact ⟨Nat.lt_of_lt_of_le hlt hle', htotal.trans htotal'⟩

/-- A tracked stream answers its polls as its inner stream does. It samples the counters whenever
that has an item or its end ready, and announces the sampled files, but for samples with the counts
announced last; while the scans go on, more and more of a fixed number of files is handled. -/
theorem file_progress_follows_the_scans {Batch : Type} (phase : ProgressPhase)
    (outputName : Option String) (position : Option ProgressOutputPosition)
    (rounds : List (StreamPoll Batch × List DeltaDataFusionMetricsSnapshot)) :
    let tracker : FileTracker := ⟨⟨true, position⟩, .new phase outputName⟩
    let announced := (rounds.filterMap sampledBy).destutter CountsChange
    (tracker.polls rounds).map Prod.fst = rounds.map Prod.fst ∧
      (∀ first second, rounds = first ++ second →
        (tracker.polls rounds).take first.length = tracker.polls first) ∧
      (tracker.polls rounds).filterMap Prod.snd = announced.map (fun progress => .progress
        ⟨phase, outputName.map sanitizeTextForDisplay, position, some progress, none⟩) ∧
      ((rounds.map Prod.snd).Pairwise (List.Forall₂ DeltaDataFusionMetricsSnapshot.Grows) →
        announced.Pairwise fun earlier later =>
          earlier.handled < later.handled ∧ earlier.total = later.total) := by
  intro tracker announced
  refine ⟨tracker.polls_answers rounds, ?_, FileTracker.polls_announced rfl rounds rfl, ?_⟩
  · rintro first second rfl
    exact tracker.polls_take first second
  · intro hgrows
    -- counts of later polls are no smaller, and announced ones differ from the last
    have hsampled : (rounds.filterMap sampledBy).Pairwise fun earlier later =>
        earlier.handled ≤ later.handled ∧ earlier.total = later.total := by
      rw [List.pairwise_filterMap]
      rw [List.pairwise_map] at hgrows
      refine hgrows.imp ?_
      rintro ⟨reply, before⟩ ⟨reply', after⟩ h progress hprogress progress' hprogress'
      cases reply with
      | pending => cases hprogress
      | ready item =>
        cases reply' with
        | pending => cases hprogress'
        | ready item' => exact scannedFiles_grow h hprogress hprogress'
    exact pairwise_lt_of_isChain (hsampled.sublist (List.destutter_sublist _ _))
      (List.isChain_destutter _ _)

/-- A scan that has planned three files and left out one. -/
def scanAt (completed pruned : ℕ) : DeltaDataFusionMetricsSnapshot :=
  ⟨⟨some true, 3, some 1, completed⟩, pruned⟩

/-- Polls of a stream over one scan, which still plans its files at the first two. -/
def scanRounds : List (StreamPoll ℕ × List DeltaDataFusionMetricsSnapshot) :=
  [(.pending, [⟨⟨none, 0, none, 0⟩, 0⟩]),
    (.ready (some (.ok 8)), [⟨⟨some false, 1, none, 0⟩, 0⟩]),
    (.ready (some (.ok 8)), [scanAt 1 0]),
    (.pending, [scanAt 2 0]),
    (.ready (some (.ok 8)), [scanAt 2 0]),
    (.ready (some (.ok 4)), [scanAt 2 0]),
    (.ready none, [scanAt 2 1])]

/-- Three of the polls announce something, each other counts than those before it. -/
theorem planned_files_are_announced_as_handled :
    let tracker : FileTracker := ⟨⟨true, none⟩, .new .writing (some "orders")⟩
    let announced := (scanRounds.filterMap sampledBy).destutter CountsChange
    announced.map (·.counts) = [(1, 3), (2, 3), (3, 3)] ∧
      (tracker.polls scanRounds).map (fun answered => answered.2.isSome) =
        [false, false, true, false, true, false, true] ∧
      (tracker.polls scanRounds).map Prod.fst = scanRounds.map Prod.fst ∧
      (tracker.polls scanRounds).filterMap Prod.snd = announced.map (fun progress => .progress
        ⟨.writing, some "orders", none, some progress, none⟩) ∧
      announced.Pairwise fun earlier later =>
        earlier.handled < later.handled ∧ earlier.total = later.total := by
  intro tracker announced
  obtain ⟨hanswers, -, hannounced, hgrowing⟩ :=
    file_progress_follows_the_scans .writing (some "orders") none scanRounds
  refine ⟨by decide, by decide, hanswers, ?_, hgrowing (by decide)⟩
  rw [hannounced]
  have hshown : (some "orders").map sanitizeTextForDisplay = some "orders" := by decide
  rw [hshown]

end DeltaFunnel
