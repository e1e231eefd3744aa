import DeltaFunnel.Progress.RichDisplay
import Mathlib.Data.List.Forall2
import Mathlib.Data.List.Basic

/-! The counters an action keeps for its display. Events between two changes of scope share their
counters, which are merged. -/

namespace DeltaFunnel

theorem max?_concat (values : List ℕ) (value : ℕ) :
    (values ++ [value]).max? = some (max (values.max?.getD 0) value) := by
  cases values with
  | nil =>
    show some value = some (max 0 value)
    rw [Nat.zero_max]
  | cons first values =>
    rw [List.cons_append, List.max?_cons', List.foldl_append, List.max?_cons']
    rfl

theorem getD_max?_le {values : List ℕ} {bound : ℕ} (h : ∀ value ∈ values, value ≤ bound) :
    values.max?.getD 0 ≤ bound := by
  rcases hmax : values.max? with _ | value
  · exact Nat.zero_le bound
  · exact h value (List.max?_mem hmax)

theorem le_getD_max? {values : List ℕ} {value : ℕ} (h : value ∈ values) :
    value ≤ values.max?.getD 0 := by
  rcases hmax : values.max? with _ | largest
  · rw [List.max?_eq_none_iff.1 hmax] at h
    cases h
  · exact (List.max?_le_iff hmax).1 (Nat.le_refl _) value h

/-- The counters of some events taken together: the first total, and the largest of every other
counter, where a count of files is at most that total. -/
def mergedCounters (events : List ProgressEvent) : List (Option ℕ) :=
  let files := events.filterMap ProgressEvent.fileProgress
  let writes := events.filterMap ProgressEvent.metrics
  let total := files.head?.map (·.total)
  [(files.map fun file => min file.handled (total.getD 0)).max?,
    total,
    (files.map fun file => min file.runtimePruned (total.getD 0)).max?,
    (files.filterMap (·.planningPruned)).max?,
    (writes.map (·.rows)).max?,
    (writes.map (·.batches)).max?]

/-- A counter is missing, or the other one is at least as large. -/
def CounterLe (before after : Option ℕ) : Prop := ∀ n ∈ before, ∃ m ∈ after, n ≤ m

theorem CounterLe.refl (counter : Option ℕ) : CounterLe counter counter :=
  fun n hn => ⟨n, hn, Nat.le_refl n⟩

theorem CounterLe.trans {before between after : Option ℕ} (h : CounterLe before between)
    (h' : CounterLe between after) : CounterLe before after := by
  intro n hn
  obtain ⟨m, hm, hle⟩ := h n hn
  obtain ⟨k, hk, hle'⟩ := h' m hm
  exact ⟨k, hk, Nat.le_trans hle hle'⟩

theorem counterLe_max (counter : Option ℕ) (n : ℕ) :
    CounterLe counter (some (max (counter.getD 0) n)) := by
  intro m hm
  rw [Option.mem_def.1 hm]
  exact ⟨_, rfl, Nat.le_max_left _ _⟩

namespace VisibleProgress

/-- Counts of files come together, pruned ones are handled, and handled ones are at most all. -/
def CountersOrdered (visible : VisibleProgress) : Prop :=
  match visible.filesHandled, visible.filesTotal, visible.filesRuntimePruned with
  | some handled, some total, some pruned => pruned ≤ handled ∧ handled ≤ total
  | none, none, none => True
  | _, _, _ => False

/-- The total is the same, and no other counter is smaller. -/
structure CountersBelow (before after : VisibleProgress) : Prop where
  total : ∀ total ∈ before.filesTotal, after.filesTotal = some total
  handled : CounterLe before.filesHandled after.filesHandled
  runtimePruned : CounterLe before.filesRuntimePruned after.filesRuntimePruned
  planningPruned : CounterLe before.filesPlanningPruned after.filesPlanningPruned
  rows : CounterLe before.rows after.rows
  batches : CounterLe before.batches after.batches

theorem CountersBelow.refl (visible : VisibleProgress) : visible.CountersBelow visible :=
  ⟨fun _ htotal => htotal, .refl _, .refl _, .refl _, .refl _, .refl _⟩

theorem CountersBelow.trans {before between after : VisibleProgress}
    (h : before.CountersBelow between) (h' : between.CountersBelow after) :
    before.CountersBelow after :=
  ⟨fun total htotal => h'.total total (h.total total htotal), h.handled.trans h'.handled,
    h.runtimePruned.trans h'.runtimePruned, h.planningPruned.trans h'.planningPruned,
    h.rows.trans h'.rows, h.batches.trans h'.batches⟩

def kept (visible : VisibleProgress) (event : ProgressEvent) : VisibleProgress :=
  if visible.scopeChanges event then visible.clearMetrics else visible

section Incorporate
variable {visible : VisibleProgress} {event : ProgressEvent} {events : List ProgressEvent}

theorem incorporate_eq (visible : VisibleProgress) (event : ProgressEvent) :
    ∃ entered : VisibleProgress,
    visible.incorporate event = entered.incorporateMetrics event.fileProgress event.metrics ∧
      entered.metricValues = (visible.kept event).metricValues := by
  rcases hphase : event.phase with _ | phase
  · refine ⟨visible, ?_, ?_⟩
    · simp [incorporate, hphase]
    · simp [kept, scopeChanges, hphase]
  · refine ⟨{ visible.kept event with
      phase := some phase
      outputName := event.outputName
      outputPosition := event.outputPosition }, ?_, rfl⟩
    simp only [incorporate, hphase]
    rfl

theorem changed_iff : (visible.incorporate event).2 = true ↔
    (visible.incorporate event).1.metricValues ≠ (visible.kept event).metricValues := by
  obtain ⟨entered, heq, hvalues⟩ := incorporate_eq visible event
  rw [heq, ← hvalues]
  exact decide_eq_true_iff

structure FilesMerged (visible : VisibleProgress) (files : List DeltaFileProgress) : Prop where
  handled : visible.filesHandled =
    (files.map fun file => min file.handled ((files.head?.map (·.total)).getD 0)).max?
  total : visible.filesTotal = files.head?.map (·.total)
  runtimePruned : visible.filesRuntimePruned =
    (files.map fun file => min file.runtimePruned ((files.head?.map (·.total)).getD 0)).max?
  planningPruned : visible.filesPlanningPruned = (files.filterMap (·.planningPruned)).max?

/-- The counters of rows and batches are those of the writes. -/
structure WritesMerged (visible : VisibleProgress) (writes : List ProgressMetrics) : Prop where
  rows : visible.rows = (writes.map (·.rows)).max?
  batches : visible.batches = (writes.map (·.batches)).max?

theorem metricValues_eq_iff : visible.metricValues = mergedCounters events ↔
    visible.FilesMerged (events.filterMap ProgressEvent.fileProgress) ∧
      visible.WritesMerged (events.filterMap ProgressEvent.metrics) := by
  simp only [metricValues, mergedCounters, List.cons.injEq]
  constructor
  · intro ⟨handled, total, runtimePruned, planningPruned, rows, batches, _⟩
    exact ⟨⟨handled, total, runtimePruned, planningPruned⟩, ⟨rows, batches⟩⟩
  · intro ⟨files, writes⟩
    exact ⟨files.handled, files.total, files.runtimePruned, files.planningPruned, writes.rows,
      writes.batches, trivial⟩

theorem WritesMerged.incorporate {writes : List ProgressMetrics} (h : visible.WritesMerged writes)
    (metrics : ProgressMetrics) :
    (visible.incorporateWriteProgress metrics).WritesMerged (writes ++ [metrics]) := by
  constructor
  · rw [List.map_append, List.map_singleton, max?_concat, ← h.rows]
    rfl
  · rw [List.map_append, List.map_singleton, max?_concat, ← h.batches]
    rfl

namespace FilesMerged
variable {files : List DeltaFileProgress}

theorem bounds (h : visible.FilesMerged files) :
    visible.filesRuntimePruned.getD 0 ≤ visible.filesHandled.getD 0 ∧
      visible.filesHandled.getD 0 ≤ visible.filesTotal.getD 0 := by
  rw [h.handled, h.runtimePruned, h.total]
  constructor
  · apply getD_max?_le
    intro value hvalue
    obtain ⟨file, hfile, rfl⟩ := List.mem_map.1 hvalue
    have hmem := le_getD_max? (List.mem_map_of_mem (f := fun file : DeltaFileProgress =>
      min file.handled ((files.head?.map (·.total)).getD 0)) hfile)
    have hpruned := file.runtimePruned_le
    omega
  · apply getD_max?_le
    intro value hvalue
    obtain ⟨file, -, rfl⟩ := List.mem_map.1 hvalue
    exact Nat.min_le_right _ _

theorem present (h : visible.FilesMerged files) (hfiles : files ≠ []) :
    visible.filesHandled = some (visible.filesHandled.getD 0) ∧
      visible.filesTotal = some (visible.filesTotal.getD 0) ∧
      visible.filesRuntimePruned = some (visible.filesRuntimePruned.getD 0) := by
  obtain ⟨first, rest, rfl⟩ := List.exists_cons_of_ne_nil hfiles
  rw [h.handled, h.total, h.runtimePruned]
  exact ⟨rfl, rfl, rfl⟩

theorem incorporate (h : visible.FilesMerged files) (progress : DeltaFileProgress) :
    (visible.incorporateFileProgress progress).FilesMerged (files ++ [progress]) := by
  obtain ⟨hpruned, hhandled⟩ := h.bounds
  have htotal : (files ++ [progress]).head?.map (·.total) =
      some (visible.filesTotal.getD progress.total) := by
    rw [h.total]
    cases files with
    | nil => rfl
    | cons first files => rfl
  have hprogress := progress.handled_le
  have hprogress' := progress.runtimePruned_le
  -- the clamped counts seen before are the same under the total seen now
  have hsame : files = [] ∨ ((files.head?.map (·.total)).getD 0 =
      visible.filesTotal.getD progress.total ∧
        visible.filesTotal.getD 0 = visible.filesTotal.getD progress.total) := by
    rw [h.total]
    cases files with
    | nil => exact .inl rfl
    | cons first files => exact .inr ⟨rfl, rfl⟩
  have hclamped : ∀ count : DeltaFileProgress → ℕ,
      (files.map fun file => min (count file) (visible.filesTotal.getD progress.total)).max? =
        (files.map fun file => min (count file) ((files.head?.map (·.total)).getD 0)).max? := by
    intro count
    rcases hsame with rfl | ⟨hsame, -⟩
    · rfl
    · rw [hsame]
  constructor
  · rw [htotal, Option.getD_some, List.map_append, List.map_singleton, max?_concat, hclamped,
      ← h.handled]
    rfl
  · rw [htotal]
    rfl
  · rw [htotal, Option.getD_some, List.map_append, List.map_singleton, max?_concat, hclamped,
      ← h.runtimePruned]
    show some (min (max (visible.filesHandled.getD 0)
      (min progress.handled (visible.filesTotal.getD progress.total)))
        (max (visible.filesRuntimePruned.getD 0) progress.runtimePruned)) = _
    have hempty : files = [] → visible.filesHandled.getD 0 = 0 := by
      intro hempty
      rw [h.handled, hempty]
      rfl
    congr 1
    rcases hsame with hnil | ⟨-, hsame⟩
    · have := hempty hnil
      omega
    · omega
  · rw [List.filterMap_append]
    rcases hplanning : progress.planningPruned with _ | pruned
    · simp [incorporateFileProgress, hplanning, h.planningPruned]
    · simp [incorporateFileProgress, hplanning, h.planningPruned, max?_concat]

end FilesMerged

theorem filterMap_concat {α β : Type} (f : α → Option β) (xs : List α) (x : α) :
    (xs ++ [x]).filterMap f = xs.filterMap f ++ (f x).toList := by
  rw [List.filterMap_append]
  cases hx : f x <;> simp [hx]

theorem incorporateMetrics_merged (h : visible.metricValues = mergedCounters events)
    (event : ProgressEvent) :
    (visible.incorporateMetrics event.fileProgress event.metrics).1.metricValues =
      mergedCounters (events ++ [event]) := by
  obtain ⟨hfiles, hwrites⟩ := metricValues_eq_iff.1 h
  rw [metricValues_eq_iff, filterMap_concat, filterMap_concat]
  unfold incorporateMetrics
  -- first the files, then the rows and batches
  generalize hwith : event.fileProgress.elim visible visible.incorporateFileProgress = withFiles
  have hfiles' : withFiles.FilesMerged
      (events.filterMap ProgressEvent.fileProgress ++ event.fileProgress.toList) := by
    rw [← hwith]
    rcases event.fileProgress with _ | progress
    · simpa using hfiles
    · exact hfiles.incorporate progress
  have hwrites' : withFiles.WritesMerged (events.filterMap ProgressEvent.metrics) := by
    rw [← hwith]
    rcases event.fileProgress with _ | progress
    · exact hwrites
    · exact ⟨hwrites.rows, hwrites.batches⟩
  rcases event.metrics with _ | metrics
  · exact ⟨hfiles', by simpa using hwrites'⟩
  · exact ⟨⟨hfiles'.handled, hfiles'.total, hfiles'.runtimePruned, hfiles'.planningPruned⟩,
      hwrites'.incorporate metrics⟩

theorem incorporate_merged (h : visible.metricValues = mergedCounters events)
    (hscope : visible.scopeChanges event = false) :
    (visible.incorporate event).1.metricValues = mergedCounters (events ++ [event]) := by
  obtain ⟨entered, heq, hvalues⟩ := incorporate_eq visible event
  rw [heq]
  apply incorporateMetrics_merged
  rw [hvalues, kept, hscope]
  exact h

theorem incorporate_fresh (hscope : visible.scopeChanges event = true) :
    (visible.incorporate event).1.metricValues = mergedCounters [event] := by
  obtain ⟨entered, heq, hvalues⟩ := incorporate_eq visible event
  have hempty : entered.metricValues = mergedCounters [] := by
    rw [hvalues, kept, hscope]
    rfl
  rw [heq]
  exact incorporateMetrics_merged hempty event

theorem ordered_of_merged (h : visible.metricValues = mergedCounters events) :
    visible.CountersOrdered := by
  obtain ⟨hfiles, -⟩ := metricValues_eq_iff.1 h
  obtain ⟨hpruned, hhandled⟩ := hfiles.bounds
  by_cases hempty : events.filterMap ProgressEvent.fileProgress = []
  · obtain ⟨h₁, h₂, h₃, -⟩ := hfiles
    rw [hempty] at h₁ h₂ h₃
    unfold CountersOrdered
    rw [h₁, h₂, h₃]
    trivial
  · obtain ⟨h₁, h₂, h₃⟩ := hfiles.present hempty
    unfold CountersOrdered
    rw [h₁, h₂, h₃]
    exact ⟨hpruned, hhandled⟩

theorem FilesMerged.below {files : List DeltaFileProgress} (h : visible.FilesMerged files)
    (progress : DeltaFileProgress) :
    visible.CountersBelow (visible.incorporateFileProgress progress) := by
  obtain ⟨hpruned, -⟩ := h.bounds
  constructor
  · intro total htotal
    show some (visible.filesTotal.getD progress.total) = some total
    rw [Option.mem_def.1 htotal]
    rfl
  · exact counterLe_max _ _
  · intro n hn
    rw [Option.mem_def.1 hn] at hpruned
    refine ⟨_, rfl, ?_⟩
    rw [Option.mem_def.1 hn]
    exact Nat.le_min.2 ⟨Nat.le_trans hpruned (Nat.le_max_left _ _), Nat.le_max_left _ _⟩
  · rcases hplanning : progress.planningPruned with _ | pruned
    · simpa [incorporateFileProgress, hplanning] using CounterLe.refl _
    · simpa [incorporateFileProgress, hplanning] using counterLe_max _ _
  · exact .refl _
  · exact .refl _

theorem incorporateWriteProgress_below (metrics : ProgressMetrics) :
    visible.CountersBelow (visible.incorporateWriteProgress metrics) :=
  ⟨fun _ htotal => htotal, .refl _, .refl _, .refl _, counterLe_max _ _, counterLe_max _ _⟩

theorem incorporate_below (h : visible.metricValues = mergedCounters events)
    (hscope : visible.scopeChanges event = false) :
    visible.CountersBelow (visible.incorporate event).1 := by
  obtain ⟨entered, heq, hvalues⟩ := incorporate_eq visible event
  rw [heq]
  have hkept : visible.kept event = visible := by
    rw [kept, hscope]
    rfl
  rw [hkept] at hvalues
  have hentered : visible.CountersBelow entered := by
    simp only [metricValues, List.cons.injEq] at hvalues
    obtain ⟨h₁, h₂, h₃, h₄, h₅, h₆, -⟩ := hvalues
    constructor
    · rw [h₂]
      exact fun _ htotal => htotal
    · rw [h₁]
      exact .refl _
    · rw [h₃]
      exact .refl _
    · rw [h₄]
      exact .refl _
    · rw [h₅]
      exact .refl _
    · rw [h₆]
      exact .refl _
  have hfiles := (metricValues_eq_iff.1 (hvalues.trans h)).1
  apply hentered.trans
  have hwith : entered.CountersBelow
      (event.fileProgress.elim entered entered.incorporateFileProgress) := by
    rcases event.fileProgress with _ | progress
    · exact .refl _
    · exact hfiles.below progress
  apply hwith.trans
  rcases event.metrics with _ | metrics
  · exact .refl _
  · exact incorporateWriteProgress_below metrics

end Incorporate

end VisibleProgress

/-- What is kept after the first `i` events. -/
def visibleBefore (events : List (ProgressEvent × ℕ)) (i : ℕ) : VisibleProgress :=
  (events.take i).foldl (fun visible delivered => (visible.incorporate delivered.1).1) .new

def ScopeChangesAt (events : List (ProgressEvent × ℕ)) (i : ℕ) : Prop :=
  ∃ delivered, events[i]? = some delivered ∧
    (visibleBefore events i).scopeChanges delivered.1 = true

/-- The events from `a` to `b`, without `b`, are the start of a scope. -/
structure Scope (events : List (ProgressEvent × ℕ)) (a b : ℕ) : Prop where
  starts : a = 0 ∨ ScopeChangesAt events a
  nonempty : a < b
  le_length : b ≤ events.length
  within : ∀ i, a < i → i < b → ¬ ScopeChangesAt events i

def scopeEvents (events : List (ProgressEvent × ℕ)) (a b : ℕ) : List ProgressEvent :=
  ((events.take b).drop a).map Prod.fst

section Scopes
variable {events : List (ProgressEvent × ℕ)} {a a' b i : ℕ} {event : ProgressEvent} {now : ℕ}

theorem visibleBefore_succ (h : events[i]? = some (event, now)) :
    visibleBefore events (i + 1) = ((visibleBefore events i).incorporate event).1 := by
  unfold visibleBefore
  rw [List.take_add_one, h, List.foldl_append]
  rfl

theorem scopeChangesAt_iff (h : events[i]? = some (event, now)) :
    ScopeChangesAt events i ↔ (visibleBefore events i).scopeChanges event = true := by
  constructor
  · intro ⟨delivered, hdelivered, hchanges⟩
    rw [h] at hdelivered
    rw [← Option.some.inj hdelivered] at hchanges
    exact hchanges
  · intro hchanges
    exact ⟨_, h, hchanges⟩

theorem scopeEvents_succ (h : events[i]? = some (event, now)) (hle : a ≤ i) :
    scopeEvents events a (i + 1) = scopeEvents events a i ++ [event] := by
  have hi : i < events.length := (List.getElem?_eq_some_iff.1 h).1
  have hlength : a ≤ (events.take i).length := by
    rw [List.length_take]
    omega
  unfold scopeEvents
  rw [List.take_add_one, h, List.drop_append_of_le_length hlength, List.map_append]
  rfl

theorem scopeEvents_self : scopeEvents events a a = [] := by
  unfold scopeEvents
  rw [List.drop_eq_nil_of_le (List.length_take_le _ _)]
  rfl

theorem Scope.unique (h : Scope events a b) (h' : Scope events a' b) : a = a' := by
  rcases Nat.lt_trichotomy a a' with hlt | heq | hlt
  · rcases h'.starts with hzero | hchanges
    · omega
    · exact absurd hchanges (h.within a' hlt h'.nonempty)
  · exact heq
  · rcases h.starts with hzero | hchanges
    · omega
    · exact absurd hchanges (h'.within a hlt h.nonempty)

theorem Scope.succ (h : Scope events a i) (hevent : events[i]? = some (event, now))
    (hsame : ¬ ScopeChangesAt events i) : Scope events a (i + 1) := by
  have hi : i < events.length := (List.getElem?_eq_some_iff.1 hevent).1
  refine ⟨h.starts, Nat.lt_succ_of_lt h.nonempty, hi, ?_⟩
  intro j hj hji
  rcases Nat.lt_succ_iff_lt_or_eq.1 hji with hlt | rfl
  · exact h.within j hj hlt
  · exact hsame

theorem Scope.single (hevent : events[i]? = some (event, now))
    (hchanges : i = 0 ∨ ScopeChangesAt events i) : Scope events i (i + 1) := by
  have hi : i < events.length := (List.getElem?_eq_some_iff.1 hevent).1
  refine ⟨hchanges, Nat.lt_succ_self i, hi, ?_⟩
  intro j hj hji
  omega

theorem incorporate_new (event : ProgressEvent) :
    (VisibleProgress.new.incorporate event).1.metricValues = mergedCounters [event] := by
  rcases hchanges : VisibleProgress.new.scopeChanges event with _ | _
  · have hempty : VisibleProgress.new.metricValues = mergedCounters [] := rfl
    exact VisibleProgress.incorporate_merged hempty hchanges
  · exact VisibleProgress.incorporate_fresh hchanges

theorem exists_scope (hi : 0 < i) (hle : i ≤ events.length) :
    ∃ a, Scope events a i ∧
      (visibleBefore events i).metricValues = mergedCounters (scopeEvents events a i) := by
  induction i with
  | zero => exact absurd hi (Nat.lt_irrefl 0)
  | succ i ih =>
    obtain ⟨⟨event, now⟩, hevent⟩ : ∃ delivered, events[i]? = some delivered :=
      ⟨_, List.getElem?_eq_getElem hle⟩
    rw [visibleBefore_succ hevent]
    by_cases hstart : i = 0 ∨ ScopeChangesAt events i
    · refine ⟨i, .single hevent hstart, ?_⟩
      rw [scopeEvents_succ hevent (Nat.le_refl i), scopeEvents_self, List.nil_append]
      rcases hstart with rfl | hchanges
      · exact incorporate_new event
      · exact VisibleProgress.incorporate_fresh ((scopeChangesAt_iff hevent).1 hchanges)
    · rw [not_or] at hstart
      obtain ⟨a, hscope, hmerged⟩ := ih (Nat.pos_of_ne_zero hstart.1) (Nat.le_of_succ_le hle)
      refine ⟨a, hscope.succ hevent hstart.2, ?_⟩
      rw [scopeEvents_succ hevent (Nat.le_of_lt hscope.nonempty)]
      apply VisibleProgress.incorporate_merged hmerged
      rw [← Bool.not_eq_true, ← scopeChangesAt_iff hevent]
      exact hstart.2

theorem Scope.merged (h : Scope events a i) :
    (visibleBefore events i).metricValues = mergedCounters (scopeEvents events a i) := by
  have hpos : 0 < i := Nat.lt_of_le_of_lt (Nat.zero_le a) h.nonempty
  obtain ⟨a', hscope, hmerged⟩ := exists_scope hpos h.le_length
  rw [h.unique hscope]
  exact hmerged

end Scopes

end DeltaFunnel
