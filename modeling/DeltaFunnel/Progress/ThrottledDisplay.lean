import DeltaFunnel.Progress.CounterScopes
import DeltaFunnel.Progress.DisplayLifecycle

/-! The updates of a display whose calls succeed. Throttling delays counters, but every scope
ends with an update that shows its final ones. -/

namespace DeltaFunnel
open Interaction

variable {Renderer Interruption : Type}

def VisibleProgress.taskUpdate (visible : VisibleProgress) (kind : ProgressEventKind) :
    TaskUpdate :=
  let (completed, total) :=
    match visible.filesHandled, visible.filesTotal with
    | some handled, some total => (handled, some total)
    | _, _ => (0, none)
  { columns :=
      if visible.filesTotal.isSome then .determinate
      else if endsAction kind then .terminal
      else .indeterminate
    description := visible.description kind
    completed
    total
    fileProgress := visible.fileProgressText.getD "" }

/-- The call created a renderer, or returned normally. -/
def CallSucceeded : RichEvent Renderer Interruption → Prop
  | ⟨.create _ _, reply⟩ => ∃ renderer, PythonCall.value reply = some (some renderer)
  | ⟨.start _, reply⟩ => (PythonCall.value reply).isSome
  | ⟨.update _ _, reply⟩ => (PythonCall.value reply).isSome
  | ⟨.stop _, reply⟩ => (PythonCall.value reply).isSome

/-- The call is an update that shows `values` as the counters of an event of that kind. -/
def ShowsCounters (call : RichEvent Renderer Interruption) (kind : ProgressEventKind)
    (values : List (Option ℕ)) : Prop :=
  ∃ (renderer : Renderer) (visible : VisibleProgress), call.op = .update renderer (visible.taskUpdate kind) ∧
    visible.metricValues = values

section Event
variable {renderer : Renderer} {render : RenderState Renderer}
  {pending pending' : Option Interruption} {trace : List (RichEvent Renderer Interruption)}
  {kind : ProgressEventKind} {visible : VisibleProgress} {event : ProgressEvent} {now : ℕ}
  {state state' : ProgressState Renderer Interruption}

theorem showVisible_succeeded
    (hrun : Runs (showVisible renderer kind visible pending) trace (render, pending'))
    (hsucceeded : ∀ call ∈ trace, CallSucceeded call) :
    render = .active renderer true ∧ ∃ call, trace = [call] ∧
      call.op = .update renderer (visible.taskUpdate kind) := by
  unfold showVisible updateRenderer at hrun
  obtain ⟨first, reply, second, rfl, hupdate, hrest⟩ := runs_bind.1 hrun
  obtain ⟨reply', rest, rfl, hret⟩ := runs_call.1 hupdate
  obtain ⟨rfl, rfl⟩ := runs_ret.1 hret
  rw [PythonCall.save_eq] at hrest
  obtain ⟨rfl, hresult⟩ := runs_ret.1 hrest
  obtain ⟨rfl, -⟩ := Prod.mk.inj hresult
  have hreply := hsucceeded _ (List.mem_append_left _ (List.mem_singleton_self _))
  refine ⟨?_, _, rfl, ?_⟩
  · have hsome : reply.value.isSome = true := hreply
    rw [hsome]
  · rfl

/-- Whether the last counters of a scope are still to be shown when the event ends it. -/
def flushes (state : ProgressState Renderer Interruption) (event : ProgressEvent) : Bool :=
  state.visible.scopeChanges event && state.metricThrottle.hasPendingUpdate

/-- The throttle after the event, and whether it lets the event through. -/
def throttled (state : ProgressState Renderer Interruption) (event : ProgressEvent) (now : ℕ) :
    MetricRenderThrottle × Bool :=
  state.metricThrottle.shouldRender event.kind (state.visible.incorporate event).2 now

def showsEvent (state : ProgressState Renderer Interruption) (event : ProgressEvent)
    (now : ℕ) : Bool :=
  event.kind ≠ .started && ((throttled state event now).2 || flushes state event)

/-- An event of a display that works: the flush of the scope before it, then its own update. -/
structure Rendered (renderer : Renderer) (state state' : ProgressState Renderer Interruption)
    (event : ProgressEvent) (now : ℕ) (trace : List (RichEvent Renderer Interruption)) : Prop where
  active : state'.render = .active renderer true
  visible : state'.visible = (state.visible.incorporate event).1
  throttle : state'.metricThrottle = (throttled state event now).1
  calls : ∃ flushed own, trace = flushed ++ own ∧
    flushed.map (·.op) =
      (if flushes state event then [.update renderer (state.visible.taskUpdate .progress)]
        else []) ∧
    own.map (·.op) =
      (if showsEvent state event now then
        [.update renderer ((state.visible.incorporate event).1.taskUpdate event.kind)] else [])

theorem showVisible_ops
    (hrun : Runs (showVisible renderer kind visible pending) trace (render, pending'))
    (hsucceeded : ∀ call ∈ trace, CallSucceeded call) :
    render = .active renderer true ∧
      trace.map (·.op) = [.update renderer (visible.taskUpdate kind)] := by
  obtain ⟨hactive, call, rfl, hop⟩ := showVisible_succeeded hrun hsucceeded
  refine ⟨hactive, ?_⟩
  rw [List.map_singleton, hop]

theorem renderCurrent_ops
    (hrun : Runs (renderCurrent (.active renderer true) event visible pending) trace
      (render, pending'))
    (hsucceeded : ∀ call ∈ trace, CallSucceeded call) :
    render = .active renderer true ∧
      trace.map (·.op) = (if event.kind ≠ .started then
        [.update renderer (visible.taskUpdate event.kind)] else []) := by
  unfold renderCurrent at hrun
  dsimp only at hrun
  by_cases hends : endsAction event.kind = true
  · rw [if_pos hends, if_pos rfl] at hrun
    have hother : event.kind ≠ .started := by
      intro hstarted
      rw [hstarted] at hends
      cases hends
    rw [if_pos hother]
    exact showVisible_ops hrun hsucceeded
  · rw [if_neg hends] at hrun
    by_cases hshown : event.kind = .phaseChanged ∨ event.kind = .progress
    · rw [if_pos ⟨rfl, hshown⟩] at hrun
      have hother : event.kind ≠ .started := by
        intro hstarted
        rw [hstarted] at hshown
        rcases hshown with h | h <;> cases h
      rw [if_pos hother]
      exact showVisible_ops hrun hsucceeded
    · rw [if_neg fun h => hshown h.2] at hrun
      obtain ⟨rfl, hresult⟩ := runs_ret.1 hrun
      obtain ⟨rfl, rfl⟩ := Prod.mk.inj hresult
      have hstarted : event.kind = .started := by
        rcases hkind : event.kind with _ | _ | _ | _ | _ | _ | _ <;>
          simp [hkind, endsAction] at hends hshown ⊢
      rw [hstarted]
      exact ⟨rfl, rfl⟩

theorem renderEvent_rendered (hactive : state.render = .active renderer true)
    (hrun : Runs (renderEvent state event now) trace state')
    (hsucceeded : ∀ call ∈ trace, CallSucceeded call) :
    Rendered renderer state state' event now trace := by
  unfold renderEvent at hrun
  dsimp only at hrun
  have hflushes : (state.visible.scopeChanges event && state.metricThrottle.hasPendingUpdate) =
      flushes state event := rfl
  have hthrottled : state.metricThrottle.shouldRender event.kind
      (state.visible.incorporate event).2 now = throttled state event now := rfl
  rw [hflushes, hthrottled] at hrun
  -- the calls of a flush come first, under the scope that ends, and then those of the event itself
  rcases hflush : flushes state event with _ | _
  · rw [hflush] at hrun
    rcases hlets : (throttled state event now).2 with _ | _
    · -- the event is held back
      rw [hlets] at hrun
      obtain ⟨rfl, rfl⟩ := runs_ret.1 hrun
      refine ⟨hactive, rfl, rfl, [], [], rfl, ?_, ?_⟩
      · rw [hflush]
        rfl
      · rw [showsEvent, hlets, hflush, Bool.or_self, Bool.and_false]
        rfl
    · rw [hlets] at hrun
      obtain ⟨first, ⟨render₁, pending₁⟩, rest, rfl, hfirst, hrest⟩ := runs_bind.1 hrun
      obtain ⟨second, ⟨render₂, pending₂⟩, last, rfl, hsecond, hlast⟩ := runs_bind.1 hrest
      obtain ⟨rfl, rfl⟩ := runs_ret.1 hlast
      rw [hactive] at hfirst
      obtain ⟨rfl, hresult⟩ := runs_ret.1 hfirst
      obtain ⟨rfl, rfl⟩ := Prod.mk.inj hresult
      rw [List.nil_append, List.append_nil] at hsucceeded ⊢
      obtain ⟨hactive', hops⟩ := renderCurrent_ops hsecond hsucceeded
      refine ⟨hactive', rfl, rfl, [], second, rfl, ?_, ?_⟩
      · rw [hflush]
        rfl
      · rw [hops, showsEvent, hlets, Bool.true_or, Bool.and_true]
        simp
  · rw [hflush] at hrun
    have hnot : (!(throttled state event now).2 && (some state.visible).isNone) = false :=
      Bool.and_false _
    rw [if_pos rfl, hnot] at hrun
    obtain ⟨first, ⟨render₁, pending₁⟩, rest, rfl, hfirst, hrest⟩ := runs_bind.1 hrun
    obtain ⟨second, ⟨render₂, pending₂⟩, last, rfl, hsecond, hlast⟩ := runs_bind.1 hrest
    obtain ⟨rfl, rfl⟩ := runs_ret.1 hlast
    rw [hactive] at hfirst
    rw [List.append_nil] at hsucceeded ⊢
    obtain ⟨rfl, hflushed⟩ := showVisible_ops hfirst
      fun call hcall => hsucceeded call (List.mem_append_left _ hcall)
    obtain ⟨hactive', hops⟩ := renderCurrent_ops hsecond
      fun call hcall => hsucceeded call (List.mem_append_right _ hcall)
    refine ⟨hactive', rfl, rfl, first, second, rfl, ?_, ?_⟩
    · rw [hflushed, hflush]
      rfl
    · rw [hops, showsEvent, hflush, Bool.or_true, Bool.and_true]
      simp

theorem renderEvent_started {settings : ProgressSettings} {operation : ProgressOperation}
    (hrun : Runs (renderEvent (.new (.pending settings)) (.started operation) now) trace state')
    (hsucceeded : ∀ call ∈ trace, CallSucceeded call) :
    ∃ renderer, state'.render = .active renderer true ∧ state'.visible = .new ∧
      state'.metricThrottle = .new ∧ ∀ call ∈ trace, ∀ renderer update,
        call.op ≠ .update renderer update := by
  obtain ⟨first, ⟨render₁, pending₁⟩, rest, rfl, hfirst, hrest⟩ := runs_bind.1 hrun
  obtain ⟨second, ⟨render₂, pending₂⟩, last, rfl, hsecond, hlast⟩ := runs_bind.1 hrest
  obtain ⟨rfl, rfl⟩ := runs_ret.1 hlast
  obtain ⟨rfl, hresult⟩ := runs_ret.1 hfirst
  obtain ⟨rfl, rfl⟩ := Prod.mk.inj hresult
  rw [List.nil_append, List.append_nil] at hsucceeded ⊢
  have hstart : Runs (startAction settings (.started operation) none) second
      (render₂, pending₂) := hsecond
  unfold startAction createRenderer at hstart
  obtain ⟨created, reply, after, rfl, hcreate, hshow⟩ := runs_bind.1 hstart
  obtain ⟨reply', rest, rfl, hret⟩ := runs_call.1 hcreate
  obtain ⟨rfl, rfl⟩ := runs_ret.1 hret
  obtain ⟨renderer, hrenderer⟩ : ∃ renderer, reply.value = some (some renderer) :=
    hsucceeded _ (List.mem_append_left _ (List.mem_singleton_self _))
  rw [PythonCall.save_eq] at hshow
  have hjoin : (reply.value).join = some renderer := by
    rw [hrenderer]
    rfl
  dsimp only at hshow
  rw [hjoin] at hshow
  unfold startRenderer at hshow
  obtain ⟨startCall, started, last, rfl, hcall, hlast⟩ := runs_bind.1 hshow
  obtain ⟨started', rest, rfl, hret⟩ := runs_call.1 hcall
  obtain ⟨rfl, rfl⟩ := runs_ret.1 hret
  rw [PythonCall.save_eq] at hlast
  obtain ⟨rfl, hresult⟩ := runs_ret.1 hlast
  obtain ⟨rfl, -⟩ := Prod.mk.inj hresult
  have hstarted : started.value.isSome = true :=
    hsucceeded _ (List.mem_append_right _ (List.mem_append_left _ (List.mem_singleton_self _)))
  refine ⟨renderer, ?_, rfl, rfl, ?_⟩
  · rw [hstarted]
  · intro call hcall renderer update
    simp only [List.append_nil, List.cons_append, List.nil_append, List.mem_cons,
      List.not_mem_nil, or_false] at hcall
    rcases hcall with rfl | rfl
    · exact fun h => by cases h
    · exact fun h => by cases h

end Event

namespace MetricRenderThrottle
variable {throttle : MetricRenderThrottle} {kind : ProgressEventKind} {changed : Bool} {now : ℕ}

theorem shouldRender_true (h : (throttle.shouldRender kind changed now).2 = true) :
    (throttle.shouldRender kind changed now).1.metricsWaitingToRender = false := by
  unfold shouldRender at h ⊢
  dsimp only at h ⊢
  split at h
  · next hother =>
    rw [if_pos hother]
    by_cases hwaiting : (throttle.metricsWaitingToRender || changed) = true
    · rw [if_pos hwaiting]
    · rw [if_neg hwaiting]
      exact Bool.not_eq_true _ ▸ hwaiting
  · next hprogress =>
    rw [if_neg hprogress]
    split at h
    · cases h
    · next hwaiting =>
      rw [if_neg hwaiting]
      split at h
      · cases h
      · next hlate => rw [if_neg hlate]

theorem shouldRender_false (h : (throttle.shouldRender kind changed now).2 = false) :
    kind = .progress ∧ (throttle.shouldRender kind changed now).1 =
      ⟨throttle.lastMetricsShownAt, throttle.metricsWaitingToRender || changed⟩ := by
  unfold shouldRender at h ⊢
  dsimp only at h ⊢
  split at h
  · cases h
  · next hprogress =>
    rw [if_neg hprogress]
    refine ⟨not_not.1 hprogress, ?_⟩
    split at h
    · next hwaiting => rw [if_pos hwaiting]
    · next hwaiting =>
      rw [if_neg hwaiting]
      split at h
      · next hlate => rw [if_pos hlate]
      · cases h

theorem shouldRender_progress (h : (throttle.shouldRender .progress changed now).2 = true) :
    (throttle.shouldRender .progress changed now).1.lastMetricsShownAt = some now ∧
      ∀ last ∈ throttle.lastMetricsShownAt, last + metricRenderInterval ≤ now := by
  unfold shouldRender at h ⊢
  dsimp only at h ⊢
  rw [if_neg (not_not.2 rfl)] at h ⊢
  split at h
  · cases h
  · next hwaiting =>
    rw [if_neg hwaiting]
    split at h
    · cases h
    · next hlate =>
      rw [if_neg hlate]
      refine ⟨rfl, ?_⟩
      intro last hlast
      rw [Option.mem_def.1 hlast] at hlate
      have hlater : ¬ (now - last < metricRenderInterval) := by simpa using hlate
      have hinterval : metricRenderInterval = 250000000 := rfl
      omega

theorem shouldRender_lastShown (throttle : MetricRenderThrottle) (kind : ProgressEventKind)
    (changed : Bool) (now : ℕ) :
    (throttle.shouldRender kind changed now).1.lastMetricsShownAt = throttle.lastMetricsShownAt ∨
      (throttle.shouldRender kind changed now).1.lastMetricsShownAt = some now := by
  unfold shouldRender
  dsimp only
  split
  · split
    · exact .inr rfl
    · exact .inl rfl
  · split
    · exact .inl rfl
    · split
      · exact .inl rfl
      · exact .inr rfl

end MetricRenderThrottle

/-- One start, then phases and progress, then how the action ended. -/
def ActionEvents (events : List (ProgressEvent × ℕ)) : Prop :=
  ∃ operation start middle terminal stop,
    events = (.started operation, start) :: (middle ++ [(terminal, stop)]) ∧
      endsAction terminal.kind = true ∧
      ∀ delivered ∈ middle, delivered.1.kind = .phaseChanged ∨ delivered.1.kind = .progress

/-- The calls made by the events from `a` to `b`, without `b`. -/
def callsOf (traces : List (List (RichEvent Renderer Interruption))) (a b : ℕ) :
    List (RichEvent Renderer Interruption) :=
  ((traces.take b).drop a).flatten

section Actions
variable {settings : ProgressSettings} {events : List (ProgressEvent × ℕ)}
  {traces : List (List (RichEvent Renderer Interruption))}
  {state last : ProgressState Renderer Interruption}

theorem Deliveries.states (h : Deliveries state events traces last) :
    ∃ states : ℕ → ProgressState Renderer Interruption, states 0 = state ∧
      traces.length = events.length ∧
      ∀ i event now, events[i]? = some (event, now) → ∃ trace, traces[i]? = some trace ∧
        Runs (renderEvent (states i) event now) trace (states (i + 1)) := by
  induction h with
  | nil state =>
    refine ⟨fun _ => state, rfl, rfl, ?_⟩
    intro i event now hevent
    cases hevent
  | @cons state state' last event now events trace traces head tail ih =>
    obtain ⟨states, hfirst, hlength, hstates⟩ := ih
    refine ⟨fun i => Nat.casesOn i state states, rfl, congrArg Nat.succ hlength, ?_⟩
    intro i event' now' hevent
    cases i with
    | zero =>
      rw [List.getElem?_cons_zero] at hevent
      obtain ⟨rfl, rfl⟩ := Prod.mk.inj (Option.some.inj hevent)
      refine ⟨trace, rfl, ?_⟩
      show Runs (renderEvent state event now) trace (states 0)
      rw [hfirst]
      exact head
    | succ i => exact hstates i event' now' hevent

theorem callsOf_succ {trace : List (RichEvent Renderer Interruption)} {a i : ℕ}
    (h : traces[i]? = some trace) (hle : a ≤ i) :
    callsOf traces a (i + 1) = callsOf traces a i ++ trace := by
  have hi : i < traces.length := (List.getElem?_eq_some_iff.1 h).1
  have hlength : a ≤ (traces.take i).length := by
    rw [List.length_take]
    omega
  unfold callsOf
  rw [List.take_add_one, h, List.drop_append_of_le_length hlength, List.flatten_append]
  simp

def HasCounter (values : List (Option ℕ)) : Prop := ∃ n, some n ∈ values

/-- After the first `i` events the display works, and unless counters wait its last update shows
those of the scope. -/
structure Shown (events : List (ProgressEvent × ℕ))
    (traces : List (List (RichEvent Renderer Interruption))) (renderer : Renderer) (i : ℕ)
    (state : ProgressState Renderer Interruption) : Prop where
  active : state.render = .active renderer true
  visible : state.visible = visibleBefore events i
  latest : ∀ a, Scope events a i → state.metricThrottle.metricsWaitingToRender = false →
    HasCounter (mergedCounters (scopeEvents events a i)) →
    ∃ call kind, (callsOf traces a i).getLast? = some call ∧
      ShowsCounters call kind (mergedCounters (scopeEvents events a i))

theorem mem_of_map_op_eq_singleton {own : List (RichEvent Renderer Interruption)}
    {op : RichOp Renderer} (h : own.map (·.op) = [op]) : ∃ call, own = [call] ∧ call.op = op := by
  cases own with
  | nil => cases h
  | cons call rest =>
    obtain ⟨hop, hrest⟩ := List.cons.inj h
    rw [List.map_eq_nil_iff.1 hrest]
    exact ⟨call, rfl, hop⟩

theorem Scope.of_succ {a i : ℕ} (h : Scope events a (i + 1)) :
    (a = i ∧ (i = 0 ∨ ScopeChangesAt events i)) ∨
      (Scope events a i ∧ ¬ ScopeChangesAt events i) := by
  rcases Nat.lt_succ_iff_lt_or_eq.1 h.nonempty with hlt | rfl
  · refine .inr ⟨⟨h.starts, hlt, Nat.le_of_succ_le h.le_length, ?_⟩,
      h.within i hlt (Nat.lt_succ_self i)⟩
    exact fun j hj hji => h.within j hj (Nat.lt_succ_of_lt hji)
  · exact .inl ⟨rfl, h.starts⟩

theorem Shown.step {renderer : Renderer} {i : ℕ} {event : ProgressEvent} {now : ℕ}
    {state' : ProgressState Renderer Interruption}
    {trace : List (RichEvent Renderer Interruption)}
    (h : Shown events traces renderer i state) (hi : 0 < i)
    (hevent : events[i]? = some (event, now)) (hkind : event.kind ≠ .started)
    (htrace : traces[i]? = some trace)
    (hrendered : Rendered renderer state state' event now trace) :
    Shown events traces renderer (i + 1) state' := by
  have hvisible : state'.visible = visibleBefore events (i + 1) := by
    rw [hrendered.visible, h.visible, visibleBefore_succ hevent]
  refine ⟨hrendered.active, hvisible, ?_⟩
  intro a hscope hwaiting hcounter
  have hle : a ≤ i := Nat.le_of_lt_succ hscope.nonempty
  obtain ⟨flushed, own, hcalls, hflushed, hown⟩ := hrendered.calls
  rw [callsOf_succ htrace hle, hcalls]
  rcases hshows : showsEvent state event now with _ | _
  · -- nothing was shown, so nothing changed either
    rw [hshows] at hown
    have hheld : (throttled state event now).2 = false ∧ flushes state event = false := by
      have hdecide : decide (event.kind ≠ .started) = true := decide_eq_true hkind
      rw [showsEvent, hdecide, Bool.true_and] at hshows
      exact Bool.or_eq_false_iff.1 hshows
    obtain ⟨-, hthrottle⟩ := MetricRenderThrottle.shouldRender_false hheld.1
    rw [hrendered.throttle, throttled, hthrottle] at hwaiting
    obtain ⟨hbefore, hsame⟩ := Bool.or_eq_false_iff.1 hwaiting
    have hunchanged : (state.visible.incorporate event).1.metricValues =
        (state.visible.kept event).metricValues := by
      rw [← Bool.not_eq_true, VisibleProgress.changed_iff, not_not] at hsame
      exact hsame
    rw [← hscope.merged, ← hvisible, hrendered.visible, hunchanged] at hcounter
    rcases hscope.of_succ with ⟨-, hstart⟩ | ⟨hpart, hgoes⟩
    · -- a fresh scope has no counters yet
      rcases hstart with rfl | hchanges
      · exact absurd hi (Nat.lt_irrefl 0)
      · rw [scopeChangesAt_iff hevent, ← h.visible] at hchanges
        rw [VisibleProgress.kept, if_pos hchanges] at hcounter
        obtain ⟨n, hn⟩ := hcounter
        simp [VisibleProgress.clearMetrics, VisibleProgress.metricValues] at hn
    · rw [scopeChangesAt_iff hevent, ← h.visible] at hgoes
      have hmerged : mergedCounters (scopeEvents events a (i + 1)) =
          mergedCounters (scopeEvents events a i) := by
        rw [← hscope.merged, ← hvisible, hrendered.visible, hunchanged, VisibleProgress.kept,
          if_neg hgoes, h.visible, hpart.merged]
      rw [VisibleProgress.kept, if_neg hgoes, h.visible, hpart.merged] at hcounter
      obtain ⟨call, kind, hlast, hcall⟩ := h.latest a hpart hbefore hcounter
      rw [hheld.2] at hflushed
      have hnone : flushed = [] := List.map_eq_nil_iff.1 hflushed
      rw [hnone, List.map_eq_nil_iff.1 hown, List.append_nil, List.append_nil, hmerged]
      exact ⟨call, kind, hlast, hcall⟩
  · rw [hshows] at hown
    obtain ⟨call, rfl, hop⟩ := mem_of_map_op_eq_singleton hown
    refine ⟨call, event.kind, ?_, renderer, _, hop, ?_⟩
    · rw [← List.append_assoc, List.getLast?_concat]
    · rw [← hrendered.visible, hvisible, hscope.merged]

theorem ActionEvents.kind_ne_started (h : ActionEvents events) {i : ℕ} (hi : 0 < i)
    {event : ProgressEvent} {now : ℕ} (hevent : events[i]? = some (event, now)) :
    event.kind ≠ .started := by
  obtain ⟨operation, start, middle, terminal, stop, rfl, hends, hmiddle⟩ := h
  obtain ⟨i, rfl⟩ := Nat.exists_eq_succ_of_ne_zero (Nat.ne_of_gt hi)
  rw [List.getElem?_cons_succ] at hevent
  rcases List.mem_append.1 (List.mem_of_getElem? hevent) with hmem | hmem
  · rcases hmiddle _ hmem with hkind | hkind
    · rw [hkind]
      exact ProgressEventKind.noConfusion
    · rw [hkind]
      exact ProgressEventKind.noConfusion
  · obtain ⟨rfl, rfl⟩ := Prod.mk.inj (List.mem_singleton.1 hmem)
    intro hstarted
    rw [hstarted] at hends
    cases hends

structure WorkingAction (events : List (ProgressEvent × ℕ))
    (traces : List (List (RichEvent Renderer Interruption))) (renderer : Renderer)
    (states : ℕ → ProgressState Renderer Interruption) : Prop where
  length : traces.length = events.length
  started : ∀ trace ∈ traces[0]?, ∀ call ∈ trace, ∀ renderer update,
    call.op ≠ .update renderer update
  shown : ∀ i, 0 < i → i ≤ events.length → Shown events traces renderer i (states i)
  rendered : ∀ i, 0 < i → ∀ event now, events[i]? = some (event, now) →
    ∃ trace, traces[i]? = some trace ∧
      Rendered renderer (states i) (states (i + 1)) event now trace

theorem Deliveries.working (h : Deliveries (.new (.pending settings)) events traces last)
    (haction : ActionEvents events) (hsucceeded : ∀ call ∈ traces.flatten, CallSucceeded call) :
    ∃ (renderer : Renderer) (states : ℕ → ProgressState Renderer Interruption),
      WorkingAction events traces renderer states := by
  obtain ⟨states, hfirst, hlength, hstates⟩ := h.states
  have hcalls : ∀ (i : ℕ) (trace : List (RichEvent Renderer Interruption)),
      traces[i]? = some trace → ∀ call ∈ trace, CallSucceeded call := by
    intro i trace htrace call hcall
    exact hsucceeded call (List.mem_flatten.2 ⟨trace, List.mem_of_getElem? htrace, hcall⟩)
  obtain ⟨operation, start, middle, terminal, stop, hevents, -, -⟩ := id haction
  have hevent₀ : events[0]? = some (.started operation, start) := by rw [hevents]; rfl
  obtain ⟨trace₀, htrace₀, hrun₀⟩ := hstates 0 _ _ hevent₀
  rw [hfirst] at hrun₀
  obtain ⟨renderer, hactive, hvisible, hthrottle, hstart⟩ :=
    renderEvent_started hrun₀ (hcalls 0 trace₀ htrace₀)
  have hlength₀ : 0 < events.length := (List.getElem?_eq_some_iff.1 hevent₀).1
  -- the start of the action leaves no counters
  have hshown₁ : Shown events traces renderer 1 (states 1) := by
    have hnew : visibleBefore events 1 = .new := visibleBefore_succ hevent₀
    refine ⟨hactive, hvisible.trans hnew.symm, ?_⟩
    intro a hscope hwaiting hcounter
    rw [← hscope.merged, hnew] at hcounter
    obtain ⟨n, hn⟩ := hcounter
    simp [VisibleProgress.new, VisibleProgress.metricValues] at hn
  have hrendered : ∀ i, 0 < i → Shown events traces renderer i (states i) →
      ∀ event now, events[i]? = some (event, now) → ∃ trace, traces[i]? = some trace ∧
        Rendered renderer (states i) (states (i + 1)) event now trace := by
    intro i hi hshown event now hevent
    obtain ⟨trace, htrace, hrun⟩ := hstates i event now hevent
    exact ⟨trace, htrace, renderEvent_rendered hshown.active hrun (hcalls i trace htrace)⟩
  have hshown : ∀ i, 0 < i → i ≤ events.length → Shown events traces renderer i (states i) := by
    intro i hi hle
    induction i with
    | zero => exact absurd hi (Nat.lt_irrefl 0)
    | succ i ih =>
      rcases Nat.eq_zero_or_pos i with rfl | hpos
      · exact hshown₁
      · have hbefore := ih hpos (Nat.le_of_succ_le hle)
        have hevent : events[i]? = some (events[i].1, events[i].2) := List.getElem?_eq_getElem hle
        obtain ⟨trace, htrace, hstep⟩ := hrendered i hpos hbefore _ _ hevent
        exact hbefore.step hpos hevent (haction.kind_ne_started hpos hevent) htrace hstep
  refine ⟨renderer, states, hlength, ?_, hshown, ?_⟩
  · intro trace htrace
    rw [Option.mem_def.1 htrace] at htrace₀
    rw [Option.some.inj htrace₀]
    exact hstart
  · intro i hi event now hevent
    exact hrendered i hi (hshown i hi (Nat.le_of_lt (List.getElem?_eq_some_iff.1 hevent).1))
      event now hevent

namespace WorkingAction
variable {renderer : Renderer} {states : ℕ → ProgressState Renderer Interruption}

theorem call_cases (h : WorkingAction events traces renderer states) {i : ℕ} (hi : 0 < i)
    {event : ProgressEvent} {now : ℕ} (hevent : events[i]? = some (event, now)) :
    ∃ flushed own, traces[i]? = some (flushed ++ own) ∧
      (flushes (states i) event = false → flushed = []) ∧
      (flushes (states i) event = true → ∃ call, flushed = [call] ∧
        ShowsCounters call .progress (visibleBefore events i).metricValues) ∧
      (showsEvent (states i) event now = false → own = []) ∧
      (showsEvent (states i) event now = true → ∃ call, own = [call] ∧
        ShowsCounters call event.kind (visibleBefore events (i + 1)).metricValues) := by
  obtain ⟨trace, htrace, hrendered⟩ := h.rendered i hi event now hevent
  obtain ⟨flushed, own, rfl, hflushed, hown⟩ := hrendered.calls
  have hvisible := (h.shown i hi (Nat.le_of_lt (List.getElem?_eq_some_iff.1 hevent).1)).visible
  refine ⟨flushed, own, htrace, ?_, ?_, ?_, ?_⟩
  · intro hnone
    rw [hnone] at hflushed
    exact List.map_eq_nil_iff.1 hflushed
  · intro hflush
    rw [hflush] at hflushed
    obtain ⟨call, hcall, hop⟩ := mem_of_map_op_eq_singleton hflushed
    exact ⟨call, hcall, renderer, _, hop, congrArg _ hvisible⟩
  · intro hnone
    rw [hnone] at hown
    exact List.map_eq_nil_iff.1 hown
  · intro hshows
    rw [hshows] at hown
    obtain ⟨call, hcall, hop⟩ := mem_of_map_op_eq_singleton hown
    refine ⟨call, hcall, renderer, _, hop, ?_⟩
    rw [visibleBefore_succ hevent, hvisible]

theorem flushes_iff (h : WorkingAction events traces renderer states) {i : ℕ} (hi : 0 < i)
    {event : ProgressEvent} {now : ℕ} (hevent : events[i]? = some (event, now)) :
    flushes (states i) event = true ↔ ScopeChangesAt events i ∧
      (states i).metricThrottle.metricsWaitingToRender = true := by
  have hvisible := (h.shown i hi (Nat.le_of_lt (List.getElem?_eq_some_iff.1 hevent).1)).visible
  rw [flushes, Bool.and_eq_true, hvisible, ← scopeChangesAt_iff hevent]
  exact Iff.rfl

theorem oneScope (h : WorkingAction events traces renderer states) {i : ℕ}
    {trace : List (RichEvent Renderer Interruption)} (htrace : traces[i]? = some trace)
    {call : RichEvent Renderer Interruption} (hcall : call ∈ trace) {renderer' : Renderer}
    {update : TaskUpdate} (hop : call.op = .update renderer' update) :
    ∃ kind a b, Scope events a b ∧ (b = i ∨ b = i + 1) ∧
      ShowsCounters call kind (mergedCounters (scopeEvents events a b)) := by
  have hi : i < events.length := by
    rw [← h.length]
    exact (List.getElem?_eq_some_iff.1 htrace).1
  rcases Nat.eq_zero_or_pos i with rfl | hpos
  · exact absurd hop (h.started trace htrace call hcall renderer' update)
  · obtain ⟨flushed, own, htrace', hnone, hflush, hquiet, hshows⟩ :=
      h.call_cases hpos (List.getElem?_eq_getElem hi)
    rw [htrace] at htrace'
    rw [Option.some.inj htrace'] at hcall
    rcases List.mem_append.1 hcall with hmem | hmem
    · rcases hcase : flushes (states i) events[i].1 with _ | _
      · rw [hnone hcase] at hmem
        cases hmem
      · obtain ⟨call', rfl, hcounters⟩ := hflush hcase
        obtain ⟨a, hscope, hmerged⟩ := exists_scope hpos (Nat.le_of_lt hi)
        rw [hmerged] at hcounters
        rw [List.mem_singleton.1 hmem]
        exact ⟨_, a, i, hscope, .inl rfl, hcounters⟩
    · rcases hcase : showsEvent (states i) events[i].1 events[i].2 with _ | _
      · rw [hquiet hcase] at hmem
        cases hmem
      · obtain ⟨call', rfl, hcounters⟩ := hshows hcase
        obtain ⟨a, hscope, hmerged⟩ := exists_scope (Nat.succ_pos i) hi
        rw [hmerged] at hcounters
        rw [List.mem_singleton.1 hmem]
        exact ⟨_, a, i + 1, hscope, .inr rfl, hcounters⟩

end WorkingAction

theorem hasCounter_of_received {received : List ProgressEvent}
    (h : ∃ event ∈ received, event.fileProgress.isSome ∨ event.metrics.isSome) :
    HasCounter (mergedCounters received) := by
  obtain ⟨event, hmem, hfile | hmetrics⟩ := h
  · obtain ⟨file, hfile⟩ := Option.isSome_iff_exists.1 hfile
    have hne : received.filterMap ProgressEvent.fileProgress ≠ [] :=
      List.ne_nil_of_mem (List.mem_filterMap.2 ⟨event, hmem, hfile⟩)
    obtain ⟨first, rest, heq⟩ := List.exists_cons_of_ne_nil hne
    refine ⟨first.total, ?_⟩
    simp [mergedCounters, heq]
  · obtain ⟨metrics, hmetrics⟩ := Option.isSome_iff_exists.1 hmetrics
    have hne : (received.filterMap ProgressEvent.metrics).map (·.rows) ≠ [] := by
      apply List.ne_nil_of_mem
      exact List.mem_map_of_mem (List.mem_filterMap.2 ⟨event, hmem, hmetrics⟩)
    obtain ⟨rows, hrows⟩ := Option.isSome_iff_exists.1 (List.isSome_max?_iff.2 hne)
    refine ⟨rows, ?_⟩
    simp only [mergedCounters, hrows, List.mem_cons, true_or, or_true]

namespace WorkingAction
variable {renderer : Renderer} {states : ℕ → ProgressState Renderer Interruption}

theorem beforeCleared (h : WorkingAction events traces renderer states) {a b : ℕ}
    (hscope : Scope events a b) (hchanges : ScopeChangesAt events b)
    (hreceived : ∃ event ∈ scopeEvents events a b,
      event.fileProgress.isSome ∨ event.metrics.isSome) :
    ∃ before call kind after, callsOf traces a (b + 1) = before ++ call :: after ∧
      ShowsCounters call kind (mergedCounters (scopeEvents events a b)) ∧
      ∀ later ∈ after, ∃ kind',
        ShowsCounters later kind' (mergedCounters (scopeEvents events b (b + 1))) := by
  obtain ⟨⟨event, now⟩, hevent, -⟩ := id hchanges
  have hpos : 0 < b := Nat.lt_of_le_of_lt (Nat.zero_le a) hscope.nonempty
  obtain ⟨flushed, own, htrace, hnone, hflush, hquiet, hshows⟩ := h.call_cases hpos hevent
  -- what follows the last update of the scope shows the next one
  have hown : ∀ later ∈ own, ∃ kind',
      ShowsCounters later kind' (mergedCounters (scopeEvents events b (b + 1))) := by
    intro later hlater
    rcases hcase : showsEvent (states b) event now with _ | _
    · rw [hquiet hcase] at hlater
      cases hlater
    · obtain ⟨call, rfl, hcounters⟩ := hshows hcase
      rw [(Scope.single hevent (.inr hchanges)).merged] at hcounters
      rw [List.mem_singleton.1 hlater]
      exact ⟨_, hcounters⟩
  rw [callsOf_succ htrace (Nat.le_of_lt hscope.nonempty)]
  rcases hwaiting : (states b).metricThrottle.metricsWaitingToRender with _ | _
  · -- the last update of the scope is already the final one
    have hflushed : flushes (states b) event = false := by
      rw [← Bool.not_eq_true, h.flushes_iff hpos hevent, hwaiting]
      exact fun hboth => Bool.false_ne_true hboth.2
    obtain ⟨call, kind, hlast, hcall⟩ := (h.shown b hpos hscope.le_length).latest a hscope
      hwaiting (hasCounter_of_received hreceived)
    obtain ⟨before, hbefore⟩ := List.getLast?_eq_some_iff.1 hlast
    refine ⟨before, call, kind, own, ?_, hcall, hown⟩
    rw [hnone hflushed, hbefore, List.nil_append, List.append_assoc]
    rfl
  · obtain ⟨call, rfl, hcounters⟩ := hflush ((h.flushes_iff hpos hevent).2 ⟨hchanges, hwaiting⟩)
    rw [hscope.merged] at hcounters
    exact ⟨callsOf traces a b, call, _, own, rfl, hcounters, hown⟩

theorem atEnd (h : WorkingAction events traces renderer states) (haction : ActionEvents events)
    {a : ℕ} (hscope : Scope events a events.length) :
    ∃ terminal stop call, events.getLast? = some (terminal, stop) ∧
      endsAction terminal.kind = true ∧ traces.getLast? = some [call] ∧
      ShowsCounters call terminal.kind
        (mergedCounters (scopeEvents events a events.length)) := by
  obtain ⟨operation, start, middle, terminal, stop, hevents, hends, -⟩ := id haction
  have hlength : events.length = middle.length + 1 + 1 := by
    rw [hevents, List.length_cons, List.length_append]
    rfl
  have hevent : events[middle.length + 1]? = some (terminal, stop) := by
    rw [hevents, List.getElem?_cons_succ, List.getElem?_append_right (Nat.le_refl _),
      Nat.sub_self]
    rfl
  obtain ⟨flushed, own, htrace, hnone, -, -, hshows⟩ :=
    h.call_cases (Nat.succ_pos _) hevent
  -- a terminal event has no phase, so it shows the last scope once more instead of clearing it
  have hphase : terminal.phase = none := by
    cases terminal with
    | started operation => cases hends
    | phaseChanged snapshot => cases hends
    | progress snapshot => cases hends
    | completed => rfl
    | completedWithFailures => rfl
    | failed => rfl
    | cancelled => rfl
  have hflushed : flushes (states (middle.length + 1)) terminal = false := by
    rw [flushes, VisibleProgress.scopeChanges, hphase]
    rfl
  have hother : terminal.kind ≠ .progress := by
    intro hprogress
    rw [hprogress] at hends
    cases hends
  have hshown : showsEvent (states (middle.length + 1)) terminal stop = true := by
    have hlets : (throttled (states (middle.length + 1)) terminal stop).2 = true := by
      rw [throttled, MetricRenderThrottle.shouldRender, if_pos hother]
    have hkind : decide (terminal.kind ≠ .started) = true :=
      decide_eq_true (haction.kind_ne_started (Nat.succ_pos _) hevent)
    rw [showsEvent, hlets, hkind]
    rfl
  obtain ⟨call, rfl, hcounters⟩ := hshows hshown
  rw [hnone hflushed, List.nil_append] at htrace
  rw [hlength] at hscope ⊢
  rw [hscope.merged] at hcounters
  refine ⟨terminal, stop, call, ?_, hends, ?_, hcounters⟩
  · rw [hevents, List.getLast?_cons, List.getLast?_concat]
    rfl
  · rw [List.getLast?_eq_getElem?, h.length, hlength]
    exact htrace

theorem lastShown (h : WorkingAction events traces renderer states)
    (hclock : events.Pairwise fun earlier later => earlier.2 ≤ later.2) {i j : ℕ} (hi : 0 < i)
    (hij : i < j) (hj : j ≤ events.length) {event : ProgressEvent} {now : ℕ}
    (hevent : events[i]? = some (event, now))
    (hshown : (states (i + 1)).metricThrottle.lastMetricsShownAt = some now) :
    ∃ last ∈ (states j).metricThrottle.lastMetricsShownAt, now ≤ last := by
  induction j with
  | zero => exact absurd hij (Nat.not_lt_zero i)
  | succ j ih =>
    rcases Nat.lt_succ_iff_lt_or_eq.1 hij with hlt | rfl
    · obtain ⟨last, hlast, hle⟩ := ih hlt (Nat.le_of_succ_le hj)
      have hnext : events[j]? = some (events[j].1, events[j].2) := List.getElem?_eq_getElem hj
      obtain ⟨trace, -, hrendered⟩ := h.rendered j (Nat.lt_trans hi hlt) _ _ hnext
      rw [hrendered.throttle]
      rcases MetricRenderThrottle.shouldRender_lastShown (states j).metricThrottle
        events[j].1.kind ((states j).visible.incorporate events[j].1).2 events[j].2
        with hsame | hnow
      · refine ⟨last, ?_, hle⟩
        rw [throttled, hsame]
        exact hlast
      · refine ⟨events[j].2, ?_, ?_⟩
        · rw [throttled, hnow]
          rfl
        · have hi' : i < events.length := Nat.lt_trans hlt hj
          have hordered := List.pairwise_iff_getElem.1 hclock i j hi' hj hlt
          have hgot : events[i] = (event, now) := by
            rw [List.getElem?_eq_getElem hi'] at hevent
            exact Option.some.inj hevent
          rw [hgot] at hordered
          exact hordered
    · exact ⟨now, hshown, Nat.le_refl now⟩

/-- A progress event that keeps the scope makes at most one call, some time after the last
counters. -/
theorem progress_call (h : WorkingAction events traces renderer states) {i : ℕ} (hi : 0 < i)
    {event : ProgressEvent} {now : ℕ} (hevent : events[i]? = some (event, now))
    (hkind : event.kind = .progress) (hscope : ¬ ScopeChangesAt events i)
    {trace : List (RichEvent Renderer Interruption)} (htrace : traces[i]? = some trace) :
    trace = [] ∨ ((∃ call, trace = [call]) ∧
      (states (i + 1)).metricThrottle.lastMetricsShownAt = some now ∧
      ∀ last ∈ (states i).metricThrottle.lastMetricsShownAt,
        last + metricRenderInterval ≤ now) := by
  obtain ⟨flushed, own, htrace', hnone, -, hquiet, hshows⟩ := h.call_cases hi hevent
  rw [htrace] at htrace'
  have hflushed : flushes (states i) event = false := by
    rw [← Bool.not_eq_true, h.flushes_iff hi hevent]
    exact fun hboth => hscope hboth.1
  rw [Option.some.inj htrace', hnone hflushed, List.nil_append]
  rcases hcase : showsEvent (states i) event now with _ | _
  · exact .inl (hquiet hcase)
  · obtain ⟨call, hcall, -⟩ := hshows hcase
    have hlets : (throttled (states i) event now).2 = true := by
      have hdecide : decide (event.kind ≠ .started) = true := by
        rw [hkind]
        rfl
      rw [showsEvent, hdecide, hflushed, Bool.true_and, Bool.or_false] at hcase
      exact hcase
    obtain ⟨trace', -, hrendered⟩ := h.rendered i hi event now hevent
    rw [throttled, hkind] at hlets
    obtain ⟨hnow, hlate⟩ := MetricRenderThrottle.shouldRender_progress hlets
    refine .inr ⟨⟨call, hcall⟩, ?_, hlate⟩
    rw [hrendered.throttle, throttled, hkind]
    exact hnow

theorem spaced (h : WorkingAction events traces renderer states)
    (haction : ActionEvents events)
    (hclock : events.Pairwise fun earlier later => earlier.2 ≤ later.2)
    (hscopes : ∀ i event now, events[i]? = some (event, now) → ScopeChangesAt events i →
      event.kind = .phaseChanged) {i j : ℕ} (hij : i < j) {event event' : ProgressEvent}
    {now now' : ℕ} (hevent : events[i]? = some (event, now))
    (hevent' : events[j]? = some (event', now')) (hkind : event.kind = .progress)
    (hkind' : event'.kind = .progress) {call call' : RichEvent Renderer Interruption}
    {trace trace' : List (RichEvent Renderer Interruption)} (htrace : traces[i]? = some trace)
    (hcall : call ∈ trace) (htrace' : traces[j]? = some trace') (hcall' : call' ∈ trace') :
    now + metricRenderInterval ≤ now' := by
  have hpos : 0 < i := by
    apply Nat.pos_of_ne_zero
    rintro rfl
    obtain ⟨operation, start, middle, terminal, stop, hevents, -⟩ := haction
    rw [hevents, List.getElem?_cons_zero] at hevent
    obtain ⟨rfl, rfl⟩ := Prod.mk.inj (Option.some.inj hevent)
    cases hkind
  have hsame : ∀ k e t, events[k]? = some (e, t) → e.kind = .progress →
      ¬ ScopeChangesAt events k := by
    intro k e t hk hprogress hchanges
    have hphase := hscopes k e t hk hchanges
    rw [hprogress] at hphase
    cases hphase
  have hfirst := h.progress_call hpos hevent hkind (hsame i _ _ hevent hkind) htrace
  have hsecond := h.progress_call (Nat.lt_trans hpos hij) hevent' hkind'
    (hsame j _ _ hevent' hkind') htrace'
  rcases hfirst with rfl | ⟨-, hshown, -⟩
  · cases hcall
  · rcases hsecond with rfl | ⟨-, -, hlate⟩
    · cases hcall'
    · have hj : j < events.length := (List.getElem?_eq_some_iff.1 hevent').1
      obtain ⟨last, hlast, hle⟩ :=
        h.lastShown hclock hpos hij (Nat.le_of_lt hj) hevent hshown
      exact Nat.le_trans (Nat.add_le_add_right hle _) (hlate last hlast)

end WorkingAction

/-- What a display shows of the counters of an action. -/
structure CountersShown (events : List (ProgressEvent × ℕ))
    (traces : List (List (RichEvent Renderer Interruption))) : Prop where
  /-- The first snapshot of files in a scope fixes its total. -/
  fixedTotal : ∀ a b, Scope events a b → (visibleBefore events b).filesTotal =
    ((scopeEvents events a b).filterMap ProgressEvent.fileProgress).head?.map (·.total)
  ordered : ∀ i ≤ events.length, (visibleBefore events i).CountersOrdered
  increasing : ∀ i < events.length, ¬ ScopeChangesAt events i →
    (visibleBefore events i).CountersBelow (visibleBefore events (i + 1))
  /-- An update shows the counters of one scope, as they were before or after its event. -/
  oneScope : ∀ i trace, traces[i]? = some trace → ∀ call ∈ trace, ∀ renderer update,
    call.op = .update renderer update → ∃ kind a b, Scope events a b ∧ (b = i ∨ b = i + 1) ∧
      ShowsCounters call kind (mergedCounters (scopeEvents events a b))
  /-- Before the next scope is shown, the counters of a scope are shown merged. -/
  beforeCleared : ∀ a b, Scope events a b → ScopeChangesAt events b →
    (∃ event ∈ scopeEvents events a b, event.fileProgress.isSome ∨ event.metrics.isSome) →
    ∃ before call kind after, callsOf traces a (b + 1) = before ++ call :: after ∧
      ShowsCounters call kind (mergedCounters (scopeEvents events a b)) ∧
      ∀ later ∈ after, ∃ kind',
        ShowsCounters later kind' (mergedCounters (scopeEvents events b (b + 1)))
  atEnd : ∀ a, Scope events a events.length → ∃ terminal stop call,
    events.getLast? = some (terminal, stop) ∧ endsAction terminal.kind = true ∧
      traces.getLast? = some [call] ∧ ShowsCounters call terminal.kind
        (mergedCounters (scopeEvents events a events.length))
  /-- If only phases change the scope, progress makes one call at a time, and not too often. -/
  spaced : (∀ (i : ℕ) (event : ProgressEvent) (now : ℕ), events[i]? = some (event, now) →
      ScopeChangesAt events i → event.kind = .phaseChanged) →
    ∀ (i : ℕ) (event : ProgressEvent) (now : ℕ) (trace : List (RichEvent Renderer Interruption)),
      events[i]? = some (event, now) → event.kind = .progress → traces[i]? = some trace →
      trace.length ≤ 1 ∧ ∀ (j : ℕ) (event' : ProgressEvent) (now' : ℕ)
        (trace' : List (RichEvent Renderer Interruption)), i < j →
        events[j]? = some (event', now') → event'.kind = .progress → traces[j]? = some trace' →
        trace ≠ [] → trace' ≠ [] → now + metricRenderInterval ≤ now'

end Actions

/-- Throttling neither loses nor mixes counters, whatever the events of an action are. -/
theorem throttled_counters_are_shown {settings : ProgressSettings}
    {events : List (ProgressEvent × ℕ)}
    {traces : List (List (RichEvent Renderer Interruption))}
    {last : ProgressState Renderer Interruption} (haction : ActionEvents events)
    (hclock : events.Pairwise fun earlier later => earlier.2 ≤ later.2)
    (hrun : Deliveries (.new (.pending settings)) events traces last)
    (hsucceeded : ∀ call ∈ traces.flatten, CallSucceeded call) :
    CountersShown events traces := by
  obtain ⟨renderer, states, hworking⟩ := hrun.working haction hsucceeded
  -- at every event the counters are those of its scope
  have hmerged : ∀ i, i ≤ events.length → 0 < i → ∃ received : List ProgressEvent,
      (visibleBefore events i).metricValues = mergedCounters received := by
    intro i hle hpos
    obtain ⟨a, -, hmerged⟩ := exists_scope hpos hle
    exact ⟨_, hmerged⟩
  have hmerged' : ∀ i, i ≤ events.length → ∃ received : List ProgressEvent,
      (visibleBefore events i).metricValues = mergedCounters received := by
    intro i hle
    rcases Nat.eq_zero_or_pos i with rfl | hpos
    · exact ⟨[], rfl⟩
    · exact hmerged i hle hpos
  refine ⟨?_, ?_, ?_, ?_, ?_, ?_, ?_⟩
  · intro a b hscope
    exact (VisibleProgress.metricValues_eq_iff.1 hscope.merged).1.total
  · intro i hle
    obtain ⟨received, hreceived⟩ := hmerged' i hle
    exact VisibleProgress.ordered_of_merged hreceived
  · intro i hi hsame
    have hevent : events[i]? = some (events[i].1, events[i].2) := List.getElem?_eq_getElem hi
    obtain ⟨received, hreceived⟩ := hmerged' i (Nat.le_of_lt hi)
    rw [visibleBefore_succ hevent]
    apply VisibleProgress.incorporate_below hreceived
    rw [← Bool.not_eq_true, ← scopeChangesAt_iff hevent]
    exact hsame
  · intro i trace htrace call hcall renderer' update hop
    exact hworking.oneScope htrace hcall hop
  · intro a b hscope hchanges hreceived
    exact hworking.beforeCleared hscope hchanges hreceived
  · intro a hscope
    exact hworking.atEnd haction hscope
  · intro hscopes i event now trace hevent hkind htrace
    refine ⟨?_, ?_⟩
    -- the first event starts the action and is no progress
    · have hpos : 0 < i := by
        apply Nat.pos_of_ne_zero
        rintro rfl
        obtain ⟨operation, start, middle, terminal, stop, hevents, -⟩ := haction
        rw [hevents, List.getElem?_cons_zero] at hevent
        obtain ⟨rfl, rfl⟩ := Prod.mk.inj (Option.some.inj hevent)
        cases hkind
      have hsame : ¬ ScopeChangesAt events i := by
        intro hchanges
        have hphase := hscopes i event now hevent hchanges
        rw [hkind] at hphase
        cases hphase
      rcases hworking.progress_call hpos hevent hkind hsame htrace with rfl | ⟨⟨call, rfl⟩, -⟩
      · exact Nat.zero_le 1
      · exact Nat.le_refl 1
    · intro j event' now' trace' hij hevent' hkind' htrace' hsome hsome'
      obtain ⟨call, hcall⟩ := List.exists_mem_of_ne_nil _ hsome
      obtain ⟨call', hcall'⟩ := List.exists_mem_of_ne_nil _ hsome'
      exact hworking.spaced haction hclock hscopes hij hevent hevent' hkind hkind' htrace hcall
        htrace' hcall'

def twoOutputs : List (ProgressEvent × ℕ) :=
  [(.started .writeAllToMssql, 0), (.phaseChanged ⟨.writing, some "orders", none, none, none⟩, 5),
    (.progress ⟨.writing, some "orders", none, none, some ⟨10, 1⟩⟩, 7),
    (.progress ⟨.writing, some "orders", none, none, some ⟨20, 2⟩⟩, 9),
    (.phaseChanged ⟨.writing, some "customers", none, none, none⟩, 12),
    (.progress ⟨.writing, some "customers", none, none, some ⟨5, 1⟩⟩, 14), (.completed, 20)]

/-- The second batch of the first output comes too early for an update of its own, and is shown
when the second output starts. -/
theorem throttled_batches_are_shown :
    ∃ (traces : List (List (RichEvent Unit String))) (last : ProgressState Unit String),
      Deliveries (.new (.pending ⟨.forced, .stderr⟩)) twoOutputs traces last ∧
        traces.map List.length = [2, 1, 1, 0, 2, 0, 1] ∧ CountersShown twoOutputs traces := by
  obtain ⟨label, first, second, third, fourth, fifth, last, hevents⟩ :
      ∃ (label : String) (first second third fourth fifth : TaskUpdate)
        (last : ProgressState Unit String),
        Deliveries (.new (.pending ⟨.forced, .stderr⟩)) twoOutputs
          [[⟨.create ⟨.forced, .stderr⟩ label, PythonCall.succeeded (some ())⟩,
              ⟨.start (), PythonCall.succeeded ()⟩],
            [⟨.update () first, PythonCall.succeeded ()⟩],
            [⟨.update () second, PythonCall.succeeded ()⟩], [],
            [⟨.update () third, PythonCall.succeeded ()⟩,
              ⟨.update () fourth, PythonCall.succeeded ()⟩], [],
            [⟨.update () fifth, PythonCall.succeeded ()⟩]] last :=
    ⟨_, _, _, _, _, _, _, .cons (.call (.call (.refl _))) (.cons (.call (.refl _))
      (.cons (.call (.refl _)) (.cons (.refl _) (.cons (.call (.call (.refl _)))
        (.cons (.refl _) (.cons (.call (.refl _)) (.nil _)))))))⟩
  have haction : ActionEvents twoOutputs := by
    refine ⟨.writeAllToMssql, 0, twoOutputs.tail.take 5, .completed, 20, rfl, rfl, ?_⟩
    decide
  refine ⟨_, last, hevents, rfl, throttled_counters_are_shown haction ?_ hevents ?_⟩
  · unfold twoOutputs
    simp
  · simp [CallSucceeded, PythonCall.value]

end DeltaFunnel
