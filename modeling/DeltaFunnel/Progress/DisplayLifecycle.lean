import DeltaFunnel.Progress.RichDisplay

/-! The calls into Rich over one action: a display is created once, started once, updated only
while that works, and stopped once at the end, and no interruption is lost. -/

namespace DeltaFunnel
open Interaction

variable {Renderer Interruption OperationError Report T : Type}

abbrev RichEvent (Renderer Interruption : Type) := Event (richSignature Renderer Interruption)

namespace PythonCall

def interruption : PythonCall Interruption T → Option Interruption
  | .interrupted error => some error
  | _ => none

def value : PythonCall Interruption T → Option T
  | .succeeded value => some value
  | _ => none

theorem save_eq (call : PythonCall Interruption T) (pending : Option Interruption) :
    pythonValueOrSaveInterruption call pending =
      (call.value, pending.or call.interruption) := by
  cases call with
  | succeeded value => exact congrArg (Prod.mk (some value)) Option.or_none.symm
  | failed => exact congrArg (Prod.mk none) Option.or_none.symm
  | interrupted error => rfl

end PythonCall

def interruptionOf : RichEvent Renderer Interruption → Option Interruption
  | ⟨.create _ _, reply⟩ => PythonCall.interruption reply
  | ⟨.start _, reply⟩ => PythonCall.interruption reply
  | ⟨.update _ _, reply⟩ => PythonCall.interruption reply
  | ⟨.stop _, reply⟩ => PythonCall.interruption reply

def firstInterruption (trace : List (RichEvent Renderer Interruption)) : Option Interruption :=
  (trace.filterMap interruptionOf).head?

theorem firstInterruption_append (before after : List (RichEvent Renderer Interruption)) :
    firstInterruption (before ++ after) =
      (firstInterruption before).or (firstInterruption after) := by
  unfold firstInterruption
  rw [List.filterMap_append, List.head?_append]

theorem firstInterruption_singleton (event : RichEvent Renderer Interruption) :
    firstInterruption [event] = interruptionOf event := by
  unfold firstInterruption
  rcases h : interruptionOf event with _ | error
  · simp [h]
  · simp [h]

/-- Whether the call is a start or an update that returned normally. -/
def displaySucceeded : RichEvent Renderer Interruption → Bool
  | ⟨.start _, reply⟩ => (PythonCall.value reply).isSome
  | ⟨.update _ _, reply⟩ => (PythonCall.value reply).isSome
  | _ => false

def isCreate (event : RichEvent Renderer Interruption) : Prop :=
  ∃ settings label, event.op = .create settings label

def StartThenUpdates (renderer : Renderer) (calls : List (RichEvent Renderer Interruption)) :
    Prop :=
  ∃ (started : PythonCall Interruption Unit) (updates : List (RichEvent Renderer Interruption)),
    calls = ⟨.start renderer, started⟩ :: updates ∧
      ∀ event ∈ updates, ∃ update, event.op = .update renderer update

/-- All calls of one action. A display that was created is started right away and stopped at
the very end, and every start or update that is followed by another update succeeded. -/
inductive DisplayLifecycle (settings : ProgressSettings) :
    List (RichEvent Renderer Interruption) → Prop
  | untouched : DisplayLifecycle settings []
  | hidden (label : String) (reply : PythonCall Interruption (Option Renderer))
      (hreply : ∀ renderer, reply ≠ .succeeded (some renderer)) :
      DisplayLifecycle settings [⟨.create settings label, reply⟩]
  | shown (label : String) (renderer : Renderer) {before : List (RichEvent Renderer Interruption)}
      {last : RichEvent Renderer Interruption} (stopped : PythonCall Interruption Unit)
      (hcalls : StartThenUpdates renderer (before ++ [last]))
      (hbefore : ∀ event ∈ before, displaySucceeded event = true) :
      DisplayLifecycle settings
        (⟨.create settings label, PythonCall.succeeded (some renderer)⟩ :: (before ++ [last]) ++
          [⟨.stop renderer, stopped⟩])

/-- The calls so far, and what the adapter then holds of the display. -/
inductive Displayed (settings : ProgressSettings) :
    List (RichEvent Renderer Interruption) → RenderState Renderer → Prop
  | pending : Displayed settings [] (.pending settings)
  | hidden (label : String) (reply : PythonCall Interruption (Option Renderer))
      (hreply : ∀ renderer, reply ≠ .succeeded (some renderer)) :
      Displayed settings [⟨.create settings label, reply⟩] .done
  | shown (label : String) (renderer : Renderer) {before : List (RichEvent Renderer Interruption)}
      {last : RichEvent Renderer Interruption}
      (hcalls : StartThenUpdates renderer (before ++ [last]))
      (hbefore : ∀ event ∈ before, displaySucceeded event = true) :
      Displayed settings
        (⟨.create settings label, PythonCall.succeeded (some renderer)⟩ :: (before ++ [last]))
        (.active renderer (displaySucceeded last))

structure Shows (settings : ProgressSettings) (trace : List (RichEvent Renderer Interruption))
    (render : RenderState Renderer) (pendingInterruption : Option Interruption) : Prop where
  displayed : Displayed settings trace render
  saved : pendingInterruption = firstInterruption trace

section Steps
variable {settings : ProgressSettings} {before trace : List (RichEvent Renderer Interruption)}
  {render render' : RenderState Renderer}
  {pendingInterruption pendingInterruption' : Option Interruption}

theorem runs_showVisible {renderer : Renderer} {kind : ProgressEventKind}
    {visible : VisibleProgress} {result : RenderState Renderer × Option Interruption}
    (hrun : Runs (showVisible renderer kind visible pendingInterruption) trace result) :
    ∃ (update : TaskUpdate) (reply : PythonCall Interruption Unit),
      trace = [⟨.update renderer update, reply⟩] ∧
        result = (.active renderer reply.value.isSome,
          pendingInterruption.or reply.interruption) := by
  unfold showVisible at hrun
  obtain ⟨first, reply, second, rfl, hupdate, hrest⟩ := runs_bind.1 hrun
  rw [PythonCall.save_eq] at hrest
  obtain ⟨rfl, rfl⟩ := runs_ret.1 hrest
  unfold updateRenderer at hupdate
  obtain ⟨reply', rest, rfl, hret⟩ := runs_call.1 hupdate
  obtain ⟨rfl, rfl⟩ := runs_ret.1 hret
  exact ⟨_, reply, rfl, rfl⟩

theorem Displayed.update {renderer : Renderer}
    (h : Displayed settings before (.active renderer true)) (update : TaskUpdate)
    (reply : PythonCall Interruption Unit) :
    Displayed settings (before ++ [⟨.update renderer update, reply⟩])
      (.active renderer reply.value.isSome) := by
  generalize hrender : RenderState.active renderer true = render at h
  cases h with
  | pending => cases hrender
  | hidden label reply' hreply => cases hrender
  | @shown label renderer' before' last hcalls hbefore =>
    obtain ⟨rfl, hlast⟩ := RenderState.active.inj hrender
    obtain ⟨started, updates, heq, hupdates⟩ := hcalls
    have hsucceeded : ∀ event ∈ before' ++ [last], displaySucceeded event = true := by
      intro event hevent
      rcases List.mem_append.1 hevent with hevent | hevent
      · exact hbefore event hevent
      · rw [List.mem_singleton.1 hevent, ← hlast]
    have hmore : StartThenUpdates renderer
        (before' ++ [last] ++ [⟨RichOp.update renderer update, reply⟩]) := by
      refine ⟨started, updates ++ [⟨RichOp.update renderer update, reply⟩], ?_, ?_⟩
      · rw [heq, List.cons_append]
      · intro event hevent
        rcases List.mem_append.1 hevent with hevent | hevent
        · exact hupdates event hevent
        · rw [List.mem_singleton.1 hevent]
          exact ⟨update, rfl⟩
    exact .shown label renderer hmore hsucceeded

theorem Shows.update {renderer : Renderer} {kind : ProgressEventKind} {visible : VisibleProgress}
    (h : Shows settings before (.active renderer true) pendingInterruption)
    (hrun : Runs (showVisible renderer kind visible pendingInterruption) trace
      (render', pendingInterruption')) :
    Shows settings (before ++ trace) render' pendingInterruption' ∧
      (∀ event ∈ trace, ¬ isCreate event) ∧ ∃ enabled, render' = .active renderer enabled := by
  obtain ⟨update, reply, rfl, hresult⟩ := runs_showVisible hrun
  obtain ⟨rfl, rfl⟩ := Prod.mk.inj hresult
  refine ⟨⟨h.displayed.update update reply, ?_⟩, ?_, ⟨_, rfl⟩⟩
  · rw [firstInterruption_append, firstInterruption_singleton, ← h.saved]
    rfl
  · intro event hevent
    rw [List.mem_singleton.1 hevent]
    rintro ⟨_, _, hop⟩
    cases hop

theorem Shows.flush {previousVisible : Option VisibleProgress}
    (h : Shows settings before render pendingInterruption)
    (hrun : Runs (flushPreviousMetrics render previousVisible pendingInterruption) trace
      (render', pendingInterruption')) :
    Shows settings (before ++ trace) render' pendingInterruption' ∧
      (∀ event ∈ trace, ¬ isCreate event) ∧
      ∀ settings', render' = .pending settings' → render = .pending settings' := by
  unfold flushPreviousMetrics at hrun
  split at hrun
  · obtain ⟨hshows, hcreate, enabled, hactive⟩ := h.update hrun
    refine ⟨hshows, hcreate, ?_⟩
    intro settings' hpending
    rw [hactive] at hpending
    cases hpending
  · obtain ⟨rfl, hresult⟩ := runs_ret.1 hrun
    obtain ⟨rfl, rfl⟩ := Prod.mk.inj hresult
    rw [List.append_nil]
    exact ⟨h, List.forall_mem_nil _, fun _ hpending => hpending⟩

theorem Shows.start {event : ProgressEvent} {settings' : ProgressSettings}
    (h : Shows settings before (.pending settings') pendingInterruption)
    (hrun : Runs (startAction settings' event pendingInterruption) trace
      (render', pendingInterruption')) :
    Shows settings (before ++ trace) render' pendingInterruption' ∧
      ∀ settings'', render' ≠ .pending settings'' := by
  obtain ⟨hdisplayed, hsaved⟩ := h
  cases hdisplayed with
  | pending =>
    rw [List.nil_append]
    unfold startAction at hrun
    obtain ⟨first, reply, second, rfl, hcreate, hrest⟩ := runs_bind.1 hrun
    unfold createRenderer at hcreate
    obtain ⟨reply', rest, rfl, hret⟩ := runs_call.1 hcreate
    obtain ⟨rfl, rfl⟩ := runs_ret.1 hret
    rw [PythonCall.save_eq] at hrest
    dsimp only at hrest
    split at hrest
    -- no renderer was created: the action stays without a display
    · next hnone =>
      obtain ⟨rfl, hresult⟩ := runs_ret.1 hrest
      obtain ⟨rfl, rfl⟩ := Prod.mk.inj hresult
      refine ⟨⟨.hidden _ reply ?_, ?_⟩, fun _ hpending => by cases hpending⟩
      · rintro renderer rfl
        cases hnone
      · rw [hsaved, List.append_nil, firstInterruption_singleton]
        rfl
    · next renderer hsome =>
      have hreply : reply = PythonCall.succeeded (some renderer) := by
        cases reply with
        | succeeded value => exact congrArg PythonCall.succeeded hsome
        | failed => cases hsome
        | interrupted error => cases hsome
      obtain ⟨first, started, second, rfl, hstart, hlast⟩ := runs_bind.1 hrest
      unfold startRenderer at hstart
      obtain ⟨started', rest, rfl, hret⟩ := runs_call.1 hstart
      obtain ⟨rfl, rfl⟩ := runs_ret.1 hret
      rw [PythonCall.save_eq] at hlast
      obtain ⟨rfl, hresult⟩ := runs_ret.1 hlast
      obtain ⟨rfl, rfl⟩ := Prod.mk.inj hresult
      have hcalls : StartThenUpdates renderer
          ([] ++ [(⟨.start renderer, started⟩ : RichEvent Renderer Interruption)]) :=
        ⟨started, [], rfl, List.forall_mem_nil _⟩
      refine ⟨⟨?_, ?_⟩, fun _ hpending => by cases hpending⟩
      · rw [hreply]
        exact .shown _ renderer hcalls (List.forall_mem_nil _)
      · have hpending : pendingInterruption = none := hsaved
        rw [hpending, firstInterruption_append, firstInterruption_append,
          firstInterruption_singleton, firstInterruption_singleton]
        show (Option.none.or reply.interruption).or started.interruption =
          reply.interruption.or (started.interruption.or none)
        rw [Option.none_or, Option.or_none]

theorem Shows.current {event : ProgressEvent} {visible : VisibleProgress}
    (h : Shows settings before render pendingInterruption)
    (hrun : Runs (renderCurrent render event visible pendingInterruption) trace
      (render', pendingInterruption')) :
    Shows settings (before ++ trace) render' pendingInterruption' ∧
      (∀ call ∈ trace, isCreate call →
        event.kind = .started ∧ ∃ settings', render = .pending settings') ∧
      ∀ settings', render' = .pending settings' →
        render = .pending settings' ∧ event.kind ≠ .started := by
  -- a branch that calls nothing keeps what is shown
  have hkeep : ∀ {render₁ : RenderState Renderer},
      Runs (pure (render, pendingInterruption) :
        RichProgram Renderer Interruption (RenderState Renderer × Option Interruption)) trace
        (render₁, pendingInterruption') →
      Shows settings (before ++ trace) render₁ pendingInterruption' ∧ trace = [] ∧
        render₁ = render := by
    intro render₁ hpure
    obtain ⟨rfl, hresult⟩ := runs_ret.1 hpure
    obtain ⟨rfl, rfl⟩ := Prod.mk.inj hresult
    rw [List.append_nil]
    exact ⟨h, rfl, rfl⟩
  cases render with
  | pending settings' =>
    unfold renderCurrent at hrun
    dsimp only at hrun
    split at hrun
    · next hstarted =>
      obtain ⟨hshows, hactive⟩ := h.start hrun
      exact ⟨hshows, fun _ _ _ => ⟨hstarted, settings', rfl⟩,
        fun settings'' hpending => absurd hpending (hactive settings'')⟩
    · next hother =>
      obtain ⟨hshows, rfl, rfl⟩ := hkeep hrun
      exact ⟨hshows, List.forall_mem_nil _, fun _ hpending => ⟨hpending, hother⟩⟩
  | active renderer updatesEnabled =>
    have hupdated : updatesEnabled = true → ∀ {kind},
        Runs (showVisible renderer kind visible pendingInterruption) trace
          (render', pendingInterruption') →
        Shows settings (before ++ trace) render' pendingInterruption' ∧
          (∀ call ∈ trace, isCreate call → event.kind = .started ∧
            ∃ settings', RenderState.active renderer updatesEnabled = .pending settings') ∧
          ∀ settings', render' = .pending settings' →
            RenderState.active renderer updatesEnabled = .pending settings' ∧
              event.kind ≠ .started := by
      intro henabled kind hshow
      rw [henabled] at h
      obtain ⟨hshows, hcreate, enabled, rfl⟩ := h.update hshow
      refine ⟨hshows, fun call hcall hiscreate => absurd hiscreate (hcreate call hcall), ?_⟩
      intro settings' hpending
      cases hpending
    unfold renderCurrent at hrun
    dsimp only at hrun
    split at hrun
    · split at hrun
      · next henabled => exact hupdated henabled hrun
      · next hdisabled =>
        rw [Bool.not_eq_true] at hdisabled
        subst hdisabled
        obtain ⟨hshows, rfl, rfl⟩ := hkeep hrun
        exact ⟨hshows, List.forall_mem_nil _, fun _ hpending => by cases hpending⟩
    · split at hrun
      · next henabled => exact hupdated henabled.1 hrun
      · obtain ⟨hshows, rfl, rfl⟩ := hkeep hrun
        exact ⟨hshows, List.forall_mem_nil _, fun _ hpending => by cases hpending⟩
  | busy => cases h.displayed
  | done =>
    unfold renderCurrent at hrun
    obtain ⟨hshows, rfl, rfl⟩ := hkeep hrun
    exact ⟨hshows, List.forall_mem_nil _, fun _ hpending => by cases hpending⟩

theorem renderEvent_shows {state state' : ProgressState Renderer Interruption}
    {event : ProgressEvent} {now : ℕ}
    (h : Shows settings before state.render state.pendingInterruption)
    (hrun : Runs (renderEvent state event now) trace state') :
    Shows settings (before ++ trace) state'.render state'.pendingInterruption ∧
      (∀ call ∈ trace, isCreate call →
        event.kind = .started ∧ ∃ settings', state.render = .pending settings') ∧
      (∀ settings', state'.render = .pending settings' →
        state.render = .pending settings' ∧ event.kind ≠ .started) ∧
      state'.finalEvent = if endsAction event.kind then some event.kind else state.finalEvent := by
  unfold renderEvent at hrun
  dsimp only at hrun
  generalize (if (state.visible.scopeChanges event && state.metricThrottle.hasPendingUpdate) = true
    then some state.visible else none) = previousVisible at hrun
  split at hrun
  · next hthrottled =>
    obtain ⟨rfl, rfl⟩ := runs_ret.1 hrun
    -- only a progress event is throttled, so the action goes on
    have hprogress : event.kind = .progress := by
      by_contra hother
      simp [MetricRenderThrottle.shouldRender, hother] at hthrottled
    rw [List.append_nil]
    refine ⟨h, List.forall_mem_nil _, fun _ hpending => ⟨hpending, ?_⟩, ?_⟩
    · rw [hprogress]
      exact ProgressEventKind.noConfusion
    · rw [hprogress]
      rfl
  · obtain ⟨first, ⟨render₁, pending₁⟩, rest, rfl, hflush, hrest⟩ := runs_bind.1 hrun
    obtain ⟨second, ⟨render₂, pending₂⟩, last, rfl, hcurrent, hlast⟩ := runs_bind.1 hrest
    obtain ⟨rfl, rfl⟩ := runs_ret.1 hlast
    obtain ⟨hshows₁, hnone, hpending₁⟩ := h.flush hflush
    obtain ⟨hshows₂, hcreate, hpending₂⟩ := hshows₁.current hcurrent
    rw [List.append_nil, ← List.append_assoc]
    refine ⟨hshows₂, ?_, ?_, rfl⟩
    · intro call hcall hiscreate
      rcases List.mem_append.1 hcall with hcall | hcall
      · exact absurd hiscreate (hnone call hcall)
      · obtain ⟨hstarted, settings', hrender⟩ := hcreate call hcall hiscreate
        exact ⟨hstarted, settings', hpending₁ settings' hrender⟩
    · intro settings' hpending
      obtain ⟨hrender, hother⟩ := hpending₂ settings' hpending
      exact ⟨hpending₁ settings' hrender, hother⟩

end Steps

def eventKinds (events : List (ProgressEvent × ℕ)) : List ProgressEventKind :=
  events.map fun delivered => delivered.1.kind

/-- Events delivered one at a time, each with the calls it made. -/
inductive Deliveries : ProgressState Renderer Interruption → List (ProgressEvent × ℕ) →
    List (List (RichEvent Renderer Interruption)) → ProgressState Renderer Interruption → Prop
  | nil (state : ProgressState Renderer Interruption) : Deliveries state [] [] state
  | cons {state state' last : ProgressState Renderer Interruption} {event : ProgressEvent}
      {now : ℕ} {events : List (ProgressEvent × ℕ)}
      {trace : List (RichEvent Renderer Interruption)}
      {traces : List (List (RichEvent Renderer Interruption))}
      (head : Runs (renderEvent state event now) trace state')
      (tail : Deliveries state' events traces last) :
      Deliveries state ((event, now) :: events) (trace :: traces) last

namespace Deliveries

variable {settings : ProgressSettings} {before : List (RichEvent Renderer Interruption)}
  {state last : ProgressState Renderer Interruption} {events : List (ProgressEvent × ℕ)}
  {traces : List (List (RichEvent Renderer Interruption))}

theorem shows (h : Deliveries state events traces last)
    (hshows : Shows settings before state.render state.pendingInterruption) :
    Shows settings (before ++ traces.flatten) last.render last.pendingInterruption := by
  induction h generalizing before with
  | nil state =>
    rw [List.flatten_nil, List.append_nil]
    exact hshows
  | cons head tail ih =>
    rw [List.flatten_cons, ← List.append_assoc]
    exact ih (renderEvent_shows hshows head).1

theorem split (h : Deliveries state events traces last) (k : ℕ) :
    ∃ middle, Deliveries state (events.take k) (traces.take k) middle ∧
      Deliveries middle (events.drop k) (traces.drop k) last := by
  induction h generalizing k with
  | nil state =>
    refine ⟨state, ?_, ?_⟩
    · rw [List.take_nil, List.take_nil]
      exact .nil state
    · rw [List.drop_nil, List.drop_nil]
      exact .nil state
  | @cons state state' last event now events trace traces head tail ih =>
    cases k with
    | zero => exact ⟨state, .nil state, .cons head tail⟩
    | succ k =>
      obtain ⟨middle, hfirst, hsecond⟩ := ih k
      exact ⟨middle, .cons head hfirst, hsecond⟩

theorem finalEvent (h : Deliveries state events traces last)
    (hshows : Shows settings before state.render state.pendingInterruption) :
    last.finalEvent =
      ((eventKinds events).filter endsAction).getLast?.or
        state.finalEvent := by
  induction h generalizing before with
  | nil state => rfl
  | @cons state state' last event now events trace traces head tail ih =>
    obtain ⟨hshows', -, -, hfinal⟩ := renderEvent_shows hshows head
    have hkinds : eventKinds ((event, now) :: events) = event.kind :: eventKinds events := rfl
    rw [ih hshows', hfinal, hkinds]
    by_cases hends : endsAction event.kind = true
    · rw [if_pos hends, List.filter_cons_of_pos hends, List.getLast?_cons]
      cases ((eventKinds events).filter endsAction).getLast? <;> rfl
    · rw [if_neg hends, List.filter_cons_of_neg hends]

theorem creates (h : Deliveries state events traces last)
    (hshows : Shows settings before state.render state.pendingInterruption) {i : ℕ}
    {trace : List (RichEvent Renderer Interruption)} (htrace : traces[i]? = some trace)
    {call : RichEvent Renderer Interruption} (hcall : call ∈ trace) (hcreate : isCreate call) :
    (∃ settings', state.render = .pending settings') ∧
      (eventKinds events)[i]? = some .started ∧
      ∀ j < i, (eventKinds events)[j]? ≠ some .started := by
  induction h generalizing before i with
  | nil state => cases htrace
  | @cons state state' last event now events trace' traces head tail ih =>
    obtain ⟨hshows', hcreates, hpending, -⟩ := renderEvent_shows hshows head
    have hkinds : eventKinds ((event, now) :: events) = event.kind :: eventKinds events := rfl
    rw [hkinds]
    cases i with
    | zero =>
      rw [List.getElem?_cons_zero] at htrace
      rw [← Option.some.inj htrace] at hcall
      obtain ⟨hstarted, hrender⟩ := hcreates call hcall hcreate
      refine ⟨hrender, ?_, fun j hj => absurd hj (Nat.not_lt_zero j)⟩
      rw [List.getElem?_cons_zero, hstarted]
    | succ i =>
      rw [List.getElem?_cons_succ] at htrace
      obtain ⟨⟨settings', hrender⟩, hkind, hearlier⟩ := ih hshows' htrace
      obtain ⟨hstate, hother⟩ := hpending settings' hrender
      refine ⟨⟨settings', hstate⟩, ?_, ?_⟩
      · rw [List.getElem?_cons_succ]
        exact hkind
      · intro j hj
        cases j with
        | zero =>
          rw [List.getElem?_cons_zero]
          exact fun heq => hother (Option.some.inj heq)
        | succ j =>
          rw [List.getElem?_cons_succ]
          exact hearlier j (Nat.lt_of_succ_lt_succ hj)

end Deliveries

/-- What `finish` returns: the error with the first interruption, if there was one. -/
def finishOutcome (finalEvent : Option ProgressEventKind) (operationError : Option OperationError)
    (operationReport : Option Report) :
    Option Interruption → Except (RaisedInterruption Interruption OperationError Report) Unit
  | some error => .error
    { error
      status := actionStatus finalEvent operationError.isSome
      operationError
      operationReport :=
        if finalEvent = some .completedWithFailures then operationReport else none }
  | none => .ok ()

section Finish
variable {settings : ProgressSettings} {before trace : List (RichEvent Renderer Interruption)}
  {state : ProgressState Renderer Interruption} {operationError : Option OperationError}
  {operationReport : Option Report}
  {result : Except (RaisedInterruption Interruption OperationError Report) Unit}

theorem Displayed.not_busy {render : RenderState Renderer} (h : Displayed settings before render) :
    render ≠ .busy := by
  rintro rfl
  cases h

theorem finish_shows (h : Shows settings before state.render state.pendingInterruption)
    (hrun : Runs (finish state operationError operationReport) trace result) :
    DisplayLifecycle settings (before ++ trace) ∧
      result = finishOutcome state.finalEvent operationError operationReport
        (firstInterruption (before ++ trace)) := by
  unfold finish at hrun
  dsimp only at hrun
  obtain ⟨first, pending, second, rfl, hstop, hrest⟩ := runs_bind.1 hrun
  obtain ⟨hdisplayed, hsaved⟩ := h
  have hraised : second = [] ∧
      result = finishOutcome state.finalEvent operationError operationReport pending := by
    cases pending with
    | none => exact runs_ret.1 hrest
    | some error => exact runs_ret.1 hrest
  obtain ⟨rfl, rfl⟩ := hraised
  rw [List.append_nil]
  -- only a display that is shown is stopped, and a stop that is interrupted counts last
  have hended : DisplayLifecycle settings (before ++ first) ∧
      pending = firstInterruption (before ++ first) := by
    unfold stopDisplay at hstop
    generalize state.render = render at hdisplayed hstop
    cases hdisplayed with
    | pending =>
      obtain ⟨rfl, rfl⟩ := runs_ret.1 hstop
      exact ⟨.untouched, hsaved⟩
    | hidden label reply hreply =>
      obtain ⟨rfl, rfl⟩ := runs_ret.1 hstop
      exact ⟨.hidden label reply hreply, hsaved⟩
    | shown label renderer hcalls hbefore =>
      obtain ⟨first, stopped, second, rfl, hcall, hlast⟩ := runs_bind.1 hstop
      unfold stopRenderer at hcall
      obtain ⟨stopped', rest, rfl, hret⟩ := runs_call.1 hcall
      obtain ⟨rfl, rfl⟩ := runs_ret.1 hret
      rw [PythonCall.save_eq] at hlast
      obtain ⟨rfl, rfl⟩ := runs_ret.1 hlast
      refine ⟨.shown label renderer stopped hcalls hbefore, ?_⟩
      rw [List.append_nil, firstInterruption_append, firstInterruption_singleton, ← hsaved]
      rfl
  obtain ⟨hlifecycle, rfl⟩ := hended
  exact ⟨hlifecycle, rfl⟩

end Finish

/-- Whatever events an action reports and however the calls into Rich end: the calls are those
of one display lifecycle, a display is created for the first start only, no event leaves the
adapter busy, the action raises the first interruption of all calls if there is one, and the
reported status is that of the last terminal event. -/
theorem display_lifecycle {settings : ProgressSettings} {events : List (ProgressEvent × ℕ)}
    {traces : List (List (RichEvent Renderer Interruption))}
    {state : ProgressState Renderer Interruption} {operationError : Option OperationError}
    {operationReport : Option Report} {last : List (RichEvent Renderer Interruption)}
    {result : Except (RaisedInterruption Interruption OperationError Report) Unit}
    (hevents : Deliveries (.new (.pending settings)) events traces state)
    (hfinish : Runs (finish state operationError operationReport) last result) :
    DisplayLifecycle settings (traces.flatten ++ last) ∧
      (∀ (i : ℕ) (trace : List (RichEvent Renderer Interruption)), traces[i]? = some trace →
        (∃ call ∈ trace, isCreate call) →
        (eventKinds events)[i]? = some ProgressEventKind.started ∧
          ∀ j < i, (eventKinds events)[j]? ≠ some ProgressEventKind.started) ∧
      (∀ k : ℕ, ∃ between, Deliveries (.new (.pending settings)) (events.take k) (traces.take k)
        between ∧ Deliveries between (events.drop k) (traces.drop k) state ∧
          between.render ≠ .busy) ∧
      state.finalEvent =
        ((eventKinds events).filter endsAction).getLast? ∧
      result = finishOutcome state.finalEvent operationError operationReport
        (firstInterruption (traces.flatten ++ last)) := by
  have hnew : Shows settings ([] : List (RichEvent Renderer Interruption))
      (RenderState.pending settings) none := ⟨.pending, rfl⟩
  have hshows := hevents.shows hnew
  rw [List.nil_append] at hshows
  obtain ⟨hlifecycle, hresult⟩ := finish_shows hshows hfinish
  refine ⟨hlifecycle, ?_, ?_, ?_, hresult⟩
  · rintro i trace htrace ⟨call, hcall, hcreate⟩
    exact (hevents.creates hnew htrace hcall hcreate).2
  · intro k
    obtain ⟨between, hfirst, hsecond⟩ := hevents.split k
    exact ⟨between, hfirst, hsecond, (hfirst.shows hnew).displayed.not_busy⟩
  · rw [hevents.finalEvent hnew]
    exact Option.or_none

def writeEvents : List (ProgressEvent × ℕ) :=
  [(.started .writeToMssql, 0), (.phaseChanged ⟨.writing, some "orders", none, none, none⟩, 5),
    (.progress ⟨.writing, some "orders", none, none, some ⟨10, 1⟩⟩, 7), (.completed, 9)]

/-- A write whose first update is interrupted: later events call nothing, the display is
stopped, and the interruption is raised with the status of the completed action. -/
theorem interrupted_write_lifecycle :
    ∃ (traces : List (List (RichEvent Unit String))) (state : ProgressState Unit String)
      (last : List (RichEvent Unit String))
      (result : Except (RaisedInterruption String String String) Unit),
      Deliveries (.new (.pending ⟨.forced, .stderr⟩)) writeEvents traces state ∧
        Runs (finish state none none) last result ∧
        DisplayLifecycle ⟨.forced, .stderr⟩ (traces.flatten ++ last) ∧
        traces.map List.length = [2, 1, 0, 0] ∧ last.length = 1 ∧
        result = .error ⟨"KeyboardInterrupt", "completed", none, none⟩ := by
  obtain ⟨update, state, result, hevents, hfinish⟩ :
      ∃ (update : TaskUpdate) (state : ProgressState Unit String)
        (result : Except (RaisedInterruption String String String) Unit),
        Deliveries (.new (.pending ⟨.forced, .stderr⟩)) writeEvents
          [[⟨.create ⟨.forced, .stderr⟩ "Writing to SQL Server", PythonCall.succeeded (some ())⟩,
              ⟨.start (), PythonCall.succeeded ()⟩],
            [⟨.update () update, PythonCall.interrupted "KeyboardInterrupt"⟩], [], []] state ∧
        Runs (finish state none none) [⟨.stop (), PythonCall.succeeded ()⟩] result :=
    ⟨_, _, _, .cons (.call (.call (.refl _))) (.cons (.call (.refl _)) (.cons (.refl _)
      (.cons (.refl _) (.nil _)))), .call (.refl _)⟩
  obtain ⟨hlifecycle, -, -, hfinal, hresult⟩ := display_lifecycle hevents hfinish
  refine ⟨_, state, _, result, hevents, hfinish, hlifecycle, rfl, rfl, ?_⟩
  rw [hresult, hfinal]
  rfl

end DeltaFunnel
