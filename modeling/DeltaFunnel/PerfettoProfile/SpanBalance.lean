import DeltaFunnel.PerfettoProfile.SpanRegistry
import Mathlib.Data.Fintype.Basic

/-! Begin and end events of a profile: one pair for each span, and nested pairs on each
thread. -/

namespace DeltaFunnel

namespace LayerState
variable {T : Type}

/-- Whether the followed span has state to give to a dependency span. -/
def inheritsFrom (tracks : PerfettoTracks) (s : LayerState T) (id follows : ℕ) : Bool :=
  match s.followedState tracks id follows with
  | .ok (some _) => true
  | _ => false

theorem inheritsFrom_eq_true {tracks : PerfettoTracks} {s : LayerState T} {id follows : ℕ} :
    s.inheritsFrom tracks id follows = true ↔
      ∃ active, s.followedState tracks id follows = .ok (some active) := by
  unfold inheritsFrom
  split
  · next active h => exact ⟨fun _ => ⟨active, h⟩, fun _ => rfl⟩
  · next h => exact ⟨fun hfalse => absurd hfalse Bool.false_ne_true,
      fun ⟨active, hactive⟩ => absurd hactive (h active)⟩

theorem onFollowsFrom_eq {tracks : PerfettoTracks} {s : LayerState T} {id follows : ℕ}
    {active : ActiveProfileSpan} (h : s.followedState tracks id follows = .ok (some active)) :
    s.onFollowsFrom tracks id follows = s.beginSpan id active := by
  unfold onFollowsFrom
  rw [h]
  rfl

variable [DecidableEq T]

def profileMarks (s : LayerState T) (id : ℕ) : List (Bracket SemanticTrack) :=
  s.events.filterMap (profileMark id)

def contextMarks (s : LayerState T) (thread : T) : List (Bracket ℕ) :=
  s.events.filterMap (contextMark thread)

/-- What holds of the spans, of the threads and of the events emitted so far. -/
structure SpanInvariant (s : LayerState T) : Prop where
  emitted : ∀ id, (s.span id).isSome = true →
    s.profileMarks id =
      (((s.active id).bind ActiveProfileSpan.ownTrack).map Bracket.opening).toList
  ended : ∀ id, s.span id = none →
    s.profileMarks id = [] ∨ ∃ track, s.profileMarks id = [.opening track, .closing track]
  unborn : ∀ id, s.spans.length ≤ id → s.profileMarks id = []
  enteredOpen : ∀ thread, ∀ id ∈ s.entered thread, (s.span id).isSome = true
  enabled : ∀ thread, ∀ id ∈ s.entered thread, ∀ active, s.active id = some active →
    active.contextEventEnabled = true
  identified : ∀ id active, s.active id = some active → active.Identified
  nested : ∀ thread, openBrackets [] (s.contextMarks thread) =
    some ((s.entered thread).filter fun id => (s.active id).isSome)

namespace SpanInvariant
variable {s : LayerState T}

theorem init : SpanInvariant ({} : LayerState T) where
  emitted := by
    intro id hopen
    cases hopen
  ended := fun id _ => Or.inl rfl
  unborn := fun id _ => rfl
  enteredOpen := by
    intro thread id hmem
    cases hmem
  enabled := by
    intro thread id hmem
    cases hmem
  identified := by
    intro id active hactive
    cases hactive
  nested := fun thread => rfl

theorem extended (h : SpanInvariant s) (target name : String) (parent : Option ℕ) :
    SpanInvariant (s.createSpan target name parent) := by
  have hspan := span_extended s target name parent
  have hactive := active_extended s target name parent
  have hold : ∀ id, (s.span id).isSome = true →
      ((s.createSpan target name parent).span id).isSome = true := by
    intro id hopen
    rw [hspan, if_neg (Nat.ne_of_lt (lt_length_of_span hopen))]
    exact hopen
  refine ⟨?_, ?_, ?_, ?_, ?_, ?_, ?_⟩
  -- the new span has no state and no marks yet
  · intro id hopen
    rw [hactive]
    by_cases hnew : id = s.spans.length
    · have hnone : s.span id = none := by
        rw [← Option.not_isSome_iff_eq_none]
        intro hsome
        have hlt := lt_length_of_span hsome
        omega
      rw [active_eq_none hnone]
      exact h.unborn id (Nat.le_of_eq hnew.symm)
    · rw [hspan, if_neg hnew] at hopen
      exact h.emitted id hopen
  · intro id hnone
    rw [hspan] at hnone
    by_cases hnew : id = s.spans.length
    · rw [if_pos hnew] at hnone
      cases hnone
    · rw [if_neg hnew] at hnone
      exact h.ended id hnone
  · intro id hle
    have hlength : s.spans.length ≤ id := by
      have hmore : (s.createSpan target name parent).spans.length = s.spans.length + 1 :=
        List.length_append
      omega
    exact h.unborn id hlength
  · intro thread id hmem
    exact hold id (h.enteredOpen thread id hmem)
  · intro thread id hmem active ha
    rw [hactive] at ha
    exact h.enabled thread id hmem active ha
  · intro id active ha
    rw [hactive] at ha
    exact h.identified id active ha
  · intro thread
    simp only [hactive]
    exact h.nested thread

theorem setActive (h : SpanInvariant s) {id : ℕ} {active active' : ActiveProfileSpan}
    (hactive : s.active id = some active) (htrack : active'.ownTrack = active.ownTrack)
    (hidentified : active'.Identified)
    (henabled : ∀ thread, id ∈ s.entered thread → active'.contextEventEnabled = true) :
    SpanInvariant (s.setActive id active') := by
  have hopen := isSome_span_of_active hactive
  have hnew := active_setActive hopen active'
  have hstate : ∀ other, ((s.setActive id active').active other).isSome =
      (s.active other).isSome := by
    intro other
    rw [hnew]
    by_cases heq : id = other
    · rw [if_pos heq, ← heq, hactive]
      rfl
    · rw [if_neg heq]
  refine ⟨?_, ?_, ?_, ?_, ?_, ?_, ?_⟩
  -- the new state keeps the track, so no mark changes its place
  · intro other hother
    rw [isSome_span_setActive] at hother
    have hmarks := h.emitted other hother
    rw [hnew]
    by_cases heq : id = other
    · subst heq
      rw [hactive] at hmarks
      rw [if_pos rfl, Option.bind_some, htrack]
      exact hmarks
    · rw [if_neg heq]
      exact hmarks
  · intro other hnone
    refine h.ended other ?_
    rw [← Option.isSome_eq_false_iff.trans Option.isNone_iff_eq_none] at hnone ⊢
    rw [← hnone, isSome_span_setActive]
  · intro other hle
    refine h.unborn other ?_
    have hlength : (s.setActive id active').spans.length = s.spans.length := by
      exact List.length_modify _ _ _
    rw [← hlength]
    exact hle
  · intro thread other hmem
    rw [isSome_span_setActive]
    exact h.enteredOpen thread other hmem
  · intro thread other hmem a ha
    rw [hnew] at ha
    by_cases heq : id = other
    · subst heq
      rw [if_pos rfl] at ha
      rw [← Option.some.inj ha]
      exact henabled thread hmem
    · rw [if_neg heq] at ha
      exact h.enabled thread other hmem a ha
  · intro other a ha
    rw [hnew] at ha
    by_cases heq : id = other
    · rw [if_pos heq] at ha
      rw [← Option.some.inj ha]
      exact hidentified
    · rw [if_neg heq] at ha
      exact h.identified other a ha
  -- only whether a span has a state matters for the context marks
  · intro thread
    simp only [hstate]
    exact h.nested thread

theorem beginSpan (h : SpanInvariant s) {id : ℕ} (hopen : (s.span id).isSome = true)
    (hfresh : s.active id = none) (hleft : ∀ thread, id ∉ s.entered thread)
    {active : ActiveProfileSpan} (hidentified : active.Identified) :
    ∃ s', s.beginSpan id active = .ok s' ∧ SpanInvariant s' := by
  have hnew : ∀ other, ((s.emit (active.emitBegin id)).setActive id active).active other =
      if id = other then some active else s.active other := active_setActive hopen active
  have hspan : ∀ other, (((s.emit (active.emitBegin id)).setActive id active).span other).isSome =
      (s.span other).isSome :=
    fun other => isSome_span_setActive (s.emit (active.emitBegin id)) id other active
  have hmarks : ∀ other, ((s.emit (active.emitBegin id)).setActive id active).profileMarks other =
      s.profileMarks other ++
        if id = other then (active.ownTrack.map Bracket.opening).toList else [] := by
    intro other
    show (s.events ++ active.emitBegin id).filterMap (profileMark other) = _
    rw [List.filterMap_append, ActiveProfileSpan.profileMarks_emitBegin]
    rfl
  refine ⟨(s.emit (active.emitBegin id)).setActive id active, ?_, ?_, ?_, ?_, ?_, ?_, ?_, ?_⟩
  · unfold LayerState.beginSpan
    rw [if_neg]
    show ¬ (s.active id).isSome = true
    rw [hfresh]
    exact Bool.false_ne_true
  -- the opening mark of the span itself; the marks of the others stay
  · intro other hother
    rw [hspan] at hother
    rw [hmarks, hnew, h.emitted other hother]
    by_cases heq : id = other
    · subst heq
      rw [if_pos rfl, if_pos rfl, hfresh]
      rfl
    · rw [if_neg heq, if_neg heq, List.append_nil]
  · intro other hnone
    have hnone' : s.span other = none := by
      rw [← Option.not_isSome_iff_eq_none, ← hspan other, hnone]
      exact Bool.false_ne_true
    have hne : id ≠ other := by
      intro heq
      rw [heq, hnone'] at hopen
      cases hopen
    rw [hmarks, if_neg hne, List.append_nil]
    exact h.ended other hnone'
  · intro other hle
    have hlength : s.spans.length ≤ other := by
      have hsame : ((s.emit (active.emitBegin id)).setActive id active).spans.length =
          s.spans.length := by
        exact List.length_modify _ _ _
      rw [← hsame]
      exact hle
    have hlt := lt_length_of_span hopen
    rw [hmarks, if_neg (by omega), List.append_nil]
    exact h.unborn other hlength
  · intro thread other hmem
    rw [hspan]
    exact h.enteredOpen thread other hmem
  · intro thread other hmem a ha
    have hne : id ≠ other := by
      rintro rfl
      exact hleft thread hmem
    rw [hnew, if_neg hne] at ha
    exact h.enabled thread other hmem a ha
  · intro other a ha
    rw [hnew] at ha
    by_cases heq : id = other
    · rw [if_pos heq] at ha
      rw [← Option.some.inj ha]
      exact hidentified
    · rw [if_neg heq] at ha
      exact h.identified other a ha
  -- no thread is inside the span, so its state changes no open context
  · intro thread
    have hcontext : ((s.emit (active.emitBegin id)).setActive id active).contextMarks thread =
        s.contextMarks thread := by
      show (s.events ++ active.emitBegin id).filterMap (contextMark thread) = _
      rw [List.filterMap_append, ActiveProfileSpan.contextMarks_emitBegin, List.append_nil]
      rfl
    rw [hcontext, h.nested]
    refine congrArg some (List.filter_congr ?_)
    intro other hmem
    have hne : id ≠ other := by
      rintro rfl
      exact hleft thread hmem
    rw [hnew, if_neg hne]

theorem push (h : SpanInvariant s) (thread : T) {id : ℕ} (hopen : (s.span id).isSome = true)
    (henabled : ∀ active, s.active id = some active → active.contextEventEnabled = true)
    (events : List (TraceEvent T)) (hprofile : ∀ other, events.filterMap (profileMark other) = [])
    (hcontext : ∀ other, events.filterMap (contextMark other) =
      if thread = other ∧ (s.active id).isSome = true then [.opening id] else []) (next : ℕ) :
    SpanInvariant
      { s with
        entered := Function.update s.entered thread (id :: s.entered thread)
        nextProfileContextId := next
        events := s.events ++ events } := by
  have hmarks : ∀ other, (s.events ++ events).filterMap (profileMark other) =
      s.profileMarks other := by
    intro other
    rw [List.filterMap_append, hprofile, List.append_nil]
    rfl
  have hmem : ∀ other, ∀ span ∈ Function.update s.entered thread (id :: s.entered thread) other,
      span = id ∨ span ∈ s.entered other := by
    intro other span hspan
    by_cases heq : other = thread
    · rw [heq, Function.update_self] at hspan
      rw [heq]
      exact List.mem_cons.1 hspan
    · rw [Function.update_of_ne heq] at hspan
      exact Or.inr hspan
  refine ⟨?_, ?_, ?_, ?_, ?_, h.identified, ?_⟩
  · intro other hother
    exact (hmarks other).trans (h.emitted other hother)
  · intro other hnone
    have hended := h.ended other hnone
    rw [← hmarks other] at hended
    exact hended
  · intro other hle
    exact (hmarks other).trans (h.unborn other hle)
  · intro other span hspan
    rcases hmem other span hspan with rfl | hold
    · exact hopen
    · exact h.enteredOpen other span hold
  · intro other span hspan active hactive
    rcases hmem other span hspan with rfl | hold
    · exact henabled active hactive
    · exact h.enabled other span hold active hactive
  -- the context mark opens what is pushed, and only when it has a state
  · intro other
    show openBrackets [] ((s.events ++ events).filterMap (contextMark other)) = some
      ((Function.update s.entered thread (id :: s.entered thread) other).filter fun span =>
        (s.active span).isSome)
    have hbefore : openBrackets [] (s.events.filterMap (contextMark other)) = some
        ((s.entered other).filter fun span => (s.active span).isSome) := h.nested other
    rw [List.filterMap_append, openBrackets_append, hbefore, Option.bind_some, hcontext]
    by_cases heq : thread = other
    · subst heq
      rw [Function.update_self]
      rcases hstate : (s.active id).isSome with _ | _
      · rw [if_neg (by simp), openBrackets_nil, List.filter_cons_of_neg (by simp [hstate])]
      · rw [if_pos ⟨rfl, rfl⟩,
          List.filter_cons_of_pos (p := fun span => (s.active span).isSome) hstate]
        rfl
    · rw [Function.update_of_ne (Ne.symm heq), if_neg (fun hand => heq hand.1), openBrackets_nil]

theorem pop (h : SpanInvariant s) {thread : T} {id : ℕ} {rest : List ℕ}
    (hentered : s.entered thread = id :: rest) :
    SpanInvariant
      { s with
        entered := Function.update s.entered thread rest
        events := s.events ++
          if (s.active id).isSome = true then [.contextEnd thread id] else [] } := by
  have hprofile : ∀ other, (s.events ++
      if (s.active id).isSome = true then [TraceEvent.contextEnd thread id] else []).filterMap
        (profileMark other) = s.profileMarks other := by
    intro other
    rw [List.filterMap_append]
    split
    · exact List.append_nil _
    · exact List.append_nil _
  have hmem : ∀ other, ∀ span ∈ Function.update s.entered thread rest other,
      span ∈ s.entered other := by
    intro other span hspan
    by_cases heq : other = thread
    · rw [heq, Function.update_self] at hspan
      rw [heq, hentered]
      exact List.mem_cons_of_mem id hspan
    · rw [Function.update_of_ne heq] at hspan
      exact hspan
  refine ⟨?_, ?_, ?_, ?_, ?_, h.identified, ?_⟩
  · intro other hother
    exact (hprofile other).trans (h.emitted other hother)
  · intro other hnone
    have hended := h.ended other hnone
    rw [← hprofile other] at hended
    exact hended
  · intro other hle
    exact (hprofile other).trans (h.unborn other hle)
  · intro other span hspan
    exact h.enteredOpen other span (hmem other span hspan)
  · intro other span hspan
    exact h.enabled other span (hmem other span hspan)
  -- the context end closes the top entry, and only when it has a state
  · intro other
    show openBrackets [] ((s.events ++ _).filterMap (contextMark other)) = some
      ((Function.update s.entered thread rest other).filter fun span => (s.active span).isSome)
    have hbefore : openBrackets [] (s.events.filterMap (contextMark other)) = some
        ((s.entered other).filter fun span => (s.active span).isSome) := h.nested other
    rw [List.filterMap_append, openBrackets_append, hbefore, Option.bind_some]
    by_cases heq : other = thread
    · subst heq
      rw [Function.update_self, hentered]
      rcases hstate : (s.active id).isSome with _ | _
      · rw [if_neg Bool.false_ne_true, List.filter_cons_of_neg (by simp [hstate])]
        exact openBrackets_nil _
      · rw [if_pos rfl,
          List.filter_cons_of_pos (p := fun span => (s.active span).isSome) hstate]
        simp [contextMark, openBrackets_closing]
    · rw [Function.update_of_ne heq]
      split
      · simp [contextMark, Ne.symm heq]
      · exact openBrackets_nil _

theorem closed (h : SpanInvariant s) {id : ℕ} (hopen : (s.span id).isSome = true)
    (hleft : ∀ thread, id ∉ s.entered thread) (f : SpanData → SpanData)
    (events : List (TraceEvent T))
    (hprofile : ∀ other, events.filterMap (profileMark other) = if id = other then
      (((s.active id).bind ActiveProfileSpan.ownTrack).map Bracket.closing).toList else [])
    (hcontext : ∀ thread, events.filterMap (contextMark thread) = []) :
    SpanInvariant (((s.modifySpan id f).emit events).modifySpan id
      fun data => { data with closed := true }) := by
  set s' := ((s.modifySpan id f).emit events).modifySpan id
    fun data => { data with closed := true } with hs'
  have hspan : ∀ other, s'.span other = if id = other then none else s.span other :=
    fun other => span_closed s id other f
  have hactive : ∀ other, id ≠ other → s'.active other = s.active other := by
    intro other hne
    unfold LayerState.active
    rw [hspan, if_neg hne]
  have hmarks : ∀ other, s'.profileMarks other = s.profileMarks other ++ if id = other then
      (((s.active id).bind ActiveProfileSpan.ownTrack).map Bracket.closing).toList else [] := by
    intro other
    show (s.events ++ events).filterMap (profileMark other) = _
    rw [List.filterMap_append, hprofile]
    rfl
  have hlength : s'.spans.length = s.spans.length := by
    show ((s.spans.modify id f).modify id _).length = _
    rw [List.length_modify, List.length_modify]
  have hne : ∀ thread, ∀ other ∈ s.entered thread, id ≠ other := by
    rintro thread other hmem rfl
    exact hleft thread hmem
  refine ⟨?_, ?_, ?_, ?_, ?_, ?_, ?_⟩
  · intro other hother
    rw [hspan] at hother
    by_cases heq : id = other
    · rw [if_pos heq] at hother
      cases hother
    · rw [if_neg heq] at hother
      rw [hmarks, if_neg heq, List.append_nil, hactive other heq]
      exact h.emitted other hother
  · intro other hnone
    rw [hspan] at hnone
    by_cases heq : id = other
    -- the state of the span is gone: its opening mark is closed, or it never had one
    · subst heq
      rw [hmarks, if_pos rfl, h.emitted id hopen]
      rcases (s.active id).bind ActiveProfileSpan.ownTrack with _ | track
      · exact Or.inl rfl
      · exact Or.inr ⟨track, rfl⟩
    · rw [if_neg heq] at hnone
      rw [hmarks, if_neg heq, List.append_nil]
      exact h.ended other hnone
  · intro other hle
    rw [hlength] at hle
    have hlt := lt_length_of_span hopen
    rw [hmarks, if_neg (by omega), List.append_nil]
    exact h.unborn other hle
  · intro thread other hmem
    rw [hspan, if_neg (hne thread other hmem)]
    exact h.enteredOpen thread other hmem
  · intro thread other hmem active ha
    rw [hactive other (hne thread other hmem)] at ha
    exact h.enabled thread other hmem active ha
  · intro other active ha
    by_cases heq : id = other
    · have hgone : s'.active other = none := active_eq_none (by rw [hspan, if_pos heq])
      rw [hgone] at ha
      cases ha
    · rw [hactive other heq] at ha
      exact h.identified other active ha
  · intro thread
    have hcontextMarks : s'.contextMarks thread = s.contextMarks thread := by
      show (s.events ++ events).filterMap (contextMark thread) = _
      rw [List.filterMap_append, hcontext, List.append_nil]
      rfl
    rw [hcontextMarks, h.nested]
    refine congrArg some (List.filter_congr ?_)
    intro other hmem
    rw [hactive other (hne thread other hmem)]

theorem onClose (h : SpanInvariant s) {id : ℕ} (hopen : (s.span id).isSome = true)
    (hleft : ∀ thread, id ∉ s.entered thread) :
    ∃ s', s.onClose id = .ok s' ∧
      SpanInvariant (s'.modifySpan id fun data => { data with closed := true }) := by
  unfold LayerState.onClose
  rcases hactive : s.active id with _ | active
  · refine ⟨s, rfl, ?_⟩
    have hclosed := h.closed hopen hleft (fun data => data) []
    have hspans : (s.spans.modify id fun data => data) = s.spans := List.modify_id _ _
    have hsame : (s.modifySpan id fun data => data).emit [] = s := by
      show { s with spans := s.spans.modify id _, events := s.events ++ [] } = s
      rw [hspans, List.append_nil]
    rw [hsame, hactive] at hclosed
    exact hclosed (fun other => (ite_self []).symm) (fun thread => rfl)
  · obtain ⟨events, hevents, hprofile, hcontext⟩ := active.emitEnd_ok (T := T) id
    refine ⟨(s.modifySpan id fun data => { data with active := none }).emit events, ?_, ?_⟩
    · show (active.emitEnd id >>= _) = _
      rw [hevents]
      rfl
    · refine h.closed hopen hleft _ events ?_ hcontext
      intro other
      rw [hprofile, hactive]
      rfl

theorem instant (h : SpanInvariant s) (name : String) (track : SemanticTrack)
    (args : List (String × DebugArg)) : SpanInvariant (s.emit [.instant name track args]) := by
  have hprofile : ∀ id, (s.emit [.instant name track args]).profileMarks id =
      s.profileMarks id := by
    intro id
    show (s.events ++ _).filterMap (profileMark id) = _
    rw [List.filterMap_append]
    exact List.append_nil _
  have hcontext : ∀ thread, (s.emit [.instant name track args]).contextMarks thread =
      s.contextMarks thread := by
    intro thread
    show (s.events ++ _).filterMap (contextMark thread) = _
    rw [List.filterMap_append]
    exact List.append_nil _
  refine ⟨?_, ?_, ?_, h.enteredOpen, h.enabled, h.identified, ?_⟩
  · intro id hopen
    rw [hprofile]
    exact h.emitted id hopen
  · intro id hnone
    rw [hprofile]
    exact h.ended id hnone
  · intro id hle
    rw [hprofile]
    exact h.unborn id hle
  · intro thread
    rw [hcontext]
    exact h.nested thread

theorem onRecord (h : SpanInvariant s) (id : ℕ) (values : List (String × FieldValue)) :
    SpanInvariant (s.onRecord id values) := by
  unfold LayerState.onRecord
  rcases hactive : s.active id with _ | active
  · exact h
  · refine h.setActive hactive rfl ((h.identified id active hactive).record _) ?_
    intro thread hmem
    exact h.enabled thread id hmem active hactive

theorem onEnter (h : SpanInvariant s) (thread : T) {id : ℕ} (hopen : (s.span id).isSome = true)
    (hids : s.nextProfileContextId ≠ 0) :
    SpanInvariant (LayerState.onEnter
      { s with entered := Function.update s.entered thread (id :: s.entered thread) }
      thread id) := by
  have hsame : LayerState.active
      { s with entered := Function.update s.entered thread (id :: s.entered thread) } id =
        s.active id := rfl
  unfold LayerState.onEnter
  rw [hsame]
  rcases hactive : s.active id with _ | active
  · have hnone : ∀ active, s.active id = some active → active.contextEventEnabled = true := by
      intro active hsome
      rw [hactive] at hsome
      cases hsome
    have hpush := h.push thread hopen hnone [] (fun other => rfl) (by simp [hactive])
      s.nextProfileContextId
    rw [List.append_nil] at hpush
    exact hpush
  · have hentered := ActiveProfileSpan.entered_emitContextEnter (h.identified id active hactive)
      thread id hids
    have hset := h.setActive hactive (congrArg Except.toOption (by
        unfold ActiveProfileSpan.track
        rw [hentered.event])) hentered.identified (fun _ _ => hentered.enabled)
    have hnew := active_setActive (isSome_span_of_active hactive)
      (active.emitContextEnter thread id s.nextProfileContextId).1 id
    rw [if_pos rfl] at hnew
    refine hset.push thread (by rw [isSome_span_setActive]; exact hopen) ?_ _
      hentered.profileMarks ?_ _
    · intro active' hactive'
      rw [hnew] at hactive'
      rw [← Option.some.inj hactive']
      exact hentered.enabled
    · intro other
      rw [hentered.contextMarks, hnew]
      simp

theorem onExit (h : SpanInvariant s) {thread : T} {id : ℕ}
    (hhead : (s.entered thread).head? = some id) :
    SpanInvariant (LayerState.onExit
      { s with entered := Function.update s.entered thread ((s.entered thread).erase id) }
      thread id) := by
  obtain ⟨rest, hrest⟩ := List.head?_eq_some_iff.1 hhead
  have hpop := h.pop hrest
  have hsame : LayerState.active
      { s with entered := Function.update s.entered thread ((s.entered thread).erase id) } id =
        s.active id := rfl
  unfold LayerState.onExit
  rw [hsame]
  rw [hrest, List.erase_cons_head]
  rcases hactive : s.active id with _ | active
  · rw [hactive, if_neg (by simp), List.append_nil] at hpop
    exact hpop
  · have henabled : active.contextEventEnabled = true := by
      refine h.enabled thread id ?_ active hactive
      rw [hrest]
      exact List.mem_cons_self
    rw [hactive, if_pos (Option.isSome_some)] at hpop
    show SpanInvariant (if _ then _ else _)
    rw [if_pos henabled]
    exact hpop

end SpanInvariant

theorem SpanInvariant.onNewSpan {s : LayerState T} (h : SpanInvariant s)
    (tracks : PerfettoTracks) (target name : String) (parent : Option ℕ)
    (values : List (String × FieldValue)) :
    ∃ s', s.onNewSpan tracks target name parent values = .ok s' ∧ SpanInvariant s' := by
  have hextended := h.extended target name parent
  set s₁ := s.createSpan target name parent
  have hbegin : ∀ active : ActiveProfileSpan, active.Identified →
      ∃ s' : LayerState T, s₁.beginSpan s.spans.length active = .ok s' ∧ SpanInvariant s' := by
    intro active hidentified
    have hspan : s₁.span s.spans.length = some { target, name, parent } := by
      rw [span_extended, if_pos rfl]
    have hunborn : s.span s.spans.length = none := by
      unfold LayerState.span
      rw [List.getElem?_eq_none (Nat.le_refl _)]
      rfl
    refine hextended.beginSpan (by rw [hspan]; rfl) ?_ ?_ hidentified
    · rw [active_extended]
      exact active_eq_none hunborn
    · intro thread hmem
      have hopen := h.enteredOpen thread _ hmem
      rw [hunborn] at hopen
      cases hopen
  unfold LayerState.onNewSpan
  dsimp only
  -- spans of the profile target carry their own state, dependency spans inherit one
  by_cases htarget : target = profileTarget
  · rw [if_pos htarget]
    rcases hactive : ActiveProfileSpan.fromFields tracks name (.ofValues values) with _ | active
    · exact ⟨s₁, rfl, hextended⟩
    · exact hbegin active (ActiveProfileSpan.identified_fromFields hactive)
  · rw [if_neg htarget]
    rcases dependencySpanLabel target name with _ | label
    · exact ⟨s₁, rfl, hextended⟩
    · obtain ⟨inherited, hinherited, htask⟩ :=
        s₁.inheritFromAncestors_ok tracks label s₁.spans.length parent
      dsimp only
      rw [hinherited]
      rcases inherited with _ | active
      · exact ⟨s₁, rfl, hextended⟩
      · exact hbegin active (ActiveProfileSpan.identified_of_not_taskContext (htask active rfl))

/-- What a tracing host promises of the next callback: spans are named after they are created,
a thread leaves the span it entered last, a closed span is entered nowhere, and context
identifiers are left. -/
def RespectsProtocol (s : LayerState T) (callback : Callback T) : Prop :=
  s.nextProfileContextId ≠ 0 ∧
    match callback with
    | .newSpan _ _ parent _ => ∀ id ∈ parent, (s.span id).isSome = true
    | .record id _ | .followsFrom id _ | .enter _ id => (s.span id).isSome = true
    | .exit thread id => (s.entered thread).head? = some id
    | .close id => (s.span id).isSome = true ∧ ∀ thread, id ∉ s.entered thread
    | .event _ _ => True

instance [Fintype T] (s : LayerState T) (callback : Callback T) :
    Decidable (RespectsProtocol s callback) := by
  unfold RespectsProtocol
  cases callback <;> infer_instance

/-- A span that takes state from a followed one has none yet and is entered nowhere. -/
def FollowsFresh (tracks : PerfettoTracks) (s : LayerState T) (callback : Callback T) : Prop :=
  match callback with
  | .followsFrom id follows => s.inheritsFrom tracks id follows = true →
      (s.active id).isNone = true ∧ ∀ thread, id ∉ s.entered thread
  | _ => True

instance [Fintype T] (tracks : PerfettoTracks) (s : LayerState T) (callback : Callback T) :
    Decidable (FollowsFresh tracks s callback) := by
  unfold FollowsFresh
  cases callback <;> infer_instance

def AlongRun (tracks : PerfettoTracks) (P : LayerState T → Callback T → Prop) :
    LayerState T → List (Callback T) → Prop
  | _, [] => True
  | s, callback :: rest => P s callback ∧
      match s.step tracks callback with
      | .ok s' => AlongRun tracks P s' rest
      | .error _ => True

instance decidableAlongRun (tracks : PerfettoTracks) (P : LayerState T → Callback T → Prop)
    [∀ s callback, Decidable (P s callback)] :
    ∀ (s : LayerState T) (callbacks : List (Callback T)), Decidable (AlongRun tracks P s callbacks)
  | _, [] => isTrue trivial
  | s, callback :: rest =>
    have : Decidable (match s.step tracks callback with
        | .ok s' => AlongRun tracks P s' rest
        | .error _ => True) :=
      match s.step tracks callback with
      | .ok s' => decidableAlongRun tracks P s' rest
      | .error _ => isTrue trivial
    inferInstanceAs (Decidable (_ ∧ _))

/-- The events so far: at most one begin for each span, its end on the same track once the span
is closed, and on each thread nested context events, of which those of the entered spans are
open. -/
structure TraceBalanced (s : LayerState T) : Prop where
  openSpan : ∀ id, (s.span id).isSome = true →
    s.profileMarks id = [] ∨ ∃ track, s.profileMarks id = [.opening track]
  closedSpan : ∀ id, s.span id = none →
    s.profileMarks id = [] ∨ ∃ track, s.profileMarks id = [.opening track, .closing track]
  nested : ∀ thread, openBrackets [] (s.contextMarks thread) =
    some ((s.entered thread).filter fun id => (s.active id).isSome)
  closedLeft : ∀ id, s.span id = none → ∀ thread, id ∉ s.entered thread
  leftEnded : ∀ thread id, id ∉ s.entered thread →
    (s.contextMarks thread).count (.opening id) = (s.contextMarks thread).count (.closing id)

/-- No callback of the run panics, and the events are balanced in every state it reaches. -/
def StaysBalanced (tracks : PerfettoTracks) : LayerState T → List (Callback T) → Prop
  | s, [] => TraceBalanced s
  | s, callback :: rest => TraceBalanced s ∧
      ∃ s', s.step tracks callback = .ok s' ∧ StaysBalanced tracks s' rest

theorem SpanInvariant.balanced {s : LayerState T} (h : SpanInvariant s) : TraceBalanced s := by
  refine ⟨?_, h.ended, h.nested, ?_, ?_⟩
  · intro id hopen
    rw [h.emitted id hopen]
    rcases (s.active id).bind ActiveProfileSpan.ownTrack with _ | track
    · exact Or.inl rfl
    · exact Or.inr ⟨track, rfl⟩
  · intro id hnone thread hmem
    have hopen := h.enteredOpen thread id hmem
    rw [hnone] at hopen
    cases hopen
  · intro thread id hleft
    have hcount := count_opening_of_openBrackets (h.nested thread) id
    have hzero : ((s.entered thread).filter fun id => (s.active id).isSome).count id = 0 :=
      List.count_eq_zero.2 fun hmem => hleft (List.mem_filter.1 hmem).1
    rw [List.count_nil, hzero] at hcount
    omega

theorem step_invariant {tracks : PerfettoTracks} {s : LayerState T} (h : SpanInvariant s)
    {callback : Callback T} (hprotocol : RespectsProtocol s callback)
    (hfollows : FollowsFresh tracks s callback) :
    ∃ s', s.step tracks callback = .ok s' ∧ SpanInvariant s' := by
  obtain ⟨hids, hprotocol⟩ := hprotocol
  cases callback with
  | newSpan target name parent values => exact h.onNewSpan tracks target name parent values
  | record id values => exact ⟨_, rfl, h.onRecord id values⟩
  | followsFrom id follows =>
    obtain ⟨inherited, hinherited, htask⟩ := s.followedState_ok tracks id follows
    rcases inherited with _ | active
    · refine ⟨s, ?_, h⟩
      show s.onFollowsFrom tracks id follows = .ok s
      unfold onFollowsFrom
      rw [hinherited]
      rfl
    · obtain ⟨hfresh, hleft⟩ := hfollows (inheritsFrom_eq_true.2 ⟨active, hinherited⟩)
      have hbegin := h.beginSpan hprotocol (Option.isNone_iff_eq_none.1 hfresh) hleft
        (ActiveProfileSpan.identified_of_not_taskContext (htask active rfl))
      rw [← onFollowsFrom_eq hinherited] at hbegin
      exact hbegin
  | enter thread id => exact ⟨_, rfl, h.onEnter thread hprotocol hids⟩
  | exit thread id => exact ⟨_, rfl, h.onExit hprotocol⟩
  | close id =>
    obtain ⟨hopen, hleft⟩ := hprotocol
    obtain ⟨s', hclose, hinvariant⟩ := h.onClose hopen hleft
    refine ⟨_, ?_, hinvariant⟩
    show (s.onClose id >>= _) = _
    rw [hclose]
    rfl
  | event name values =>
    refine ⟨_, rfl, ?_⟩
    unfold onEvent
    split
    · dsimp only
      split
      · exact h.instant _ _ _
      · exact h
    · exact h

/-- The condition is also needed: a callback that does not meet it panics, or opens the state of
a span while its thread is inside it. -/
theorem followsFresh_of_balanced {tracks : PerfettoTracks} {s s' : LayerState T}
    (h : SpanInvariant s) {callback : Callback T} (hprotocol : RespectsProtocol s callback)
    (hstep : s.step tracks callback = .ok s') (hbalanced : TraceBalanced s') :
    FollowsFresh tracks s callback := by
  cases callback with
  | followsFrom id follows =>
    intro hinherits
    have hopen : (s.span id).isSome = true := hprotocol.2
    obtain ⟨active, hactive⟩ := inheritsFrom_eq_true.1 hinherits
    have hbegin : s.beginSpan id active = .ok s' := by
      rw [← onFollowsFrom_eq hactive]
      exact hstep
    unfold beginSpan at hbegin
    dsimp only at hbegin
    split at hbegin
    · cases hbegin
    · next hnone =>
      have hfresh : s.active id = none := Option.not_isSome_iff_eq_none.1 hnone
      refine ⟨Option.isNone_iff_eq_none.2 hfresh, ?_⟩
      intro thread hmem
      obtain rfl := Except.ok.inj hbegin
      have hcontext : ((s.emit (active.emitBegin id)).setActive id active).contextMarks thread =
          s.contextMarks thread := by
        show (s.events ++ active.emitBegin id).filterMap (contextMark thread) = _
        rw [List.filterMap_append, ActiveProfileSpan.contextMarks_emitBegin, List.append_nil]
        rfl
      have hnested := hbalanced.nested thread
      rw [hcontext, h.nested thread] at hnested
      -- the span counts as open now, and no begin event says so
      have hinside : id ∈ (s.entered thread).filter fun id => (s.active id).isSome := by
        rw [Option.some.inj hnested]
        refine List.mem_filter.2 ⟨hmem, ?_⟩
        have hnew := active_setActive (s := s.emit (active.emitBegin id)) hopen active id
        rw [if_pos rfl] at hnew
        rw [hnew]
        rfl
      have hstate := (List.mem_filter.1 hinside).2
      rw [hfresh] at hstate
      cases hstate
  | _ => trivial

theorem staysBalanced_iff {tracks : PerfettoTracks} {s : LayerState T} (h : SpanInvariant s)
    (callbacks : List (Callback T)) (hprotocol : AlongRun tracks RespectsProtocol s callbacks) :
    StaysBalanced tracks s callbacks ↔ AlongRun tracks (FollowsFresh tracks) s callbacks := by
  induction callbacks generalizing s with
  | nil => exact ⟨fun _ => trivial, fun _ => h.balanced⟩
  | cons callback rest ih =>
    obtain ⟨hcallback, hrest⟩ := hprotocol
    unfold StaysBalanced AlongRun
    constructor
    · rintro ⟨-, s', hstep, hstays⟩
      have hbalanced : TraceBalanced s' := by
        cases rest with
        | nil => exact hstays
        | cons next rest => exact hstays.1
      have hfresh := followsFresh_of_balanced h hcallback hstep hbalanced
      obtain ⟨t, ht, hinvariant⟩ := step_invariant h hcallback hfresh
      obtain rfl : s' = t := Except.ok.inj (hstep.symm.trans ht)
      rw [hstep] at hrest ⊢
      exact ⟨hfresh, (ih hinvariant hrest).1 hstays⟩
    · rintro ⟨hfresh, hafter⟩
      obtain ⟨s', hstep, hinvariant⟩ := step_invariant h hcallback hfresh
      rw [hstep] at hrest hafter
      exact ⟨h.balanced, s', hstep, (ih hinvariant hrest).2 hafter⟩

theorem StaysBalanced.run_ok {tracks : PerfettoTracks} {s : LayerState T}
    {callbacks : List (Callback T)} (h : StaysBalanced tracks s callbacks) :
    ∃ s', callbacks.foldlM (step tracks) s = .ok s' := by
  induction callbacks generalizing s with
  | nil => exact ⟨s, rfl⟩
  | cons callback rest ih =>
    obtain ⟨-, s', hstep, hstays⟩ := h
    rw [List.foldlM_cons, hstep]
    exact ih hstays

/-- A run that respects the protocol stays balanced and free of panics exactly if every span
that takes state from a followed one has none yet and is entered nowhere. -/
theorem trace_events_balanced (tracks : PerfettoTracks) (callbacks : List (Callback T))
    (hprotocol : AlongRun tracks RespectsProtocol {} callbacks) :
    StaysBalanced tracks {} callbacks ↔
      AlongRun tracks (FollowsFresh tracks) {} callbacks :=
  staysBalanced_iff SpanInvariant.init callbacks hprotocol

theorem parents_step {tracks : PerfettoTracks} {s s' : LayerState T} {callback : Callback T}
    (h : s.step tracks callback = .ok s') :
    s'.parents = s.parents ++
      match callback with
      | .newSpan _ _ parent _ => [parent]
      | _ => [] := by
  cases callback with
  | newSpan target name parent values =>
    have happend : (s.createSpan target name parent).parents = s.parents ++ [parent] :=
      List.map_append
    dsimp only
    rw [← happend]
    have hnew : s.onNewSpan tracks target name parent values = .ok s' := h
    unfold onNewSpan at hnew
    dsimp only at hnew
    split at hnew
    · obtain ⟨active, -, hactive⟩ := except_bind_eq_ok.1 hnew
      rcases active with _ | active
      · obtain rfl := Except.ok.inj hactive
        rfl
      · exact parents_beginSpan hactive
    · split at hnew
      · obtain rfl := Except.ok.inj hnew
        rfl
      · obtain ⟨active, -, hactive⟩ := except_bind_eq_ok.1 hnew
        rcases active with _ | active
        · obtain rfl := Except.ok.inj hactive
          rfl
        · exact parents_beginSpan hactive
  | record id values =>
    obtain rfl := Except.ok.inj h
    rw [List.append_nil]
    unfold onRecord
    split
    · rfl
    · exact parents_setActive _ _ _
  | followsFrom id follows =>
    rw [List.append_nil]
    unfold step onFollowsFrom at h
    obtain ⟨active, -, h⟩ := except_bind_eq_ok.1 h
    rcases active with _ | active
    · obtain rfl := Except.ok.inj h
      rfl
    · exact parents_beginSpan h
  | enter thread id =>
    obtain rfl := Except.ok.inj h
    rw [List.append_nil]
    unfold onEnter
    split
    · rfl
    · exact parents_setActive _ _ _
  | exit thread id =>
    obtain rfl := Except.ok.inj h
    rw [List.append_nil]
    unfold onExit
    split
    · rfl
    · split
      · rfl
      · rfl
  | close id =>
    rw [List.append_nil]
    unfold step onClose at h
    obtain ⟨t, ht, h⟩ := except_bind_eq_ok.1 h
    obtain rfl := Except.ok.inj h
    refine (parents_modifySpan t id (f := fun data => { data with closed := true })
      fun _ => rfl).trans ?_
    split at ht
    · obtain rfl := Except.ok.inj ht
      rfl
    · obtain ⟨events, -, ht⟩ := except_bind_eq_ok.1 ht
      obtain rfl := Except.ok.inj ht
      exact parents_modifySpan s id (f := fun data => { data with active := none })
        fun _ => rfl
  | event name values =>
    obtain rfl := Except.ok.inj h
    rw [List.append_nil]
    unfold onEvent
    split
    · dsimp only
      split
      · rfl
      · rfl
    · rfl

theorem ParentsEarlier.step {tracks : PerfettoTracks} {s s' : LayerState T}
    {callback : Callback T} (hearlier : ParentsEarlier s)
    (hprotocol : RespectsProtocol s callback) (h : s.step tracks callback = .ok s') :
    ParentsEarlier s' := by
  intro id parent hparent
  rw [parents_step h] at hparent
  cases callback with
  | newSpan target name newParent values =>
    rcases Nat.lt_or_ge id s.parents.length with hlt | hge
    · rw [List.getElem?_append_left hlt] at hparent
      exact hearlier id parent hparent
    · rw [List.getElem?_append_right hge, List.getElem?_singleton] at hparent
      split at hparent
      · have hopen := hprotocol.2 parent (Option.some.inj hparent)
        have hlength : s.parents.length = s.spans.length := List.length_map _
        have hlt := lt_length_of_span hopen
        omega
      · cases hparent
  | _ =>
    rw [List.append_nil] at hparent
    exact hearlier id parent hparent

end LayerState

/-- A preview with a task context that is entered twice, under two worker lanes, a reader span under
it, and a reader span without parent that follows from the preview. -/
def tracedPreview : List (Callback Unit) :=
  [.newSpan profileTarget "Delta Funnel preview" none [("operation_id", .u64 1)],
    .newSpan profileTarget "DataFusion task context" (some 0)
      [("operation_id", .u64 1), ("query_execution_id", .u64 2), ("operator_name", .str "Scan")],
    .record 1 [("worker_lane_id", .u64 3)],
    .enter () 1,
    .newSpan deltaArrowReaderProfileTarget "Object store transport" (some 1) [],
    .enter () 2,
    .record 1 [("worker_lane_id", .u64 4)],
    .exit () 2,
    .exit () 1,
    .close 2,
    .enter () 1,
    .newSpan deltaArrowReaderProfileTarget "Object store transport" none [],
    .followsFrom 3 0,
    .enter () 3,
    .exit () 3,
    .exit () 1,
    .close 3,
    .close 1,
    .close 0]

theorem tracedPreview_balanced :
    LayerState.StaysBalanced ⟨0, fun _ _ _ => 0⟩ {} tracedPreview :=
  (LayerState.trace_events_balanced ⟨0, fun _ _ _ => 0⟩ tracedPreview (by decide)).2
    (by decide)

/-- A reader span that is created under a preview, and is then said to follow from it. -/
def followedReader : List (Callback Unit) :=
  [.newSpan profileTarget "Delta Funnel preview" none [("operation_id", .u64 1)],
    .newSpan deltaArrowReaderProfileTarget "Object store transport" (some 0) [],
    .followsFrom 1 0]

theorem followedReader_panics :
    LayerState.AlongRun ⟨0, fun _ _ _ => 0⟩ LayerState.RespectsProtocol {} followedReader ∧
      LayerState.run ⟨0, fun _ _ _ => 0⟩ followedReader = .error .extensionOccupied ∧
      ¬ LayerState.StaysBalanced ⟨0, fun _ _ _ => 0⟩ {} followedReader := by
  have hrun : LayerState.run ⟨0, fun _ _ _ => 0⟩ followedReader =
      .error .extensionOccupied := by
    rfl
  refine ⟨by decide, hrun, ?_⟩
  intro hstays
  obtain ⟨s, hs⟩ := hstays.run_ok
  rw [LayerState.run, hs] at hrun
  cases hrun

end DeltaFunnel
