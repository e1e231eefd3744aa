import DeltaFunnel.Collections.Brackets
import DeltaFunnel.PerfettoProfile.ProfileLayer

/-! The state the profile layer keeps on a span, and the registry that holds the spans. -/

namespace DeltaFunnel

namespace ActiveProfileSpan
variable {T : Type}

def ownTrack (active : ActiveProfileSpan) : Option SemanticTrack := active.track.toOption

/-- A task context that is not to be identified anew has an identifier. -/
def Identified (active : ActiveProfileSpan) : Prop :=
  active.event.isTaskContext = true → active.profileContextIdentityDirty = false →
    active.profileContextId.isSome = true

end ActiveProfileSpan

/-- What an event begins or ends for the profile of one span. -/
def profileMark {T : Type} (id : ℕ) : TraceEvent T → Option (Bracket SemanticTrack)
  | .profileBegin span _ track _ => if span = id then some (.opening track) else none
  | .profileEnd span track _ _ => if span = id then some (.closing track) else none
  | _ => none

/-- What an event begins or ends on the context track of one thread. -/
def contextMark {T : Type} [DecidableEq T] (thread : T) : TraceEvent T → Option (Bracket ℕ)
  | .contextBegin other span _ _ => if other = thread then some (.opening span) else none
  | .contextEnd other span => if other = thread then some (.closing span) else none
  | _ => none

namespace ActiveProfileSpan
variable {T : Type}

theorem profileMarks_emitBegin (active : ActiveProfileSpan) (span id : ℕ) :
    (active.emitBegin (T := T) span).filterMap (profileMark id) =
      if span = id then (active.ownTrack.map Bracket.opening).toList else [] := by
  unfold emitBegin ownTrack track
  by_cases h : span = id
  · rw [if_pos h]
    cases active.event <;> simp [profileMark, h, Except.toOption, List.filterMap_cons]
  · rw [if_neg h]
    cases active.event <;> simp [profileMark, h, List.filterMap_cons]

variable [DecidableEq T]

theorem contextMarks_emitBegin (active : ActiveProfileSpan) (span : ℕ) (thread : T) :
    (active.emitBegin span).filterMap (contextMark thread) = [] := by
  unfold emitBegin
  cases active.event <;> rfl

theorem emitEnd_ok (active : ActiveProfileSpan) (span : ℕ) :
    ∃ events : List (TraceEvent T), active.emitEnd span = .ok events ∧
      (∀ id, events.filterMap (profileMark id) =
        if span = id then (active.ownTrack.map Bracket.closing).toList else []) ∧
      ∀ thread, events.filterMap (contextMark thread) = [] := by
  have hmarks : ∀ (track : SemanticTrack) args flush (id : ℕ),
      [TraceEvent.profileEnd (T := T) span track args flush].filterMap (profileMark id) =
        if span = id then [Bracket.closing track] else [] := by
    intro track args flush id
    by_cases h : span = id
    · simp [profileMark, h]
    · simp [profileMark, h]
  unfold emitEnd ownTrack track
  cases active.event with
  | taskContext name =>
    refine ⟨[], rfl, ?_, fun thread => rfl⟩
    intro id
    exact (ite_self []).symm
  | _ => exact ⟨_, rfl, hmarks _ _ _, fun thread => rfl⟩

theorem inherit_ok (tracks : PerfettoTracks) (active : ActiveProfileSpan) (name : String) :
    ∃ inherited, active.inherit tracks name = .ok inherited ∧
      ∀ a ∈ inherited, a.event.isTaskContext = false := by
  have hdetail : ∀ (track : Option SemanticTrack),
      ∀ a ∈ (track.map fun track =>
        { event := .detail name track
          fields := active.fields
          profileContextId := none
          profileContextIdentityDirty := false : ActiveProfileSpan }),
        a.event.isTaskContext = false := by
    intro track a ha
    obtain ⟨t, -, rfl⟩ := Option.map_eq_some_iff.1 ha
    rfl
  unfold inherit track
  cases active.event with
  | taskContext _ => exact ⟨_, rfl, hdetail _⟩
  | _ => exact ⟨_, rfl, hdetail (some _)⟩

theorem identified_of_not_taskContext {active : ActiveProfileSpan}
    (h : active.event.isTaskContext = false) : active.Identified := by
  intro htask
  rw [h] at htask
  cases htask

theorem identified_fromFields {tracks : PerfettoTracks} {name : String} {fields : ProfileFields}
    {active : ActiveProfileSpan} (h : fromFields tracks name fields = some active) :
    active.Identified := by
  unfold fromFields at h
  obtain ⟨operationId, -, h⟩ := Option.bind_eq_some_iff.1 h
  obtain ⟨event, -, h⟩ := Option.bind_eq_some_iff.1 h
  obtain rfl := Option.some.inj h
  intro htask hdirty
  -- a new task context starts dirty
  have hcontra : event.isTaskContext = false := hdirty
  rw [show event.isTaskContext = true from htask] at hcontra
  cases hcontra

@[simp]
theorem event_record (active : ActiveProfileSpan) (values : ProfileFields) :
    (active.record values).event = active.event := by
  rfl

@[simp]
theorem profileContextId_record (active : ActiveProfileSpan) (values : ProfileFields) :
    (active.record values).profileContextId = active.profileContextId := by
  rfl

theorem Identified.record {active : ActiveProfileSpan} (h : active.Identified)
    (values : ProfileFields) : (active.record values).Identified := by
  intro htask hdirty
  refine h htask ?_
  exact (Bool.or_eq_false_iff.1 hdirty).1

/-- What entering a span does while context identifiers last: it begins one context event and
leaves the span ready to end it. -/
structure Entered (active active' : ActiveProfileSpan) (thread : T) (span : ℕ)
    (events : List (TraceEvent T)) : Prop where
  event : active'.event = active.event
  enabled : active'.contextEventEnabled = true
  identified : active'.Identified
  profileMarks : ∀ id, events.filterMap (profileMark id) = []
  contextMarks : ∀ other, events.filterMap (contextMark other) =
    if thread = other then [.opening span] else []

theorem refreshProfileContextIdentity_event (active : ActiveProfileSpan) (counter : ℕ) :
    (active.refreshProfileContextIdentity counter).1.event = active.event := by
  unfold refreshProfileContextIdentity
  split
  · rfl
  · rfl

theorem refreshProfileContextIdentity_identified {active : ActiveProfileSpan}
    (h : active.Identified) (htask : active.event.isTaskContext = true) {counter : ℕ}
    (hcounter : counter ≠ 0) :
    (active.refreshProfileContextIdentity counter).1.profileContextId.isSome = true := by
  unfold refreshProfileContextIdentity
  split
  · show (allocateId counter).1.isSome = true
    unfold allocateId
    rw [if_neg hcounter]
    rfl
  · next hdirty => exact h htask (Bool.not_eq_true _ ▸ hdirty)

theorem contextMarks_contextBegin (thread other : T) (span : ℕ) (name : String)
    (args : List (String × DebugArg)) :
    [TraceEvent.contextBegin thread span name args].filterMap (contextMark other) =
      if thread = other then [.opening span] else [] := by
  by_cases h : thread = other
  · simp [contextMark, h]
  · simp [contextMark, h]

theorem entered_emitContextEnter {active : ActiveProfileSpan} (h : active.Identified)
    (thread : T) (span : ℕ) {counter : ℕ} (hcounter : counter ≠ 0) :
    Entered active (active.emitContextEnter thread span counter).1 thread span
      (active.emitContextEnter thread span counter).2.2 := by
  unfold emitContextEnter
  split
  · next name hevent =>
    have htask : active.event.isTaskContext = true := by
      rw [hevent]
      rfl
    have hsame := refreshProfileContextIdentity_event active counter
    have hidentified := refreshProfileContextIdentity_identified h htask hcounter
    obtain ⟨profileContextId, hid⟩ := Option.isSome_iff_exists.1 hidentified
    refine ⟨hsame, ?_, fun _ _ => hidentified, ?_, ?_⟩
    · show (_ || _) = true
      rw [hidentified, Bool.or_true]
    · intro id
      simp only [hid]
      rfl
    · intro other
      simp only [hid]
      exact contextMarks_contextBegin thread other span _ _
  · next event hevent =>
    have htask : active.event.isTaskContext = false := by
      cases hactive : active.event with
      | taskContext name => exact absurd hactive (hevent name)
      | _ => rfl
    refine ⟨rfl, ?_, identified_of_not_taskContext htask, fun id => rfl, ?_⟩
    · show (!_ || _) = true
      rw [htask]
      rfl
    · intro other
      exact contextMarks_contextBegin thread other span _ _

end ActiveProfileSpan

namespace LayerState
variable {T : Type}

theorem span_modifySpan (s : LayerState T) (id other : ℕ) (f : SpanData → SpanData) :
    (s.modifySpan id f).span other =
      ((s.spans[other]?).map fun data => if id = other then f data else data).filter
        (!·.closed) := by
  show ((s.spans.modify id f)[other]?).filter (!·.closed) = _
  rw [List.getElem?_modify]
  rfl

theorem span_setActive (s : LayerState T) (id other : ℕ) (active : ActiveProfileSpan) :
    (s.setActive id active).span other =
      (s.span other).map fun data =>
        if id = other then { data with active := some active } else data := by
  unfold setActive
  rw [span_modifySpan]
  unfold span
  rcases s.spans[other]? with _ | data
  · rfl
  · rcases hclosed : data.closed with _ | _
    · by_cases h : id = other
      · simp [Option.filter, h, hclosed]
      · simp [Option.filter, h, hclosed]
    · by_cases h : id = other
      · simp [Option.filter, h, hclosed]
      · simp [Option.filter, h, hclosed]

@[simp]
theorem isSome_span_setActive (s : LayerState T) (id other : ℕ) (active : ActiveProfileSpan) :
    ((s.setActive id active).span other).isSome = (s.span other).isSome := by
  rw [span_setActive, Option.isSome_map]

theorem active_setActive {s : LayerState T} {id : ℕ} (hopen : (s.span id).isSome = true)
    (active : ActiveProfileSpan) (other : ℕ) :
    (s.setActive id active).active other = if id = other then some active else s.active other := by
  show ((s.setActive id active).span other).bind (·.active) = _
  rw [span_setActive]
  by_cases h : id = other
  · subst h
    obtain ⟨data, hdata⟩ := Option.isSome_iff_exists.1 hopen
    simp [hdata]
  · rw [if_neg h]
    show _ = (s.span other).bind (·.active)
    rcases s.span other with _ | data
    · rfl
    · simp [h]

theorem isSome_span_of_active {s : LayerState T} {id : ℕ} {active : ActiveProfileSpan}
    (h : s.active id = some active) : (s.span id).isSome = true := by
  obtain ⟨data, hdata, -⟩ := Option.bind_eq_some_iff.1 h
  rw [hdata]
  rfl

theorem active_eq_none {s : LayerState T} {id : ℕ} (h : s.span id = none) :
    s.active id = none := by
  unfold active
  rw [h]
  rfl

theorem span_closed (s : LayerState T) (id other : ℕ) (f : SpanData → SpanData) :
    ((s.modifySpan id f).modifySpan id fun data => { data with closed := true }).span other =
      if id = other then none else s.span other := by
  rw [span_modifySpan]
  show (((s.spans.modify id f)[other]?).map _).filter _ = _
  rw [List.getElem?_modify]
  unfold span
  by_cases h : id = other
  · rw [if_pos h]
    rcases s.spans[other]? with _ | data
    · rfl
    · simp [Option.filter, h]
  · rw [if_neg h]
    rcases s.spans[other]? with _ | data
    · rfl
    · simp [h]

section Extended
variable (s : LayerState T) (target name : String) (parent : Option ℕ)

theorem span_extended (other : ℕ) :
    (s.createSpan target name parent).span other =
      if other = s.spans.length then some { target, name, parent } else s.span other := by
  show ((s.spans ++ [_])[other]?).filter _ = _
  by_cases h : other = s.spans.length
  · rw [if_pos h, h, List.getElem?_concat_length]
    rfl
  · rw [if_neg h]
    unfold span
    rcases Nat.lt_or_gt_of_ne h with hlt | hgt
    · rw [List.getElem?_append_left hlt]
    · have hpast : (s.spans ++ [({ target, name, parent } : SpanData)]).length ≤ other := by
        rw [List.length_append]
        exact hgt
      rw [List.getElem?_eq_none hpast, List.getElem?_eq_none (by omega)]

theorem active_extended (other : ℕ) :
    (s.createSpan target name parent).active other =
      s.active other := by
  unfold active
  rw [span_extended]
  by_cases h : other = s.spans.length
  · rw [if_pos h]
    unfold span
    rw [List.getElem?_eq_none (by omega)]
    rfl
  · rw [if_neg h]

end Extended

theorem lt_length_of_span {s : LayerState T} {id : ℕ} (h : (s.span id).isSome = true) :
    id < s.spans.length := by
  obtain ⟨data, hdata⟩ := Option.isSome_iff_exists.1 h
  exact (List.getElem?_eq_some_iff.1 (Option.filter_eq_some_iff.1 hdata).1).1

theorem inheritFromAncestors_ok (tracks : PerfettoTracks) (s : LayerState T) (name : String)
    (fuel : ℕ) (ancestor : Option ℕ) :
    ∃ inherited, s.inheritFromAncestors tracks name fuel ancestor = .ok inherited ∧
      ∀ a ∈ inherited, a.event.isTaskContext = false := by
  induction fuel generalizing ancestor with
  | zero => exact ⟨none, rfl, fun a ha => by cases ha⟩
  | succ fuel ih =>
    unfold inheritFromAncestors
    rcases ancestor.bind s.span with _ | parent
    · exact ⟨none, rfl, fun a ha => by cases ha⟩
    · dsimp only
      rcases parent.active with _ | active
      · exact ih parent.parent
      · obtain ⟨inherited, hinherited, htask⟩ := active.inherit_ok tracks name
        dsimp only
        rw [hinherited]
        rcases inherited with _ | inherited
        · exact ih parent.parent
        · exact ⟨some inherited, rfl, htask⟩

theorem followedState_ok (tracks : PerfettoTracks) (s : LayerState T) (id follows : ℕ) :
    ∃ inherited, s.followedState tracks id follows = .ok inherited ∧
      ∀ a ∈ inherited, a.event.isTaskContext = false := by
  unfold followedState
  rcases (s.span id).bind _ with _ | name
  · exact ⟨none, rfl, fun a ha => by cases ha⟩
  · rcases s.active follows with _ | parent
    · exact ⟨none, rfl, fun a ha => by cases ha⟩
    · exact parent.inherit_ok tracks name

def parents (s : LayerState T) : List (Option ℕ) := s.spans.map (·.parent)

theorem parents_modifySpan (s : LayerState T) (id : ℕ) {f : SpanData → SpanData}
    (hf : ∀ span, (f span).parent = span.parent) : (s.modifySpan id f).parents = s.parents := by
  unfold parents modifySpan
  refine List.ext_getElem? ?_
  intro other
  rw [List.getElem?_map, List.getElem?_map, List.getElem?_modify]
  rcases s.spans[other]? with _ | data
  · rfl
  · by_cases h : id = other
    · simp [h, hf]
    · simp [h]

theorem parents_setActive (s : LayerState T) (id : ℕ) (active : ActiveProfileSpan) :
    (s.setActive id active).parents = s.parents :=
  parents_modifySpan s id fun _ => rfl

theorem parents_beginSpan {s s' : LayerState T} {id : ℕ} {active : ActiveProfileSpan}
    (h : s.beginSpan id active = .ok s') : s'.parents = s.parents := by
  unfold beginSpan at h
  dsimp only at h
  split at h
  · cases h
  · obtain rfl := Except.ok.inj h
    exact parents_setActive (s.emit (active.emitBegin id)) id active

def ParentsEarlier (s : LayerState T) : Prop :=
  ∀ id parent : ℕ, s.parents[id]? = some (some parent) → parent < id

/-- With spans after their parents, any fuel above the first ancestor gives the same result. -/
theorem inheritFromAncestors_fuel {s : LayerState T} (hearlier : ParentsEarlier s)
    (tracks : PerfettoTracks) (name : String) {fuel fuel' : ℕ} {ancestor : Option ℕ}
    (h : ∀ id ∈ ancestor, id < fuel) (h' : ∀ id ∈ ancestor, id < fuel') :
    s.inheritFromAncestors tracks name fuel ancestor =
      s.inheritFromAncestors tracks name fuel' ancestor := by
  have hnone : ∀ fuel, s.inheritFromAncestors tracks name fuel none = .ok none := by
    intro fuel
    cases fuel with
    | zero => rfl
    | succ fuel => rfl
  induction fuel generalizing fuel' ancestor with
  | zero =>
    rcases ancestor with _ | id
    · rw [hnone, hnone]
    · exact absurd (h id rfl) (Nat.not_lt_zero id)
  | succ fuel ih =>
    rcases ancestor with _ | id
    · rw [hnone, hnone]
    · obtain ⟨fuel', rfl⟩ := Nat.exists_eq_add_one_of_ne_zero (Nat.ne_zero_of_lt (h' id rfl))
      have hid := h id rfl
      have hid' := h' id rfl
      unfold inheritFromAncestors
      rw [Option.bind_some]
      rcases hspan : s.span id with _ | data
      · rfl
      · have hdata : s.spans[id]? = some data := (Option.filter_eq_some_iff.1 hspan).1
        have hparent : ∀ parent ∈ data.parent, parent < id := by
          intro parent hmem
          refine hearlier id parent ?_
          unfold parents
          rw [List.getElem?_map, hdata]
          exact congrArg some hmem
        have hrest : s.inheritFromAncestors tracks name fuel data.parent =
            s.inheritFromAncestors tracks name fuel' data.parent := ih
          (fun parent hmem => Nat.lt_of_lt_of_le (hparent parent hmem) (Nat.le_of_lt_succ hid))
          (fun parent hmem => Nat.lt_of_lt_of_le (hparent parent hmem) (Nat.le_of_lt_succ hid'))
        dsimp only
        rw [hrest]

end LayerState

end DeltaFunnel
