import DeltaFunnel.QueryEngine.OperatorActivity
import Mathlib.Data.List.Nodup

/-! What one step of a thread does: to the lanes and their owners, to the stack of the thread,
and to the budgets. -/

namespace DeltaFunnel

abbrev OwnedLane := ActivityQuery × ActivityWorkerLane

def ownedLanes (query : ActivityQuery) (lane : ActivityWorkerLane) (owns : Bool) :
    List OwnedLane :=
  if owns then [(query, lane)] else []

/-- A `start_span` under way owns the lane it acquired for its recorder. -/
def ActivityCall.owners : ActivityCall → List OwnedLane
  | .starting start => ownedLanes start.query start.workerLane start.ownsWorkerLane
  | .limited start => ownedLanes start.query start.workerLane start.ownsWorkerLane
  | .idle => []
  | .waitLimited _ => []

def ActivityFrame.owners (frame : ActivityFrame) : List OwnedLane :=
  frame.guard.elim [] fun guard =>
    ownedLanes guard.query guard.entry.span.workerLane guard.entry.span.ownsWorkerLane

def ActivityThread.owners (thread : ActivityThread) : List OwnedLane :=
  thread.call.owners ++ thread.frames.flatMap ActivityFrame.owners

/-- The lanes owned by a live recorder or task scope of some thread, one entry for each owner. -/
def ActivitySystem.liveOwners (system : ActivitySystem) : List OwnedLane :=
  system.threads.flatMap ActivityThread.owners

theorem perm_flatMap_set {α β : Type} {xs : List α} {i : ℕ} {a b : α} (h : xs[i]? = some a)
    (f : α → List β) : (f a ++ (xs.set i b).flatMap f).Perm (f b ++ xs.flatMap f) := by
  induction xs generalizing i with
  | nil => cases h
  | cons x xs ih =>
    cases i with
    | zero =>
      obtain rfl : x = a := Option.some.inj h
      rw [List.set_cons_zero, List.flatMap_cons, List.flatMap_cons, ← List.append_assoc,
        ← List.append_assoc]
      exact List.perm_append_comm.append_right _
    | succ i =>
      rw [List.set_cons_succ, List.flatMap_cons, List.flatMap_cons]
      have hmove : ∀ ys zs : List β, (ys ++ (f x ++ zs)).Perm (f x ++ (ys ++ zs)) := by
        intro ys zs
        rw [← List.append_assoc, ← List.append_assoc]
        exact List.perm_append_comm.append_right _
      exact ((hmove _ _).trans ((ih h).append_left (f x))).trans (hmove _ _).symm

/-- The lanes of a query are numbered from one in the order they were added. -/
structure LaneTable (identities : OperatorActivityIdentityState) : Prop where
  next : identities.nextWorkerLaneId = identities.workerLanes.length + 1
  ids : identities.workerLanes.map (·.lane.id) = List.range' 1 identities.workerLanes.length
  bound : identities.workerLanes.length ≤ vecCapacityLimit

def activeCount (lane : ActivityWorkerLane) (states : List ActivityWorkerLaneState) : ℕ :=
  states.countP fun state => state.lane = lane ∧ state.active = true

def kindCount (kind : ActivityWorkerKind) (states : List ActivityWorkerLaneState) : ℕ :=
  states.countP fun state => state.lane.kind = kind

theorem LaneTable.nodup {identities : OperatorActivityIdentityState} (h : LaneTable identities) :
    (identities.workerLanes.map (·.lane)).Nodup := by
  have hids : ((identities.workerLanes.map (·.lane)).map (·.id)).Nodup := by
    rw [List.map_map]
    show (identities.workerLanes.map (·.lane.id)).Nodup
    rw [h.ids]
    exact List.nodup_range'
  exact hids.of_map _

theorem activateInactive_some {kind : ActivityWorkerKind}
    {states states' : List ActivityWorkerLaneState} {lane : ActivityWorkerLane}
    (h : activateInactive kind states = some (lane, states')) :
    ∃ before after, states = before ++ ⟨lane, false⟩ :: after ∧
      states' = before ++ ⟨lane, true⟩ :: after ∧ lane.kind = kind := by
  induction states generalizing states' with
  | nil => cases h
  | cons state states ih =>
    unfold activateInactive at h
    split at h
    · next hfound =>
      obtain ⟨rfl, rfl⟩ := Prod.mk.inj (Option.some.inj h)
      refine ⟨[], states, ?_, rfl, hfound.1⟩
      rw [← hfound.2]
      rfl
    · obtain ⟨⟨lane', rest⟩, hrest, heq⟩ := Option.map_eq_some_iff.1 h
      obtain ⟨rfl, rfl⟩ := Prod.mk.inj heq
      obtain ⟨before, after, rfl, rfl, hkind⟩ := ih hrest
      exact ⟨state :: before, after, rfl, rfl, hkind⟩

theorem activateInactive_none {kind : ActivityWorkerKind} {states : List ActivityWorkerLaneState}
    (h : activateInactive kind states = none) :
    ∀ state ∈ states, state.lane.kind = kind → state.active = true := by
  induction states with
  | nil => exact List.forall_mem_nil _
  | cons state states ih =>
    unfold activateInactive at h
    split at h
    · cases h
    · next hother =>
      rw [Option.map_eq_none_iff] at h
      intro other hmem hkind
      rcases List.mem_cons.1 hmem with rfl | hmem
      · rw [not_and, Bool.not_eq_false] at hother
        exact hother hkind
      · exact ih h other hmem hkind

theorem deactivate_eq {lane : ActivityWorkerLane} {states : List ActivityWorkerLaneState}
    (hnodup : (states.map (·.lane)).Nodup) (hactive : activeCount lane states ≠ 0) :
    ∃ before after, states = before ++ ⟨lane, true⟩ :: after ∧
      deactivate lane states = before ++ ⟨lane, false⟩ :: after := by
  induction states with
  | nil => exact absurd rfl hactive
  | cons state states ih =>
    rw [List.map_cons, List.nodup_cons] at hnodup
    unfold deactivate
    split
    · next heq =>
      -- no later state has the lane, so this one is active
      have hlater : activeCount lane states = 0 := by
        unfold activeCount
        rw [List.countP_eq_zero]
        intro other hother hboth
        have hlane : other.lane = lane := (of_decide_eq_true hboth).1
        exact hnodup.1 (heq ▸ hlane ▸ List.mem_map_of_mem hother)
      have hthis : state.active = true := by
        unfold activeCount at hactive hlater
        rw [List.countP_cons, hlater] at hactive
        by_contra hinactive
        rw [if_neg (by simp [hinactive])] at hactive
        exact hactive rfl
      refine ⟨[], states, ?_, ?_⟩
      · rw [← heq, ← hthis]
        rfl
      · rw [← heq]
        rfl
    · next hne =>
      have hrest : activeCount lane states ≠ 0 := by
        unfold activeCount at hactive ⊢
        rw [List.countP_cons, if_neg (by simp [hne])] at hactive
        exact hactive
      obtain ⟨before, after, hstates, hdeactivate⟩ := ih hnodup.2 hrest
      refine ⟨state :: before, after, ?_, ?_⟩
      · rw [hstates, List.cons_append]
      · rw [hdeactivate, List.cons_append]

theorem activeCount_set {lane other : ActivityWorkerLane}
    {before after : List ActivityWorkerLaneState} :
    activeCount other (before ++ ⟨lane, true⟩ :: after) =
      activeCount other (before ++ ⟨lane, false⟩ :: after) + if lane = other then 1 else 0 := by
  unfold activeCount
  rw [List.countP_append, List.countP_append, List.countP_cons, List.countP_cons]
  by_cases heq : lane = other
  · simp [heq]
    omega
  · simp [heq]

theorem LaneTable.set {identities : OperatorActivityIdentityState} {lane : ActivityWorkerLane}
    {before after : List ActivityWorkerLaneState} {active active' : Bool}
    (h : LaneTable identities)
    (hlanes : identities.workerLanes = before ++ ⟨lane, active⟩ :: after) :
    LaneTable { identities with workerLanes := before ++ ⟨lane, active'⟩ :: after } := by
  have hlength : (before ++ ⟨lane, active'⟩ :: after).length =
      identities.workerLanes.length := by
    rw [hlanes, List.length_append, List.length_append, List.length_cons, List.length_cons]
  refine ⟨?_, ?_, ?_⟩
  · show identities.nextWorkerLaneId = _
    rw [hlength, h.next]
  · show (before ++ ⟨lane, active'⟩ :: after).map (·.lane.id) = _
    rw [hlength, ← h.ids, hlanes, List.map_append, List.map_append, List.map_cons, List.map_cons]
  · show (before ++ ⟨lane, active'⟩ :: after).length ≤ _
    rw [hlength]
    exact h.bound

/-- An acquired lane gets one more active slice, and a lane is added only when all of its kind
are active. -/
theorem LaneTable.acquire {identities identities' : OperatorActivityIdentityState}
    {kind : ActivityWorkerKind} {lane : ActivityWorkerLane} (h : LaneTable identities)
    (hacquire : identities.acquireWorkerLane kind = some (lane, identities')) :
    LaneTable identities' ∧ lane.kind = kind ∧
      (∀ other, activeCount other identities'.workerLanes =
        activeCount other identities.workerLanes + if lane = other then 1 else 0) ∧
      ∀ kind', kindCount kind' identities'.workerLanes = kindCount kind' identities.workerLanes ∨
        ∀ state ∈ identities'.workerLanes, state.lane.kind = kind' → state.active = true := by
  unfold OperatorActivityIdentityState.acquireWorkerLane at hacquire
  rcases hfound : activateInactive kind identities.workerLanes with _ | ⟨lane', states⟩
  · rw [hfound] at hacquire
    dsimp only at hacquire
    split at hacquire
    · next hroom =>
      obtain ⟨rfl, rfl⟩ := Prod.mk.inj (Option.some.inj hacquire)
      -- all lanes of the kind are active: the next id is taken for a new one
      have hunused : ∀ state ∈ identities.workerLanes,
          state.lane.id < identities.workerLanes.length + 1 := by
        intro state hstate
        have hid : state.lane.id ∈ List.range' 1 identities.workerLanes.length := by
          rw [← h.ids]
          exact List.mem_map_of_mem hstate
        obtain ⟨-, hlt⟩ := List.mem_range'_1.1 hid
        omega
      refine ⟨⟨?_, ?_, ?_⟩, rfl, ?_, ?_⟩
      · show saturatingAdd identities.nextWorkerLaneId 1 = _
        have hle : identities.workerLanes.length + 1 + 1 ≤ u64Max :=
          Nat.le_trans (Nat.succ_le_succ (Nat.succ_le_succ hroom.le)) (by decide)
        rw [h.next, saturatingAdd_eq_of_le hle, List.length_append, List.length_singleton]
      · show (identities.workerLanes ++ [(⟨⟨_, _⟩, true⟩ : ActivityWorkerLaneState)]).map
          (·.lane.id) = _
        rw [List.map_append, List.map_singleton, h.ids, h.next, List.length_append,
          List.length_singleton, List.range'_concat, Nat.one_mul, Nat.add_comm 1]
      · show (identities.workerLanes ++ [_]).length ≤ _
        rw [List.length_append, List.length_singleton]
        exact hroom
      · intro other
        show activeCount other (identities.workerLanes ++ [_]) = _
        unfold activeCount
        rw [List.countP_append, List.countP_singleton]
        simp
      · intro kind'
        by_cases hkind : kind = kind'
        · right
          intro state hstate hsame
          rcases List.mem_append.1 hstate with hstate | hstate
          · exact activateInactive_none hfound state hstate (hsame.trans hkind.symm)
          · rw [List.mem_singleton.1 hstate]
        · left
          show kindCount kind' (identities.workerLanes ++ [_]) = _
          unfold kindCount
          rw [List.countP_append, List.countP_singleton]
          simp [hkind]
    · cases hacquire
  · rw [hfound] at hacquire
    obtain ⟨rfl, rfl⟩ := Prod.mk.inj (Option.some.inj hacquire)
    -- the first inactive lane of the kind is taken again
    obtain ⟨before, after, hlanes, rfl, hkind⟩ := activateInactive_some hfound
    refine ⟨h.set hlanes, hkind, ?_, ?_⟩
    · intro other
      rw [hlanes]
      exact activeCount_set
    · intro kind'
      left
      rw [hlanes]
      unfold kindCount
      rw [List.countP_append, List.countP_append, List.countP_cons, List.countP_cons]

theorem LaneTable.release {identities : OperatorActivityIdentityState} {lane : ActivityWorkerLane}
    (h : LaneTable identities) (hactive : activeCount lane identities.workerLanes ≠ 0) :
    LaneTable (identities.releaseWorkerLane lane) ∧
      (∀ other, activeCount other identities.workerLanes =
        activeCount other (identities.releaseWorkerLane lane).workerLanes +
          if lane = other then 1 else 0) ∧
      ∀ kind, kindCount kind (identities.releaseWorkerLane lane).workerLanes =
        kindCount kind identities.workerLanes := by
  obtain ⟨before, after, hlanes, hdeactivate⟩ := deactivate_eq h.nodup hactive
  unfold OperatorActivityIdentityState.releaseWorkerLane
  rw [hdeactivate]
  refine ⟨h.set hlanes, ?_, ?_⟩
  · intro other
    rw [hlanes]
    exact activeCount_set
  · intro kind
    show kindCount kind (before ++ ⟨lane, false⟩ :: after) = _
    rw [hlanes]
    unfold kindCount
    rw [List.countP_append, List.countP_append, List.countP_cons, List.countP_cons]

def frameEntries (frames : List ActivityFrame) : List ActivityStackEntry :=
  frames.filterMap fun frame => frame.guard.map (·.entry)

/-- An operator without a recorder runs below a span of its own query. -/
def FramesMatch : List ActivityFrame → Prop
  | [] => True
  | .operator query none :: frames =>
    (∃ entry, (frameEntries frames).head? = some entry ∧ entry.span.query = query) ∧
      FramesMatch frames
  | .operator query (some recorder) :: frames => recorder.query = query ∧ FramesMatch frames
  | .task _ :: frames => FramesMatch frames

/-- A `start_span` under way knows the top of its stack, and owns a lane only if its query has
no span on the thread. -/
def SpanStart.Ok (start : SpanStart) (stack : List ActivityStackEntry) : Prop :=
  start.processParentActive = DeltaFunnel.processParentActive stack start.query start.workerLane ∧
    (start.ownsWorkerLane = true → start.processParentActive = false)

def ActivityCall.Ok (stack : List ActivityStackEntry) : ActivityCall → Prop
  | .starting start => start.Ok stack
  | .limited start => start.Ok stack
  | .idle => True
  | .waitLimited _ => True

/-- The stack of a thread has the entries of its recorders and scopes, in their order. -/
structure ActivityThread.Ok (thread : ActivityThread) : Prop where
  stack : thread.stack = frameEntries thread.frames
  guards : ∀ frame ∈ thread.frames, ∀ guard, frame.guard = some guard →
    guard.entry.span.query = guard.query
  pushes : ∀ entry ∈ thread.stack, entry.push < thread.pushes
  distinct : thread.stack.Pairwise fun above below => below.push < above.push
  frames : FramesMatch thread.frames
  call : thread.call.Ok thread.stack

theorem ActivityThread.Ok.new : ActivityThread.new.Ok :=
  ⟨rfl, List.forall_mem_nil _, List.forall_mem_nil _, .nil, trivial, trivial⟩

section Threads
variable {thread : ActivityThread} {query : ActivityQuery} {lane : ActivityWorkerLane}
  {owns : Bool}

theorem ActivityThread.Ok.setCall (h : thread.Ok) {call : ActivityCall}
    (hcall : call.Ok thread.stack) : ActivityThread.Ok { thread with call } :=
  ⟨h.stack, h.guards, h.pushes, h.distinct, h.frames, hcall⟩

theorem ActivityThread.Ok.push (h : thread.Ok) {frame : ActivityGuard → ActivityFrame}
    (hguard : ∀ guard, (frame guard).guard = some guard)
    (hframes : ∀ guard frames, guard.query = query → FramesMatch frames →
      FramesMatch (frame guard :: frames)) :
    (thread.pushSpan query lane owns frame).Ok where
  stack := by
    show _ :: thread.stack = frameEntries (frame _ :: thread.frames)
    rw [frameEntries, List.filterMap_cons, hguard, Option.map_some, h.stack]
    rfl
  guards := by
    intro other hother guard hsome
    rcases List.mem_cons.1 hother with rfl | hother
    · rw [hguard] at hsome
      rw [← Option.some.inj hsome]
      rfl
    · exact h.guards other hother guard hsome
  pushes := by
    intro entry hentry
    show entry.push < thread.pushes + 1
    rcases List.mem_cons.1 hentry with rfl | hentry
    · exact Nat.lt_succ_self _
    · exact Nat.lt_succ_of_lt (h.pushes entry hentry)
  distinct := List.pairwise_cons.2 ⟨h.pushes, h.distinct⟩
  frames := hframes _ _ rfl h.frames
  call := trivial

theorem ActivityThread.Ok.pop (h : thread.Ok) (hidle : thread.call = .idle)
    {frame : ActivityFrame} {frames : List ActivityFrame}
    (hframes : thread.frames = frame :: frames) :
    ActivityThread.Ok { thread with
      stack := if frame.guard.isSome then thread.stack.tail else thread.stack, frames } := by
  obtain ⟨hstack, hguards, hpushes, hdistinct, hmatch, -⟩ := h
  rw [hframes] at hstack hguards hmatch
  have hrest : FramesMatch frames := by
    cases frame with
    | operator query recorder =>
      cases recorder with
      | none => exact hmatch.2
      | some recorder => exact hmatch.2
    | task guard => exact hmatch
  have hpopped : (if frame.guard.isSome then thread.stack.tail else thread.stack) =
      frameEntries frames := by
    rw [hstack, frameEntries, List.filterMap_cons]
    rcases frame.guard with _ | guard <;> rfl
  have hsuffix : (if frame.guard.isSome then thread.stack.tail else thread.stack) <:+
      thread.stack := by
    split
    · exact List.tail_suffix _
    · exact List.suffix_refl _
  refine ⟨hpopped, fun other hother => hguards other (List.mem_cons_of_mem _ hother), ?_, ?_,
    hrest, ?_⟩
  · exact fun entry hentry => hpushes entry (hsuffix.subset hentry)
  · exact hdistinct.sublist hsuffix.sublist
  · show thread.call.Ok _
    rw [hidle]
    trivial

theorem ActivityThread.Ok.top (h : thread.Ok) {recorder : Option ActivityGuard}
    {frames : List ActivityFrame} (hframes : thread.frames = .operator query recorder :: frames) :
    ∃ entry, thread.stack.head? = some entry ∧ entry.span.query = query := by
  have hmatch := h.frames
  have hstack := h.stack
  rw [hframes] at hmatch hstack
  cases recorder with
  | none =>
    obtain ⟨entry, hhead, hquery⟩ := hmatch.1
    exact ⟨entry, hstack ▸ hhead, hquery⟩
  | some recorder =>
    refine ⟨recorder.entry, ?_, ?_⟩
    · rw [hstack]
      rfl
    · rw [h.guards (.operator query (some recorder)) (hframes ▸ List.mem_cons_self ..) recorder rfl]
      exact hmatch.1

end Threads

/-- What a step does to the lanes and to the owners of its thread. -/
inductive LaneEffect (before after : ActivityQuery → OperatorActivityIdentityState)
    (owners owners' : List OwnedLane) : Prop
  | keep (hafter : after = before) (howners : owners.Perm owners')
  | acquire (query : ActivityQuery) (kind : ActivityWorkerKind) (lane : ActivityWorkerLane)
      (identities : OperatorActivityIdentityState)
      (hacquire : (before query).acquireWorkerLane kind = some (lane, identities))
      (hafter : after = Function.update before query identities)
      (howners : ((query, lane) :: owners).Perm owners')
  | release (query : ActivityQuery) (lane : ActivityWorkerLane)
      (hafter : after = Function.update before query ((before query).releaseWorkerLane lane))
      (howners : owners.Perm ((query, lane) :: owners'))

inductive BudgetEffect (before after : ActivitySystem) : Prop
  | keep (hbudgets : after.budgets = before.budgets)
      (hreservations : after.reservations = before.reservations)
      (htruncations : after.truncations = before.truncations)
  | reserve (operationId : ℕ) (budget : OperatorActivityBudget)
      (hfetch : (before.budgets operationId).fetchUpdate = some budget)
      (hbudgets : after.budgets = Function.update before.budgets operationId budget)
      (hreservations : after.reservations = before.reservations ++ [operationId])
      (htruncations : after.truncations = before.truncations)
  | report (operationId : ℕ)
      (hbudgets : after.budgets = (before.reportTruncation operationId).budgets)
      (hreservations : after.reservations = before.reservations)
      (htruncations : after.truncations = (before.reportTruncation operationId).truncations)

structure StepOf (system next : ActivitySystem) (index : ℕ) (thread later : ActivityThread) :
    Prop where
  found : system.threads[index]? = some thread
  threads : next.threads = system.threads.set index later
  ok : thread.Ok → later.Ok
  lanes : LaneEffect system.identities next.identities thread.owners later.owners

section Steps
variable {system next : ActivitySystem} {index : ℕ} {thread : ActivityThread}

theorem executionContext_some {stack : List ActivityStackEntry}
    {identities identities' : OperatorActivityIdentityState} {query : ActivityQuery}
    {partition : ℕ} {isRuntimeTask allowCoordinator owns : Bool} {lane : ActivityWorkerLane}
    (h : executionContext stack identities query partition isRuntimeTask allowCoordinator =
      some (lane, owns, identities')) :
    (owns = false ∧ identities' = identities) ∨
      (owns = true ∧ (∀ entry ∈ stack, entry.span.query ≠ query) ∧
        ∃ kind, identities.acquireWorkerLane kind = some (lane, identities')) := by
  unfold executionContext at h
  split at h
  · obtain ⟨-, hrest⟩ := Prod.mk.inj (Option.some.inj h)
    obtain ⟨rfl, rfl⟩ := Prod.mk.inj hrest
    exact .inl ⟨rfl, rfl⟩
  · next hnone =>
    split at h
    · obtain ⟨-, hrest⟩ := Prod.mk.inj (Option.some.inj h)
      obtain ⟨rfl, rfl⟩ := Prod.mk.inj hrest
      exact .inl ⟨rfl, rfl⟩
    · dsimp only at h
      obtain ⟨⟨lane', identities''⟩, hacquire, heq⟩ := Option.map_eq_some_iff.1 h
      obtain ⟨hlane, hrest⟩ := Prod.mk.inj heq
      obtain ⟨rfl, rfl⟩ := Prod.mk.inj hrest
      dsimp only at hlane
      rw [hlane] at hacquire
      refine .inr ⟨rfl, ?_, _, hacquire⟩
      intro entry hentry hquery
      exact List.find?_eq_none.1 hnone entry hentry (by simp [hquery])

theorem laneEffect_context {stack : List ActivityStackEntry}
    {before : ActivityQuery → OperatorActivityIdentityState}
    {identities : OperatorActivityIdentityState} {query : ActivityQuery}
    {partition : ℕ} {isRuntimeTask allowCoordinator owns : Bool} {lane : ActivityWorkerLane}
    (h : executionContext stack (before query) query partition isRuntimeTask allowCoordinator =
      some (lane, owns, identities)) (owners : List OwnedLane) :
    LaneEffect before (Function.update before query identities) owners
      (ownedLanes query lane owns ++ owners) := by
  rcases executionContext_some h with ⟨rfl, rfl⟩ | ⟨rfl, -, kind, hacquire⟩
  · exact .keep (Function.update_eq_self query before) (List.Perm.refl _)
  · exact .acquire query kind lane identities hacquire rfl (List.Perm.refl _)

theorem completeSpan_budget {start : SpanStart} {recordsDetail : Bool} :
    (system.completeSpan index thread start recordsDetail).budgets = system.budgets ∧
      (system.completeSpan index thread start recordsDetail).reservations =
        system.reservations ∧
      (system.completeSpan index thread start recordsDetail).truncations =
        system.truncations := by
  unfold ActivitySystem.completeSpan
  split
  · exact ⟨rfl, rfl, rfl⟩
  · dsimp only
    split <;> exact ⟨rfl, rfl, rfl⟩

theorem completeSpan_step {start : SpanStart} {recordsDetail : Bool}
    (hthread : system.threads[index]? = some thread)
    (howners : thread.call.owners =
      ownedLanes start.query start.workerLane start.ownsWorkerLane)
    (hcall : thread.Ok → start.Ok thread.stack) :
    ∃ later, StepOf system (system.completeSpan index thread start recordsDetail) index thread
      later := by
  have hsplit : thread.owners = ownedLanes start.query start.workerLane start.ownsWorkerLane ++
      thread.frames.flatMap ActivityFrame.owners := by
    rw [ActivityThread.owners, howners]
  unfold ActivitySystem.completeSpan
  split
  · refine ⟨_, hthread, rfl, fun hok => hok.push (fun _ => rfl) fun guard frames hquery hmatch =>
      ⟨hquery, hmatch⟩, .keep rfl ?_⟩
    rw [hsplit]
    exact List.Perm.refl _
  · next hquiet =>
    rw [Bool.or_eq_true, not_or, Bool.not_eq_true', Bool.not_eq_false] at hquiet
    -- nothing is recorded only below a span of the query
    have hok : thread.Ok → ActivityThread.Ok
        { thread with frames := .operator start.query none :: thread.frames, call := .idle } := by
      intro hok
      have hparent := (hcall hok).1
      rw [hquiet.2] at hparent
      refine ⟨hok.stack, ?_, hok.pushes, hok.distinct, ⟨?_, hok.frames⟩, trivial⟩
      · intro frame hframe guard hguard
        rcases List.mem_cons.1 hframe with rfl | hframe
        · cases hguard
        · exact hok.guards frame hframe guard hguard
      · unfold DeltaFunnel.processParentActive at hparent
        rw [← hok.stack]
        rcases hhead : thread.stack.head? with _ | entry
        · rw [hhead] at hparent
          cases hparent
        · rw [hhead, Option.any_some, eq_comm, Bool.and_eq_true, decide_eq_true_eq] at hparent
          exact ⟨entry, rfl, hparent.1⟩
    dsimp only
    split
    · next howns =>
      refine ⟨_, hthread, rfl, hok, .release start.query start.workerLane rfl ?_⟩
      rw [hsplit, ownedLanes, if_pos howns]
      exact List.Perm.refl _
    · next howns =>
      refine ⟨_, hthread, rfl, hok, .keep rfl ?_⟩
      rw [hsplit, ownedLanes, if_neg howns]
      exact List.Perm.refl _

theorem owners_of_idle (hidle : thread.call = .idle) :
    thread.owners = thread.frames.flatMap ActivityFrame.owners := by
  rw [ActivityThread.owners, hidle]
  rfl

theorem setCall_step {call : ActivityCall} (hthread : system.threads[index]? = some thread)
    (hcall : thread.Ok → call.Ok thread.stack) (howners : thread.call.owners = call.owners) :
    StepOf system (system.setThread index { thread with call }) index thread
      { thread with call } := by
  refine ⟨hthread, rfl, fun hok => hok.setCall (hcall hok), .keep rfl ?_⟩
  rw [ActivityThread.owners, howners]
  exact List.Perm.refl _

section Context
variable {identities : OperatorActivityIdentityState} {query : ActivityQuery} {partition : ℕ}
  {isRuntimeTask owns : Bool} {lane : ActivityWorkerLane}

theorem startSpan_step (hthread : system.threads[index]? = some thread)
    (hidle : thread.call = .idle)
    (hcontext : executionContext thread.stack (system.identities query) query partition
      isRuntimeTask true = some (lane, owns, identities)) :
    ∃ later, StepOf system ((system.setIdentities query identities).setThread index
      { thread with
        call := .starting ⟨query, lane, owns, processParentActive thread.stack query lane⟩ })
      index thread later := by
  refine ⟨_, hthread, rfl, fun hok => hok.setCall ⟨rfl, ?_⟩, ?_⟩
  · -- a lane is acquired only where the stack has no span of the query
    intro howns
    rcases executionContext_some hcontext with ⟨hnot, -⟩ | ⟨-, hother, -⟩
    · rw [hnot] at howns
      cases howns
    · show DeltaFunnel.processParentActive thread.stack query lane = false
      unfold DeltaFunnel.processParentActive
      rcases hhead : thread.stack.head? with _ | entry
      · rfl
      · have hquery := hother entry (List.mem_of_mem_head? hhead)
        simp [hquery]
  · rw [owners_of_idle hidle]
    exact laneEffect_context hcontext _

theorem enterTask_step (hthread : system.threads[index]? = some thread)
    (hidle : thread.call = .idle)
    (hcontext : executionContext thread.stack (system.identities query) query partition
      isRuntimeTask false = some (lane, owns, identities)) :
    ∃ later, StepOf system ((system.setIdentities query identities).setThread index
      (thread.pushSpan query lane owns .task)) index thread later := by
  refine ⟨_, hthread, rfl, fun hok => hok.push (fun _ => rfl) fun _ _ _ hmatch => hmatch, ?_⟩
  rw [owners_of_idle hidle]
  exact laneEffect_context hcontext _

end Context

theorem endFrame_step {frame : ActivityFrame} {frames : List ActivityFrame}
    (hthread : system.threads[index]? = some thread) (hidle : thread.call = .idle)
    (hframes : thread.frames = frame :: frames)
    (hstep : (match frame.guard with
      | none => some (system.setThread index { thread with frames })
      | some guard =>
        let dropped := system.setThread index { thread with stack := thread.stack.tail, frames }
        some (if guard.entry.span.ownsWorkerLane then
          dropped.releaseWorkerLane guard.query guard.entry.span.workerLane else dropped)) =
      some next) :
    ∃ later, StepOf system next index thread later ∧ BudgetEffect system next := by
  have howners : thread.owners = frame.owners ++ frames.flatMap ActivityFrame.owners := by
    rw [owners_of_idle hidle, hframes, List.flatMap_cons]
  have hlater : ∀ {stack : List ActivityStackEntry}, ActivityThread.owners
      { thread with stack, frames } = frames.flatMap ActivityFrame.owners :=
    fun {_} => owners_of_idle hidle
  have hpop : thread.Ok → _ := fun hok => hok.pop hidle hframes
  split at hstep
  · next hguard =>
    obtain rfl := Option.some.inj hstep
    rw [hguard] at hpop
    refine ⟨_, ⟨hthread, rfl, hpop, .keep rfl ?_⟩, .keep rfl rfl rfl⟩
    rw [howners, hlater, ActivityFrame.owners, hguard]
    exact List.Perm.refl _
  · next guard hguard =>
    obtain rfl := Option.some.inj hstep
    rw [hguard] at hpop
    have hreleased : frame.owners = ownedLanes guard.query guard.entry.span.workerLane
        guard.entry.span.ownsWorkerLane := by
      rw [ActivityFrame.owners, hguard, Option.elim_some]
    split
    · next howns =>
      refine ⟨_, ⟨hthread, rfl, hpop, .release guard.query guard.entry.span.workerLane rfl ?_⟩,
        .keep rfl rfl rfl⟩
      rw [howners, hreleased, ownedLanes, if_pos howns, hlater]
      exact List.Perm.refl _
    · next howns =>
      refine ⟨_, ⟨hthread, rfl, hpop, .keep rfl ?_⟩, .keep rfl rfl rfl⟩
      rw [howners, hreleased, ownedLanes, if_neg howns, hlater]
      exact List.Perm.refl _

theorem reserved_step {start : SpanStart} {budget : OperatorActivityBudget}
    (hthread : system.threads[index]? = some thread) (hstarting : thread.call = .starting start)
    (hfetch : (system.budgets start.query.operationId).fetchUpdate = some budget) :
    let next := (system.reserved start.query.operationId budget).completeSpan index thread start
      true
    ∃ later, StepOf system next index thread later ∧ BudgetEffect system next := by
  intro next
  obtain ⟨later, hlater⟩ : ∃ later, StepOf
      (system.reserved start.query.operationId budget) next index thread later := by
    refine completeSpan_step hthread (by rw [hstarting]; rfl) fun hok => ?_
    have hcall := hok.call
    rwa [hstarting] at hcall
  obtain ⟨hbudgets, hreservations, htruncations⟩ := completeSpan_budget
  exact ⟨later, ⟨hthread, hlater.threads, hlater.ok, hlater.lanes⟩,
    .reserve _ budget hfetch hbudgets hreservations htruncations⟩

theorem limited_step {start : SpanStart} (hthread : system.threads[index]? = some thread)
    (hlimited : thread.call = .limited start) :
    let next := (system.reportTruncation start.query.operationId).completeSpan index thread start
      false
    ∃ later, StepOf system next index thread later ∧ BudgetEffect system next := by
  intro next
  obtain ⟨later, hlater⟩ : ∃ later, StepOf
      (system.reportTruncation start.query.operationId) next index thread later := by
    refine completeSpan_step hthread (by rw [hlimited]; rfl) fun hok => ?_
    have hcall := hok.call
    rwa [hlimited] at hcall
  obtain ⟨hbudgets, hreservations, htruncations⟩ := completeSpan_budget
  exact ⟨later, ⟨hthread, hlater.threads, hlater.ok, hlater.lanes⟩,
    .report _ hbudgets hreservations htruncations⟩

theorem step_cases {action : ActivityAction} (h : system.step index action = some next) :
    ∃ thread later, StepOf system next index thread later ∧ BudgetEffect system next := by
  unfold ActivitySystem.step at h
  obtain ⟨thread, hthread, hstep⟩ := Option.bind_eq_some_iff.1 h
  clear h
  refine ⟨thread, ?_⟩
  split at hstep
  · next hidle =>
    obtain ⟨_, hcontext, hnext⟩ := Option.bind_eq_some_iff.1 hstep
    obtain rfl := Option.some.inj hnext
    obtain ⟨later, hof⟩ := startSpan_step hthread hidle hcontext
    exact ⟨later, hof, .keep rfl rfl rfl⟩
  · next start hstarting =>
    split at hstep
    · next budget hfetch =>
      obtain rfl := Option.some.inj hstep
      exact reserved_step hthread hstarting hfetch
    · obtain rfl := Option.some.inj hstep
      refine ⟨_, setCall_step hthread (fun hok => ?_) (by rw [hstarting]; rfl), .keep rfl rfl rfl⟩
      have hcall := hok.call
      rwa [hstarting] at hcall
  · next start hlimited =>
    obtain rfl := Option.some.inj hstep
    exact limited_step hthread hlimited
  · next hidle =>
    obtain ⟨_, hcontext, hnext⟩ := Option.bind_eq_some_iff.1 hstep
    obtain rfl := Option.some.inj hnext
    obtain ⟨later, hof⟩ := enterTask_step hthread hidle hcontext
    exact ⟨later, hof, .keep rfl rfl rfl⟩
  · next hidle =>
    split at hstep
    · cases hstep
    · next hframes => exact endFrame_step hthread hidle hframes hstep
  · next operationId hidle =>
    have hsame : system.threads = system.threads.set index thread := by
      obtain ⟨hlt, hget⟩ := List.getElem?_eq_some_iff.1 hthread
      rw [← hget, List.set_getElem_self]
    split at hstep
    · next budget hfetch =>
      obtain rfl := Option.some.inj hstep
      exact ⟨thread, ⟨hthread, hsame, id, .keep rfl (List.Perm.refl _)⟩,
        .reserve operationId budget hfetch rfl rfl rfl⟩
    · obtain rfl := Option.some.inj hstep
      exact ⟨_, setCall_step hthread (fun _ => trivial) (by rw [hidle]; rfl), .keep rfl rfl rfl⟩
  · next operationId hwaiting =>
    obtain rfl := Option.some.inj hstep
    have hof : StepOf (system.reportTruncation operationId) _ index thread
        { thread with call := .idle } :=
      setCall_step hthread (fun _ => trivial) (by rw [hwaiting]; rfl)
    exact ⟨_, ⟨hthread, hof.threads, hof.ok, hof.lanes⟩, .report operationId rfl rfl rfl⟩
  · cases hstep

end Steps

end DeltaFunnel
