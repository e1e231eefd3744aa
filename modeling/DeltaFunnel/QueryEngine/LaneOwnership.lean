import DeltaFunnel.QueryEngine.WorkerLanes
import Mathlib.Data.List.Perm.Subperm

/-! Worker lanes are never shared, whatever the interleaving: every active lane has one live
owner, and the stack of a thread follows its recorders and scopes. -/

namespace DeltaFunnel

/-- Every lane is active once for each of its owners. -/
structure LanesOwned (system : ActivitySystem) : Prop where
  tables : ∀ query, LaneTable (system.identities query)
  counts : ∀ query lane, system.liveOwners.count (query, lane) =
    activeCount lane (system.identities query).workerLanes

/-- Reservations use up the budget, and a truncation is reported with its flag. -/
structure BudgetSpent (maximumSpans : ℕ → ℕ) (system : ActivitySystem) : Prop where
  maximum : ∀ operationId, (system.budgets operationId).maximumSpans = maximumSpans operationId
  remaining : ∀ operationId, (system.budgets operationId).remainingSpans +
    system.reservations.count operationId = maximumSpans operationId
  reported : ∀ operationId, (system.truncations.map Prod.fst).count operationId =
    if (system.budgets operationId).truncationReported then 1 else 0

section Invariants
variable {system next : ActivitySystem} {index : ℕ} {thread later : ActivityThread}

theorem StepOf.owners (h : StepOf system next index thread later) :
    (thread.owners ++ next.liveOwners).Perm (later.owners ++ system.liveOwners) := by
  unfold ActivitySystem.liveOwners
  rw [h.threads]
  exact perm_flatMap_set h.found ActivityThread.owners

theorem LaneEffect.whole {before after : ActivityQuery → OperatorActivityIdentityState}
    {owners owners' all all' : List OwnedLane} (h : LaneEffect before after owners owners')
    (hperm : (owners ++ all').Perm (owners' ++ all)) : LaneEffect before after all all' := by
  cases h with
  | keep hafter howners =>
    refine .keep hafter ?_
    exact ((List.perm_append_left_iff owners').1
      ((howners.append_right all').symm.trans hperm)).symm
  | acquire query kind lane identities hacquire hafter howners =>
    refine .acquire query kind lane identities hacquire hafter ?_
    have hmoved : (owners ++ all').Perm (owners ++ (query, lane) :: all) :=
      (hperm.trans (howners.symm.append_right all)).trans List.perm_middle.symm
    exact ((List.perm_append_left_iff owners).1 hmoved).symm
  | release query lane hafter howners =>
    refine .release query lane hafter ?_
    have hmoved : (owners' ++ (query, lane) :: all').Perm (owners' ++ all) :=
      (List.perm_middle.trans (howners.symm.append_right all')).trans hperm
    exact ((List.perm_append_left_iff owners').1 hmoved).symm

theorem LanesOwned.step (h : LanesOwned system)
    (heffect : LaneEffect system.identities next.identities system.liveOwners next.liveOwners) :
    LanesOwned next ∧ ∀ query kind,
      kindCount kind (next.identities query).workerLanes =
          kindCount kind (system.identities query).workerLanes ∨
        ∀ state ∈ (next.identities query).workerLanes, state.lane.kind = kind →
          state.active = true := by
  obtain ⟨htables, hcounts⟩ := h
  cases heffect with
  | keep hafter howners =>
    refine ⟨⟨fun query => hafter ▸ htables query, fun query lane => ?_⟩,
      fun query kind => .inl (by rw [hafter])⟩
    rw [hafter, ← howners.count_eq, hcounts]
  | acquire query kind lane identities hacquire hafter howners =>
    -- only the lanes of this query change, and only the count of this lane
    obtain ⟨htable, hkind, hactive, hkinds⟩ := (htables query).acquire hacquire
    refine ⟨⟨fun other => ?_, fun other lane' => ?_⟩, fun other kind' => ?_⟩
    · by_cases heq : other = query
      · rw [hafter, heq, Function.update_self]
        exact htable
      · rw [hafter, Function.update_of_ne heq]
        exact htables other
    · rw [← howners.count_eq, List.count_cons, hcounts, hafter]
      by_cases heq : other = query
      · rw [heq, Function.update_self, hactive]
        simp
      · rw [Function.update_of_ne heq, if_neg]
        · rfl
        · simp [Ne.symm heq]
    · by_cases heq : other = query
      · rw [hafter, heq, Function.update_self]
        exact hkinds kind'
      · left
        rw [hafter, Function.update_of_ne heq]
  | release query lane hafter howners =>
    -- the lane to release is active, for it has an owner
    have howned : activeCount lane (system.identities query).workerLanes ≠ 0 := by
      rw [← hcounts, howners.count_eq, List.count_cons_self]
      exact Nat.succ_ne_zero _
    obtain ⟨htable, hactive, hkinds⟩ := (htables query).release howned
    refine ⟨⟨fun other => ?_, fun other lane' => ?_⟩, fun other kind' => .inl ?_⟩
    · by_cases heq : other = query
      · rw [hafter, heq, Function.update_self]
        exact htable
      · rw [hafter, Function.update_of_ne heq]
        exact htables other
    · have hcount := hcounts other lane'
      rw [howners.count_eq, List.count_cons] at hcount
      by_cases heq : other = query
      · rw [heq, hactive] at hcount
        rw [hafter, heq, Function.update_self]
        simpa using hcount
      · rw [if_neg (by simp [Ne.symm heq])] at hcount
        rw [hafter, Function.update_of_ne heq]
        exact hcount
    · by_cases heq : other = query
      · rw [hafter, heq, Function.update_self]
        exact hkinds kind'
      · rw [hafter, Function.update_of_ne heq]

theorem LanesOwned.kindCount_le (h : LanesOwned system) {query : ActivityQuery}
    {kind : ActivityWorkerKind} (hactive : ∀ state ∈ (system.identities query).workerLanes,
      state.lane.kind = kind → state.active = true) :
    kindCount kind (system.identities query).workerLanes ≤
      system.liveOwners.countP fun owned => owned.1 = query ∧ owned.2.kind = kind := by
  set states := (system.identities query).workerLanes with hstates
  have hnodup : (((states.filter fun state => state.lane.kind = kind).map (·.lane)).map
      (Prod.mk query)).Nodup :=
    ((((h.tables query).nodup).sublist ((List.filter_sublist).map _)).map
      fun _ _ heq => (Prod.mk.inj heq).2)
  have hsub : ((states.filter fun state => state.lane.kind = kind).map (·.lane)).map
      (Prod.mk query) ⊆
        system.liveOwners.filter fun owned => owned.1 = query ∧ owned.2.kind = kind := by
    intro owned howned
    obtain ⟨lane, hlane, rfl⟩ := List.mem_map.1 howned
    obtain ⟨state, hstate, rfl⟩ := List.mem_map.1 hlane
    rw [List.mem_filter, decide_eq_true_eq] at hstate
    have hcount : 0 < system.liveOwners.count (query, state.lane) := by
      rw [h.counts, ← hstates]
      refine List.countP_pos_iff.2 ⟨state, hstate.1, ?_⟩
      rw [decide_eq_true_eq]
      exact ⟨rfl, hactive state hstate.1 hstate.2⟩
    rw [List.mem_filter, decide_eq_true_eq]
    exact ⟨List.count_pos_iff.1 hcount, rfl, hstate.2⟩
  have hle := (List.subperm_of_subset hnodup hsub).length_le
  rw [List.length_map, List.length_map, ← List.countP_eq_length_filter,
    ← List.countP_eq_length_filter] at hle
  exact hle

theorem BudgetSpent.step {maximumSpans : ℕ → ℕ} (h : BudgetSpent maximumSpans system)
    (heffect : BudgetEffect system next) : BudgetSpent maximumSpans next := by
  obtain ⟨hmaximum, hremaining, hreported⟩ := h
  cases heffect with
  | keep hbudgets hreservations htruncations =>
    refine ⟨?_, ?_, ?_⟩
    · rw [hbudgets]
      exact hmaximum
    · rw [hbudgets, hreservations]
      exact hremaining
    · rw [hbudgets, htruncations]
      exact hreported
  | reserve operationId budget hfetch hbudgets hreservations htruncations =>
    unfold OperatorActivityBudget.fetchUpdate at hfetch
    split at hfetch
    · cases hfetch
    · next hleft =>
      obtain rfl := Option.some.inj hfetch
      refine ⟨fun other => ?_, fun other => ?_, fun other => ?_⟩
      · rw [hbudgets]
        by_cases heq : other = operationId
        · rw [heq, Function.update_self]
          exact hmaximum operationId
        · rw [Function.update_of_ne heq]
          exact hmaximum other
      · rw [hbudgets, hreservations, List.count_append, List.count_singleton]
        by_cases heq : other = operationId
        · have hsum := hremaining operationId
          rw [heq, Function.update_self, if_pos (beq_self_eq_true _)]
          dsimp only
          omega
        · rw [Function.update_of_ne heq, if_neg (by simp [Ne.symm heq])]
          exact hremaining other
      · rw [hbudgets, htruncations]
        by_cases heq : other = operationId
        · rw [heq, Function.update_self]
          exact hreported operationId
        · rw [Function.update_of_ne heq]
          exact hreported other
  | report operationId hbudgets hreservations htruncations =>
    have hset : next.budgets = Function.update system.budgets operationId
        { system.budgets operationId with truncationReported := true } := hbudgets
    refine ⟨fun other => ?_, fun other => ?_, fun other => ?_⟩
    · rw [hset]
      by_cases heq : other = operationId
      · rw [heq, Function.update_self]
        exact hmaximum operationId
      · rw [Function.update_of_ne heq]
        exact hmaximum other
    · rw [hset, hreservations]
      by_cases heq : other = operationId
      · rw [heq, Function.update_self]
        exact hremaining operationId
      · rw [Function.update_of_ne heq]
        exact hremaining other
    · have hevents : next.truncations =
          if (system.budgets operationId).truncationReported then system.truncations
          else system.truncations ++
            [(operationId, (system.budgets operationId).maximumSpans)] := by
        rw [htruncations]
        unfold ActivitySystem.reportTruncation OperatorActivityBudget.swapReported
        rcases (system.budgets operationId).truncationReported with _ | _ <;> rfl
      have hbefore := hreported other
      rw [hset, hevents]
      by_cases heq : other = operationId
      · rw [heq, Function.update_self]
        rw [heq] at hbefore
        rcases hflag : (system.budgets operationId).truncationReported with _ | _
        · rw [hflag] at hbefore
          simp [hbefore]
        · rw [hflag] at hbefore
          simp [hbefore]
      · rw [Function.update_of_ne heq, ← hbefore]
        split
        · rfl
        · simp [List.count_append, Ne.symm heq]

end Invariants

section Runs
variable {maximumSpans : ℕ → ℕ} {system last : ActivitySystem}
  {actions : List (ℕ × ActivityAction)}

structure ActivityInvariant (maximumSpans : ℕ → ℕ) (system : ActivitySystem) : Prop where
  threads : ∀ thread ∈ system.threads, thread.Ok
  lanes : LanesOwned system
  budgets : BudgetSpent maximumSpans system

theorem ActivityInvariant.new (threads : ℕ) (maximumSpans : ℕ → ℕ) :
    ActivityInvariant maximumSpans (.new threads maximumSpans) := by
  have hidle : (ActivitySystem.new threads maximumSpans).liveOwners = [] := by
    refine List.flatMap_eq_nil_iff.2 fun thread hthread => ?_
    rw [(List.mem_replicate.1 hthread).2]
    rfl
  refine ⟨fun thread hthread => ?_, ⟨fun _ => ⟨rfl, rfl, Nat.zero_le _⟩, fun _ _ => ?_⟩,
    ⟨fun _ => rfl, fun _ => rfl, fun _ => rfl⟩⟩
  · rw [(List.mem_replicate.1 hthread).2]
    exact .new
  · rw [hidle]
    rfl

theorem ActivityInvariant.step {next : ActivitySystem} {index : ℕ} {action : ActivityAction}
    (h : ActivityInvariant maximumSpans system) (hstep : system.step index action = some next) :
    ActivityInvariant maximumSpans next := by
  obtain ⟨thread, later, hof, hbudget⟩ := step_cases hstep
  refine ⟨fun other hother => ?_, (h.lanes.step (hof.lanes.whole hof.owners)).1,
    h.budgets.step hbudget⟩
  rw [hof.threads] at hother
  rcases List.mem_or_eq_of_mem_set hother with hother | rfl
  · exact h.threads other hother
  · exact hof.ok (h.threads thread (List.mem_of_getElem? hof.found))

theorem ActivityInvariant.run (h : ActivityInvariant maximumSpans system)
    (hrun : system.run actions = some last) : ActivityInvariant maximumSpans last := by
  induction actions generalizing system with
  | nil =>
    obtain rfl := Option.some.inj hrun
    exact h
  | cons action actions ih =>
    obtain ⟨next, hstep, hrest⟩ := Option.bind_eq_some_iff.1 hrun
    exact ih (h.step hstep) hrest

theorem ActivityInvariant.peak (h : ActivityInvariant maximumSpans system)
    (hrun : system.run actions = some last) (query : ActivityQuery) (kind : ActivityWorkerKind) :
    kindCount kind (last.identities query).workerLanes =
        kindCount kind (system.identities query).workerLanes ∨
      ∃ earlier later middle, actions = earlier ++ later ∧
        system.run earlier = some middle ∧
        kindCount kind (last.identities query).workerLanes ≤
          middle.liveOwners.countP fun owned => owned.1 = query ∧ owned.2.kind = kind := by
  induction actions generalizing system with
  | nil =>
    obtain rfl := Option.some.inj hrun
    exact .inl rfl
  | cons action actions ih =>
    obtain ⟨next, hstep, hrest⟩ := Option.bind_eq_some_iff.1 hrun
    have hfirst : system.run [action] = some next := Option.bind_eq_some_iff.2 ⟨next, hstep, rfl⟩
    rcases ih (h.step hstep) hrest with hsame | ⟨earlier, later, middle, rfl, hearlier, hle⟩
    · obtain ⟨thread, after, hof, -⟩ := step_cases hstep
      obtain ⟨hlanes, hkinds⟩ := h.lanes.step (hof.lanes.whole hof.owners)
      rcases hkinds query kind with hkept | hactive
      · exact .inl (hsame.trans hkept)
      · right
        refine ⟨[action], actions, next, rfl, hfirst, ?_⟩
        rw [hsame]
        exact hlanes.kindCount_le hactive
    · right
      refine ⟨action :: earlier, later, middle, rfl, ?_, hle⟩
      exact Option.bind_eq_some_iff.2 ⟨next, hstep, hearlier⟩

/-- Whatever the interleaving of the threads, the nesting of queries on them and the budgets:
the lanes of a query have different positive ids; a lane is active exactly while it has an
owner, which then is the only one; the lanes of a kind never outnumber the owners that were
live together at some point; the top entry of a stack is the one the innermost recorder or
scope pushed; reservations and truncation events stay within the budget; and an instrumented
operator always runs below a span of its own query. -/
theorem worker_lanes_never_overlap {threads : ℕ}
    (hrun : (ActivitySystem.new threads maximumSpans).run actions = some system) :
    (∀ query, ((system.identities query).workerLanes.map (·.lane.id)).Nodup ∧
        ∀ state ∈ (system.identities query).workerLanes, 1 ≤ state.lane.id) ∧
      (∀ query lane, (query, lane) ∈ system.liveOwners →
        ∃ state ∈ (system.identities query).workerLanes, state.lane = lane) ∧
      (∀ query, ∀ state ∈ (system.identities query).workerLanes,
        system.liveOwners.count (query, state.lane) = if state.active then 1 else 0) ∧
      (∀ query kind, ∃ earlier later middle, actions = earlier ++ later ∧
        (ActivitySystem.new threads maximumSpans).run earlier = some middle ∧
        kindCount kind (system.identities query).workerLanes ≤
          middle.liveOwners.countP fun owned => owned.1 = query ∧ owned.2.kind = kind) ∧
      (∀ thread ∈ system.threads,
        (thread.stack.map (·.push)).Nodup ∧
          (∀ frame frames guard, thread.frames = frame :: frames → frame.guard = some guard →
            thread.stack.head? = some guard.entry) ∧
          ∀ query recorder frames, thread.frames = .operator query recorder :: frames →
            ∃ entry, thread.stack.head? = some entry ∧ entry.span.query = query) ∧
      ∀ operationId, system.reservations.count operationId ≤ maximumSpans operationId ∧
        (system.truncations.map Prod.fst).count operationId ≤ 1 := by
  have hnew := ActivityInvariant.new threads maximumSpans
  obtain ⟨hthreads, hlanes, hbudgets⟩ := hnew.run hrun
  refine ⟨fun query => ⟨?_, ?_⟩, ?_, ?_, ?_, ?_, fun operationId => ⟨?_, ?_⟩⟩
  · rw [(hlanes.tables query).ids]
    exact List.nodup_range'
  · intro state hstate
    have hid : state.lane.id ∈ List.range' 1 (system.identities query).workerLanes.length := by
      rw [← (hlanes.tables query).ids]
      exact List.mem_map_of_mem hstate
    exact (List.mem_range'_1.1 hid).1
  · intro query lane howned
    have hcount := List.count_pos_iff.2 howned
    rw [hlanes.counts] at hcount
    obtain ⟨state, hstate, hboth⟩ := List.countP_pos_iff.1 hcount
    exact ⟨state, hstate, (of_decide_eq_true hboth).1⟩
  · intro query state hstate
    -- ids are distinct, so only this state counts for its lane
    obtain ⟨before, after, hsplit⟩ := List.append_of_mem hstate
    have hnodup := (hlanes.tables query).nodup
    rw [hsplit, List.map_append, List.map_cons, List.nodup_append, List.nodup_cons] at hnodup
    obtain ⟨-, ⟨hafter, -⟩, hbefore⟩ := hnodup
    have hzero : ∀ states : List ActivityWorkerLaneState,
        (∀ other ∈ states, other.lane ≠ state.lane) → activeCount state.lane states = 0 := by
      intro states hstates
      refine List.countP_eq_zero.2 fun other hother hboth => ?_
      exact hstates other hother (of_decide_eq_true hboth).1
    have h₁ := hzero before fun other hother => hbefore other.lane
      (List.mem_map_of_mem hother) state.lane (List.mem_cons_self ..)
    have h₂ := hzero after fun other hother heq => hafter (heq ▸ List.mem_map_of_mem hother)
    rw [hlanes.counts, hsplit]
    unfold activeCount at h₁ h₂ ⊢
    rw [List.countP_append, List.countP_cons, h₁, h₂]
    simp
  · intro query kind
    -- the moment at which the kind got its last lane
    rcases hnew.peak hrun query kind with hnone | hpeak
    · refine ⟨[], actions, _, rfl, rfl, ?_⟩
      rw [hnone]
      exact Nat.zero_le _
    · exact hpeak
  · intro thread hthread
    have hok := hthreads thread hthread
    refine ⟨?_, ?_, fun query recorder frames hframes => hok.top hframes⟩
    · refine List.pairwise_map.2 (hok.distinct.imp ?_)
      intro above below hlt heq
      rw [heq] at hlt
      exact Nat.lt_irrefl _ hlt
    · intro frame frames guard hframes hguard
      rw [hok.stack, hframes, frameEntries, List.filterMap_cons, hguard]
      rfl
  · rw [← hbudgets.remaining operationId]
    exact Nat.le_add_left _ _
  · rw [hbudgets.reported operationId]
    split
    · exact Nat.le_refl 1
    · exact Nat.zero_le 1

/-- Two threads of one query with a budget of one span. The second operator on the first thread
runs without a recorder of its own, and both operators end; the first task on the second thread
drops its lane, and the second one takes it again. -/
theorem nested_operators_keep_lanes :
    ∃ system, (ActivitySystem.new 2 fun _ => 1).run
        [(0, .startSpan ⟨1, 1⟩ 1 false), (0, .reserve), (1, .enterTask ⟨1, 1⟩ 0 true),
          (0, .startSpan ⟨1, 1⟩ 1 false), (0, .reserve), (0, .reportLimit), (1, .endFrame),
          (0, .endFrame), (0, .endFrame), (1, .enterTask ⟨1, 1⟩ 2 true)] = some system ∧
      (system.identities ⟨1, 1⟩).workerLanes =
        [⟨⟨1, .external⟩, false⟩, ⟨⟨2, .runtime⟩, true⟩] ∧
      system.liveOwners.count (⟨1, 1⟩, ⟨1, .external⟩) = 0 ∧
      system.liveOwners.count (⟨1, 1⟩, ⟨2, .runtime⟩) = 1 ∧ system.truncations = [(1, 1)] := by
  obtain ⟨system, hrun, hlanes, htruncations⟩ : ∃ system, (ActivitySystem.new 2 fun _ => 1).run
        [(0, .startSpan ⟨1, 1⟩ 1 false), (0, .reserve), (1, .enterTask ⟨1, 1⟩ 0 true),
          (0, .startSpan ⟨1, 1⟩ 1 false), (0, .reserve), (0, .reportLimit), (1, .endFrame),
          (0, .endFrame), (0, .endFrame), (1, .enterTask ⟨1, 1⟩ 2 true)] = some system ∧
      (system.identities ⟨1, 1⟩).workerLanes =
        [⟨⟨1, .external⟩, false⟩, ⟨⟨2, .runtime⟩, true⟩] ∧ system.truncations = [(1, 1)] :=
    ⟨_, rfl, rfl, rfl⟩
  obtain ⟨-, -, howners, -⟩ := worker_lanes_never_overlap hrun
  refine ⟨system, hrun, hlanes, ?_, ?_, htruncations⟩
  · exact howners ⟨1, 1⟩ ⟨⟨1, .external⟩, false⟩ (hlanes ▸ List.mem_cons_self ..)
  · exact howners ⟨1, 1⟩ ⟨⟨2, .runtime⟩, true⟩
      (hlanes ▸ List.mem_cons_of_mem _ (List.mem_cons_self ..))

end Runs
end DeltaFunnel
