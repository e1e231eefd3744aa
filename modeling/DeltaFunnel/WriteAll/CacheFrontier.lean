import DeltaFunnel.WriteAll.CacheUse

/-! Automatic cache selection: the planner selects exactly the frontier, explains every other
alias, and is never ambiguous. -/

namespace DeltaFunnel
open Relation

theorem map_fst_filter_zipIdx {α : Type} {xs : List α} {p : α × ℕ → Bool} {q : α → Bool}
    (h : ∀ e ∈ xs.zipIdx, p e = q e.1) : (xs.zipIdx.filter p).map Prod.fst = xs.filter q := by
  rw [List.filter_congr h]
  conv_rhs => rw [← List.zipIdx_map_fst 0 xs, List.filter_map]
  rfl

theorem filterMap_zipIdx {α β : Type} {xs : List α} {f : α × ℕ → Option β} {g : α → Option β}
    (h : ∀ e ∈ xs.zipIdx, f e = g e.1) : xs.zipIdx.filterMap f = xs.filterMap g := by
  rw [List.filterMap_congr h]
  conv_rhs => rw [← List.zipIdx_map_fst 0 xs, List.filterMap_map]
  rfl

theorem eq_of_mem_zipIdx {α : Type} {xs : List α} {e e' : α × ℕ} (he : e ∈ xs.zipIdx)
    (he' : e' ∈ xs.zipIdx) (hindex : e.2 = e'.2) : e = e' := by
  obtain ⟨x, i⟩ := e
  obtain ⟨y, j⟩ := e'
  rw [List.mem_zipIdx_iff_getElem?] at he he'
  simp only at hindex he he'
  subst hindex
  rw [he] at he'
  rw [Option.some.inj he']

variable {Provider Schema : Type}

namespace Session

section Selection
variable (session : Session Provider Schema) (candidates : List MssqlDerivedCacheAliasPlan)

/-- No candidate is deeper. -/
def uncovered (candidate : MssqlDerivedCacheAliasPlan) : Bool :=
  !candidates.any fun other => session.cacheCandidateIsDeeperThan other candidate

/-- The cover recorded for a candidate that is not on the frontier. -/
def coverOf (candidate : MssqlDerivedCacheAliasPlan) : Option MssqlCoveredCacheAlias :=
  if session.uncovered candidates candidate then none
  else
    ((candidates.filter (session.uncovered candidates)).find? fun selected =>
      session.cacheCandidateIsDeeperThan selected candidate).map fun selected =>
        ⟨candidate, selected.tableId⟩

variable {session candidates}

theorem not_deeper_self (candidate : MssqlDerivedCacheAliasPlan) :
    session.cacheCandidateIsDeeperThan candidate candidate = false := by
  simp [cacheCandidateIsDeeperThan]

theorem coveredByDeeperCandidate_eq {candidate : MssqlDerivedCacheAliasPlan × ℕ}
    (hcandidate : candidate ∈ candidates.zipIdx) :
    (!session.coveredByDeeperCandidate candidates candidate) =
      session.uncovered candidates candidate.1 := by
  rw [uncovered, coveredByDeeperCandidate]
  congr 1
  conv_rhs => rw [← List.zipIdx_map_fst 0 candidates, List.any_map]
  rw [Bool.eq_iff_iff, List.any_eq_true, List.any_eq_true]
  refine exists_congr fun other => and_congr_right fun hother => ?_
  by_cases hindex : candidate.2 = other.2
  · rw [eq_of_mem_zipIdx hcandidate hother hindex]
    simp [not_deeper_self]
  · simp [hindex]

theorem selectSharedCacheFrontier_eq :
    session.selectSharedCacheFrontier candidates =
      if (candidates.filter (session.uncovered candidates)).isEmpty then .ambiguous candidates
      else if (candidates.filter (session.uncovered candidates)).length +
          (candidates.filterMap (session.coverOf candidates)).length ≠ candidates.length then
        .ambiguous candidates
      else .selected (candidates.filter (session.uncovered candidates))
        (candidates.filterMap (session.coverOf candidates)) := by
  have hdeepest : (candidates.zipIdx.filter fun candidate =>
      !session.coveredByDeeperCandidate candidates candidate).map Prod.fst =
      candidates.filter (session.uncovered candidates) :=
    map_fst_filter_zipIdx fun e he => coveredByDeeperCandidate_eq he
  have hindex : ∀ e ∈ candidates.zipIdx, e.2 ∈ ((candidates.zipIdx.filter fun candidate =>
      !session.coveredByDeeperCandidate candidates candidate).map Prod.snd) ↔
      session.uncovered candidates e.1 = true := by
    intro e he
    rw [List.mem_map]
    constructor
    · rintro ⟨e', he', hsame⟩
      obtain ⟨hmem, huncovered⟩ := List.mem_filter.1 he'
      rw [eq_of_mem_zipIdx he hmem hsame.symm, ← coveredByDeeperCandidate_eq hmem]
      exact huncovered
    · intro huncovered
      refine ⟨e, List.mem_filter.2 ⟨he, ?_⟩, rfl⟩
      rw [coveredByDeeperCandidate_eq he]
      exact huncovered
  have hcovered : (candidates.zipIdx.filterMap fun candidate =>
      if candidate.2 ∈ ((candidates.zipIdx.filter fun candidate =>
        !session.coveredByDeeperCandidate candidates candidate).map Prod.snd) then none
      else
        ((candidates.filter (session.uncovered candidates)).find? fun selected =>
          session.cacheCandidateIsDeeperThan selected candidate.1).map fun selected =>
            (⟨candidate.1, selected.tableId⟩ : MssqlCoveredCacheAlias)) =
      candidates.filterMap (session.coverOf candidates) :=
    filterMap_zipIdx fun e he => by
      simp only [hindex e he, coverOf]
  have hempty : (candidates.zipIdx.filter fun candidate =>
      !session.coveredByDeeperCandidate candidates candidate).isEmpty =
      (candidates.filter (session.uncovered candidates)).isEmpty := by
    rw [← hdeepest, List.isEmpty_map]
  unfold selectSharedCacheFrontier
  simp only [hdeepest, hcovered, hempty]
  rw [← hdeepest, List.length_map, List.length_map]

end Selection

section Depth
variable {session : Session Provider Schema} {requests : List OutputWritePlan}

theorem Consistent.deeper_iff (h : session.Consistent) {a b : RegisteredDerivedTable Schema}
    (ha : a ∈ session.derivedTables) (hb : b ∈ session.derivedTables) {is js : List ℕ} :
    session.cacheCandidateIsDeeperThan (.fromRegistered a is) (.fromRegistered b js) = true ↔
      TransGen session.DerivedEdge a.table.id b.table.id := by
  unfold cacheCandidateIsDeeperThan
  by_cases hid : a.table.id = b.table.id
  · simp only [MssqlDerivedCacheAliasPlan.fromRegistered_tableId, hid, if_true]
    refine ⟨nofun, fun hpath => ?_⟩
    have hlt := h.path_lt hpath
    omega
  · simp only [MssqlDerivedCacheAliasPlan.fromRegistered_tableId, if_neg hid,
      h.registeredDerivedTableById_eq ha, h.registeredDerivedTableById_eq hb]
    rw [h.uses_iff, h.uses_registered_iff ha hid]

def candidateFor (session : Session Provider Schema) (requests : List OutputWritePlan)
    (derived : RegisteredDerivedTable Schema) : MssqlDerivedCacheAliasPlan :=
  .fromRegistered derived (session.outputIndexes requests derived)

theorem Consistent.uncovered_iff (h : session.Consistent)
    {derived : RegisteredDerivedTable Schema} (hmem : derived ∈ session.derivedTables)
    (heligible : session.Eligible requests derived) :
    session.uncovered (session.sharedMssqlOutputCacheCandidates requests).1
      (session.candidateFor requests derived) = true ↔ session.Frontier requests derived := by
  rw [uncovered, Bool.not_eq_true', List.any_eq_false]
  constructor
  · intro hnone
    refine ⟨heligible, fun other hother hothers hpath => ?_⟩
    have hcandidate := h.mem_candidates.2 ⟨other, hother, hothers, rfl⟩
    exact hnone _ hcandidate ((h.deeper_iff hother hmem).2 hpath)
  · intro hfrontier plan hplan hdeeper
    obtain ⟨other, hother, hothers, rfl⟩ := h.mem_candidates.1 hplan
    exact hfrontier.uncovered other hother hothers ((h.deeper_iff hother hmem).1 hdeeper)

/-- Climbing from an eligible alias to the eligible aliases that depend on it ends on the
frontier, as ids grow along the way. -/
theorem Consistent.exists_frontier (h : session.Consistent)
    {derived : RegisteredDerivedTable Schema} (hmem : derived ∈ session.derivedTables)
    (heligible : session.Eligible requests derived) :
    ∃ top ∈ session.derivedTables, session.Frontier requests top ∧
      ReflTransGen session.DerivedEdge top.table.id derived.table.id := by
  have hlt : ∀ other ∈ session.derivedTables, other.table.id < session.nextTableId := by
    intro other hother
    apply h.ids_lt
    simp only [tableIds, List.mem_append, List.mem_map]
    exact .inl (.inr ⟨other, hother, rfl⟩)
  generalize hdistance : session.nextTableId - derived.table.id = distance
  induction distance using Nat.strong_induction_on generalizing derived with
  | _ distance ih =>
    by_cases hfrontier : session.Frontier requests derived
    · exact ⟨derived, hmem, hfrontier, .refl⟩
    · have hcovered : ∃ other ∈ session.derivedTables, session.Eligible requests other ∧
          TransGen session.DerivedEdge other.table.id derived.table.id := by
        by_contra hnone
        push Not at hnone
        exact hfrontier ⟨heligible, hnone⟩
      obtain ⟨other, hother, hothers, hpath⟩ := hcovered
      have hcloser : session.nextTableId - other.table.id < distance := by
        have := h.path_lt hpath
        have := hlt other hother
        omega
      obtain ⟨top, htop, hfrontier, htopPath⟩ := ih _ hcloser hother hothers rfl
      exact ⟨top, htop, hfrontier, htopPath.trans hpath.to_reflTransGen⟩

theorem Consistent.coverOf_eq (h : session.Consistent)
    {derived : RegisteredDerivedTable Schema} (hmem : derived ∈ session.derivedTables)
    (heligible : session.Eligible requests derived) :
    (session.Frontier requests derived ∧
      session.coverOf (session.sharedMssqlOutputCacheCandidates requests).1
        (session.candidateFor requests derived) = none) ∨
    (¬session.Frontier requests derived ∧ ∃ top ∈ session.derivedTables,
      session.Frontier requests top ∧
      TransGen session.DerivedEdge top.table.id derived.table.id ∧
      session.coverOf (session.sharedMssqlOutputCacheCandidates requests).1
        (session.candidateFor requests derived) =
          some ⟨session.candidateFor requests derived, top.table.id⟩) := by
  have hiff := h.uncovered_iff hmem heligible
  by_cases hfrontier : session.Frontier requests derived
  · refine .inl ⟨hfrontier, ?_⟩
    rw [coverOf, if_pos (hiff.2 hfrontier)]
  · refine .inr ⟨hfrontier, ?_⟩
    rw [coverOf, if_neg fun huncovered => hfrontier (hiff.1 huncovered)]
    rcases hfind : List.find? (fun selected => session.cacheCandidateIsDeeperThan selected
        (session.candidateFor requests derived))
        ((session.sharedMssqlOutputCacheCandidates requests).1.filter
          (session.uncovered (session.sharedMssqlOutputCacheCandidates requests).1)) with _ | found
    · -- The frontier alias above `derived` would have been found.
      obtain ⟨top, htop, htopFrontier, hpath⟩ := h.exists_frontier hmem heligible
      rcases reflTransGen_iff_eq_or_transGen.1 hpath with heq | hpath
      · rw [h.derived_eq_of_id hmem htop heq] at hfrontier
        exact absurd htopFrontier hfrontier
      · have hselected : session.candidateFor requests top ∈
            (session.sharedMssqlOutputCacheCandidates requests).1.filter
              (session.uncovered (session.sharedMssqlOutputCacheCandidates requests).1) :=
          List.mem_filter.2 ⟨h.mem_candidates.2 ⟨top, htop, htopFrontier.eligible, rfl⟩,
            (h.uncovered_iff htop htopFrontier.eligible).2 htopFrontier⟩
        have hnot := List.find?_eq_none.1 hfind _ hselected
        exact absurd ((h.deeper_iff htop hmem).2 hpath) hnot
    · obtain ⟨hcandidate, huncovered⟩ := List.mem_filter.1 (List.mem_of_find?_eq_some hfind)
      obtain ⟨top, htop, htopEligible, rfl⟩ := h.mem_candidates.1 hcandidate
      have hdeeper := List.find?_some hfind
      refine ⟨top, htop, (h.uncovered_iff htop htopEligible).1 huncovered, ?_, rfl⟩
      exact (h.deeper_iff htop hmem).1 hdeeper

end Depth

section Plan
variable {session : Session Provider Schema} {requests : List OutputWritePlan}

theorem Consistent.covered_candidates (h : session.Consistent)
    (requests : List OutputWritePlan) :
    ((session.sharedMssqlOutputCacheCandidates requests).1.filterMap
      (session.coverOf (session.sharedMssqlOutputCacheCandidates requests).1)).map
        (·.aliasPlan) =
      (session.sharedMssqlOutputCacheCandidates requests).1.filter fun candidate =>
        !session.uncovered (session.sharedMssqlOutputCacheCandidates requests).1 candidate := by
  rw [List.map_filterMap, ← List.filterMap_eq_filter]
  refine List.filterMap_congr fun candidate hcandidate => ?_
  obtain ⟨derived, hmem, heligible, rfl⟩ := h.mem_candidates.1 hcandidate
  have hiff := h.uncovered_iff hmem heligible
  change Option.map _ (session.coverOf _ (session.candidateFor requests derived)) =
    Option.guard _ (session.candidateFor requests derived)
  rcases h.coverOf_eq hmem heligible with ⟨hfrontier, hcover⟩ | ⟨hfrontier, top, -, -, -, hcover⟩
  · simp [hcover, hiff.2 hfrontier, Option.guard]
  · have huncovered : session.uncovered (session.sharedMssqlOutputCacheCandidates requests).1
        (session.candidateFor requests derived) = false := by
      rw [Bool.eq_false_iff]
      exact fun huncovered => hfrontier (hiff.1 huncovered)
    simp [hcover, huncovered, Option.guard]

theorem selectSharedCacheFrontier_selected (h : session.Consistent)
    (hne : (session.sharedMssqlOutputCacheCandidates requests).1 ≠ []) :
    session.selectSharedCacheFrontier (session.sharedMssqlOutputCacheCandidates requests).1 =
      .selected
        ((session.sharedMssqlOutputCacheCandidates requests).1.filter
          (session.uncovered (session.sharedMssqlOutputCacheCandidates requests).1))
        ((session.sharedMssqlOutputCacheCandidates requests).1.filterMap
          (session.coverOf (session.sharedMssqlOutputCacheCandidates requests).1)) := by
  have hcovered := congrArg List.length (h.covered_candidates requests)
  rw [List.length_map] at hcovered
  obtain ⟨candidate, hcandidate⟩ := List.exists_mem_of_ne_nil _ hne
  obtain ⟨derived, hmem, heligible, -⟩ := h.mem_candidates.1 hcandidate
  obtain ⟨top, htop, hfrontier, -⟩ := h.exists_frontier hmem heligible
  have hselected : session.candidateFor requests top ∈
      (session.sharedMssqlOutputCacheCandidates requests).1.filter
        (session.uncovered (session.sharedMssqlOutputCacheCandidates requests).1) :=
    List.mem_filter.2 ⟨h.mem_candidates.2 ⟨top, htop, hfrontier.eligible, rfl⟩,
      (h.uncovered_iff htop hfrontier.eligible).2 hfrontier⟩
  have hnonempty : ¬((session.sharedMssqlOutputCacheCandidates requests).1.filter
      (session.uncovered (session.sharedMssqlOutputCacheCandidates requests).1)).isEmpty := by
    intro hempty
    rw [List.isEmpty_iff.1 hempty] at hselected
    cases hselected
  rw [selectSharedCacheFrontier_eq, if_neg hnonempty, hcovered,
    ← List.length_eq_length_filter_add, if_neg (by simp)]

theorem Consistent.planMssqlOutputCache_eq (h : session.Consistent)
    (hlength : 2 ≤ requests.length) :
    session.planMssqlOutputCache requests =
      ⟨if (session.sharedMssqlOutputCacheCandidates requests).1 = [] then
          .noCache .noSharedRegisteredDerivedAlias
        else .cacheAliases ((session.sharedMssqlOutputCacheCandidates requests).1.filter
          (session.uncovered (session.sharedMssqlOutputCacheCandidates requests).1)),
        (session.sharedMssqlOutputCacheCandidates requests).2 ++ session.skipsFor
          (((session.sharedMssqlOutputCacheCandidates requests).1.filterMap
            (session.coverOf (session.sharedMssqlOutputCacheCandidates requests).1)).map
            fun covered => (covered.aliasPlan.tableId,
              .coveredByDeeperSharedAlias covered.selectedTableId))⟩ := by
  have hselect := @selectSharedCacheFrontier_selected _ _ _ requests h
  unfold planMssqlOutputCache
  rw [if_neg (by omega)]
  revert hselect
  rcases session.sharedMssqlOutputCacheCandidates requests with ⟨candidates, skipped⟩
  intro hselect
  match candidates, hselect with
  | [], _ => simp [skipsFor]
  | [candidate], _ =>
    -- A single candidate is its own frontier.
    have huncovered : session.uncovered [candidate] candidate = true := by
      simp [uncovered, not_deeper_self]
    simp [coverOf, huncovered, skipsFor]
  | first :: second :: rest, hselect =>
    simp only [hselect (by simp), List.cons_ne_nil, if_false]

theorem Consistent.cached_eq (h : session.Consistent) (hlength : 2 ≤ requests.length) :
    (session.planMssqlOutputCache requests).decision.cached =
      (session.sharedMssqlOutputCacheCandidates requests).1.filter
        (session.uncovered (session.sharedMssqlOutputCacheCandidates requests).1) := by
  rw [h.planMssqlOutputCache_eq hlength]
  dsimp only
  split_ifs with hnil
  · rw [hnil]
    rfl
  · rfl

theorem Consistent.mem_cached (h : session.Consistent) (hlength : 2 ≤ requests.length)
    {plan : MssqlDerivedCacheAliasPlan} :
    plan ∈ (session.planMssqlOutputCache requests).decision.cached ↔
      ∃ derived ∈ session.derivedTables, session.Frontier requests derived ∧
        plan = session.candidateFor requests derived := by
  rw [h.cached_eq hlength, List.mem_filter, h.mem_candidates]
  constructor
  · rintro ⟨⟨derived, hmem, heligible, rfl⟩, huncovered⟩
    exact ⟨derived, hmem, (h.uncovered_iff hmem heligible).1 huncovered, rfl⟩
  · rintro ⟨derived, hmem, hfrontier, rfl⟩
    exact ⟨⟨derived, hmem, hfrontier.eligible, rfl⟩,
      (h.uncovered_iff hmem hfrontier.eligible).2 hfrontier⟩

theorem Consistent.skipsFor_map (h : session.Consistent) {β : Type} {entries : List β}
    {plan : β → MssqlDerivedCacheAliasPlan} {reason : β → MssqlCacheCandidateSkipReason}
    (hregistered : ∀ entry ∈ entries, ∃ derived ∈ session.derivedTables,
      (plan entry).key = derived.key) :
    session.skipsFor (entries.map fun entry => ((plan entry).tableId, reason entry)) =
      entries.map fun entry => ⟨(plan entry).tableId, (plan entry).aliasName, reason entry⟩ := by
  induction entries with
  | nil => rfl
  | cons entry entries ih =>
    obtain ⟨derived, hmem, hkey⟩ := hregistered entry (List.mem_cons_self ..)
    have hid : (plan entry).tableId = derived.table.id := congrArg Prod.fst hkey
    have hname : (plan entry).aliasName = derived.name := congrArg Prod.snd hkey
    have hrest := ih fun entry hentry => hregistered entry (List.mem_cons_of_mem _ hentry)
    rw [skipsFor] at hrest
    rw [skipsFor, List.map_cons, List.map_cons, List.filterMap_cons, hid,
      h.registeredDerivedTableById_eq hmem, Option.map_some, hrest, hname]
    rfl

def coveredSkip (covered : MssqlCoveredCacheAlias) : MssqlCacheCandidateSkip :=
  ⟨covered.aliasPlan.tableId, covered.aliasPlan.aliasName,
    .coveredByDeeperSharedAlias covered.selectedTableId⟩

theorem Consistent.skipped_eq (h : session.Consistent) (hlength : 2 ≤ requests.length) :
    (session.planMssqlOutputCache requests).skippedCandidates =
      (session.sharedMssqlOutputCacheCandidates requests).2 ++
        ((session.sharedMssqlOutputCacheCandidates requests).1.filterMap
          (session.coverOf (session.sharedMssqlOutputCacheCandidates requests).1)).map
            coveredSkip := by
  rw [h.planMssqlOutputCache_eq hlength]
  dsimp only
  congr 1
  refine h.skipsFor_map fun covered hcovered => ?_
  have hplan : covered.aliasPlan ∈ (session.sharedMssqlOutputCacheCandidates requests).1 := by
    have hmem := List.mem_map_of_mem (f := (·.aliasPlan)) hcovered
    rw [h.covered_candidates requests] at hmem
    exact (List.mem_filter.1 hmem).1
  obtain ⟨derived, hmem, -, hplan⟩ := h.mem_candidates.1 hplan
  exact ⟨derived, hmem, by rw [hplan]; rfl⟩

theorem Consistent.plan_perm (h : session.Consistent) (hlength : 2 ≤ requests.length) :
    ((session.planMssqlOutputCache requests).decision.cached.map (·.key) ++
      (session.planMssqlOutputCache requests).skippedCandidates.map (·.key)).Perm
      (session.derivedTables.map (·.key)) := by
  have hkeys : ((session.sharedMssqlOutputCacheCandidates requests).1.filterMap
      (session.coverOf (session.sharedMssqlOutputCacheCandidates requests).1)).map
        (fun covered => (coveredSkip covered).key) =
      ((session.sharedMssqlOutputCacheCandidates requests).1.filter fun candidate =>
        !session.uncovered (session.sharedMssqlOutputCacheCandidates requests).1 candidate).map
          (·.key) := by
    rw [← h.covered_candidates requests, List.map_map]
    rfl
  rw [h.cached_eq hlength, h.skipped_eq hlength, List.map_append, List.map_map]
  change (_ ++ (_ ++ List.map (fun covered => (coveredSkip covered).key) _)).Perm _
  rw [hkeys]
  refine List.Perm.trans ?_ (h.candidates_perm requests)
  refine (List.perm_append_comm.append_left _).trans ?_
  rw [← List.append_assoc, ← List.map_append]
  exact ((List.filter_append_perm _ _).map _).append_right _

theorem Consistent.keys_nodup (h : session.Consistent) :
    (session.derivedTables.map (·.key)).Nodup := by
  refine List.Nodup.of_map Prod.fst ?_
  rw [List.map_map]
  exact h.derived_ids_nodup

end Plan

/-- **Automatic cache frontier.** For any session history and at least two requests, the plan
lists every registered alias once, caches exactly the eligible aliases that no other eligible
alias depends on, each with the requests that use it, and skips the other eligible ones as
covered by a cached alias that depends on them. -/
theorem automatic_selection_is_the_frontier (calls : List (SessionCall Provider Schema))
    (hbound : (fresh.run calls).tableCount < u64Max) (requests : List OutputWritePlan)
    (hlength : 2 ≤ requests.length) :
    let session := fresh.run calls
    let plan := session.planMssqlOutputCache requests
    ((plan.decision.cached.map (·.key) ++ plan.skippedCandidates.map (·.key)).Perm
        (session.derivedTables.map (·.key)) ∧
      (plan.decision.cached.map (·.key) ++ plan.skippedCandidates.map (·.key)).Nodup) ∧
    plan.decision ≠ .noCache .ambiguousSharedDerivedAlias ∧
    (∀ derived ∈ session.derivedTables,
      (derived.key ∈ plan.decision.cached.map (·.key) ↔ session.Frontier requests derived)) ∧
    (∀ cached ∈ plan.decision.cached, cached.outputIndexes.Pairwise (· < ·) ∧
      ∀ index, index ∈ cached.outputIndexes ↔ session.UsedAt requests cached.tableId index) ∧
    ∀ derived ∈ session.derivedTables, session.Eligible requests derived →
      ¬session.Frontier requests derived →
      ∃ top ∈ session.derivedTables, session.Frontier requests top ∧
        TransGen session.DerivedEdge top.table.id derived.table.id ∧
        ⟨derived.table.id, derived.name, .coveredByDeeperSharedAlias top.table.id⟩ ∈
          plan.skippedCandidates := by
  have h := run_consistent calls hbound
  intro session plan
  have hperm := h.plan_perm hlength
  refine ⟨⟨hperm, hperm.nodup_iff.2 h.keys_nodup⟩, ?_, ?_, ?_, ?_⟩
  · simp only [plan, session, h.planMssqlOutputCache_eq hlength]
    split_ifs <;> simp
  · intro derived hmem
    rw [List.mem_map]
    constructor
    · rintro ⟨cached, hcached, hkey⟩
      obtain ⟨other, hother, hfrontier, rfl⟩ := (h.mem_cached hlength).1 hcached
      rwa [h.derived_eq_of_id hmem hother (congrArg Prod.fst hkey).symm]
    · intro hfrontier
      exact ⟨_, (h.mem_cached hlength).2 ⟨derived, hmem, hfrontier, rfl⟩, rfl⟩
  · intro cached hcached
    obtain ⟨derived, -, -, rfl⟩ := (h.mem_cached hlength).1 hcached
    exact ⟨outputIndexes_sorted, fun index => h.mem_outputIndexes⟩
  · intro derived hmem heligible hcovered
    -- an eligible alias that is not cached has a cached one above it
    rcases h.coverOf_eq hmem heligible with ⟨hfrontier, -⟩ | ⟨-, top, htop, hfrontier, hpath, hcover⟩
    · exact absurd hfrontier hcovered
    · refine ⟨top, htop, hfrontier, hpath, ?_⟩
      have hcandidate := h.mem_candidates.2 ⟨derived, hmem, heligible, rfl⟩
      simp only [plan, session, h.skipped_eq hlength]
      refine List.mem_append_right _ (List.mem_map.2
        ⟨⟨session.candidateFor requests derived, top.table.id⟩, ?_, rfl⟩)
      exact List.mem_filterMap.2 ⟨_, hcandidate, hcover⟩

end Session

/-- Two queries over `deep`, which reads `shared`. -/
def chainCalls : List (SessionCall String Unit) :=
  [sampleSource "orders", sampleQuery ["orders"], sampleAlias 1 "shared", sampleQuery ["shared"],
    sampleAlias 2 "deep", sampleQuery ["deep"], sampleQuery ["deep"]]

theorem chain_frontier_is_deep :
    ((Session.fresh.run chainCalls).planMssqlOutputCache
        [sampleOutput 3 "a", sampleOutput 4 "b"]).decision = .cacheAliases [⟨2, "deep", [0, 1]⟩] ∧
      ∀ derived ∈ (Session.fresh.run chainCalls).derivedTables,
        (derived.key ∈ [(2, "deep")] ↔ (Session.fresh.run chainCalls).Frontier
          [sampleOutput 3 "a", sampleOutput 4 "b"] derived) := by
  have hdecision : ((Session.fresh.run chainCalls).planMssqlOutputCache
      [sampleOutput 3 "a", sampleOutput 4 "b"]).decision =
      .cacheAliases [⟨2, "deep", [0, 1]⟩] := by decide
  have hfrontier := (Session.automatic_selection_is_the_frontier chainCalls (by decide)
    [sampleOutput 3 "a", sampleOutput 4 "b"] (by decide)).2.2.1
  rw [hdecision] at hfrontier
  exact ⟨hdecision, hfrontier⟩

end DeltaFunnel
