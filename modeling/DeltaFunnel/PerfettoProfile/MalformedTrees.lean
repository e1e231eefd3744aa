import DeltaFunnel.PerfettoProfile.InclusiveFold

/-! Folding counts and finding cycles in parent maps that need not be forests. -/

namespace DeltaFunnel
open Collections Graph

variable {Id Site : Type} [DecidableEq Id]

/-- The loop with a number of turns. The outer `none` is a loop that is still running. -/
def foldLoop (parents : HashMap Id (Option Id)) :
    ℕ → FoldState Id → Option (Option (FoldState Id))
  | 0, state => if state.ready = [] then some (some state) else none
  | turns + 1, state =>
    match state.ready with
    | [] => some (some state)
    | id :: ready =>
      match foldReadyNode parents id { state with ready } with
      | none => some none
      | some state => foldLoop parents turns state

/-- `fold_inclusive_counts` with a number of turns for its loop. -/
def foldInclusiveRun (order : IterationOrder Site) (site : Site)
    (parents : HashMap Id (Option Id)) (selfCounts : HashMap Id ℤ) (turns : ℕ) :
    Option (Option (HashMap Id ℤ)) :=
  match ((parents.iter order site).map Prod.snd).foldlM countChild
      (HashMap.collect ((parents.iter order site).map fun e => (e.1, 0))) with
  | none => some none
  | some remainingChildren =>
    let ready := ((remainingChildren.iter order site).filterMap fun e =>
      if e.2 = 0 then some e.1 else none).reverse
    (foldLoop parents turns ⟨ready, selfCounts, remainingChildren, 0⟩).map fun ended =>
      ended.bind fun state => if state.visited = parents.len then some state.inclusive else none

section Fold
variable {parents : HashMap Id (Option Id)} {selfCounts : HashMap Id ℤ} {done : List Id}
  {state : FoldState Id}

theorem foldReady_eq_join (fuel : ℕ) (state : FoldState Id) :
    foldReady parents fuel state = (foldLoop parents fuel state).join := by
  induction fuel generalizing state with
  | zero =>
    unfold foldReady foldLoop
    split_ifs <;> rfl
  | succ fuel ih =>
    unfold foldReady foldLoop
    cases state.ready with
    | nil => rfl
    | cons id ready =>
      simp only
      cases foldReadyNode parents id { state with ready } with
      | none => rfl
      | some next => exact ih next

theorem foldLoop_ends {turns : ℕ} (hinv : FoldInvariant parents selfCounts done state)
    (hturns : parents.len ≤ done.length + turns) :
    ∃ ended, foldLoop parents turns state = some ended := by
  induction turns generalizing done state with
  | zero =>
    have hlength : done.length ≤ parents.len := by
      rw [← card_nodesOf, ← List.toFinset_card_of_nodup hinv.nodup]
      apply Finset.card_le_card
      intro x hx
      exact hinv.known x (List.mem_toFinset.1 hx)
    have hall := hinv.mem_done_of_visited (hinv.visited.trans (by omega))
    have hempty : state.ready = [] := by
      apply List.eq_nil_iff_forall_not_mem.2
      intro x hx
      obtain ⟨hnode, hdone, -⟩ := (hinv.mem_ready x).1 hx
      exact hdone (hall x hnode)
    exact ⟨some state, if_pos hempty⟩
  | succ turns ih =>
    unfold foldLoop
    cases hready : state.ready with
    | nil => exact ⟨some state, rfl⟩
    | cons id ready =>
      have hinv : FoldInvariant parents selfCounts done { state with ready := id :: ready } :=
        hready ▸ hinv
      have hturns' : parents.len ≤ (id :: done).length + turns := by
        rw [List.length_cons]
        omega
      simp only
      cases hparent : parentIn parents id with
      | none =>
        obtain ⟨hturn, hkept⟩ := hinv.foldReadyNode_root hparent
        rw [hturn]
        exact ih hkept hturns'
      | some parent =>
        rw [hinv.foldReadyNode_eq hparent]
        split_ifs
        · exact ih (hinv.foldReadyNode_child hparent) hturns'
        · exact ⟨none, rfl⟩

theorem foldLoop_more {turns more : ℕ} {ended : Option (FoldState Id)} (hle : turns ≤ more)
    (h : foldLoop parents turns state = some ended) : foldLoop parents more state = some ended := by
  induction turns generalizing more state with
  | zero =>
    unfold foldLoop at h
    split_ifs at h with hempty
    cases more with
    | zero =>
      unfold foldLoop
      rw [if_pos hempty]
      exact h
    | succ more =>
      unfold foldLoop
      rw [hempty]
      exact h
  | succ turns ih =>
    obtain ⟨more, rfl⟩ : ∃ k, more = k + 1 := ⟨more - 1, by omega⟩
    unfold foldLoop at h ⊢
    cases hready : state.ready with
    | nil =>
      rw [hready] at h
      exact h
    | cons id ready =>
      rw [hready] at h
      simp only at h ⊢
      cases hnext : foldReadyNode parents id { state with ready } with
      | none =>
        rw [hnext] at h
        exact h
      | some next =>
        rw [hnext] at h
        exact ih (by omega) h

theorem foldInclusiveRun_ends (order : IterationOrder Site) (site : Site)
    (hkeys : ∀ id ∈ parents.keys, id ∈ selfCounts.keys) {turns : ℕ}
    (hturns : parents.len ≤ turns) :
    foldInclusiveRun order site parents selfCounts turns =
      some (foldInclusiveCounts order site parents selfCounts) := by
  have hcounts : foldInclusiveCounts order site parents selfCounts =
      (((parents.iter order site).map Prod.snd).foldlM countChild
        (HashMap.collect ((parents.iter order site).map fun e => (e.1, 0)))).bind fun remaining =>
          (foldReady parents parents.len ⟨((remaining.iter order site).filterMap fun e =>
            if e.2 = 0 then some e.1 else none).reverse, selfCounts, remaining, 0⟩).bind
              fun state => if state.visited = parents.len then some state.inclusive else none :=
    rfl
  rw [hcounts, foldInclusiveRun]
  cases hremaining : ((parents.iter order site).map Prod.snd).foldlM countChild
      (HashMap.collect ((parents.iter order site).map fun e => (e.1, 0))) with
  | none => rfl
  | some remaining =>
    have hstart := foldInvariant_start hkeys hremaining
    have hlength : parents.len ≤ ([] : List Id).length + parents.len := by simp
    obtain ⟨ended, hended⟩ := foldLoop_ends hstart hlength
    rw [Option.bind_some, foldReady_eq_join, hended, Option.join_some]
    simp only [foldLoop_more hturns hended, Option.map_some]

theorem foldReadyNode_le {next : FoldState Id} {id : Id}
    (h : foldReadyNode parents id state = some next)
    (hfits : ∀ x ∈ parents.keys, countIn state.inclusive x ≤ i64Max) :
    ∀ x ∈ parents.keys, countIn next.inclusive x ≤ i64Max := by
  unfold foldReadyNode at h
  cases hparent : parentIn parents id with
  | none =>
    simp only [hparent] at h
    rw [← Option.some.inj h]
    exact hfits
  | some parent =>
    simp only [hparent, Option.bind_eq_bind, Option.bind_eq_some_iff] at h
    obtain ⟨count, -, parentCount, -, sum, hsum, children, -, h⟩ := h
    obtain ⟨rfl, hrange⟩ := checkedAdd_eq_some.1 hsum
    by_cases hzero : children = 0
    · rw [if_pos hzero] at h
      cases h
    · rw [if_neg hzero] at h
      intro x hx
      rw [← Option.some.inj h]
      simp only
      rw [countIn_insert]
      split_ifs
      · exact le_i64Max_of_inI64 hrange
      · exact hfits x hx

theorem foldReady_le {fuel : ℕ} {final : FoldState Id}
    (h : foldReady parents fuel state = some final)
    (hfits : ∀ x ∈ parents.keys, countIn state.inclusive x ≤ i64Max) :
    ∀ x ∈ parents.keys, countIn final.inclusive x ≤ i64Max := by
  induction fuel generalizing state with
  | zero =>
    unfold foldReady at h
    split_ifs at h
    rw [← Option.some.inj h]
    exact hfits
  | succ fuel ih =>
    unfold foldReady at h
    cases hready : state.ready with
    | nil =>
      rw [hready] at h
      rw [← Option.some.inj h]
      exact hfits
    | cons id ready =>
      rw [hready] at h
      obtain ⟨next, hnext, hrest⟩ := Option.bind_eq_some_iff.1 h
      have hstep := foldReadyNode_le hnext hfits
      exact ih hrest hstep

theorem foldInclusiveCounts_le {order : IterationOrder Site} {site : Site}
    {folded : HashMap Id ℤ} (h : foldInclusiveCounts order site parents selfCounts = some folded)
    (hfits : ∀ x ∈ parents.keys, countIn selfCounts x ≤ i64Max) :
    ∀ x ∈ parents.keys, countIn folded x ≤ i64Max := by
  obtain ⟨remaining, -, h⟩ := Option.bind_eq_some_iff.1 h
  obtain ⟨final, hfinal, h⟩ := Option.bind_eq_some_iff.1 h
  split_ifs at h
  rw [← Option.some.inj h]
  exact foldReady_le hfinal hfits

/-- Climbing from the parent of the node comes back to the node. -/
def OnCycle (parents : HashMap Id (Option Id)) (id : Id) : Prop :=
  ∃ parent, parentIn parents id = some parent ∧ Below (parentIn parents) parent id

theorem isForest_iff : IsForest (parentIn parents) (nodesOf parents) ↔
    (∀ id ∈ parents.keys, ∀ parent, parentIn parents id = some parent →
      parent ∈ parents.keys) ∧ ∀ id ∈ parents.keys, ¬OnCycle parents id := by
  constructor
  · intro hforest
    constructor
    · intro id hid parent hparent
      exact mem_nodesOf.1 (hforest.closed id (mem_nodesOf.2 hid) parent hparent)
    · intro id hid hcycle
      obtain ⟨parent, hparent, hback⟩ := hcycle
      exact (hforest.grounded id (mem_nodesOf.2 hid)).not_below_parent hparent hback
  · intro h
    apply isForest_of_acyclic
    · intro id hid parent hparent
      exact mem_nodesOf.2 (h.1 id (mem_nodesOf.1 hid) parent hparent)
    · intro id hid parent hparent hback
      exact h.2 id (mem_nodesOf.1 hid) ⟨parent, hparent, hback⟩

theorem foldInclusiveCounts_isSome_iff (order : IterationOrder Site) (site : Site)
    (hkeys : ∀ id ∈ parents.keys, id ∈ selfCounts.keys)
    (hcounts : ∀ id ∈ parents.keys, 0 ≤ countIn selfCounts id ∧ countIn selfCounts id ≤ i64Max) :
    (∃ folded, foldInclusiveCounts order site parents selfCounts = some folded) ↔
      (∀ id ∈ parents.keys, ∀ parent, parentIn parents id = some parent →
        parent ∈ parents.keys) ∧ (∀ id ∈ parents.keys, ¬OnCycle parents id) ∧
      ∀ id ∈ parents.keys,
        subtreeSum (parentIn parents) (nodesOf parents) (countIn selfCounts) id ≤ i64Max := by
  rw [← and_assoc, ← isForest_iff]
  constructor
  · intro h
    obtain ⟨folded, hfolded⟩ := h
    obtain ⟨hforest, hsums⟩ := foldInclusiveCounts_eq_some hkeys hfolded
    refine ⟨hforest, ?_⟩
    intro id hid
    have hle := foldInclusiveCounts_le hfolded (fun x hx => (hcounts x hx).2) id hid
    rw [countIn, hsums id hid] at hle
    exact hle
  · intro h
    exact foldInclusiveCounts_isSome order site hkeys h.1 (fun x hx => (hcounts x hx).1) h.2

end Fold

/-- The climb with a number of steps. The outer `none` is a climb that still goes on. -/
def climbLoop (parents : HashMap Id (Option Id)) (complete : List Id) :
    ℕ → List Id → Option Id → Option (Except Id (List Id))
  | _, path, none => some (.ok path)
  | 0, _, some _ => none
  | steps + 1, path, some node =>
    if node ∈ complete then some (.ok path)
    else if node ∈ path then some (.error node)
    else climbLoop parents complete steps (node :: path) (parentIn parents node)

/-- `first_cycle` with a number of steps for each climb. -/
def firstCycleRun (parents : HashMap Id (Option Id)) (steps : ℕ) :
    List Id → List Id → Option (Option Id)
  | _, [] => some none
  | complete, start :: starts =>
    if start ∈ complete then firstCycleRun parents steps complete starts
    else
      match climbLoop parents complete steps [] (some start) with
      | none => none
      | some (.error node) => some (some node)
      | some (.ok path) => firstCycleRun parents steps (path ++ complete) starts

section Cycles
variable {parents : HashMap Id (Option Id)} {complete path starts : List Id} {current : Option Id}

theorem length_path_le (hnodup : path.Nodup)
    (hknown : ∀ x ∈ path, ∃ parent, parentIn parents x = some parent) :
    path.length ≤ parents.len := by
  rw [HashMap.len_eq]
  apply (List.subperm_of_subset hnodup _).length_le
  intro x hx
  obtain ⟨parent, hparent⟩ := hknown x hx
  exact List.mem_map_of_mem (parentIn_eq_some.1 hparent)

theorem climbLoop_eq {fuel steps : ℕ} (hnodup : path.Nodup)
    (hknown : ∀ x ∈ path, ∃ parent, parentIn parents x = some parent)
    (hfuel : parents.len < path.length + fuel) (hsteps : parents.len < path.length + steps) :
    climbLoop parents complete steps path current =
      some (climb parents complete fuel path current) := by
  have hpath := length_path_le hnodup hknown
  -- on the steps; steps and fuel both outlast a path of distinct nodes
  induction steps generalizing fuel path current with
  | zero => omega
  | succ steps ih =>
    obtain ⟨fuel, rfl⟩ : ∃ k, fuel = k + 1 := ⟨fuel - 1, by omega⟩
    cases current with
    | none => rfl
    | some node =>
      unfold climbLoop climb
      by_cases hcomplete : node ∈ complete
      · rw [if_pos hcomplete, if_pos hcomplete]
      · rw [if_neg hcomplete, if_neg hcomplete]
        by_cases hmem : node ∈ path
        · rw [if_pos hmem, if_pos hmem]
        · rw [if_neg hmem, if_neg hmem]
          cases hup : parentIn parents node with
          | none =>
            have hloop : climbLoop parents complete steps (node :: path) none =
                some (.ok (node :: path)) := by
              cases steps <;> rfl
            have hclimb : climb parents complete fuel (node :: path) none =
                .ok (node :: path) := by
              cases fuel <;> rfl
            rw [hloop, hclimb]
          | some parent =>
            have hnodup' : (node :: path).Nodup := List.nodup_cons.2 ⟨hmem, hnodup⟩
            have hknown' : ∀ x ∈ node :: path, ∃ parent, parentIn parents x = some parent := by
              intro x hx
              rcases List.mem_cons.1 hx with heq | hx
              · rw [heq]
                exact ⟨parent, hup⟩
              · exact hknown x hx
            apply ih hnodup' hknown' _ _ (length_path_le hnodup' hknown')
            · rw [List.length_cons]
              omega
            · rw [List.length_cons]
              omega

theorem firstCycleRun_ends {steps : ℕ} (hsteps : parents.len < steps) :
    firstCycleRun parents steps complete starts =
      some (firstCycleFrom parents complete starts) := by
  induction starts generalizing complete with
  | nil => rfl
  | cons start starts ih =>
    unfold firstCycleRun firstCycleFrom
    by_cases hcomplete : start ∈ complete
    · rw [if_pos hcomplete, if_pos hcomplete]
      exact ih
    · have hclimb : climbLoop parents complete steps [] (some start) =
          some (climb parents complete (parents.len + 2) [] (some start)) := by
        apply climbLoop_eq .nil
        · intro x hx
          exact absurd hx List.not_mem_nil
        · rw [List.length_nil]
          omega
        · rw [List.length_nil]
          omega
      rw [if_neg hcomplete, if_neg hcomplete, hclimb]
      cases climb parents complete (parents.len + 2) [] (some start) with
      | error node => rfl
      | ok path => exact ih

theorem climb_error {fuel : ℕ} {node : Id}
    (hnodup : path.Nodup)
    (hbelow : ∀ x ∈ path, ∀ next, current = some next →
      ∃ parent, parentIn parents x = some parent ∧ Below (parentIn parents) parent next)
    (hknown : ∀ x ∈ path, ∃ parent, parentIn parents x = some parent)
    (hfuel : parents.len < path.length + fuel)
    (h : climb parents complete fuel path current = .error node) :
    OnCycle parents node ∧ ∀ next, current = some next → Below (parentIn parents) next node := by
  have hpath := length_path_le hnodup hknown
  -- on the fuel: the node that is met twice lies above every node of the path
  induction fuel generalizing path current with
  | zero => omega
  | succ fuel ih =>
    cases current with
    | none => cases h
    | some next =>
      unfold climb at h
      split_ifs at h with hcomplete hmem
      · obtain rfl := Except.error.inj h
        obtain ⟨parent, hparent, hback⟩ := hbelow next hmem next rfl
        refine ⟨⟨parent, hparent, hback⟩, ?_⟩
        intro other hother
        rw [Option.some.inj hother]
        exact .refl _
      · cases hup : parentIn parents next with
        | none =>
          rw [hup] at h
          cases fuel <;> cases h
        | some parent =>
          have hnodup' : (next :: path).Nodup := List.nodup_cons.2 ⟨hmem, hnodup⟩
          have hknown' : ∀ x ∈ next :: path, ∃ parent, parentIn parents x = some parent := by
            intro x hx
            rcases List.mem_cons.1 hx with heq | hx
            · rw [heq]
              exact ⟨parent, hup⟩
            · exact hknown x hx
          have hbelow' : ∀ x ∈ next :: path, ∀ other, some parent = some other →
              ∃ up, parentIn parents x = some up ∧ Below (parentIn parents) up other := by
            intro x hx other hother
            rw [← Option.some.inj hother]
            rcases List.mem_cons.1 hx with heq | hx
            · rw [heq]
              exact ⟨parent, hup, .refl parent⟩
            · obtain ⟨up, hup', hreach⟩ := hbelow x hx next rfl
              exact ⟨up, hup', hreach.trans (.single hup)⟩
          rw [hup] at h
          have hlength : parents.len < (next :: path).length + fuel := by
            rw [List.length_cons]
            omega
          obtain ⟨hcycle, hreach⟩ :=
            ih hnodup' hbelow' hknown' hlength h (length_path_le hnodup' hknown')
          refine ⟨hcycle, ?_⟩
          intro other hother
          rw [← Option.some.inj hother]
          exact .up hup (hreach parent rfl)

theorem firstCycleFrom_eq_some {node : Id}
    (h : firstCycleFrom parents complete starts = some node) :
    OnCycle parents node ∧ ∃ start ∈ starts, Below (parentIn parents) start node := by
  induction starts generalizing complete with
  | nil => cases h
  | cons start starts ih =>
    unfold firstCycleFrom at h
    split_ifs at h with hcomplete
    · obtain ⟨hcycle, other, hother, hbelow⟩ := ih h
      exact ⟨hcycle, other, List.mem_cons_of_mem _ hother, hbelow⟩
    · cases hclimb : climb parents complete (parents.len + 2) [] (some start) with
      | error found =>
        rw [hclimb] at h
        obtain rfl := Option.some.inj h
        have hlength : parents.len < ([] : List Id).length + (parents.len + 2) := by
          rw [List.length_nil]
          omega
        have herror := climb_error .nil (fun x hx => absurd hx List.not_mem_nil)
          (fun x hx => absurd hx List.not_mem_nil) hlength hclimb
        exact ⟨herror.1, start, List.mem_cons_self, herror.2 start rfl⟩
      | ok path =>
        rw [hclimb] at h
        obtain ⟨hcycle, other, hother, hbelow⟩ := ih h
        exact ⟨hcycle, other, List.mem_cons_of_mem _ hother, hbelow⟩

theorem not_grounded_of_onCycle {start node : Id} (hcycle : OnCycle parents node)
    (hbelow : Below (parentIn parents) start node) : ¬Grounded (parentIn parents) start := by
  intro hgrounded
  obtain ⟨parent, hparent, hback⟩ := hcycle
  exact (hgrounded.of_below hbelow).not_below_parent hparent hback

theorem firstCycle_isSome_iff : (∃ node, firstCycle parents starts = some node) ↔
    ∃ start ∈ starts, ∃ node, Below (parentIn parents) start node ∧ OnCycle parents node := by
  constructor
  · intro h
    obtain ⟨node, hnode⟩ := h
    obtain ⟨hcycle, start, hstart, hbelow⟩ := firstCycleFrom_eq_some hnode
    exact ⟨start, hstart, node, hbelow, hcycle⟩
  · intro h
    obtain ⟨start, hstart, node, hbelow, hcycle⟩ := h
    cases hfound : firstCycle parents starts with
    | none =>
      have hgrounded := firstCycle_eq_none.1 hfound start hstart
      exact absurd hgrounded (not_grounded_of_onCycle hcycle hbelow)
    | some found => exact ⟨found, rfl⟩

end Cycles

/-- On every parent map the fold and the search end, the fold succeeds exactly on forests that fit,
and the search finds exactly the cycles that climbing runs into. -/
theorem parent_maps_are_folded (parents : HashMap Id (Option Id)) (selfCounts : HashMap Id ℤ)
    (order : IterationOrder Site) (site : Site)
    (hkeys : ∀ id ∈ parents.keys, id ∈ selfCounts.keys)
    (hcounts : ∀ id ∈ parents.keys, 0 ≤ countIn selfCounts id ∧
      countIn selfCounts id ≤ i64Max) :
    (∀ turns ≥ parents.len, foldInclusiveRun order site parents selfCounts turns =
      some (foldInclusiveCounts order site parents selfCounts)) ∧
    ((∃ folded, foldInclusiveCounts order site parents selfCounts = some folded) ↔
      (∀ id ∈ parents.keys, ∀ parent, parentIn parents id = some parent →
        parent ∈ parents.keys) ∧ (∀ id ∈ parents.keys, ¬OnCycle parents id) ∧
      ∀ id ∈ parents.keys,
        subtreeSum (parentIn parents) (nodesOf parents) (countIn selfCounts) id ≤ i64Max) ∧
    (∀ folded, foldInclusiveCounts order site parents selfCounts = some folded →
      ∀ id ∈ parents.keys, folded.get? id =
        some (subtreeSum (parentIn parents) (nodesOf parents) (countIn selfCounts) id)) ∧
    ∀ starts : List Id,
      (∀ steps > parents.len,
        firstCycleRun parents steps [] starts = some (firstCycle parents starts)) ∧
      ((∃ node, firstCycle parents starts = some node) ↔
        ∃ start ∈ starts, ∃ node, Below (parentIn parents) start node ∧ OnCycle parents node) ∧
      ∀ node, firstCycle parents starts = some node → OnCycle parents node := by
  refine ⟨?_, ?_, ?_, ?_⟩
  · intro turns hturns
    exact foldInclusiveRun_ends order site hkeys hturns
  · exact foldInclusiveCounts_isSome_iff order site hkeys hcounts
  · intro folded hfolded
    exact (foldInclusiveCounts_eq_some hkeys hfolded).2
  · intro starts
    refine ⟨?_, firstCycle_isSome_iff, ?_⟩
    · intro steps hsteps
      exact firstCycleRun_ends hsteps
    · intro node hnode
      exact (firstCycleFrom_eq_some hnode).1

def loopedParents : HashMap ℕ (Option ℕ) := .collect [(1, some 2), (2, some 3), (3, some 2)]

theorem looped_parents_are_refused :
    foldInclusiveCounts (.inserted Unit) () loopedParents (.collect [(1, 4), (2, 5), (3, 6)]) =
        none ∧
      ∀ node, firstCycle loopedParents [1] = some node → OnCycle loopedParents node := by
  have hkeys : ∀ id ∈ loopedParents.keys,
      id ∈ (HashMap.collect [(1, (4 : ℤ)), (2, 5), (3, 6)]).keys := by decide
  have hcounts : ∀ id ∈ loopedParents.keys,
      0 ≤ countIn (HashMap.collect [(1, (4 : ℤ)), (2, 5), (3, 6)]) id ∧
        countIn (HashMap.collect [(1, (4 : ℤ)), (2, 5), (3, 6)]) id ≤ i64Max := by decide
  obtain ⟨-, -, -, hcycles⟩ := parent_maps_are_folded loopedParents
    (.collect [(1, 4), (2, 5), (3, 6)]) (.inserted Unit) () hkeys hcounts
  exact ⟨by decide, (hcycles [1]).2.2⟩

end DeltaFunnel
