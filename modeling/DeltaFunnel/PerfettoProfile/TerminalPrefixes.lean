import DeltaFunnel.PerfettoProfile.TerminalForest

/-! Terminal views are bounded prefixes of the filtered preorder. -/

namespace DeltaFunnel
open Collections Graph

namespace TerminalProfileIndex

/-- The semantics below a selection, siblings in their order. -/
def semanticTree (document : RankedProfileDocument) (sort : InspectSort) (selected : Option ℤ)
    (maxDepth : ℕ) : List (ℕ × RankedSemantic) :=
  let siblings (parentId : Option ℤ) :=
    sortUnstableBy (compareSemantics sort)
      (document.semantics.filter (·.parentSemanticId = parentId))
  preorder (fun semantic => siblings (some semantic.semanticId)) (siblings selected)
    (firstDepth selected) maxDepth

/-- The functions of a semantic in the frame view that have a parent there. -/
def framedChildren (document : RankedProfileDocument) (compact : CompactFunctionTree)
    (allFrames : Bool) (semanticId : ℤ) (parentId : Option ℤ) : List RankedFunction :=
  document.functions.filter fun function => function.semanticId = semanticId ∧
    framedParent compact allFrames function = some parentId

/-- The functions below a function, siblings in their order. -/
def functionTree (document : RankedProfileDocument) (compact : CompactFunctionTree)
    (index : TerminalProfileIndex) (sort : InspectSort) (semanticId functionId : ℤ)
    (maxDepth : ℕ) : List (ℕ × RankedFunction) :=
  let siblings (parentId : ℤ) := index.sortFunctions sort
    (framedChildren document compact index.allFrames semanticId (some parentId))
  preorder (fun function => siblings function.functionId) (siblings functionId) 1 maxDepth

def matchingRoots (document : RankedProfileDocument) (compact : CompactFunctionTree)
    (index : TerminalProfileIndex) (selected : Option ℤ) (filter : Option String)
    (maxDepth : ℕ) : List RankedFunction :=
  match selected with
  | none => []
  | some semanticId =>
    if maxDepth > 0 then
      (framedChildren document compact index.allFrames semanticId none).filter fun function =>
        filter.all fun filter => index.functionMatches filter function
    else []

structure SemanticPrefix (document : RankedProfileDocument) (compact : CompactFunctionTree)
    (index : TerminalProfileIndex) (selected : Option ℤ) (sort : InspectSort)
    (filter : Option String) (limit maxDepth : ℕ) (view : SemanticView) : Prop where
  semantics : BoundedPrefix RankedSemantic.semanticId document.semanticParent selected
    (filter.map semanticMatches) (semanticTree document sort selected maxDepth)
    (limit - if view.functionTotal > 0 then 1 else 0) (view.semanticTotal, view.semanticRows)
  functions : view.functionTotal =
    (matchingRoots document compact index selected filter maxDepth).length
  function_rows : view.functionRows =
    (index.sortFunctions sort.forFunctions
      (matchingRoots document compact index selected filter maxDepth)).take
      (limit - view.semanticRows.length)
  shown_le : view.semanticRows.length + view.functionRows.length ≤ limit
  root_shown : matchingRoots document compact index selected filter maxDepth ≠ [] → 0 < limit →
    view.functionRows ≠ []
  truncated_iff : view.truncated = true ↔
    view.semanticRows.length < (retained RankedSemantic.semanticId document.semanticParent
      (filter.map semanticMatches) (semanticTree document sort selected maxDepth)).length ∨
    view.functionRows.length <
      (matchingRoots document compact index selected filter maxDepth).length

structure FunctionPrefix (document : RankedProfileDocument) (compact : CompactFunctionTree)
    (index : TerminalProfileIndex) (semanticId functionId : ℤ) (sort : InspectSort)
    (filter : Option String) (limit maxDepth : ℕ) (view : FunctionView) : Prop where
  functions : BoundedPrefix RankedFunction.functionId (index.functionParent semanticId)
    (some functionId) (filter.map index.functionMatches)
    (functionTree document compact index sort semanticId functionId maxDepth) limit
    (view.total, view.rows)
  truncated_iff : view.truncated = true ↔
    view.rows.length < (retained RankedFunction.functionId (index.functionParent semanticId)
      (filter.map index.functionMatches)
      (functionTree document compact index sort semanticId functionId maxDepth)).length

variable {document : RankedProfileDocument} {compact : CompactFunctionTree}
  {fullSymbols allFrames : Bool} {index : TerminalProfileIndex}

/-- With fuel, what is included is what matches and what is above it. -/
theorem included_spec {α Id : Type} [DecidableEq Id] {idOf : α → Id} {parent : Id → Option Id}
    {nodes : Finset Id} {context : Option Id} {children siblings : α → List α}
    {roots sortedRoots : List α} (firstDepth maxDepth : ℕ)
    (h : SortedForest idOf parent nodes context children siblings roots sortedRoots) :
    ∃ enough, ∀ fuel ≥ enough, ∀ isMatch : Option (α → Bool), ∃ included,
      (match isMatch with
        | none => some none
        | some test => (contextualMatches fuel idOf parent context children roots firstDepth
            maxDepth test).map some) = some included ∧
      ∀ limit, ∃ found, collectRows fuel idOf siblings sortedRoots firstDepth maxDepth limit
          included = some found ∧
        BoundedPrefix idOf parent context isMatch
          (preorder siblings sortedRoots firstDepth maxDepth) limit found := by
  -- fuel for the climbs, for the walk that matches and for the walk that collects
  refine ⟨nodes.card +
    ((preorder (fun x => (children x).reverse) roots.reverse firstDepth maxDepth).length +
    (preorder siblings sortedRoots firstDepth maxDepth).length), ?_⟩
  intro fuel hfuel isMatch
  cases isMatch with
  | none =>
    refine ⟨none, rfl, ?_⟩
    intro limit
    apply h.collectRows_spec none (by omega)
    intro row _
    constructor
    · intro _ test htest
      cases htest
    · exact fun _ => rfl
  | some test =>
    have hcard : nodes.card ≤ fuel := by omega
    have hwalk : (preorder (fun x => (children x).reverse) roots.reverse firstDepth
        maxDepth).length ≤ fuel := by omega
    obtain ⟨included, hincluded, hmem⟩ := h.contextualMatches_spec hcard hwalk test
    refine ⟨some included, ?_, ?_⟩
    · dsimp only
      rw [hincluded]
      rfl
    intro limit
    apply h.collectRows_spec (some test) (by omega)
    intro row hrow
    show decide (idOf row.2 ∈ included) = true ↔ _
    rw [decide_eq_true_iff, hmem row hrow]
    constructor
    · intro hmatched other hother
      obtain rfl := Option.some.inj hother
      exact hmatched
    · intro hall
      exact hall test rfl

theorem semanticTree_eq (h : Indexes document compact fullSymbols allFrames index)
    (sort : InspectSort) (selected : Option ℤ) (maxDepth : ℕ) :
    preorder (fun semantic => index.sortedSemantics sort (some semantic.semanticId))
        (index.sortedSemantics sort selected) (firstDepth selected) maxDepth =
      semanticTree document sort selected maxDepth := by
  unfold semanticTree sortedSemantics
  simp only [h.childSemantics]

theorem functionTree_eq (h : Indexes document compact fullSymbols allFrames index)
    (sort : InspectSort) (semanticId functionId : ℤ) (maxDepth : ℕ) :
    preorder (fun function => index.sortedFunctions sort semanticId (some function.functionId))
        (index.sortedFunctions sort semanticId (some functionId)) 1 maxDepth =
      functionTree document compact index sort semanticId functionId maxDepth := by
  unfold functionTree sortedFunctions framedChildren
  simp only [h.childFunctions, h.allFrames_eq]

theorem semanticRows_spec (hstruct : document.WellStructured)
    (h : Indexes document compact fullSymbols allFrames index) (selected : Option ℤ)
    (sort : InspectSort) (filter : Option String) (maxDepth : ℕ) :
    ∃ enough, ∀ fuel ≥ enough, ∃ included,
      index.includedSemantics fuel selected maxDepth filter = some included ∧
      ∀ limit, ∃ found, index.collectSemanticRows fuel selected (firstDepth selected) maxDepth
          limit sort included = some found ∧
        BoundedPrefix RankedSemantic.semanticId document.semanticParent selected
          (filter.map semanticMatches) (semanticTree document sort selected maxDepth) limit
          found := by
  obtain ⟨enough, henough⟩ := included_spec (firstDepth selected) maxDepth
    (semanticSortedForest hstruct h sort selected)
  refine ⟨enough, ?_⟩
  intro fuel hfuel
  obtain ⟨included, hincluded, hrows⟩ := henough fuel hfuel (filter.map semanticMatches)
  refine ⟨included, ?_, ?_⟩
  · rw [← hincluded]
    unfold includedSemantics contextualSemanticMatches
    rw [semanticParent_eq hstruct h]
    cases filter with
    | none => rfl
    | some filter => rfl
  · intro limit
    obtain ⟨found, hfound, hbounded⟩ := hrows limit
    rw [semanticTree_eq h] at hbounded
    exact ⟨found, hfound, hbounded⟩

theorem functionRows_spec (hstruct : document.WellStructured)
    (hcosts : compact.LosesNoCost document)
    (h : Indexes document compact fullSymbols allFrames index) (semanticId functionId : ℤ)
    (sort : InspectSort) (filter : Option String) (maxDepth : ℕ) :
    ∃ enough, ∀ fuel ≥ enough, ∃ included,
      index.includedFunctions fuel semanticId functionId maxDepth filter = some included ∧
      ∀ limit, ∃ found, index.collectFunctionRows fuel (semanticId, some functionId) 1 maxDepth
          limit sort included = some found ∧
        BoundedPrefix RankedFunction.functionId (index.functionParent semanticId)
          (some functionId) (filter.map index.functionMatches)
          (functionTree document compact index sort semanticId functionId maxDepth) limit
          found := by
  obtain ⟨enough, henough⟩ := included_spec 1 maxDepth
    (functionSortedForest hstruct hcosts h sort semanticId (some functionId))
  refine ⟨enough, ?_⟩
  intro fuel hfuel
  obtain ⟨included, hincluded, hrows⟩ := henough fuel hfuel (filter.map index.functionMatches)
  refine ⟨included, ?_, ?_⟩
  · rw [← hincluded]
    unfold includedFunctions contextualFunctionMatches
    cases filter with
    | none => rfl
    | some filter => rfl
  · intro limit
    obtain ⟨found, hfound, hbounded⟩ := hrows limit
    rw [functionTree_eq h] at hbounded
    exact ⟨found, hfound, hbounded⟩

theorem functionRoots_eq (h : Indexes document compact fullSymbols allFrames index)
    {selected : Option ℤ} {semantic : Option RankedSemantic}
    (hselected : semantic.map (·.semanticId) = selected) (sort : InspectSort)
    (filter : Option String) (maxDepth : ℕ) :
    index.functionRoots semantic sort filter maxDepth =
      index.sortFunctions sort.forFunctions
        (matchingRoots document compact index selected filter maxDepth) := by
  subst hselected
  unfold functionRoots matchingRoots framedChildren
  cases semantic with
  | none => rfl
  | some semantic =>
    dsimp only [Option.map_some]
    rw [h.childFunctions, h.allFrames_eq]
    by_cases hdepth : maxDepth > 0
    · rw [if_pos hdepth, if_pos hdepth]
    · rw [if_neg hdepth, if_neg hdepth]
      rfl

theorem selectedSemantic_spec (h : Indexes document compact fullSymbols allFrames index)
    {selected : Option ℤ} (hselected : ∀ id ∈ selected, id ∈ document.semanticNodes) :
    ∃ semantic, index.selectedSemantic selected = .ok semantic ∧
      semantic.map (·.semanticId) = selected := by
  unfold selectedSemantic
  cases selected with
  | none => exact ⟨none, rfl, rfl⟩
  | some id =>
    obtain ⟨semantic, hmem, rfl⟩ :=
      RankedProfileDocument.mem_semanticNodes.1 (hselected id rfl)
    refine ⟨some semantic, ?_, rfl⟩
    dsimp only
    rw [(h.semantics _ semantic).2 ⟨hmem, rfl⟩]

theorem semanticView_spec (hstruct : document.WellStructured)
    (h : Indexes document compact fullSymbols allFrames index) {selected : Option ℤ}
    (hselected : ∀ id ∈ selected, id ∈ document.semanticNodes) (sort : InspectSort)
    (filter : Option String) (limit maxDepth : ℕ) :
    ∃ enough, ∀ fuel ≥ enough, ∃ view,
      index.semanticView fuel selected sort filter limit maxDepth = some (.ok view) ∧
      SemanticPrefix document compact index selected sort filter limit maxDepth view := by
  obtain ⟨semantic, hsemantic, hid⟩ := selectedSemantic_spec h hselected
  obtain ⟨enough, henough⟩ := semanticRows_spec hstruct h selected sort filter maxDepth
  have hroots := functionRoots_eq h hid sort filter maxDepth
  have hlength : (index.functionRoots semantic sort filter maxDepth).length =
      (matchingRoots document compact index selected filter maxDepth).length := by
    rw [hroots]
    exact (sortUnstableBy_perm _ _).length_eq
  refine ⟨enough, ?_⟩
  intro fuel hfuel
  obtain ⟨included, hincluded, hrows⟩ := henough fuel hfuel
  obtain ⟨found, hfound, hbounded⟩ := hrows
    (limit - if (index.functionRoots semantic sort filter maxDepth).length > 0 then 1 else 0)
  -- one line is kept for the functions when there are any
  have hshown : found.2.length ≤
      limit - if (index.functionRoots semantic sort filter maxDepth).length > 0 then 1 else 0 := by
    rw [hbounded.rows]
    exact List.length_take_le _ _
  refine ⟨⟨semantic, found.1, found.2,
    (index.functionRoots semantic sort filter maxDepth).length,
    (index.functionRoots semantic sort filter maxDepth).take (limit - found.2.length)⟩, ?_, ?_⟩
  · unfold semanticView
    rw [hsemantic]
    dsimp only
    rw [hincluded, Option.bind_eq_bind, Option.bind_some, hfound]
    rfl
  · have htake : ((index.functionRoots semantic sort filter maxDepth).take
        (limit - found.2.length)).length =
        min (limit - found.2.length)
          (index.functionRoots semantic sort filter maxDepth).length := List.length_take
    have hlisted : found.2.length ≤ found.1 := by
      rw [hbounded.rows, hbounded.total]
      exact List.length_take_le' _ _
    constructor
    · exact hbounded
    · exact hlength
    · dsimp only
      rw [hroots]
    · dsimp only
      rw [htake]
      omega
    · intro hmatch hlimit hnone
      dsimp only at hnone
      have hpositive : 0 < (index.functionRoots semantic sort filter maxDepth).length := by
        rw [hlength]
        exact List.length_pos_iff.2 hmatch
      have hzero := congrArg List.length hnone
      rw [htake, List.length_nil] at hzero
      rw [if_pos hpositive] at hshown
      omega
    · unfold SemanticView.truncated SemanticView.shown SemanticView.total
      dsimp only
      rw [decide_eq_true_iff, ← hbounded.total, ← hlength, htake]
      omega

theorem functionView_spec (hstruct : document.WellStructured)
    (hcosts : compact.LosesNoCost document)
    (h : Indexes document compact fullSymbols allFrames index) {semanticId functionId : ℤ}
    (hselected : (semanticId, functionId) ∈ index.viewNodes) (sort : InspectSort)
    (filter : Option String) (limit maxDepth : ℕ) :
    ∃ enough, ∀ fuel ≥ enough, ∃ view,
      index.functionView fuel semanticId functionId sort filter limit maxDepth =
        some (.ok view) ∧
      FunctionPrefix document compact index semanticId functionId sort filter limit maxDepth
        view := by
  obtain ⟨enough, henough⟩ :=
    functionRows_spec hstruct hcosts h semanticId functionId sort filter maxDepth
  obtain ⟨function, hmem, hsome, hid⟩ := (mem_viewNodes h).1 hselected
  have hget := (h.functions (semanticId, functionId) function).2 ⟨hmem, hsome, hid⟩
  refine ⟨enough, ?_⟩
  intro fuel hfuel
  obtain ⟨included, hincluded, hrows⟩ := henough fuel hfuel
  obtain ⟨found, hfound, hbounded⟩ := hrows limit
  refine ⟨⟨function, found.1, found.2⟩, ?_, hbounded, ?_⟩
  · unfold functionView
    rw [hget]
    dsimp only
    rw [hincluded, Option.bind_eq_bind, Option.bind_some, hfound]
    rfl
  · unfold FunctionView.truncated
    rw [decide_eq_true_iff, ← hbounded.total]

/-- Every terminal view of an accepted document lists a bounded prefix of the filtered preorder
below its selection, in full sight of what its rows belong to. -/
theorem views_are_bounded_prefixes (order : IterationOrder ReportMap)
    (document : RankedProfileDocument) (haccepted : document.validate order = .ok ())
    (fullSymbols allFrames : Bool) :
    ∃ compact index, CompactFunctionTree.new document.functions = some compact ∧
      new document fullSymbols allFrames = some index ∧
      (∀ selected sort filter maxDepth, ∃ enough, ∀ fuel ≥ enough, ∃ included,
        index.includedSemantics fuel selected maxDepth filter = some included ∧
        ∀ limit, ∃ found, index.collectSemanticRows fuel selected (firstDepth selected) maxDepth
            limit sort included = some found ∧
          BoundedPrefix RankedSemantic.semanticId document.semanticParent selected
            (filter.map semanticMatches) (semanticTree document sort selected maxDepth) limit
            found) ∧
      (∀ semanticId functionId sort filter maxDepth, ∃ enough, ∀ fuel ≥ enough, ∃ included,
        index.includedFunctions fuel semanticId functionId maxDepth filter = some included ∧
        ∀ limit, ∃ found, index.collectFunctionRows fuel (semanticId, some functionId) 1 maxDepth
            limit sort included = some found ∧
          BoundedPrefix RankedFunction.functionId (index.functionParent semanticId)
            (some functionId) (filter.map index.functionMatches)
            (functionTree document compact index sort semanticId functionId maxDepth) limit
            found) ∧
      (∀ selected : Option ℤ, (∀ id ∈ selected, id ∈ document.semanticNodes) →
        ∀ sort filter limit maxDepth, ∃ enough, ∀ fuel ≥ enough, ∃ view,
          index.semanticView fuel selected sort filter limit maxDepth = some (.ok view) ∧
          SemanticPrefix document compact index selected sort filter limit maxDepth view) ∧
      ∀ semanticId functionId, (semanticId, functionId) ∈ index.viewNodes →
        ∀ sort filter limit maxDepth, ∃ enough, ∀ fuel ≥ enough, ∃ view,
          index.functionView fuel semanticId functionId sort filter limit maxDepth =
            some (.ok view) ∧
          FunctionPrefix document compact index semanticId functionId sort filter limit maxDepth
            view := by
  obtain ⟨compact, index, hcompact, hindex, hstruct, hcosts, h⟩ :=
    exists_index haccepted fullSymbols allFrames
  refine ⟨compact, index, hcompact, hindex, ?_, ?_, ?_, ?_⟩
  · intro selected sort filter maxDepth
    exact semanticRows_spec hstruct h selected sort filter maxDepth
  · intro semanticId functionId sort filter maxDepth
    exact functionRows_spec hstruct hcosts h semanticId functionId sort filter maxDepth
  · intro selected hselected sort filter limit maxDepth
    exact semanticView_spec hstruct h hselected sort filter limit maxDepth
  · intro semanticId functionId hselected sort filter limit maxDepth
    exact functionView_spec hstruct hcosts h hselected sort filter limit maxDepth

theorem planning_views_are_bounded_prefixes :
    RankedProfileDocument.planningDocument.validate (.inserted ReportMap) = .ok () ∧
      ∃ index, new RankedProfileDocument.planningDocument false false = some index ∧
        ∀ sort filter limit maxDepth, ∃ enough, ∀ fuel ≥ enough, ∃ view,
          index.semanticView fuel none sort filter limit maxDepth = some (.ok view) ∧
          view.shown ≤ limit := by
  have haccepted : RankedProfileDocument.planningDocument.validate (.inserted ReportMap) =
      .ok () := by
    decide
  obtain ⟨compact, index, -, hindex, -, -, hviews, -⟩ := views_are_bounded_prefixes
    (.inserted ReportMap) RankedProfileDocument.planningDocument haccepted false false
  refine ⟨haccepted, index, hindex, ?_⟩
  intro sort filter limit maxDepth
  have hroot : ∀ id ∈ (none : Option ℤ), id ∈ RankedProfileDocument.planningDocument.semanticNodes :=
    fun id hid => by cases hid
  obtain ⟨enough, henough⟩ := hviews none hroot sort filter limit maxDepth
  refine ⟨enough, ?_⟩
  intro fuel hfuel
  obtain ⟨view, hview, hshown⟩ := henough fuel hfuel
  exact ⟨view, hview, hshown.shown_le⟩

end TerminalProfileIndex

end DeltaFunnel
