import DeltaFunnel.PerfettoProfile.BoundedRows
import DeltaFunnel.PerfettoProfile.CompactCosts

/-! The index of an accepted document holds its semantics and the functions of the frame view,
each under its parent. -/

namespace DeltaFunnel
open Collections Graph

section Children
variable {K V α : Type} [DecidableEq K]

theorem getD_pushChild (children : HashMap K (List V)) (key : K) (value : V) (k : K) :
    ((pushChild children key value).get? k).getD [] =
      (children.get? k).getD [] ++ if key = k then [value] else [] := by
  unfold pushChild
  rw [HashMap.get?_insert]
  by_cases hk : k = key
  · rw [if_pos hk, if_pos hk.symm, hk]
    rfl
  · rw [if_neg hk, if_neg (Ne.symm hk), List.append_nil]

theorem getD_foldl_pushChild (xs : List α) (key : α → K) (value : α → V)
    (children : HashMap K (List V)) (k : K) :
    ((xs.foldl (fun children x => pushChild children (key x) (value x)) children).get? k).getD
        [] =
      (children.get? k).getD [] ++ (xs.filter (key · = k)).map value := by
  induction xs generalizing children with
  | nil => exact (List.append_nil _).symm
  | cons x xs ih =>
    rw [List.foldl_cons, ih, getD_pushChild, List.append_assoc, List.filter_cons]
    by_cases hkey : key x = k
    · rw [if_pos hkey, if_pos (decide_eq_true hkey)]
      rfl
    · rw [if_neg hkey, if_neg (fun h => hkey (of_decide_eq_true h))]
      rfl

end Children

namespace TerminalProfileIndex

theorem foldl_addSemantic (semantics : List RankedSemantic) (index : TerminalProfileIndex) :
    semantics.foldl addSemantic index =
      { index with
        semantics := (semantics.map fun semantic => (semantic.semanticId, semantic)).foldl
          (fun m e => m.insert e.1 e.2) index.semantics
        semanticChildren := semantics.foldl
          (fun children semantic => pushChild children semantic.parentSemanticId semantic)
          index.semanticChildren
        operationDurations := semantics.foldl
          (fun durations semantic => if semantic.parentSemanticId.isNone then
            durations.insert semantic.operationId semantic.durationNs else durations)
          index.operationDurations } := by
  induction semantics generalizing index with
  | nil => rfl
  | cons semantic semantics ih => exact ih (index.addSemantic semantic)

/-- The functions of the frame view with their parents in it. -/
def framed (compact : CompactFunctionTree) (allFrames : Bool) (functions : List RankedFunction) :
    List (RankedFunction × Option ℤ) :=
  functions.filterMap fun function =>
    (framedParent compact allFrames function).map fun parentId => (function, parentId)

def insertName (names : HashMap String String) (function : RankedFunction) :
    HashMap String String :=
  if names.contains function.name then names
  else names.insert function.name function.displayName

theorem addName_eq (index : TerminalProfileIndex) (function : RankedFunction) :
    index.addName function =
      { index with compactNames := insertName index.compactNames function } := by
  unfold addName insertName
  split
  · rfl
  · rfl

theorem foldl_addFunction (compact : CompactFunctionTree) (functions : List RankedFunction)
    (index : TerminalProfileIndex) :
    functions.foldl (addFunction compact) index =
      { index with
        compactNames := functions.foldl insertName index.compactNames
        functions := ((framed compact index.allFrames functions).map fun entry =>
          (entry.1.identity, entry.1)).foldl (fun m e => m.insert e.1 e.2) index.functions
        functionParents := ((framed compact index.allFrames functions).map fun entry =>
          (entry.1.identity, entry.2)).foldl (fun m e => m.insert e.1 e.2) index.functionParents
        functionChildren := (framed compact index.allFrames functions).foldl
          (fun children entry => pushChild children (entry.1.semanticId, entry.2) entry.1)
          index.functionChildren } := by
  induction functions generalizing index with
  | nil => rfl
  | cons function functions ih =>
    rw [List.foldl_cons, ih]
    unfold addFunction framed
    rw [addName_eq, List.filterMap_cons]
    dsimp only
    cases framedParent compact index.allFrames function with
    | none => rfl
    | some parentId => rfl

structure Indexes (document : RankedProfileDocument) (compact : CompactFunctionTree)
    (fullSymbols allFrames : Bool) (index : TerminalProfileIndex) : Prop where
  document_eq : index.document = document
  fullSymbols_eq : index.fullSymbols = fullSymbols
  allFrames_eq : index.allFrames = allFrames
  semantics : ∀ id semantic, index.semantics.get? id = some semantic ↔
    semantic ∈ document.semantics ∧ semantic.semanticId = id
  childSemantics : ∀ parentId, index.childSemantics parentId =
    document.semantics.filter (·.parentSemanticId = parentId)
  functions : ∀ id function, index.functions.get? id = some function ↔
    function ∈ document.functions ∧ (framedParent compact allFrames function).isSome = true ∧
      function.identity = id
  functionParents : ∀ id parentId, index.functionParents.get? id = some parentId ↔
    ∃ function ∈ document.functions, framedParent compact allFrames function = some parentId ∧
      function.identity = id
  childFunctions : ∀ semanticId parentId, index.childFunctions semanticId parentId =
    document.functions.filter fun function => function.semanticId = semanticId ∧
      framedParent compact allFrames function = some parentId

variable {document : RankedProfileDocument} {compact : CompactFunctionTree}
  {fullSymbols allFrames : Bool} {index : TerminalProfileIndex}

theorem mem_framed {entry : RankedFunction × Option ℤ} {functions : List RankedFunction} :
    entry ∈ framed compact allFrames functions ↔
      entry.1 ∈ functions ∧ framedParent compact allFrames entry.1 = some entry.2 := by
  unfold framed
  rw [List.mem_filterMap]
  constructor
  · intro h
    obtain ⟨function, hmem, hsome⟩ := h
    obtain ⟨parentId, hparent, rfl⟩ := Option.map_eq_some_iff.1 hsome
    exact ⟨hmem, hparent⟩
  · intro h
    exact ⟨entry.1, h.1, by rw [h.2]; rfl⟩

theorem framed_identities_sublist (functions : List RankedFunction) :
    ((framed compact allFrames functions).map fun entry => entry.1.identity).Sublist
      (functions.map RankedFunction.identity) := by
  unfold framed
  induction functions with
  | nil => exact .slnil
  | cons function functions ih =>
    rw [List.filterMap_cons, List.map_cons]
    cases framedParent compact allFrames function with
    | none => exact ih.cons _
    | some parentId => exact ih.cons_cons _

theorem framed_filter_fst (functions : List RankedFunction) (semanticId : ℤ)
    (parentId : Option ℤ) :
    ((framed compact allFrames functions).filter
        fun entry => (entry.1.semanticId, entry.2) = (semanticId, parentId)).map Prod.fst =
      functions.filter fun function => function.semanticId = semanticId ∧
        framedParent compact allFrames function = some parentId := by
  unfold framed
  induction functions with
  | nil => rfl
  | cons function functions ih =>
    rw [List.filterMap_cons, List.filter_cons]
    cases hparent : framedParent compact allFrames function with
    | none =>
      rw [if_neg (by simp)]
      exact ih
    | some found =>
      dsimp only [Option.map_some]
      rw [List.filter_cons]
      by_cases hkey : function.semanticId = semanticId ∧ found = parentId
      · rw [if_pos (decide_eq_true (by rw [hkey.1, hkey.2])),
          if_pos (decide_eq_true ⟨hkey.1, by rw [hkey.2]⟩), List.map_cons, ih]
      · rw [if_neg, if_neg, ih]
        · intro h
          obtain ⟨hsemantic, hfound⟩ := of_decide_eq_true h
          exact hkey ⟨hsemantic, Option.some.inj hfound⟩
        · intro h
          exact hkey (Prod.mk.inj (of_decide_eq_true h))

theorem new_eq (h : new document fullSymbols allFrames = some index) :
    ∃ compact, CompactFunctionTree.new document.functions = some compact ∧
      index = document.functions.foldl (addFunction compact)
        (document.semantics.foldl addSemantic (empty document fullSymbols allFrames)) := by
  unfold new at h
  obtain ⟨compact, hcompact, hindex⟩ := Option.bind_eq_some_iff.1 h
  exact ⟨compact, hcompact, (Option.some.inj hindex).symm⟩

theorem indexes_of_new (hstruct : document.WellStructured)
    (hcompact : CompactFunctionTree.new document.functions = some compact)
    (h : new document fullSymbols allFrames = some index) :
    Indexes document compact fullSymbols allFrames index := by
  obtain ⟨tree, htree, rfl⟩ := new_eq h
  obtain rfl := Option.some.inj (htree.symm.trans hcompact)
  rw [foldl_addSemantic, foldl_addFunction]
  -- the maps are collected from lists without repeated keys
  have hidentities : (((framed tree allFrames document.functions).map fun entry =>
      entry.1.identity)).Nodup :=
    (framed_identities_sublist document.functions).nodup hstruct.function_ids
  constructor
  · rfl
  · rfl
  · rfl
  · intro id semantic
    have hget := HashMap.get?_collect_map_iff (fun semantic : RankedSemantic => semantic)
      hstruct.semantic_ids (k := id) (v := semantic)
    refine hget.trans ?_
    constructor
    · intro h
      obtain ⟨found, hmem, hid, rfl⟩ := h
      exact ⟨hmem, hid⟩
    · intro h
      exact ⟨semantic, h.1, h.2, rfl⟩
  · intro parentId
    show ((document.semantics.foldl _ HashMap.empty).get? parentId).getD [] = _
    rw [getD_foldl_pushChild]
    simp
  · intro id function
    have hget := HashMap.get?_collect_map_iff Prod.fst hidentities (k := id)
      (v := function)
    refine hget.trans ?_
    constructor
    · intro h
      obtain ⟨entry, hmem, hid, rfl⟩ := h
      obtain ⟨hin, hparent⟩ := mem_framed.1 hmem
      exact ⟨hin, by rw [hparent]; rfl, hid⟩
    · intro h
      obtain ⟨hin, hsome, hid⟩ := h
      obtain ⟨parentId, hparent⟩ := Option.isSome_iff_exists.1 hsome
      exact ⟨(function, parentId), mem_framed.2 ⟨hin, hparent⟩, hid, rfl⟩
  · intro id parentId
    have hget := HashMap.get?_collect_map_iff Prod.snd hidentities (k := id)
      (v := parentId)
    refine hget.trans ?_
    constructor
    · intro h
      obtain ⟨entry, hmem, hid, rfl⟩ := h
      obtain ⟨hin, hparent⟩ := mem_framed.1 hmem
      exact ⟨entry.1, hin, hparent, hid⟩
    · intro h
      obtain ⟨function, hin, hparent, hid⟩ := h
      exact ⟨(function, parentId), mem_framed.2 ⟨hin, hparent⟩, hid, rfl⟩
  · intro semanticId parentId
    show (((framed tree allFrames document.functions).foldl _ HashMap.empty).get?
      (semanticId, parentId)).getD [] = _
    rw [getD_foldl_pushChild, framed_filter_fst]
    rfl

theorem exists_index {order : IterationOrder ReportMap}
    (haccepted : document.validate order = .ok ()) (fullSymbols allFrames : Bool) :
    ∃ compact index, CompactFunctionTree.new document.functions = some compact ∧
      new document fullSymbols allFrames = some index ∧ document.WellStructured ∧
      compact.LosesNoCost document ∧ Indexes document compact fullSymbols allFrames index := by
  obtain ⟨compact, hcompact, hcontracts⟩ := CompactFunctionTree.exists_contracts haccepted
  have hnew : ∃ index, new document fullSymbols allFrames = some index := by
    unfold new
    rw [hcompact]
    exact ⟨_, rfl⟩
  obtain ⟨index, hindex⟩ := hnew
  exact ⟨compact, index, hcompact, hindex, hcontracts.structured, hcontracts.losesNoCost,
    indexes_of_new hcontracts.structured hcompact hindex⟩

theorem semanticParent_eq (hstruct : document.WellStructured)
    (h : Indexes document compact fullSymbols allFrames index) :
    index.semanticParent = document.semanticParent := by
  funext id
  unfold semanticParent
  cases hget : index.semantics.get? id with
  | some semantic =>
    obtain ⟨hmem, rfl⟩ := (h.semantics id semantic).1 hget
    exact (RankedProfileDocument.semanticParent_eq hstruct.semantic_ids hmem).symm
  | none =>
    cases hparent : document.semanticParent id with
    | none => rfl
    | some parentId =>
      exfalso
      unfold RankedProfileDocument.semanticParent parentIn at hparent
      rw [Option.join_eq_some_iff] at hparent
      obtain ⟨semantic, hmem, hid, -⟩ := (HashMap.get?_collect_map_iff _
        hstruct.semantic_ids).1 hparent
      rw [(h.semantics id semantic).2 ⟨hmem, hid⟩] at hget
      cases hget

theorem grounded_semanticParent (hstruct : document.WellStructured) (id : ℤ) :
    Grounded document.semanticParent id := by
  by_cases hid : id ∈ document.semanticNodes
  · exact hstruct.semantic_forest.grounded id hid
  · cases hparent : document.semanticParent id with
    | none => exact .root hparent
    | some parentId =>
      exfalso
      unfold RankedProfileDocument.semanticParent parentIn at hparent
      rw [Option.join_eq_some_iff] at hparent
      obtain ⟨semantic, hmem, rfl, -⟩ := (HashMap.get?_collect_map_iff _
        hstruct.semantic_ids).1 hparent
      exact hid (RankedProfileDocument.mem_semanticNodes.2 ⟨semantic, hmem, rfl⟩)

def viewParent (index : TerminalProfileIndex) (id : ℤ × ℤ) : Option (ℤ × ℤ) :=
  (index.functionParents.get? id).join.map (Prod.mk id.1)

def viewNodes (index : TerminalProfileIndex) : Finset (ℤ × ℤ) :=
  index.functionParents.keys.toFinset

theorem mem_viewNodes (h : Indexes document compact fullSymbols allFrames index) {id : ℤ × ℤ} :
    id ∈ index.viewNodes ↔ ∃ function ∈ document.functions,
      (framedParent compact allFrames function).isSome = true ∧ function.identity = id := by
  unfold viewNodes
  rw [List.mem_toFinset, HashMap.mem_keys]
  constructor
  · intro hin
    obtain ⟨parentId, hget⟩ := hin
    obtain ⟨function, hmem, hparent, hid⟩ := (h.functionParents id parentId).1 hget
    exact ⟨function, hmem, by rw [hparent]; rfl, hid⟩
  · intro hin
    obtain ⟨function, hmem, hsome, hid⟩ := hin
    obtain ⟨parentId, hparent⟩ := Option.isSome_iff_exists.1 hsome
    exact ⟨parentId, (h.functionParents id parentId).2 ⟨function, hmem, hparent, hid⟩⟩

theorem viewParent_eq (h : Indexes document compact fullSymbols allFrames index)
    {function : RankedFunction} (hmem : function ∈ document.functions) {parentId : Option ℤ}
    (hparent : framedParent compact allFrames function = some parentId) :
    index.viewParent function.identity = parentId.map (Prod.mk function.semanticId) := by
  unfold viewParent
  rw [(h.functionParents _ _).2 ⟨function, hmem, hparent, rfl⟩]
  rfl

theorem viewParent_eq_none {id : ℤ × ℤ} (hid : id ∉ index.viewNodes) :
    index.viewParent id = none := by
  unfold viewNodes at hid
  rw [List.mem_toFinset] at hid
  unfold viewParent
  rw [HashMap.get?_eq_none.2 hid]
  rfl

theorem isForest_congr {α : Type} {parent parent' : α → Option α} {nodes : Finset α}
    (hforest : IsForest parent nodes) (h : ∀ x ∈ nodes, parent' x = parent x) :
    IsForest parent' nodes where
  closed x hx y hy := hforest.closed x hx y (by rw [← h x hx, hy])
  grounded x hx := by
    have hgrounded := hforest.grounded x hx
    induction hgrounded with
    | root hparent => exact .root ((h _ hx).trans hparent)
    | up hparent _ ih =>
      exact .up ((h _ hx).trans hparent) (ih (hforest.closed _ hx _ hparent))

theorem viewForest (hstruct : document.WellStructured)
    (hcosts : compact.LosesNoCost document)
    (h : Indexes document compact fullSymbols allFrames index) :
    IsForest index.viewParent index.viewNodes := by
  -- all frames, or those that the compact tree contains
  cases hframes : allFrames with
  | true =>
    have hframed : ∀ function, framedParent compact allFrames function =
        some function.parentFunctionId := fun function => by
      unfold framedParent
      rw [hframes, if_pos rfl]
    have hnodes : index.viewNodes = document.functionNodes := by
      ext id
      rw [mem_viewNodes h, RankedProfileDocument.mem_functionNodes]
      constructor
      · intro hin
        obtain ⟨function, hmem, -, hid⟩ := hin
        exact ⟨function, hmem, hid⟩
      · intro hin
        obtain ⟨function, hmem, hid⟩ := hin
        exact ⟨function, hmem, by rw [hframed]; rfl, hid⟩
    rw [hnodes]
    apply isForest_congr hstruct.function_forest
    intro id hid
    obtain ⟨function, hmem, rfl⟩ := RankedProfileDocument.mem_functionNodes.1 hid
    rw [viewParent_eq h hmem (hframed function),
      RankedProfileDocument.functionParent_eq hstruct.function_ids hmem]
  | false =>
    have hframed : ∀ function, framedParent compact allFrames function =
        if compact.contains function then some (compact.parentFunctionId function) else none :=
      fun function => by
        unfold framedParent
        rw [hframes, if_neg Bool.false_ne_true]
    have hnodes : index.viewNodes = document.functionNodes.filter compact.Contained := by
      ext id
      rw [mem_viewNodes h, CompactFunctionTree.mem_contained]
      constructor
      · intro hin
        obtain ⟨function, hmem, hsome, hid⟩ := hin
        refine ⟨function, hmem, ?_, hid⟩
        by_contra hnot
        rw [hframed, if_neg hnot] at hsome
        cases hsome
      · intro hin
        obtain ⟨function, hmem, hcontains, hid⟩ := hin
        exact ⟨function, hmem, by rw [hframed, if_pos hcontains]; rfl, hid⟩
    rw [hnodes]
    apply isForest_congr hcosts.forest
    intro id hid
    obtain ⟨function, hmem, hcontains, rfl⟩ := CompactFunctionTree.mem_contained.1 hid
    rw [viewParent_eq h hmem (by rw [hframed, if_pos hcontains])]
    rfl

theorem grounded_viewParent (hstruct : document.WellStructured)
    (hcosts : compact.LosesNoCost document)
    (h : Indexes document compact fullSymbols allFrames index) (id : ℤ × ℤ) :
    Grounded index.viewParent id := by
  by_cases hid : id ∈ index.viewNodes
  · exact (viewForest hstruct hcosts h).grounded id hid
  · exact .root (viewParent_eq_none hid)

def functionNodesOf (index : TerminalProfileIndex) (semanticId : ℤ) : Finset ℤ :=
  (index.viewNodes.filter (·.1 = semanticId)).image Prod.snd

theorem mem_functionNodesOf {semanticId functionId : ℤ} :
    functionId ∈ index.functionNodesOf semanticId ↔ (semanticId, functionId) ∈ index.viewNodes := by
  unfold functionNodesOf
  rw [Finset.mem_image]
  constructor
  · intro h
    obtain ⟨⟨owner, id⟩, hmem, rfl⟩ := h
    obtain ⟨hin, rfl⟩ := Finset.mem_filter.1 hmem
    exact hin
  · intro h
    exact ⟨(semanticId, functionId), Finset.mem_filter.2 ⟨h, rfl⟩, rfl⟩

theorem viewParent_pair (semanticId functionId : ℤ) :
    index.viewParent (semanticId, functionId) =
      (index.functionParent semanticId functionId).map (Prod.mk semanticId) :=
  rfl

theorem functionParent_eq_some {semanticId functionId parentId : ℤ} :
    index.functionParent semanticId functionId = some parentId ↔
      index.viewParent (semanticId, functionId) = some (semanticId, parentId) := by
  rw [viewParent_pair, Option.map_eq_some_iff]
  constructor
  · intro h
    exact ⟨parentId, h, rfl⟩
  · intro h
    obtain ⟨found, hfound, heq⟩ := h
    rw [hfound, (Prod.mk.inj heq).2]

theorem grounded_functionParent (hstruct : document.WellStructured)
    (hcosts : compact.LosesNoCost document)
    (h : Indexes document compact fullSymbols allFrames index) (semanticId functionId : ℤ) :
    Grounded (index.functionParent semanticId) functionId := by
  have hgrounded := grounded_viewParent hstruct hcosts h (semanticId, functionId)
  generalize hid : (semanticId, functionId) = id at hgrounded
  induction hgrounded generalizing functionId with
  | root hparent =>
    rw [← hid, viewParent_pair, Option.map_eq_none_iff] at hparent
    exact .root hparent
  | up hparent _ ih =>
    rw [← hid, viewParent_pair, Option.map_eq_some_iff] at hparent
    obtain ⟨parentId, hparentId, heq⟩ := hparent
    exact .up hparentId (ih parentId heq)

theorem functionForest (hstruct : document.WellStructured)
    (hcosts : compact.LosesNoCost document)
    (h : Indexes document compact fullSymbols allFrames index) (semanticId : ℤ) :
    IsForest (index.functionParent semanticId) (index.functionNodesOf semanticId) where
  closed id hid parentId hparent := by
    rw [mem_functionNodesOf] at hid ⊢
    exact (viewForest hstruct hcosts h).closed _ hid _ (functionParent_eq_some.1 hparent)
  grounded id _ := grounded_functionParent hstruct hcosts h semanticId id

theorem childFunctions_spec (h : Indexes document compact fullSymbols allFrames index)
    {semanticId : ℤ} {parentId : Option ℤ} {function : RankedFunction}
    (hmem : function ∈ index.childFunctions semanticId parentId) :
    index.functionParent semanticId function.functionId = parentId ∧
      function.functionId ∈ index.functionNodesOf semanticId := by
  rw [h.childFunctions, List.mem_filter, decide_eq_true_iff] at hmem
  obtain ⟨hin, rfl, hparent⟩ := hmem
  have hget := (h.functionParents function.identity parentId).2 ⟨function, hin, hparent, rfl⟩
  constructor
  · unfold functionParent
    rw [show (function.semanticId, function.functionId) = function.identity from rfl, hget]
    rfl
  · rw [mem_functionNodesOf]
    exact (mem_viewNodes h).2 ⟨function, hin, by rw [hparent]; rfl, rfl⟩

theorem nodup_childFunctions (hstruct : document.WellStructured)
    (h : Indexes document compact fullSymbols allFrames index) (semanticId : ℤ)
    (parentId : Option ℤ) :
    ((index.childFunctions semanticId parentId).map (·.functionId)).Nodup := by
  rw [h.childFunctions]
  apply List.Nodup.map_on
  · intro x hx y hy heq
    rw [List.mem_filter, decide_eq_true_iff] at hx hy
    apply List.inj_on_of_nodup_map hstruct.function_ids hx.1 hy.1
    exact Prod.ext (hx.2.1.trans hy.2.1.symm) heq
  · exact (List.Nodup.of_map _ hstruct.function_ids).filter _

theorem nodup_childSemantics (hstruct : document.WellStructured)
    (h : Indexes document compact fullSymbols allFrames index) (parentId : Option ℤ) :
    ((index.childSemantics parentId).map (·.semanticId)).Nodup := by
  rw [h.childSemantics]
  exact (List.filter_sublist.map _).nodup hstruct.semantic_ids

theorem childSemantics_spec (hstruct : document.WellStructured)
    (h : Indexes document compact fullSymbols allFrames index) {parentId : Option ℤ}
    {semantic : RankedSemantic} (hmem : semantic ∈ index.childSemantics parentId) :
    document.semanticParent semantic.semanticId = parentId ∧
      semantic.semanticId ∈ document.semanticNodes := by
  rw [h.childSemantics, List.mem_filter, decide_eq_true_iff] at hmem
  refine ⟨?_, RankedProfileDocument.mem_semanticNodes.2 ⟨semantic, hmem.1, rfl⟩⟩
  rw [RankedProfileDocument.semanticParent_eq hstruct.semantic_ids hmem.1, hmem.2]

theorem semanticSortedForest (hstruct : document.WellStructured)
    (h : Indexes document compact fullSymbols allFrames index) (sort : InspectSort)
    (selected : Option ℤ) :
    SortedForest RankedSemantic.semanticId document.semanticParent document.semanticNodes selected
      (fun semantic => index.childSemantics (some semantic.semanticId))
      (fun semantic => index.sortedSemantics sort (some semantic.semanticId))
      (index.childSemantics selected) (index.sortedSemantics sort selected) where
  forest := hstruct.semantic_forest
  grounded := grounded_semanticParent hstruct
  mem_siblings _ _ := mem_sortUnstableBy
  mem_sortedRoots _ := mem_sortUnstableBy
  parent_child _ _ hy := (childSemantics_spec hstruct h hy).1
  parent_root _ hy := (childSemantics_spec hstruct h hy).1
  child_node _ _ hy := (childSemantics_spec hstruct h hy).2
  root_node _ hy := (childSemantics_spec hstruct h hy).2
  nodup_siblings _ :=
    ((sortUnstableBy_perm _ _).map _).nodup_iff.2 (nodup_childSemantics hstruct h _)
  nodup_roots := ((sortUnstableBy_perm _ _).map _).nodup_iff.2 (nodup_childSemantics hstruct h _)

theorem functionSortedForest (hstruct : document.WellStructured)
    (hcosts : compact.LosesNoCost document)
    (h : Indexes document compact fullSymbols allFrames index) (sort : InspectSort)
    (semanticId : ℤ) (selected : Option ℤ) :
    SortedForest RankedFunction.functionId (index.functionParent semanticId)
      (index.functionNodesOf semanticId) selected
      (fun function => index.childFunctions semanticId (some function.functionId))
      (fun function => index.sortedFunctions sort semanticId (some function.functionId))
      (index.childFunctions semanticId selected)
      (index.sortedFunctions sort semanticId selected) where
  forest := functionForest hstruct hcosts h semanticId
  grounded := grounded_functionParent hstruct hcosts h semanticId
  mem_siblings _ _ := mem_sortUnstableBy
  mem_sortedRoots _ := mem_sortUnstableBy
  parent_child _ _ hy := (childFunctions_spec h hy).1
  parent_root _ hy := (childFunctions_spec h hy).1
  child_node _ _ hy := (childFunctions_spec h hy).2
  root_node _ hy := (childFunctions_spec h hy).2
  nodup_siblings _ :=
    ((sortUnstableBy_perm _ _).map _).nodup_iff.2 (nodup_childFunctions hstruct h semanticId _)
  nodup_roots :=
    ((sortUnstableBy_perm _ _).map _).nodup_iff.2 (nodup_childFunctions hstruct h semanticId _)

end TerminalProfileIndex

end DeltaFunnel
