import DeltaFunnel.PerfettoProfile.ViewerOrder
import DeltaFunnel.SqlServer.PrivateNames

/-! The viewer of an HTML report presents the forest of the terminal view, in the same orders. -/

namespace DeltaFunnel
open Collections
namespace ReportViewer

section Index
variable {K V α : Type} [DecidableEq K]

theorem appendIndexed_eq (index : HashMap K (List V)) (key : K) (value : V) :
    appendIndexed index key value = pushChild index key value := by
  unfold appendIndexed pushChild
  cases index.get? key with
  | none => rfl
  | some values => rfl

theorem getD_foldl_appendIndexed (xs : List V) (key : V → Option K)
    (index : HashMap K (List V)) (k : K) :
    ((xs.foldl (fun index x => ((key x).map fun k => appendIndexed index k x).getD index)
      index).get? k).getD [] = (index.get? k).getD [] ++ xs.filter (key · = some k) := by
  induction xs generalizing index with
  | nil => exact (List.append_nil _).symm
  | cons x xs ih =>
    rw [List.foldl_cons, ih, List.filter_cons]
    cases hkey : key x with
    | none => rfl
    | some found =>
      show ((appendIndexed index found x).get? k).getD [] ++ _ = _
      rw [appendIndexed_eq, getD_pushChild, List.append_assoc]
      by_cases hk : found = k
      · rw [if_pos hk, if_pos (decide_eq_true (congrArg some hk))]
        rfl
      · rw [if_neg hk, if_neg (fun h => hk (Option.some.inj (of_decide_eq_true h)))]
        rfl

end Index

section Forest
variable {document : RankedProfileDocument} {compact : CompactFunctionTree}

/-- The profile of a document whose compact trees are built. -/
def profileOf (document : RankedProfileDocument) (compact : CompactFunctionTree) : HtmlProfile :=
  ⟨document.metadata, document.semantics.map .of, document.functions.map (.of compact)⟩

theorem htmlProfile_eq (hcompact : CompactFunctionTree.new document.functions = some compact) :
    document.htmlProfile = some (profileOf document compact) := by
  unfold RankedProfileDocument.htmlProfile
  rw [hcompact]
  rfl

theorem semanticSiblings_eq (parentId : Option ℤ) :
    semanticSiblings (profileOf document compact) parentId =
      (document.semantics.filter (·.parentSemanticId = parentId)).map .of := by
  cases parentId with
  | none =>
    unfold semanticSiblings operations profileOf
    rw [List.filter_map]
    rfl
  | some parentId =>
    have hfold : semanticChildren (profileOf document compact) =
        (document.semantics.map HtmlSemantic.of).foldl (fun index semantic =>
          ((semantic.semantic.parentSemanticId).map fun k =>
            appendIndexed index k semantic).getD index) .empty := by
      unfold semanticChildren profileOf
      congr 1
      funext children semantic
      cases semantic.semantic.parentSemanticId <;> rfl
    unfold semanticSiblings
    dsimp only
    rw [hfold, getD_foldl_appendIndexed, HashMap.get?_empty, List.filter_map]
    rfl

/-- The parent of a function among the shown frames, and `none` for a hidden one. -/
def shownParent (showAllFrames : Bool) (fn : HtmlFunction) : Option (Option ℤ) :=
  if showAllFrames then some fn.function.parentFunctionId
  else if fn.compactHidden then none
  else some fn.compactParentFunctionId

theorem shownParent_of (showAllFrames : Bool) (function : RankedFunction) :
    shownParent showAllFrames (.of compact function) =
      TerminalProfileIndex.framedParent compact showAllFrames function := by
  unfold shownParent TerminalProfileIndex.framedParent HtmlFunction.of
  dsimp only
  cases compact.contains function <;> rfl

/-- The key of a root among the functions of its semantic. -/
def rootKey (showAllFrames : Bool) (fn : HtmlFunction) : Option ℤ :=
  if shownParent showAllFrames fn = some none then some fn.function.semanticId else none

def childKey (showAllFrames : Bool) (fn : HtmlFunction) : Option String :=
  (shownParent showAllFrames fn).join.map (functionParentKey fn.function.semanticId)

theorem add_eq (showAllFrames : Bool) (frames : FunctionFrames) (fn : HtmlFunction) :
    frames.add showAllFrames fn =
      ⟨((rootKey showAllFrames fn).map fun k =>
          appendIndexed frames.functionRoots k fn).getD frames.functionRoots,
        ((childKey showAllFrames fn).map fun k =>
          appendIndexed frames.functionChildren k fn).getD frames.functionChildren⟩ := by
  unfold FunctionFrames.add rootKey childKey shownParent
  cases showAllFrames with
  | true =>
    cases hparent : fn.function.parentFunctionId with
    | none => rfl
    | some parentId => rfl
  | false =>
    cases hhidden : fn.compactHidden with
    | true => rfl
    | false =>
      cases hparent : fn.compactParentFunctionId with
      | none => rfl
      | some parentId => rfl

theorem foldl_add (showAllFrames : Bool) (functions : List HtmlFunction) (frames : FunctionFrames) :
    functions.foldl (FunctionFrames.add showAllFrames) frames =
      ⟨functions.foldl (fun index fn => ((rootKey showAllFrames fn).map fun k =>
          appendIndexed index k fn).getD index) frames.functionRoots,
        functions.foldl (fun index fn => ((childKey showAllFrames fn).map fun k =>
          appendIndexed index k fn).getD index) frames.functionChildren⟩ := by
  induction functions generalizing frames with
  | nil => rfl
  | cons fn functions ih => rw [List.foldl_cons, ih, add_eq, List.foldl_cons, List.foldl_cons]

theorem toString_negSucc (n : ℕ) :
    (toString (Int.negSucc n)).toList = '-' :: (toString (n + 1)).toList := by
  show ("-" ++ toString (n + 1)).toList = _
  rw [String.toList_append]
  rfl

theorem separator_notMem (id : ℤ) : ':' ∉ (toString id).toList := by
  have hdigits : ∀ n : ℕ, ':' ∉ (toString n).toList := by
    intro n h
    exact absurd (toString_digits n ':' h) (by decide)
  cases id with
  | ofNat n => exact hdigits n
  | negSucc n =>
    rw [toString_negSucc, List.mem_cons]
    exact not_or.2 ⟨by decide, hdigits (n + 1)⟩

theorem toString_int_injective {id other : ℤ} (h : (toString id).toList = (toString other).toList) :
    id = other := by
  have hpositive : ∀ m n : ℕ, (toString m).toList ≠ '-' :: (toString (n + 1)).toList := by
    intro m n hsame
    have hdigit := toString_digits m '-' (hsame ▸ List.mem_cons_self ..)
    exact absurd hdigit (by decide)
  cases id with
  | ofNat m =>
    cases other with
    | ofNat n => exact congrArg Int.ofNat (toString_injective h)
    | negSucc n => exact absurd (h.trans (toString_negSucc n)) (hpositive m n)
  | negSucc m =>
    cases other with
    | ofNat n => exact absurd (h.symm.trans (toString_negSucc m)) (hpositive n m)
    | negSucc n =>
      have hsame := (toString_negSucc m).symm.trans (h.trans (toString_negSucc n))
      have hsucc := toString_injective (List.cons.inj hsame).2
      rw [Nat.succ.inj hsucc]

theorem functionParentKey_inj {semanticId functionId semanticId' functionId' : ℤ} :
    functionParentKey semanticId functionId = functionParentKey semanticId' functionId' ↔
      semanticId = semanticId' ∧ functionId = functionId' := by
  have hlist : ∀ a b : ℤ, (functionParentKey a b).toList =
      (toString a).toList ++ ':' :: (toString b).toList := by
    intro a b
    unfold functionParentKey
    rw [String.toList_append, String.toList_append, List.append_assoc]
    rfl
  constructor
  · intro h
    have hsame := congrArg String.toList h
    -- no number has a colon, so the first colon is where the key was joined
    rw [hlist, hlist, List.append_cons_inj_of_notMem (separator_notMem _) (separator_notMem _)]
      at hsame
    exact ⟨toString_int_injective hsame.1, toString_int_injective hsame.2.2⟩
  · intro h
    rw [h.1, h.2]

theorem filter_of {P : HtmlFunction → Prop} {Q : RankedFunction → Prop} [DecidablePred P]
    [DecidablePred Q] (functions : List RankedFunction) (h : ∀ function, P (.of compact function) ↔
      Q function) : (functions.map (.of compact)).filter (fun fn => P fn) =
        (functions.filter (fun function => Q function)).map (.of compact) := by
  rw [List.filter_map]
  congr 1
  apply List.filter_congr
  intro function _
  exact decide_eq_decide.2 (h function)

theorem functionSiblings_eq (showAllFrames : Bool) (semanticId : ℤ) (parentId : Option ℤ) :
    functionSiblings (profileOf document compact) showAllFrames semanticId parentId =
      (document.functions.filter fun function => function.semanticId = semanticId ∧
        TerminalProfileIndex.framedParent compact showAllFrames function = some parentId).map
          (.of compact) := by
  unfold functionSiblings indexFunctionFrames
  rw [foldl_add]
  cases parentId with
  | none =>
    dsimp only
    rw [getD_foldl_appendIndexed, HashMap.get?_empty]
    apply filter_of
    intro function
    unfold rootKey
    rw [shownParent_of]
    constructor
    · intro h
      split at h
      · next hroot => exact ⟨Option.some.inj h, hroot⟩
      · cases h
    · intro h
      rw [if_pos h.2, ← h.1]
      rfl
  | some parentId =>
    dsimp only
    rw [getD_foldl_appendIndexed, HashMap.get?_empty]
    apply filter_of
    intro function
    unfold childKey
    rw [shownParent_of]
    constructor
    · intro h
      obtain ⟨parentId', hjoin, hkey⟩ := Option.map_eq_some_iff.1 h
      obtain ⟨hsemantic, rfl⟩ := functionParentKey_inj.1 hkey
      exact ⟨hsemantic, Option.join_eq_some_iff.1 hjoin⟩
    · intro h
      rw [h.2, ← h.1]
      rfl

end Forest

section Names

def NamesCompacted (names : HashMap String String) : Prop :=
  ∀ name compacted, names.get? name = some compacted → compacted = compactFunctionName name

theorem NamesCompacted.insertName {names : HashMap String String} (h : NamesCompacted names)
    (function : RankedFunction) :
    NamesCompacted (TerminalProfileIndex.insertName names function) := by
  unfold TerminalProfileIndex.insertName
  split
  · exact h
  · intro name compacted hget
    rw [HashMap.get?_insert] at hget
    split at hget
    · next hname =>
      rw [← Option.some.inj hget, hname]
      rfl
    · exact h name compacted hget

theorem insertName_keeps {names : HashMap String String} {name : String}
    (h : name ∈ names.keys) (function : RankedFunction) :
    name ∈ (TerminalProfileIndex.insertName names function).keys := by
  unfold TerminalProfileIndex.insertName
  split
  · exact h
  · exact HashMap.mem_keys_insert.2 (.inr h)

theorem insertName_adds (names : HashMap String String) (function : RankedFunction) :
    function.name ∈ (TerminalProfileIndex.insertName names function).keys := by
  unfold TerminalProfileIndex.insertName
  split
  · next hin => exact HashMap.contains_iff.1 hin
  · exact HashMap.mem_keys_insert.2 (.inl rfl)

theorem foldl_insertName {names : HashMap String String} (h : NamesCompacted names)
    (functions : List RankedFunction) :
    NamesCompacted (functions.foldl TerminalProfileIndex.insertName names) ∧
      (∀ name ∈ names.keys, name ∈ (functions.foldl TerminalProfileIndex.insertName names).keys) ∧
      ∀ function ∈ functions,
        function.name ∈ (functions.foldl TerminalProfileIndex.insertName names).keys := by
  induction functions generalizing names with
  | nil => exact ⟨h, fun _ hname => hname, fun _ hmem => absurd hmem List.not_mem_nil⟩
  | cons function functions ih =>
    obtain ⟨hcompacted, hkept, hadded⟩ := ih (h.insertName function)
    -- a name that is already there is not compacted again
    refine ⟨hcompacted, fun name hname => hkept name (insertName_keeps hname function), ?_⟩
    intro other hother
    rcases List.mem_cons.1 hother with rfl | hother
    · exact hkept _ (insertName_adds names other)
    · exact hadded other hother

theorem functionName_eq {document : RankedProfileDocument} {allFrames : Bool}
    {index : TerminalProfileIndex}
    (hnew : TerminalProfileIndex.new document false allFrames = some index)
    {function : RankedFunction} (hmem : function ∈ document.functions) :
    index.functionName function = function.displayName := by
  obtain ⟨compact, -, rfl⟩ := TerminalProfileIndex.new_eq hnew
  rw [TerminalProfileIndex.foldl_addSemantic, TerminalProfileIndex.foldl_addFunction]
  have hnone : NamesCompacted .empty := by
    intro name compacted hget
    rw [HashMap.get?_empty] at hget
    cases hget
  obtain ⟨hcompacted, -, hadded⟩ := foldl_insertName hnone document.functions
  obtain ⟨compacted, hget⟩ := HashMap.mem_keys.1 (hadded function hmem)
  show ((document.functions.foldl TerminalProfileIndex.insertName .empty).get?
    function.name).getD function.name = _
  rw [hget]
  exact hcompacted _ _ hget

end Names

/-- The viewer shows the siblings of the index, and sorts them as the terminal view does. -/
structure SamePresentation (profile : HtmlProfile) (showAllFrames : Bool)
    (index : TerminalProfileIndex) : Prop where
  semantics : ∀ parentId, (semanticSiblings profile parentId).map HtmlSemantic.semantic =
    index.childSemantics parentId
  functions : ∀ semanticId parentId,
    (functionSiblings profile showAllFrames semanticId parentId).map HtmlFunction.function =
      index.childFunctions semanticId parentId
  sortedSemantics : ∀ (sort : InspectSort) parentId,
    (sortedValues (compareSemantic sort.viewerField sort.viewerField.initialDirection)
      (semanticSiblings profile parentId)).map HtmlSemantic.semantic =
        index.sortedSemantics sort parentId
  sortedFunctions : ∀ (sort : InspectSort) semanticId parentId,
    (sortedValues (compareFunction sort.viewerField sort.viewerField.initialDirection)
      (functionSiblings profile showAllFrames semanticId parentId)).map HtmlFunction.function =
        index.sortedFunctions sort semanticId parentId

/-- The comparisons of the viewer order all siblings strictly, in every column and direction. -/
structure StrictlySorted (profile : HtmlProfile) (showAllFrames : Bool) : Prop where
  semantics : ∀ sortField sortDirection parentId,
    StrictlyOrders (compareSemantic sortField sortDirection) (semanticSiblings profile parentId)
  functions : ∀ sortField sortDirection semanticId parentId,
    StrictlyOrders (compareFunction sortField sortDirection)
      (functionSiblings profile showAllFrames semanticId parentId)

section Presentation
variable {document : RankedProfileDocument} {compact : CompactFunctionTree}
  {showAllFrames : Bool} {index : TerminalProfileIndex}

theorem samePresentation
    (hnew : TerminalProfileIndex.new document false showAllFrames = some index)
    (hindex : TerminalProfileIndex.Indexes document compact false showAllFrames index) :
    SamePresentation (profileOf document compact) showAllFrames index := by
  have hsemantics : ∀ parentId, (semanticSiblings (profileOf document compact) parentId).map
      HtmlSemantic.semantic = index.childSemantics parentId := by
    intro parentId
    rw [semanticSiblings_eq, List.map_map, hindex.childSemantics]
    exact List.map_id _
  have hfunctions : ∀ semanticId parentId, (functionSiblings (profileOf document compact)
      showAllFrames semanticId parentId).map HtmlFunction.function =
        index.childFunctions semanticId parentId := by
    intro semanticId parentId
    rw [functionSiblings_eq, List.map_map, hindex.childFunctions]
    exact List.map_id _
  refine ⟨hsemantics, hfunctions, ?_, ?_⟩
  · intro sort parentId
    unfold TerminalProfileIndex.sortedSemantics
    rw [← hsemantics]
    apply sortedValues_map
    intro left hleft right hright
    rw [semanticSiblings_eq] at hleft hright
    obtain ⟨left, -, rfl⟩ := List.mem_map.1 hleft
    obtain ⟨right, -, rfl⟩ := List.mem_map.1 hright
    rw [compareSemantic_eq, semanticOrdering_initial]
    rfl
  · intro sort semanticId parentId
    unfold TerminalProfileIndex.sortedFunctions TerminalProfileIndex.sortFunctions
    rw [← hfunctions]
    apply sortedValues_map
    intro left hleft right hright
    rw [functionSiblings_eq] at hleft hright
    obtain ⟨left, hleftMem, rfl⟩ := List.mem_map.1 hleft
    obtain ⟨right, hrightMem, rfl⟩ := List.mem_map.1 hright
    obtain ⟨hleftIn, hleftOwner⟩ := List.mem_filter.1 hleftMem
    obtain ⟨hrightIn, hrightOwner⟩ := List.mem_filter.1 hrightMem
    have howner : left.semanticId = right.semanticId :=
      (of_decide_eq_true hleftOwner).1.trans (of_decide_eq_true hrightOwner).1.symm
    rw [compareFunction_eq, functionOrdering_initial sort compact howner
      (functionName_eq hnew hleftIn) (functionName_eq hnew hrightIn)]
    rfl

theorem strictlySorted (hstruct : document.WellStructured) :
    StrictlySorted (profileOf document compact) showAllFrames := by
  constructor
  · intro sortField sortDirection parentId
    apply semantics_strictlyOrdered
    rw [semanticSiblings_eq, List.map_map]
    exact (List.filter_sublist.map _).nodup hstruct.semantic_ids
  · intro sortField sortDirection semanticId parentId
    apply functions_strictlyOrdered
    rw [functionSiblings_eq, List.map_map]
    have hidentities : ((document.functions.filter fun function =>
        function.semanticId = semanticId ∧ TerminalProfileIndex.framedParent compact showAllFrames
          function = some parentId).map RankedFunction.identity).Nodup :=
      (List.filter_sublist.map _).nodup hstruct.function_ids
    -- identities differ, and siblings have the semantic in common
    refine List.Nodup.of_map (Prod.mk semanticId) ?_
    rw [List.map_map]
    refine (List.map_congr_left ?_).symm ▸ hidentities
    intro function hfunction
    have howner := (of_decide_eq_true (List.mem_filter.1 hfunction).2).1
    exact Prod.ext howner.symm rfl

end Presentation

/-- The browser and the terminal present the same forest of an accepted document, in the same
orders, and the comparisons of the browser are strict orders on its siblings. -/
theorem browser_and_terminal_agree {document : RankedProfileDocument}
    {order : IterationOrder ReportMap} (haccepted : document.validate order = .ok ())
    (showAllFrames : Bool) :
    ∃ profile index, document.htmlProfile = some profile ∧
      TerminalProfileIndex.new document false showAllFrames = some index ∧
      SamePresentation profile showAllFrames index ∧ StrictlySorted profile showAllFrames ∧
      (∀ sortDirection (known unknown : HtmlSemantic), known.semantic.durationNs ≠ none →
        unknown.semantic.durationNs = none →
          compareSemantic .duration sortDirection known unknown < 0) ∧
      ∀ left right : String, compareText left right = toNumber (compareBytes left right) ∧
        compareBytes left right = compare left right := by
  obtain ⟨compact, index, hcompact, hnew, hstruct, -, hindex⟩ :=
    TerminalProfileIndex.exists_index haccepted false showAllFrames
  refine ⟨profileOf document compact, index, htmlProfile_eq hcompact, hnew,
    samePresentation hnew hindex, strictlySorted hstruct, ?_, ?_⟩
  · intro sortDirection known unknown hknown hunknown
    exact unknown_duration_is_last sortDirection hknown hunknown
  · intro left right
    rw [compareBytes_eq]
    exact ⟨compareText_eq left right, rfl⟩

theorem planning_presentations_agree : ∃ profile index,
    RankedProfileDocument.planningDocument.htmlProfile = some profile ∧
      TerminalProfileIndex.new RankedProfileDocument.planningDocument false false = some index ∧
      SamePresentation profile false index ∧ StrictlySorted profile false := by
  have haccepted : RankedProfileDocument.planningDocument.validate (.inserted ReportMap) =
      .ok () := by decide
  obtain ⟨profile, index, hprofile, hindex, hsame, hstrict, -⟩ :=
    browser_and_terminal_agree haccepted false
  exact ⟨profile, index, hprofile, hindex, hsame, hstrict⟩

end ReportViewer
end DeltaFunnel
