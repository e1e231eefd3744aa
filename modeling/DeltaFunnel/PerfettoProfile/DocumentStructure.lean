import DeltaFunnel.PerfettoProfile.RankedReport

/-! What an accepted structure says: the semantics and the functions of a document are forests,
and every operation has one root. -/

namespace DeltaFunnel
open Collections Graph

def RankedFunction.identity (function : RankedFunction) : ℤ × ℤ :=
  (function.semanticId, function.functionId)

namespace RankedProfileDocument

def semanticParent (document : RankedProfileDocument) : ℤ → Option ℤ :=
  parentIn (semanticParents document.semantics)

def functionParent (document : RankedProfileDocument) : ℤ × ℤ → Option (ℤ × ℤ) :=
  parentIn (functionParents document.functions)

def semanticNodes (document : RankedProfileDocument) : Finset ℤ :=
  (document.semantics.map (·.semanticId)).toFinset

def functionNodes (document : RankedProfileDocument) : Finset (ℤ × ℤ) :=
  (document.functions.map RankedFunction.identity).toFinset

section Maps
variable {document : RankedProfileDocument} {semantics : List RankedSemantic}
  {functions : List RankedFunction}

theorem functionParents_keys (hnodup : (functions.map RankedFunction.identity).Nodup) :
    (functionParents functions).keys = functions.map RankedFunction.identity :=
  HashMap.keys_collect_map hnodup

theorem semanticParent_eq (hnodup : (document.semantics.map (·.semanticId)).Nodup)
    {semantic : RankedSemantic} (hmem : semantic ∈ document.semantics) :
    document.semanticParent semantic.semanticId = semantic.parentSemanticId := by
  have hget : (semanticParents document.semantics).get? semantic.semanticId =
      some semantic.parentSemanticId := HashMap.get?_collect_map hnodup hmem
  rw [semanticParent, parentIn, hget]
  rfl

theorem functionParent_eq (hnodup : (document.functions.map RankedFunction.identity).Nodup)
    {function : RankedFunction} (hmem : function ∈ document.functions) :
    document.functionParent function.identity =
      function.parentFunctionId.map fun parentId => (function.semanticId, parentId) := by
  have hget : (functionParents document.functions).get? function.identity =
      some (function.parentFunctionId.map fun parentId => (function.semanticId, parentId)) :=
    HashMap.get?_collect_map hnodup hmem
  rw [functionParent, parentIn, hget]
  rfl

theorem mem_semanticNodes {id : ℤ} :
    id ∈ document.semanticNodes ↔ ∃ semantic ∈ document.semantics, semantic.semanticId = id := by
  rw [semanticNodes, List.mem_toFinset, List.mem_map]

theorem mem_functionNodes {id : ℤ × ℤ} :
    id ∈ document.functionNodes ↔ ∃ function ∈ document.functions, function.identity = id := by
  rw [functionNodes, List.mem_toFinset, List.mem_map]

theorem functionParent_same_semantic
    (hnodup : (document.functions.map RankedFunction.identity).Nodup) {id parent : ℤ × ℤ}
    (hparent : document.functionParent id = some parent) : parent.1 = id.1 := by
  have hkeys := HashMap.map_fst_map document.functions RankedFunction.identity fun function =>
    function.parentFunctionId.map fun parentId => (function.semanticId, parentId)
  rw [functionParent, parentIn, Option.join_eq_some_iff, functionParents] at hparent
  obtain ⟨function, -, heq⟩ := List.mem_map.1 ((HashMap.get?_collect (hkeys.symm ▸ hnodup)).1 hparent)
  obtain ⟨rfl, hmap⟩ := Prod.mk.inj heq
  obtain ⟨parentId, -, rfl⟩ := Option.map_eq_some_iff.1 hmap
  rfl

end Maps

section Structure
variable {document : RankedProfileDocument} {semantics : HashMap ℤ RankedSemantic}

theorem foldlM_insertSemantic
    (h : document.semantics.foldlM insertSemantic .empty = .ok semantics) :
    semantics.entries = document.semantics.map fun semantic => (semantic.semanticId, semantic) := by
  have hnew : ∀ (found : HashMap ℤ RankedSemantic) (semantic : RankedSemantic) found',
      insertSemantic found semantic = .ok found' → semantic.semanticId ∉ found.keys ∧
        found' = found.insert semantic.semanticId semantic := by
    intro found semantic found' hstep
    unfold insertSemantic at hstep
    split at hstep
    · cases hstep
    · next hnew =>
      exact ⟨fun hmem => hnew (HashMap.contains_iff.2 hmem), (Except.ok.inj hstep).symm⟩
  exact (HashMap.entries_of_insert_new hnew h).trans (List.nil_append _)

theorem foldlM_insertFunction {index : FunctionIndex}
    (h : document.functions.foldlM (insertFunction semantics) ⟨.empty, .empty⟩ = .ok index) :
    index.functions.entries =
      document.functions.map fun function => (function.identity, function) := by
  have hnew : ∀ (found : FunctionIndex) (function : RankedFunction) found',
      insertFunction semantics found function = .ok found' →
      function.identity ∉ found.functions.keys ∧
        found'.functions = found.functions.insert function.identity function := by
    intro found function found' hstep
    unfold insertFunction at hstep
    split at hstep
    · cases hstep
    · split at hstep
      · cases hstep
      · next hnew =>
        obtain rfl := Except.ok.inj hstep
        exact ⟨fun hmem => hnew (HashMap.contains_iff.2 hmem), rfl⟩
  exact (HashMap.entries_of_insert_new hnew h).trans (List.nil_append _)

theorem foldlM_insertFunction_owner {index : FunctionIndex}
    (h : document.functions.foldlM (insertFunction semantics) ⟨.empty, .empty⟩ = .ok index) :
    ∀ function ∈ document.functions, function.semanticId ∈ semantics.keys := by
  refine except_foldlM_forall (fun found function found' hstep => ?_) h
  unfold insertFunction at hstep
  split at hstep
  · cases hstep
  · next howner => exact HashMap.contains_iff.1 (by simpa using howner)

theorem validateSemanticParent_eq_ok {semantic : RankedSemantic} {parentId : ℤ}
    (h : validateSemanticParent semantics semantic = .ok ())
    (hparent : semantic.parentSemanticId = some parentId) :
    ∃ parent, semantics.get? parentId = some parent ∧
      parent.operationId = semantic.operationId := by
  unfold validateSemanticParent at h
  rw [hparent] at h
  rcases hget : semantics.get? parentId with _ | parent
  · simp [hget] at h
  · simp only [hget, rejectIf_eq_ok, not_not] at h
    exact ⟨parent, rfl, h⟩

theorem validateFunctionParent_eq_ok {index : FunctionIndex} {function : RankedFunction}
    {parentId : ℤ} (h : validateFunctionParent index function = .ok ())
    (hparent : function.parentFunctionId = some parentId) :
    (function.semanticId, parentId) ∈ index.functions.keys := by
  unfold validateFunctionParent at h
  simp only [hparent] at h
  split at h
  · next hmem => exact HashMap.contains_iff.1 hmem
  · split at h
    · cases h
    · cases h

theorem requireAcyclic_eq_ok {Id : Type} {cycle : Option Id}
    {error : Id → RankedProfileValidationError} :
    requireAcyclic cycle error = .ok () ↔ cycle = none := by
  cases cycle with
  | none => exact iff_of_true rfl rfl
  | some id => exact iff_of_false nofun nofun

end Structure

section Roots

def isRoot (semantic : RankedSemantic) : Bool := semantic.parentSemanticId.isNone

def isOperation (semantic : RankedSemantic) : Bool := semantic.semanticKind = "operation"

/-- What the checks keep of the semantics of one operation. -/
def rootsOf (semantics : List RankedSemantic) : OperationRootState where
  rootCount := (semantics.filter isRoot).length
  firstRootId := (semantics.filter isRoot).head?.map (·.semanticId)
  firstRootIsOperation := (semantics.filter isRoot).head?.any isOperation
  firstNonRootOperationId :=
    (semantics.filter fun semantic => !isRoot semantic && isOperation semantic).head?.map
      (·.semanticId)

theorem rootsOf_append (semantics : List RankedSemantic) (semantic : RankedSemantic) :
    rootsOf (semantics ++ [semantic]) = (rootsOf semantics).add semantic := by
  unfold rootsOf OperationRootState.add
  by_cases hroot : semantic.parentSemanticId.isNone
  · have hnot : isRoot semantic = true := hroot
    rcases hroots : semantics.filter isRoot with _ | ⟨first, rest⟩
    · simp [hroots, hnot, hroot, isOperation]
    · simp [hroots, hnot, hroot]
  · have hnot : isRoot semantic = false := by simp [isRoot, hroot]
    by_cases hkind : semantic.semanticKind = "operation"
    · have hop : isOperation semantic = true := by simp [isOperation, hkind]
      rcases hothers : semantics.filter fun semantic => !isRoot semantic && isOperation semantic with
        _ | ⟨first, rest⟩
      · simp [hothers, hnot, hroot, hkind, hop]
      · simp [hothers, hnot, hroot, hkind, hop]
    · have hop : isOperation semantic = false := by simp [isOperation, hkind]
      simp [hnot, hroot, hkind, hop]

theorem foldl_addToOperation (semantics : List RankedSemantic) (operationId : ℤ) :
    (semantics.foldl addToOperation .empty).get? operationId =
      if semantics.any (·.operationId = operationId) then
        some (rootsOf (semantics.filter (·.operationId = operationId)))
      else none := by
  induction semantics using List.reverseRecOn with
  | nil => rfl
  | append_singleton semantics semantic ih =>
    rw [List.foldl_append, List.foldl_cons, List.foldl_nil, addToOperation, HashMap.get?_insert]
    split
    · next heq =>
      subst heq
      have hstate : ((semantics.foldl addToOperation .empty).get? semantic.operationId).getD {} =
          rootsOf (semantics.filter (·.operationId = semantic.operationId)) := by
        rw [ih]
        split
        · rfl
        · next hnone =>
          have hempty : semantics.filter (·.operationId = semantic.operationId) = [] := by
            rw [List.filter_eq_nil_iff]
            intro x hx hop
            exact hnone (List.any_eq_true.2 ⟨x, hx, hop⟩)
          rw [hempty]
          rfl
      rw [hstate, ← rootsOf_append]
      simp
    · next hne =>
      have hne' : semantic.operationId ≠ operationId := fun h => hne h.symm
      rw [ih]
      simp [hne']

theorem validateOperationRoot_eq_ok {operationId : ℤ} {semantics : List RankedSemantic}
    (h : validateOperationRoot operationId (rootsOf semantics) = .ok ()) :
    ∃ root ∈ semantics, isRoot root ∧ isOperation root ∧
      ∀ x ∈ semantics, isRoot x ∨ isOperation x → x = root := by
  obtain ⟨⟨⟩, hcount, hkind⟩ := except_bind_eq_ok.1 h
  rw [rejectIf_eq_ok, not_not] at hcount
  rw [rejectIf_eq_ok, not_or] at hkind
  obtain ⟨root, hroots⟩ := List.length_eq_one_iff.1 hcount
  have hmem : root ∈ semantics.filter isRoot := hroots ▸ List.mem_singleton_self root
  have honly : ∀ x ∈ semantics, isRoot x → x = root := by
    intro x hx hroot
    have hx' : x ∈ semantics.filter isRoot := List.mem_filter.2 ⟨hx, hroot⟩
    rw [hroots] at hx'
    exact List.mem_singleton.1 hx'
  refine ⟨root, (List.mem_filter.1 hmem).1, (List.mem_filter.1 hmem).2, ?_, ?_⟩
  · simpa [rootsOf, hroots] using hkind.1
  · intro x hx hor
    by_cases hroot : isRoot x
    · exact honly x hx hroot
    · have hop : isOperation x = true := hor.resolve_left hroot
      have hother : x ∈ semantics.filter fun semantic => !isRoot semantic && isOperation semantic :=
        List.mem_filter.2 ⟨hx, by simp [hroot, hop]⟩
      rcases hothers : semantics.filter fun semantic => !isRoot semantic && isOperation semantic with
        _ | ⟨first, rest⟩
      · rw [hothers] at hother
        exact absurd hother List.not_mem_nil
      · exact absurd (by simp [rootsOf, hothers]) hkind.2

end Roots

structure WellStructured (document : RankedProfileDocument) : Prop where
  semantic_ids : (document.semantics.map (·.semanticId)).Nodup
  semantic_forest : IsForest document.semanticParent document.semanticNodes
  same_operation : ∀ x ∈ document.semantics, ∀ y ∈ document.semantics,
    x.parentSemanticId = some y.semanticId → y.operationId = x.operationId
  operation_root : ∀ semantic ∈ document.semantics, ∃ root ∈ document.semantics,
    root.operationId = semantic.operationId ∧ isRoot root ∧ isOperation root ∧
      ∀ x ∈ document.semantics, x.operationId = semantic.operationId →
        isRoot x ∨ isOperation x → x = root
  function_ids : (document.functions.map RankedFunction.identity).Nodup
  function_owner : ∀ function ∈ document.functions, function.semanticId ∈ document.semanticNodes
  function_forest : IsForest document.functionParent document.functionNodes

section Accepted
variable {document : RankedProfileDocument} {semantics : HashMap ℤ RankedSemantic}

theorem validateSemanticStructure_eq_ok (h : document.validateSemanticStructure = .ok semantics) :
    semantics.entries = (document.semantics.map fun semantic => (semantic.semanticId, semantic)) ∧
      (∀ semantic ∈ document.semantics, validateSemanticParent semantics semantic = .ok ()) ∧
      (∀ id ∈ document.semantics.map (·.semanticId), Grounded document.semanticParent id) ∧
      ∀ operation ∈ (document.semantics.foldl addToOperation .empty).entries,
        validateOperationRoot operation.1 operation.2 = .ok () := by
  obtain ⟨⟨⟩, -, h⟩ := except_bind_eq_ok.1 h
  obtain ⟨found, hfound, h⟩ := except_bind_eq_ok.1 h
  obtain ⟨⟨⟩, hparents, h⟩ := except_bind_eq_ok.1 h
  obtain ⟨⟨⟩, hcycle, h⟩ := except_bind_eq_ok.1 h
  obtain ⟨⟨⟩, hroots, h⟩ := except_bind_eq_ok.1 h
  obtain rfl := Except.ok.inj h
  exact ⟨foldlM_insertSemantic hfound, except_forM_eq_ok.1 hparents,
    firstCycle_eq_none.1 (requireAcyclic_eq_ok.1 hcycle), except_forM_eq_ok.1 hroots⟩

theorem validateFunctionStructure_eq_ok
    (h : document.validateFunctionStructure semantics = .ok ()) :
    (∀ function ∈ document.functions, function.semanticId ∈ semantics.keys) ∧
      (document.functions.map RankedFunction.identity).Nodup ∧
      (∀ function ∈ document.functions, ∀ parentId, function.parentFunctionId = some parentId →
        (function.semanticId, parentId) ∈ document.functionNodes) ∧
      ∀ id ∈ document.functionNodes, Grounded document.functionParent id := by
  obtain ⟨index, hindex, h⟩ := except_bind_eq_ok.1 h
  obtain ⟨⟨⟩, hparents, hcycle⟩ := except_bind_eq_ok.1 h
  have hkeys : index.functions.keys = document.functions.map RankedFunction.identity := by
    rw [HashMap.keys, foldlM_insertFunction hindex, HashMap.map_fst_map]
  refine ⟨foldlM_insertFunction_owner hindex, hkeys ▸ index.functions.nodup_keys, ?_, ?_⟩
  · intro function hmem parentId hparent
    rw [functionNodes, List.mem_toFinset, ← hkeys]
    exact validateFunctionParent_eq_ok (except_forM_eq_ok.1 hparents function hmem) hparent
  · intro id hid
    exact firstCycle_eq_none.1 (requireAcyclic_eq_ok.1 hcycle) id (List.mem_toFinset.1 hid)

theorem wellStructured_of_ok (h : document.validateStructure = .ok ()) :
    document.WellStructured := by
  obtain ⟨semantics, hsemantics, hfunctions⟩ := except_bind_eq_ok.1 h
  obtain ⟨hentries, hparents, hgrounded, hroots⟩ := validateSemanticStructure_eq_ok hsemantics
  obtain ⟨howners, hfunctionIds, hfunctionParents, hfunctionGrounded⟩ :=
    validateFunctionStructure_eq_ok hfunctions
  have hkeys : semantics.keys = document.semantics.map (·.semanticId) := by
    rw [HashMap.keys, hentries, HashMap.map_fst_map]
  have hids : (document.semantics.map (·.semanticId)).Nodup := hkeys ▸ semantics.nodup_keys
  have hparent : ∀ x ∈ document.semantics, ∀ parentId, x.parentSemanticId = some parentId →
      ∃ y ∈ document.semantics, y.semanticId = parentId ∧ y.operationId = x.operationId := by
    intro x hx parentId hxparent
    obtain ⟨y, hget, hop⟩ := validateSemanticParent_eq_ok (hparents x hx) hxparent
    rw [HashMap.get?_eq_some, hentries] at hget
    obtain ⟨z, hz, heq⟩ := List.mem_map.1 hget
    obtain ⟨hid, rfl⟩ := Prod.mk.inj heq
    exact ⟨z, hz, hid, hop⟩
  refine ⟨hids, ⟨?_, ?_⟩, ?_, ?_, hfunctionIds, ?_, ⟨?_, hfunctionGrounded⟩⟩
  · intro id hid parentId hidparent
    obtain ⟨x, hx, rfl⟩ := mem_semanticNodes.1 hid
    rw [semanticParent_eq hids hx] at hidparent
    obtain ⟨y, hy, rfl, -⟩ := hparent x hx parentId hidparent
    exact mem_semanticNodes.2 ⟨y, hy, rfl⟩
  · exact fun id hid => hgrounded id (List.mem_toFinset.1 hid)
  · intro x hx y hy hxy
    obtain ⟨z, hz, hid, hop⟩ := hparent x hx y.semanticId hxy
    rwa [List.inj_on_of_nodup_map hids hz hy hid] at hop
  · intro semantic hmem
    have hget := foldl_addToOperation document.semantics semantic.operationId
    rw [if_pos (List.any_eq_true.2 ⟨semantic, hmem, by simp⟩)] at hget
    obtain ⟨root, hroot, hisRoot, hisOperation, honly⟩ :=
      validateOperationRoot_eq_ok (hroots _ (HashMap.get?_eq_some.1 hget))
    obtain ⟨hroot, hop⟩ := List.mem_filter.1 hroot
    refine ⟨root, hroot, by simpa using hop, hisRoot, hisOperation, fun x hx hxop => ?_⟩
    exact honly x (List.mem_filter.2 ⟨hx, by simpa using hxop⟩)
  · intro function hmem
    have howner := howners function hmem
    rwa [hkeys, ← List.mem_toFinset] at howner
  · intro id hid parent hidparent
    obtain ⟨function, hmem, rfl⟩ := mem_functionNodes.1 hid
    rw [functionParent_eq hfunctionIds hmem] at hidparent
    obtain ⟨parentId, hparentId, rfl⟩ := Option.map_eq_some_iff.1 hidparent
    exact hfunctionParents function hmem parentId hparentId

end Accepted
end RankedProfileDocument
end DeltaFunnel
