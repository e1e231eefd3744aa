import DeltaFunnel.Graph.Contraction
import DeltaFunnel.PerfettoProfile.CompactTree
import DeltaFunnel.PerfettoProfile.SampleConservation

/-! Leaving out the functions that only pass their cost on loses no cost. -/

namespace DeltaFunnel
open Collections Graph

namespace CompactFunctionTree

def isChildOf (key : ℤ × ℤ) (function : RankedFunction) : Bool :=
  function.semanticId = key.1 && function.parentFunctionId = some key.2

theorem countChild_get? (children : HashMap (ℤ × ℤ) (ℕ × ℤ)) (function : RankedFunction)
    (key : ℤ × ℤ) :
    (countChild children function).get? key =
      if isChildOf key function then
        some ((children.get? key).elim 0 Prod.fst + 1, function.inclusiveSampleCount)
      else children.get? key := by
  unfold countChild isChildOf
  rcases hparent : function.parentFunctionId with _ | parentId
  · simp
  · dsimp only
    rw [HashMap.get?_insert]
    by_cases hkey : key = (function.semanticId, parentId)
    · subst hkey
      rcases hget : children.get? (function.semanticId, parentId) with _ | child
      · simp
      · simp
    · have hnot : ¬(function.semanticId = key.1 ∧ parentId = key.2) := by
        rintro ⟨hsemantic, hfunction⟩
        exact hkey (Prod.ext hsemantic.symm hfunction.symm)
      rw [if_neg hkey]
      simp [hnot]

theorem countChildren_get? (functions : List RankedFunction) (key : ℤ × ℤ) :
    (functions.foldl countChild .empty).get? key =
      (functions.filter (isChildOf key)).getLast?.map fun last =>
        ((functions.filter (isChildOf key)).length, last.inclusiveSampleCount) := by
  induction functions using List.reverseRecOn with
  | nil => rfl
  | append_singleton functions function ih =>
    rw [List.foldl_append, List.foldl_cons, List.foldl_nil, countChild_get?, ih,
      List.filter_append]
    by_cases hchild : isChildOf key function
    · rw [if_pos hchild, List.filter_cons_of_pos hchild, List.filter_nil,
        List.getLast?_concat, List.length_append]
      rcases hlast : (functions.filter (isChildOf key)).getLast? with _ | last
      · rw [List.getLast?_eq_none_iff.1 hlast]
        rfl
      · rfl
    · rw [if_neg hchild, List.filter_cons_of_neg hchild, List.filter_nil, List.append_nil]

theorem isCollapsed_iff (functions : List RankedFunction) (function : RankedFunction) :
    isCollapsed (functions.foldl countChild .empty) function = true ↔
      function.selfSampleCount = 0 ∧ ∃ child,
        functions.filter (isChildOf function.identity) = [child] ∧
          child.inclusiveSampleCount = function.inclusiveSampleCount := by
  unfold isCollapsed
  rw [countChildren_get?]
  show _ ↔ function.selfSampleCount = 0 ∧ ∃ child,
    functions.filter (isChildOf (function.semanticId, function.functionId)) = [child] ∧ _
  generalize functions.filter (isChildOf (function.semanticId, function.functionId)) = children
  rw [Bool.and_eq_true, decide_eq_true_iff]
  refine and_congr_right fun _ => ?_
  rw [Option.any_map, Option.any_eq_true]
  constructor
  · rintro ⟨last, hlast, hcounts⟩
    simp only [Bool.and_eq_true, decide_eq_true_iff] at hcounts
    obtain ⟨child, rfl⟩ := List.length_eq_one_iff.1 hcounts.1
    obtain rfl := Option.some.inj hlast
    exact ⟨child, rfl, hcounts.2⟩
  · rintro ⟨child, rfl, hinclusive⟩
    exact ⟨child, rfl, by simpa using hinclusive⟩

section Building
variable {document : RankedProfileDocument}

def Kept (document : RankedProfileDocument) (id : ℤ × ℤ) : Prop :=
  id ∉ collapsedKeys document.functions

instance (document : RankedProfileDocument) : DecidablePred (Kept document) := fun id =>
  inferInstanceAs (Decidable (id ∉ collapsedKeys document.functions))

theorem functionParent_eq_parentIds
    (hids : (document.functions.map RankedFunction.identity).Nodup) (id : ℤ × ℤ) :
    document.functionParent id =
      ((parentIds document.functions).get? id).join.map (Prod.mk id.1) := by
  by_cases hmem : ∃ function ∈ document.functions, function.identity = id
  · obtain ⟨function, hmem, rfl⟩ := hmem
    have hget : (parentIds document.functions).get? function.identity =
        some function.parentFunctionId := HashMap.get?_collect_map hids hmem
    rw [RankedProfileDocument.functionParent_eq hids hmem, hget]
    rfl
  · have hkeys : (parentIds document.functions).keys =
        document.functions.map RankedFunction.identity := HashMap.keys_collect_map hids
    have hparents := RankedProfileDocument.functionParents_keys hids
    have hnot : id ∉ document.functions.map RankedFunction.identity := by
      rw [List.mem_map]
      exact hmem
    have hnone : (parentIds document.functions).get? id = none := by
      rw [HashMap.get?_eq_none, hkeys]
      exact hnot
    have hnone' : (RankedProfileDocument.functionParents document.functions).get? id = none := by
      rw [HashMap.get?_eq_none, hparents]
      exact hnot
    rw [RankedProfileDocument.functionParent, parentIn, hnone, hnone']
    rfl

/-- What is known of a climb that starts at an optional parent. -/
def ClimbsTo (document : RankedProfileDocument) (semanticId : ℤ) (parent retained : Option ℤ) :
    Prop :=
  match parent with
  | none => retained = none
  | some parentId => NearestKept document.functionParent (Kept document) (semanticId, parentId)
      (retained.map (Prod.mk semanticId))

/-- Every entry of the table is the nearest function above that is kept. -/
def TableSound (document : RankedProfileDocument)
    (retainedParents : HashMap (ℤ × ℤ) (Option ℤ)) : Prop :=
  ∀ key retained, retainedParents.get? key = some retained →
    NearestKept document.functionParent (Kept document) key (retained.map (Prod.mk key.1))

theorem climbsTo_up (hids : (document.functions.map RankedFunction.identity).Nodup)
    {semanticId parentId : ℤ} {retained : Option ℤ}
    (hhidden : ¬Kept document (semanticId, parentId))
    (h : ClimbsTo document semanticId
      ((parentIds document.functions).get? (semanticId, parentId)).join retained) :
    ClimbsTo document semanticId (some parentId) retained := by
  have hparent := functionParent_eq_parentIds hids (semanticId, parentId)
  rcases hnext : ((parentIds document.functions).get? (semanticId, parentId)).join with _ | next
  · rw [hnext] at h hparent
    obtain rfl : retained = none := h
    exact .top hhidden hparent
  · rw [hnext] at h hparent
    exact .up hhidden hparent h

variable (hstruct : document.WellStructured)
include hstruct

theorem climbCollapsed_spec {retainedParents : HashMap (ℤ × ℤ) (Option ℤ)}
    (htable : TableSound document retainedParents) (semanticId : ℤ) (fuel : ℕ)
    (parent : Option ℤ) (path : List (ℤ × ℤ))
    (hfuel : ∀ parentId ∈ parent, (semanticId, parentId) ∈ document.functionNodes ∧
      (ancestors document.functionParent document.functionNodes
        (semanticId, parentId)).card < fuel) :
    ∃ retained passed, climbCollapsed semanticId (parentIds document.functions)
        (collapsedKeys document.functions) retainedParents fuel parent path =
          some (retained, path ++ passed) ∧
      ClimbsTo document semanticId parent retained ∧
      ∀ key ∈ passed, key.1 = semanticId ∧ NearestKept document.functionParent (Kept document)
        key (retained.map (Prod.mk semanticId)) := by
  -- on the fuel, which the ancestors of the parent bound
  induction fuel generalizing parent path with
  | zero =>
    rcases parent with _ | parentId
    · exact ⟨none, [], by rw [List.append_nil]; rfl, rfl, List.forall_mem_nil _⟩
    · exact absurd (hfuel parentId rfl).2 (Nat.not_lt_zero _)
  | succ fuel ih =>
    rcases parent with _ | parentId
    · exact ⟨none, [], by rw [List.append_nil]; rfl, rfl, List.forall_mem_nil _⟩
    · obtain ⟨hnode, hcard⟩ := hfuel parentId rfl
      unfold climbCollapsed
      dsimp only
      by_cases hkept : (semanticId, parentId) ∉ collapsedKeys document.functions
      · rw [if_pos hkept]
        exact ⟨some parentId, [], by rw [List.append_nil], .here hkept, List.forall_mem_nil _⟩
      · rw [if_neg hkept]
        -- a collapsed parent that was met before has its answer in the table
        rcases hget : retainedParents.get? (semanticId, parentId) with _ | retained
        · have hnext : ∀ next ∈ ((parentIds document.functions).get?
              (semanticId, parentId)).join, (semanticId, next) ∈ document.functionNodes ∧
              (ancestors document.functionParent document.functionNodes
                (semanticId, next)).card < fuel := by
            intro next hmem
            have hparent : document.functionParent (semanticId, parentId) =
                some (semanticId, next) := by
              rw [functionParent_eq_parentIds hstruct.function_ids, Option.mem_def.1 hmem]
              rfl
            have hlt := hstruct.function_forest.card_ancestors_lt hnode hparent
            exact ⟨hstruct.function_forest.closed _ hnode _ hparent, by omega⟩
          obtain ⟨retained, passed, hclimb, hto, hpassed⟩ :=
            ih _ (path ++ [(semanticId, parentId)]) hnext
          have hup := climbsTo_up hstruct.function_ids hkept hto
          refine ⟨retained, (semanticId, parentId) :: passed, ?_, hup, ?_⟩
          · rw [List.append_assoc] at hclimb
            exact hclimb
          · intro key hmem
            rcases List.mem_cons.1 hmem with rfl | hmem
            · exact ⟨rfl, hup⟩
            · exact hpassed key hmem
        · exact ⟨retained, [], by rw [List.append_nil], htable _ retained hget,
            List.forall_mem_nil _⟩

theorem retainedFunctionParent_spec {retainedParents : HashMap (ℤ × ℤ) (Option ℤ)}
    (htable : TableSound document retainedParents) (semanticId : ℤ) (parent : Option ℤ)
    (hparent : ∀ parentId ∈ parent, (semanticId, parentId) ∈ document.functionNodes) :
    ∃ retained retainedParents', retainedFunctionParent semanticId parent
        (parentIds document.functions) (collapsedKeys document.functions) retainedParents =
          some (retained, retainedParents') ∧
      ClimbsTo document semanticId parent retained ∧ TableSound document retainedParents' := by
  have hlen : (parentIds document.functions).len = document.functions.length := by
    have hkeys : (parentIds document.functions).keys =
        document.functions.map RankedFunction.identity :=
      HashMap.keys_collect_map hstruct.function_ids
    rw [HashMap.len_eq, hkeys, List.length_map]
  have hnodes : document.functionNodes.card ≤ document.functions.length := by
    have hle := (document.functions.map RankedFunction.identity).toFinset_card_le
    rw [List.length_map] at hle
    exact hle
  have hfuel : ∀ parentId ∈ parent, (semanticId, parentId) ∈ document.functionNodes ∧
      (ancestors document.functionParent document.functionNodes
        (semanticId, parentId)).card < (parentIds document.functions).len + 1 := by
    intro parentId hmem
    have hle : (ancestors document.functionParent document.functionNodes
        (semanticId, parentId)).card ≤ document.functionNodes.card := card_ancestors_le
    exact ⟨hparent parentId hmem, by omega⟩
  obtain ⟨retained, passed, hclimb, hto, hpassed⟩ :=
    climbCollapsed_spec hstruct htable semanticId _ parent [] hfuel
  -- what the climb passed is entered with the same answer
  have htable' : ∀ (passed : List (ℤ × ℤ)) (table : HashMap (ℤ × ℤ) (Option ℤ)),
      TableSound document table →
      (∀ key ∈ passed, key.1 = semanticId ∧ NearestKept document.functionParent (Kept document)
        key (retained.map (Prod.mk semanticId))) →
      TableSound document (passed.foldl (fun table key => table.insert key retained) table) := by
    intro passed
    induction passed with
    | nil => exact fun table htable _ => htable
    | cons key passed ih =>
      intro table htable hpassed
      obtain ⟨hkey, hrest⟩ := List.forall_mem_cons.1 hpassed
      refine ih _ ?_ hrest
      intro other found hfound
      rw [HashMap.get?_insert] at hfound
      split at hfound
      · next heq =>
        obtain rfl := Option.some.inj hfound
        rw [heq, hkey.1]
        exact hkey.2
      · exact htable other found hfound
  refine ⟨retained, _, ?_, hto, htable' passed retainedParents htable hpassed⟩
  unfold retainedFunctionParent
  rw [hclimb]
  rfl

structure BuiltSound (document : RankedProfileDocument) (building : Building) : Prop where
  table : TableSound document building.retainedParents
  parents : ∀ key retained, building.compactParents.get? key = some retained →
    NearestAbove document.functionParent (Kept document) key (retained.map (Prod.mk key.1))

theorem addFunction_spec {building : Building} (h : BuiltSound document building)
    {function : RankedFunction} (hmem : function ∈ document.functions) :
    ∃ building', addFunction (parentIds document.functions) (collapsedKeys document.functions)
        building function = some building' ∧ BuiltSound document building' ∧
      ∀ key, key ∈ building'.compactParents.keys ↔ key ∈ building.compactParents.keys ∨
        function.identity = key ∧ Kept document key := by
  unfold addFunction
  dsimp only
  -- a collapsed function gets no entry of its own
  by_cases hhidden : (function.semanticId, function.functionId) ∈
      collapsedKeys document.functions
  · rw [if_pos hhidden]
    refine ⟨building, rfl, h, ?_⟩
    intro key
    refine ⟨Or.inl, ?_⟩
    rintro (hkey | ⟨rfl, hkept⟩)
    · exact hkey
    · exact absurd hhidden hkept
  · rw [if_neg hhidden]
    have hnode : function.identity ∈ document.functionNodes :=
      RankedProfileDocument.mem_functionNodes.2 ⟨function, hmem, rfl⟩
    have hfull := RankedProfileDocument.functionParent_eq hstruct.function_ids hmem
    have hparent : ∀ parentId ∈ function.parentFunctionId,
        (function.semanticId, parentId) ∈ document.functionNodes := by
      intro parentId hparentId
      rw [Option.mem_def.1 hparentId] at hfull
      exact hstruct.function_forest.closed _ hnode _ hfull
    obtain ⟨retained, table, hretained, hto, htable⟩ :=
      retainedFunctionParent_spec hstruct h.table function.semanticId
        function.parentFunctionId hparent
    rw [hretained]
    refine ⟨_, rfl, ⟨htable, ?_⟩, ?_⟩
    · intro key found hfound
      rw [HashMap.get?_insert] at hfound
      split at hfound
      · next heq =>
        obtain rfl := Option.some.inj hfound
        rw [heq]
        unfold NearestAbove
        rw [show document.functionParent (function.semanticId, function.functionId) = _ from hfull]
        rcases hid : function.parentFunctionId with _ | parentId
        · rw [hid] at hto
          obtain rfl : retained = none := hto
          rfl
        · rw [hid] at hto
          exact hto
      · exact h.parents key found hfound
    · intro key
      rw [HashMap.mem_keys_insert, or_comm]
      refine or_congr_right ?_
      constructor
      · rintro rfl
        exact ⟨rfl, hhidden⟩
      · rintro ⟨hkey, -⟩
        exact hkey.symm

theorem foldlM_addFunction {functions : List RankedFunction}
    (hsub : ∀ function ∈ functions, function ∈ document.functions) {building : Building}
    (h : BuiltSound document building) :
    ∃ building', functions.foldlM (addFunction (parentIds document.functions)
        (collapsedKeys document.functions)) building = some building' ∧
      BuiltSound document building' ∧
      ∀ key, key ∈ building'.compactParents.keys ↔ key ∈ building.compactParents.keys ∨
        (∃ function ∈ functions, function.identity = key) ∧ Kept document key := by
  induction functions generalizing building with
  | nil =>
    refine ⟨building, rfl, h, ?_⟩
    intro key
    simp
  | cons function functions ih =>
    obtain ⟨hmem, hrest⟩ := List.forall_mem_cons.1 hsub
    obtain ⟨next, hnext, hsound, hkeys⟩ := addFunction_spec hstruct h hmem
    obtain ⟨building', hbuild, hsound', hkeys'⟩ := ih hrest hsound
    refine ⟨building', ?_, hsound', ?_⟩
    · rw [List.foldlM_cons, hnext]
      exact hbuild
    · intro key
      rw [hkeys', hkeys, List.exists_mem_cons_iff]
      tauto

end Building

def childFunctions (document : RankedProfileDocument) (function : RankedFunction) :
    List RankedFunction := document.functions.filter (isChildOf function.identity)

def Contained (tree : CompactFunctionTree) (id : ℤ × ℤ) : Prop := id ∈ tree.parents.keys

instance (tree : CompactFunctionTree) : DecidablePred tree.Contained := fun id =>
  inferInstanceAs (Decidable (id ∈ tree.parents.keys))

def compactParent (tree : CompactFunctionTree) (id : ℤ × ℤ) : Option (ℤ × ℤ) :=
  (tree.parents.get? id).join.map (Prod.mk id.1)

def compactChildren (tree : CompactFunctionTree) (document : RankedProfileDocument)
    (function : RankedFunction) : List RankedFunction :=
  document.functions.filter fun child => tree.contains child ∧
    child.semanticId = function.semanticId ∧
    tree.parentFunctionId child = some function.functionId

def compactRoots (tree : CompactFunctionTree) (document : RankedProfileDocument)
    (semantic : RankedSemantic) : List RankedFunction :=
  document.functions.filter fun function => tree.contains function ∧
    function.semanticId = semantic.semanticId ∧ tree.parentFunctionId function = none

structure LosesNoCost (tree : CompactFunctionTree) (document : RankedProfileDocument) :
    Prop where
  contains_iff : ∀ function ∈ document.functions, tree.contains function = true ↔
    0 < function.selfSampleCount ∨ (childFunctions document function).length ≠ 1
  only_functions : ∀ id, tree.Contained id → id ∈ document.functionNodes
  nearest : ∀ function ∈ document.functions, tree.contains function = true →
    NearestAbove document.functionParent tree.Contained function.identity
      (tree.compactParent function.identity)
  forest : IsForest tree.compactParent (document.functionNodes.filter tree.Contained)
  inclusive : ∀ function ∈ document.functions, tree.contains function = true →
    function.inclusiveSampleCount = function.selfSampleCount +
      ((tree.compactChildren document function).map (·.inclusiveSampleCount)).sum
  hidden : ∀ function ∈ document.functions, tree.contains function = false →
    ∃ shown ∈ document.functions, NearestBelow document.functionParent document.functionNodes
        tree.Contained function.identity shown.identity ∧
      shown.inclusiveSampleCount = function.inclusiveSampleCount ∧
      ∀ other, NearestBelow document.functionParent document.functionNodes tree.Contained
        function.identity other → other = shown.identity
  roots : ∀ semantic ∈ document.semantics,
    ((tree.compactRoots document semantic).map (·.inclusiveSampleCount)).sum =
      ((document.rootFunctions semantic).map (·.inclusiveSampleCount)).sum

section Costs
variable {document : RankedProfileDocument} {tree : CompactFunctionTree}

def selfCounts (document : RankedProfileDocument) : ℤ × ℤ → ℤ :=
  countIn (.collect (document.functions.map fun function =>
    (function.identity, function.selfSampleCount)))

theorem contains_iff_contained {function : RankedFunction} :
    tree.contains function = true ↔ tree.Contained function.identity :=
  HashMap.contains_iff

theorem new_spec (hstruct : document.WellStructured) :
    ∃ tree, new document.functions = some tree ∧
      (∀ id, tree.Contained id ↔ id ∈ document.functionNodes ∧ Kept document id) ∧
      ∀ id ∈ document.functionNodes, tree.Contained id →
        NearestAbove document.functionParent tree.Contained id (tree.compactParent id) := by
  have hempty : BuiltSound document ⟨.empty, .empty⟩ := by
    constructor
    · intro key retained hget
      cases hget
    · intro key retained hget
      cases hget
  obtain ⟨building, hbuild, hsound, hkeys⟩ :=
    foldlM_addFunction hstruct (fun _ h => h) hempty
  have hcontained : ∀ id, id ∈ building.compactParents.keys ↔
      id ∈ document.functionNodes ∧ Kept document id := by
    intro id
    rw [hkeys, RankedProfileDocument.mem_functionNodes]
    exact or_iff_right List.not_mem_nil
  refine ⟨⟨building.compactParents⟩, ?_, hcontained, ?_⟩
  · unfold new
    rw [hbuild]
    rfl
  · intro id hid hin
    obtain ⟨retained, hget⟩ := HashMap.mem_keys.1 hin
    have habove := hsound.parents id retained hget
    -- on the functions of the document, kept and contained are the same
    have hagree : ∀ x ∈ document.functionNodes,
        (Kept document x ↔ CompactFunctionTree.Contained ⟨building.compactParents⟩ x) := by
      intro x hx
      show _ ↔ x ∈ building.compactParents.keys
      rw [hcontained x]
      exact (and_iff_right hx).symm
    have hparent : CompactFunctionTree.compactParent ⟨building.compactParents⟩ id =
        retained.map (Prod.mk id.1) := by
      show (building.compactParents.get? id).join.map _ = _
      rw [hget]
      rfl
    rw [hparent]
    exact habove.congr hstruct.function_forest hagree hid

theorem children_eq (hids : (document.functions.map RankedFunction.identity).Nodup)
    (function : RankedFunction) :
    children document.functionParent document.functionNodes function.identity =
      ((childFunctions document function).map RankedFunction.identity).toFinset := by
  ext id
  rw [mem_children, List.mem_toFinset, List.mem_map, RankedProfileDocument.mem_functionNodes]
  constructor
  · rintro ⟨⟨child, hchild, rfl⟩, hparent⟩
    refine ⟨child, List.mem_filter.2 ⟨hchild, ?_⟩, rfl⟩
    rw [RankedProfileDocument.functionParent_eq hids hchild] at hparent
    obtain ⟨parentId, hparentId, heq⟩ := Option.map_eq_some_iff.1 hparent
    unfold isChildOf
    rw [← heq, hparentId]
    simp
  · rintro ⟨child, hchild, rfl⟩
    obtain ⟨hmem, hof⟩ := List.mem_filter.1 hchild
    refine ⟨⟨child, hmem, rfl⟩, ?_⟩
    unfold isChildOf at hof
    rw [Bool.and_eq_true, decide_eq_true_iff, decide_eq_true_iff] at hof
    rw [RankedProfileDocument.functionParent_eq hids hmem, hof.2, hof.1]
    rfl

theorem selfCounts_eq (hids : (document.functions.map RankedFunction.identity).Nodup)
    {function : RankedFunction} (hmem : function ∈ document.functions) :
    selfCounts document function.identity = function.selfSampleCount :=
  countIn_collect hids hmem

section Counted
variable (hids : (document.functions.map RankedFunction.identity).Nodup)
  (hforest : IsForest document.functionParent document.functionNodes)
  (hinclusive : ∀ function ∈ document.functions, function.inclusiveSampleCount =
    ((document.functionsBelow function).map (·.selfSampleCount)).sum)
include hids hinclusive

theorem inclusive_eq_subtreeSum {function : RankedFunction}
    (hmem : function ∈ document.functions) :
    function.inclusiveSampleCount = subtreeSum document.functionParent document.functionNodes
      (selfCounts document) function.identity := by
  rw [hinclusive function hmem]
  exact (subtreeSum_collect hids document.functionParent function.identity).symm

include hforest

theorem collapsed_iff {function : RankedFunction} (hmem : function ∈ document.functions) :
    ¬Kept document function.identity ↔
      function.selfSampleCount = 0 ∧ (childFunctions document function).length = 1 := by
  have hkeys : ¬Kept document function.identity ↔
      isCollapsed (document.functions.foldl countChild .empty) function = true := by
    unfold Kept collapsedKeys
    rw [not_not, List.mem_map]
    constructor
    · rintro ⟨other, hother, heq⟩
      obtain ⟨hothermem, hcollapsed⟩ := List.mem_filter.1 hother
      obtain rfl := List.inj_on_of_nodup_map hids hothermem hmem heq
      exact hcollapsed
    · intro hcollapsed
      exact ⟨function, List.mem_filter.2 ⟨hmem, hcollapsed⟩, rfl⟩
  rw [hkeys, isCollapsed_iff]
  refine and_congr_right fun hzero => ?_
  show (∃ child, childFunctions document function = [child] ∧ _) ↔ _
  constructor
  · rintro ⟨child, hchild, -⟩
    rw [hchild]
    rfl
  · intro hone
    obtain ⟨child, hchild⟩ := List.length_eq_one_iff.1 hone
    refine ⟨child, hchild, ?_⟩
    have hchildmem : child ∈ document.functions := by
      have hin : child ∈ childFunctions document function := by
        rw [hchild]
        exact List.mem_singleton_self child
      exact (List.mem_filter.1 hin).1
    have hnode : function.identity ∈ document.functionNodes :=
      RankedProfileDocument.mem_functionNodes.2 ⟨function, hmem, rfl⟩
    rw [inclusive_eq_subtreeSum hids hinclusive hmem,
      inclusive_eq_subtreeSum hids hinclusive hchildmem, hforest.subtreeSum_eq hnode,
      selfCounts_eq hids hmem, hzero, zero_add, children_eq hids function, hchild]
    simp

end Counted

theorem compactParent_identity (function : RankedFunction) :
    tree.compactParent function.identity =
      (tree.parentFunctionId function).map (Prod.mk function.semanticId) := by
  rfl

theorem compactParent_same_semantic {id parent : ℤ × ℤ} (h : tree.compactParent id = some parent) :
    id.1 = parent.1 := by
  obtain ⟨parentId, -, rfl⟩ := Option.map_eq_some_iff.1 h
  rfl

theorem mem_contained {id : ℤ × ℤ} :
    id ∈ document.functionNodes.filter tree.Contained ↔
      ∃ function ∈ document.functions, tree.contains function = true ∧ function.identity = id := by
  rw [Finset.mem_filter, RankedProfileDocument.mem_functionNodes]
  constructor
  · rintro ⟨⟨function, hmem, rfl⟩, hin⟩
    exact ⟨function, hmem, contains_iff_contained.2 hin, rfl⟩
  · rintro ⟨function, hmem, hcontains, rfl⟩
    exact ⟨⟨function, hmem, rfl⟩, contains_iff_contained.1 hcontains⟩

theorem compact_children_eq (function : RankedFunction) :
    children tree.compactParent (document.functionNodes.filter tree.Contained)
        function.identity =
      ((tree.compactChildren document function).map RankedFunction.identity).toFinset := by
  ext id
  rw [mem_children, mem_contained, List.mem_toFinset, List.mem_map]
  constructor
  · rintro ⟨⟨child, hchild, hcontains, rfl⟩, hparent⟩
    rw [compactParent_identity] at hparent
    obtain ⟨parentId, hparentId, heq⟩ := Option.map_eq_some_iff.1 hparent
    obtain ⟨hsemantic, hfunction⟩ := Prod.mk.inj heq
    refine ⟨child, List.mem_filter.2 ⟨hchild, decide_eq_true ?_⟩, rfl⟩
    exact ⟨hcontains, hsemantic, by rw [hparentId, hfunction]⟩
  · rintro ⟨child, hchild, rfl⟩
    obtain ⟨hmem, hof⟩ := List.mem_filter.1 hchild
    obtain ⟨hcontains, hsemantic, hparent⟩ := of_decide_eq_true hof
    refine ⟨⟨child, hmem, hcontains, rfl⟩, ?_⟩
    rw [compactParent_identity, hparent, hsemantic]
    rfl

theorem compact_roots_eq (semantic : RankedSemantic) :
    (roots tree.compactParent (document.functionNodes.filter tree.Contained)).filter
        (·.1 = semantic.semanticId) =
      ((tree.compactRoots document semantic).map RankedFunction.identity).toFinset := by
  ext id
  rw [Finset.mem_filter, mem_roots, mem_contained, List.mem_toFinset, List.mem_map]
  constructor
  · rintro ⟨⟨⟨function, hmem, hcontains, rfl⟩, hroot⟩, hsemantic⟩
    rw [compactParent_identity] at hroot
    refine ⟨function, List.mem_filter.2 ⟨hmem, decide_eq_true ?_⟩, rfl⟩
    exact ⟨hcontains, hsemantic, Option.map_eq_none_iff.1 hroot⟩
  · rintro ⟨function, hfunction, rfl⟩
    obtain ⟨hmem, hof⟩ := List.mem_filter.1 hfunction
    obtain ⟨hcontains, hsemantic, hroot⟩ := of_decide_eq_true hof
    refine ⟨⟨⟨function, hmem, hcontains, rfl⟩, ?_⟩, hsemantic⟩
    rw [compactParent_identity, hroot]
    rfl

theorem sum_inclusive (hids : (document.functions.map RankedFunction.identity).Nodup)
    (hinclusive : ∀ function ∈ document.functions, function.inclusiveSampleCount =
      ((document.functionsBelow function).map (·.selfSampleCount)).sum)
    (P : RankedFunction → Bool) :
    ((document.functions.filter P).map (·.inclusiveSampleCount)).sum =
      ∑ id ∈ ((document.functions.filter P).map RankedFunction.identity).toFinset,
        subtreeSum document.functionParent document.functionNodes (selfCounts document) id := by
  have hnodup : ((document.functions.filter P).map RankedFunction.identity).Nodup :=
    (List.filter_sublist.map _).nodup hids
  rw [List.sum_toFinset _ hnodup, List.map_map]
  refine congrArg List.sum (List.map_congr_left ?_)
  intro function hmem
  exact inclusive_eq_subtreeSum hids hinclusive (List.mem_filter.1 hmem).1

/-- What is known of the trees of an accepted document. -/
structure Contracts (tree : CompactFunctionTree) (document : RankedProfileDocument) : Prop where
  structured : document.WellStructured
  self_nonneg : ∀ function ∈ document.functions, 0 ≤ function.selfSampleCount
  inclusive : ∀ function ∈ document.functions, function.inclusiveSampleCount =
    ((document.functionsBelow function).map (·.selfSampleCount)).sum
  contained : ∀ id, tree.Contained id ↔ id ∈ document.functionNodes ∧ Kept document id
  nearest : ∀ id ∈ document.functionNodes, tree.Contained id →
    NearestAbove document.functionParent tree.Contained id (tree.compactParent id)

namespace Contracts
variable {function : RankedFunction} {id : ℤ × ℤ} (h : tree.Contracts document)
include h

omit h in
theorem mem_nodes (hmem : function ∈ document.functions) :
    function.identity ∈ document.functionNodes :=
  RankedProfileDocument.mem_functionNodes.2 ⟨function, hmem, rfl⟩

theorem contains_eq_false_iff (hmem : function ∈ document.functions) :
    tree.contains function = false ↔
      function.selfSampleCount = 0 ∧ (childFunctions document function).length = 1 := by
  rw [← collapsed_iff h.structured.function_ids h.structured.function_forest h.inclusive hmem,
    Bool.eq_false_iff, ne_eq, contains_iff_contained, h.contained]
  exact not_congr (and_iff_right (mem_nodes hmem))

theorem hidden_node (hid : id ∈ document.functionNodes) (hnot : ¬tree.Contained id) :
    ∃ function ∈ document.functions, function.identity = id ∧
      function.selfSampleCount = 0 ∧ (childFunctions document function).length = 1 := by
  obtain ⟨function, hmem, rfl⟩ := RankedProfileDocument.mem_functionNodes.1 hid
  refine ⟨function, hmem, rfl, (h.contains_eq_false_iff hmem).1 ?_⟩
  rw [Bool.eq_false_iff, ne_eq, contains_iff_contained]
  exact hnot

theorem hidden_counts_nothing (id : ℤ × ℤ) (hid : id ∈ document.functionNodes)
    (hnot : ¬tree.Contained id) : selfCounts document id = 0 := by
  obtain ⟨function, hmem, rfl, hself, -⟩ := h.hidden_node hid hnot
  rw [selfCounts_eq h.structured.function_ids hmem, hself]

theorem hidden_has_one_child (id : ℤ × ℤ) (hid : id ∈ document.functionNodes)
    (hnot : ¬tree.Contained id) :
    ∃ child, children document.functionParent document.functionNodes id = {child} := by
  obtain ⟨function, -, rfl, -, hone⟩ := h.hidden_node hid hnot
  obtain ⟨child, hchild⟩ := List.length_eq_one_iff.1 hone
  refine ⟨child.identity, ?_⟩
  rw [children_eq h.structured.function_ids function, hchild]
  simp

theorem compact_forest :
    IsForest tree.compactParent (document.functionNodes.filter tree.Contained) :=
  contracted_isForest h.structured.function_forest h.nearest

theorem subtreeSum_eq (hid : tree.Contained id) :
    subtreeSum tree.compactParent (document.functionNodes.filter tree.Contained)
        (selfCounts document) id =
      subtreeSum document.functionParent document.functionNodes (selfCounts document) id :=
  contracted_subtreeSum h.structured.function_forest h.nearest h.hidden_counts_nothing hid

theorem contains_iff (hmem : function ∈ document.functions) :
    tree.contains function = true ↔
      0 < function.selfSampleCount ∨ (childFunctions document function).length ≠ 1 := by
  rw [← Bool.not_eq_false, h.contains_eq_false_iff hmem]
  have hnonneg := h.self_nonneg function hmem
  constructor
  · intro hnot
    by_cases hone : (childFunctions document function).length = 1
    · have hne : function.selfSampleCount ≠ 0 := fun hz => hnot ⟨hz, hone⟩
      exact Or.inl (by omega)
    · exact Or.inr hone
  · rintro hor ⟨hz, hone⟩
    rcases hor with hpos | hne
    · omega
    · exact hne hone

theorem inclusive_eq (hmem : function ∈ document.functions)
    (hin : tree.contains function = true) :
    function.inclusiveSampleCount = function.selfSampleCount +
      ((tree.compactChildren document function).map (·.inclusiveSampleCount)).sum := by
  have hids := h.structured.function_ids
  have hid := contains_iff_contained.1 hin
  have hfiltered : function.identity ∈ document.functionNodes.filter tree.Contained :=
    Finset.mem_filter.2 ⟨mem_nodes hmem, hid⟩
  rw [inclusive_eq_subtreeSum hids h.inclusive hmem, ← h.subtreeSum_eq hid,
    h.compact_forest.subtreeSum_eq hfiltered, selfCounts_eq hids hmem, compact_children_eq]
  unfold compactChildren
  rw [sum_inclusive hids h.inclusive]
  refine congrArg (function.selfSampleCount + ·) (Finset.sum_congr rfl ?_)
  intro id hchild
  refine h.subtreeSum_eq ?_
  obtain ⟨child, hchildmem, rfl⟩ := List.mem_map.1 (List.mem_toFinset.1 hchild)
  exact contains_iff_contained.1 (of_decide_eq_true (List.mem_filter.1 hchildmem).2).1

theorem hidden_passes_on (hmem : function ∈ document.functions) :
    ∃ shown ∈ document.functions, NearestBelow document.functionParent document.functionNodes
        tree.Contained function.identity shown.identity ∧
      shown.inclusiveSampleCount = function.inclusiveSampleCount ∧
      ∀ other, NearestBelow document.functionParent document.functionNodes tree.Contained
        function.identity other → other = shown.identity := by
  have hids := h.structured.function_ids
  have hforest := h.structured.function_forest
  have hchain := h.hidden_has_one_child
  have hid := mem_nodes hmem
  obtain ⟨id, hshown⟩ := exists_nearestBelow hforest hchain hid
  obtain ⟨shown, hmemShown, rfl⟩ := RankedProfileDocument.mem_functionNodes.1 (hshown.mem hid)
  refine ⟨shown, hmemShown, hshown, ?_, fun _ hother => hother.unique hchain hid hshown⟩
  rw [inclusive_eq_subtreeSum hids h.inclusive hmem,
    inclusive_eq_subtreeSum hids h.inclusive hmemShown]
  exact (hshown.subtreeSum_eq hforest hchain h.hidden_counts_nothing hid).symm

theorem sum_compactRoots (semantic : RankedSemantic) :
    ((tree.compactRoots document semantic).map (·.inclusiveSampleCount)).sum =
      ((document.functions.filter (·.semanticId = semantic.semanticId)).map
        (·.selfSampleCount)).sum := by
  have hids := h.structured.function_ids
  -- parents stay in the semantic, so its roots cover all of it
  have hshared : ∀ x y, tree.compactParent x = some y →
      (x.1 = semantic.semanticId ↔ y.1 = semantic.semanticId) := by
    intro x y hparent
    rw [compactParent_same_semantic hparent]
  calc ((tree.compactRoots document semantic).map (·.inclusiveSampleCount)).sum
      = ∑ id ∈ ((tree.compactRoots document semantic).map RankedFunction.identity).toFinset,
          subtreeSum document.functionParent document.functionNodes (selfCounts document) id :=
        sum_inclusive hids h.inclusive _
    _ = ∑ id ∈ (roots tree.compactParent
          (document.functionNodes.filter tree.Contained)).filter (·.1 = semantic.semanticId),
          subtreeSum tree.compactParent (document.functionNodes.filter tree.Contained)
            (selfCounts document) id := by
        rw [← compact_roots_eq]
        refine Finset.sum_congr rfl ?_
        intro id hroot
        have hin := (mem_roots.1 (Finset.mem_filter.1 hroot).1).1
        exact (h.subtreeSum_eq (Finset.mem_filter.1 hin).2).symm
    _ = ∑ id ∈ (document.functionNodes.filter tree.Contained).filter
          (·.1 = semantic.semanticId), selfCounts document id :=
        h.compact_forest.sum_roots_filter hshared
    _ = ∑ id ∈ document.functionNodes.filter (·.1 = semantic.semanticId),
          selfCounts document id := by
        rw [Finset.filter_comm]
        refine Finset.sum_filter_of_ne ?_
        intro id hid hne
        by_contra hnot
        exact hne (h.hidden_counts_nothing id (Finset.mem_filter.1 hid).1 hnot)
    _ = ((document.functions.filter (·.semanticId = semantic.semanticId)).map
          (·.selfSampleCount)).sum := by
        rw [RankedProfileDocument.functionNodes, sum_keys_filter hids]
        refine congrArg List.sum (List.map_congr_left ?_)
        intro function hfunction
        exact selfCounts_eq hids (List.mem_filter.1 hfunction).1

theorem losesNoCost : tree.LosesNoCost document where
  contains_iff := fun _ hmem => h.contains_iff hmem
  only_functions := fun id hid => ((h.contained id).1 hid).1
  nearest := fun _ hmem hin => h.nearest _ (mem_nodes hmem) (contains_iff_contained.1 hin)
  forest := h.compact_forest
  inclusive := fun _ hmem hin => h.inclusive_eq hmem hin
  hidden := fun _ hmem _ => h.hidden_passes_on hmem
  roots := by
    intro semantic _
    rw [h.sum_compactRoots semantic]
    exact (RankedProfileDocument.sum_roots_functions h.structured.functionTrees h.inclusive
      semantic).symm

end Contracts
end Costs

theorem exists_contracts {order : IterationOrder ReportMap} {document : RankedProfileDocument}
    (haccepted : document.validate order = .ok ()) :
    ∃ tree, new document.functions = some tree ∧ tree.Contracts document := by
  obtain ⟨-, hstruct, -, -, hfunctions⟩ := RankedProfileDocument.validate_eq_ok haccepted
  obtain ⟨hself, hinclusive, -⟩ :=
    RankedProfileDocument.validateFunctionCounts_eq_ok hstruct.function_ids hfunctions
  obtain ⟨tree, hnew, hcontained, hnearest⟩ := new_spec hstruct
  exact ⟨tree, hnew, hstruct, hself, hinclusive, hcontained, hnearest⟩

/-- The compact trees of an accepted document are built, show all but the chains of functions
that only pass their cost on, and keep every inclusive count and every sum over roots. -/
theorem compact_trees_lose_no_cost (order : IterationOrder ReportMap)
    (document : RankedProfileDocument) (haccepted : document.validate order = .ok ()) :
    ∃ tree, new document.functions = some tree ∧ tree.LosesNoCost document := by
  obtain ⟨tree, hnew, hcontracts⟩ := exists_contracts haccepted
  exact ⟨tree, hnew, hcontracts.losesNoCost⟩

/-- Between caller and callee, a function that only passes its cost on. -/
def passingFunction : RankedFunction :=
  { RankedProfileDocument.planningDocument.callee with
    functionId := 3, name := "passing", selfSampleCount := 0 }

def chainedDocument : RankedProfileDocument :=
  { RankedProfileDocument.planningDocument with
    functions :=
      [RankedProfileDocument.planningDocument.caller, passingFunction,
        { RankedProfileDocument.planningDocument.callee with parentFunctionId := some 3 }] }

theorem chained_trees_lose_no_cost :
    ∃ tree, new chainedDocument.functions = some tree ∧ tree.contains passingFunction = false ∧
      tree.LosesNoCost chainedDocument := by
  obtain ⟨tree, hnew, hcosts⟩ := compact_trees_lose_no_cost (.inserted ReportMap) chainedDocument
    (by decide)
  refine ⟨tree, hnew, ?_, hcosts⟩
  have hmem : passingFunction ∈ chainedDocument.functions := by decide
  rw [← Bool.not_eq_true, hcosts.contains_iff _ hmem]
  decide

end CompactFunctionTree

end DeltaFunnel
