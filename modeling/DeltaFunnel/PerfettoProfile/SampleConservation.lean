import DeltaFunnel.PerfettoProfile.DocumentStructure

/-! Accepted documents conserve samples: every count is that of a subtree, and the roots account
for everything that was sampled. -/

namespace DeltaFunnel
open Collections Graph

section FoldRecords
variable {Id Site ρ : Type} [DecidableEq Id] {order : IterationOrder Site} {site : Site}
  {records : List ρ} {key : ρ → Id} {parentOf : ρ → Option Id} {count : ρ → ℤ}

theorem countIn_collect (hnodup : (records.map key).Nodup) {r : ρ} (hr : r ∈ records) :
    countIn (.collect (records.map fun r => (key r, count r))) (key r) = count r := by
  rw [countIn, HashMap.get?_collect_map hnodup hr]
  rfl

theorem nodesOf_collect (hnodup : (records.map key).Nodup) :
    nodesOf (.collect (records.map fun r => (key r, parentOf r))) = (records.map key).toFinset := by
  rw [nodesOf, HashMap.keys_collect_map hnodup]

open Classical in
theorem subtreeSum_collect (hnodup : (records.map key).Nodup) (parent : Id → Option Id) (id : Id) :
    subtreeSum parent (records.map key).toFinset
        (countIn (.collect (records.map fun r => (key r, count r)))) id =
      ((records.filter fun r => Below parent (key r) id).map count).sum := by
  rw [subtreeSum_keys hnodup]
  congr 1
  apply List.map_congr_left
  intro r hr
  exact countIn_collect hnodup (List.mem_filter.1 hr).1

open Classical in
theorem foldInclusiveCounts_records {folded : HashMap Id ℤ} (hnodup : (records.map key).Nodup)
    (h : foldInclusiveCounts order site (.collect (records.map fun r => (key r, parentOf r)))
      (.collect (records.map fun r => (key r, count r))) = some folded) {r : ρ} (hr : r ∈ records) :
    folded.get? (key r) = some (((records.filter fun x =>
      Below (parentIn (.collect (records.map fun r => (key r, parentOf r)))) (key x)
        (key r)).map count).sum) := by
  have hparents : (HashMap.collect (records.map fun r => (key r, parentOf r))).keys =
      records.map key := HashMap.keys_collect_map hnodup
  have hcounts : (HashMap.collect (records.map fun r => (key r, count r))).keys =
      records.map key := HashMap.keys_collect_map hnodup
  obtain ⟨-, hget⟩ := foldInclusiveCounts_eq_some (fun id hid => by rwa [hcounts, ← hparents]) h
  rw [hget (key r) (hparents ▸ List.mem_map_of_mem hr), nodesOf_collect hnodup,
    subtreeSum_collect hnodup]

open Classical in
theorem foldInclusiveCounts_records_isSome (order : IterationOrder Site) (site : Site)
    (hnodup : (records.map key).Nodup)
    (hforest : IsForest (parentIn (.collect (records.map fun r => (key r, parentOf r))))
      (records.map key).toFinset)
    (hnonneg : ∀ r ∈ records, 0 ≤ count r)
    (hbound : ∀ r ∈ records, ((records.filter fun x =>
      Below (parentIn (.collect (records.map fun r => (key r, parentOf r)))) (key x)
        (key r)).map count).sum ≤ i64Max) :
    ∃ folded, foldInclusiveCounts order site
      (.collect (records.map fun r => (key r, parentOf r)))
      (.collect (records.map fun r => (key r, count r))) = some folded := by
  have hparents : (HashMap.collect (records.map fun r => (key r, parentOf r))).keys =
      records.map key := HashMap.keys_collect_map hnodup
  have hcounts : (HashMap.collect (records.map fun r => (key r, count r))).keys =
      records.map key := HashMap.keys_collect_map hnodup
  have hnodes : nodesOf (.collect (records.map fun r => (key r, parentOf r))) =
      (records.map key).toFinset := nodesOf_collect hnodup
  apply foldInclusiveCounts_isSome
  · exact fun id hid => by rwa [hcounts, ← hparents]
  · rwa [hnodes]
  · intro id hid
    rw [hparents] at hid
    obtain ⟨r, hr, rfl⟩ := List.mem_map.1 hid
    rw [countIn_collect hnodup hr]
    exact hnonneg r hr
  · intro id hid
    rw [hparents] at hid
    obtain ⟨r, hr, rfl⟩ := List.mem_map.1 hid
    rw [hnodes, subtreeSum_collect hnodup]
    exact hbound r hr

end FoldRecords

namespace RankedProfileDocument

section Defs
variable (document : RankedProfileDocument)

open Classical in
/-- The semantics from which climbing reaches the given one. -/
noncomputable def semanticsBelow (semantic : RankedSemantic) : List RankedSemantic :=
  document.semantics.filter fun x =>
    Below document.semanticParent x.semanticId semantic.semanticId

open Classical in
noncomputable def functionsBelow (function : RankedFunction) : List RankedFunction :=
  document.functions.filter fun x =>
    Below document.functionParent x.identity function.identity

def rootFunctions (semantic : RankedSemantic) : List RankedFunction :=
  document.functions.filter fun function =>
    function.semanticId = semantic.semanticId ∧ function.parentFunctionId = none

structure OperationTrees : Prop where
  ids : (document.semantics.map (·.semanticId)).Nodup
  forest : IsForest document.semanticParent document.semanticNodes
  root : ∀ semantic ∈ document.semantics, ∃ root ∈ document.semantics,
    root.operationId = semantic.operationId ∧ root.parentSemanticId = none ∧
      root.semanticKind = "operation" ∧
      (∀ x ∈ document.semantics, x.operationId = semantic.operationId →
        x.parentSemanticId = none ∨ x.semanticKind = "operation" → x = root) ∧
      ∀ x ∈ document.semantics,
        Below document.semanticParent x.semanticId root.semanticId ↔
          x.operationId = semantic.operationId

/-- The functions are trees, each inside one semantic. -/
structure FunctionTrees : Prop where
  ids : (document.functions.map RankedFunction.identity).Nodup
  forest : IsForest document.functionParent document.functionNodes
  owner : ∀ function ∈ document.functions, function.semanticId ∈ document.semanticNodes
  inside : ∀ x y, Below document.functionParent x y → x.1 = y.1

structure ConservesSamples : Prop where
  operations : document.OperationTrees
  functions : document.FunctionTrees
  semantic_inclusive : ∀ semantic ∈ document.semantics, semantic.inclusiveSampleCount =
    ((document.semanticsBelow semantic).map (·.directSampleCount)).sum
  function_inclusive : ∀ function ∈ document.functions, function.inclusiveSampleCount =
    ((document.functionsBelow function).map (·.selfSampleCount)).sum
  root_total : ((document.semantics.filter isRoot).map (·.inclusiveSampleCount)).sum =
    document.metadata.directSampleCount
  eligible : document.metadata.directSampleCount = document.metadata.eligibleSampleCount -
    document.metadata.ambiguousSampleCount - document.metadata.unattributedSampleCount
  root_function_total : ∀ semantic ∈ document.semantics,
    ((document.rootFunctions semantic).map (·.inclusiveSampleCount)).sum =
      semantic.resolvedFunctionSampleCount + semantic.unresolvedFunctionSampleCount
  captured : ∀ semantic ∈ document.semantics,
    semantic.resolvedFunctionSampleCount + semantic.unresolvedFunctionSampleCount =
      semantic.directSampleCount - semantic.unwindErrorSampleCount -
        semantic.missingCallstackSampleCount

end Defs

section Trees
variable {document : RankedProfileDocument}

theorem WellStructured.operation_of_below (hstruct : document.WellStructured) {a b : ℤ}
    (hbelow : Below document.semanticParent a b) :
    ∀ x ∈ document.semantics, x.semanticId = a → ∀ y ∈ document.semantics, y.semanticId = b →
      x.operationId = y.operationId := by
  induction hbelow with
  | refl a =>
    intro x hx hxa y hy hya
    rw [List.inj_on_of_nodup_map hstruct.semantic_ids hx hy (hxa.trans hya.symm)]
  | @up a c b hparent rest ih =>
    intro x hx hxa y hy hyb
    subst hxa
    have hc := hstruct.semantic_forest.closed _ (mem_semanticNodes.2 ⟨x, hx, rfl⟩) c hparent
    obtain ⟨z, hz, rfl⟩ := mem_semanticNodes.1 hc
    rw [semanticParent_eq hstruct.semantic_ids hx] at hparent
    rw [← hstruct.same_operation x hx z hz hparent]
    exact ih z hz rfl y hy hyb

theorem WellStructured.operationTrees (hstruct : document.WellStructured) :
    document.OperationTrees where
  ids := hstruct.semantic_ids
  forest := hstruct.semantic_forest
  root := by
    intro semantic hmem
    obtain ⟨root, hroot, hop, hisRoot, hisOperation, honly⟩ := hstruct.operation_root semantic hmem
    have hnone : root.parentSemanticId = none := by simpa [isRoot] using hisRoot
    refine ⟨root, hroot, hop, hnone, by simpa [isOperation] using hisOperation, ?_, ?_⟩
    · intro x hx hxop hor
      exact honly x hx hxop (by simpa [isRoot, isOperation] using hor)
    · intro x hx
      constructor
      · intro hbelow
        exact (hstruct.operation_of_below hbelow x hx rfl root hroot rfl).trans hop
      · intro hxop
        -- Climbing from `x` ends at a root of the same operation, of which there is one.
        have hnode := mem_semanticNodes.2 ⟨x, hx, rfl⟩
        obtain ⟨r, hbelow, hrnone⟩ := (hstruct.semantic_forest.grounded _ hnode).exists_root
        obtain ⟨y, hy, rfl⟩ := mem_semanticNodes.1
          (hstruct.semantic_forest.mem_of_below hnode hbelow)
        rw [semanticParent_eq hstruct.semantic_ids hy] at hrnone
        have hyop : y.operationId = semantic.operationId := by
          rw [← hxop, hstruct.operation_of_below hbelow x hx rfl y hy rfl]
        have hyroot : y = root := honly y hy hyop (.inl (by simp [isRoot, hrnone]))
        exact hyroot ▸ hbelow

theorem WellStructured.functionTrees (hstruct : document.WellStructured) :
    document.FunctionTrees where
  ids := hstruct.function_ids
  forest := hstruct.function_forest
  owner := hstruct.function_owner
  inside := by
    intro x y hbelow
    induction hbelow with
    | refl x => rfl
    | up hparent _ ih =>
      rw [← functionParent_same_semantic hstruct.function_ids hparent, ih]

end Trees

section Totals
variable {document : RankedProfileDocument}

theorem addWithin_eq_ok {scope : String} {a b c : ℤ} :
    addWithin scope a b = .ok c ↔ a + b = c ∧ inI64 (a + b) = true := by
  rw [← checkedAdd_eq_some, addWithin]
  rcases checkedAdd a b with _ | sum
  · simp
  · simp

theorem requireNonnegative_eq_ok {recordKind : String} {recordId : ℤ} {field : String} {value : ℤ} :
    requireNonnegative recordKind recordId field value = .ok () ↔ 0 ≤ value := by
  rw [requireNonnegative, rejectIf_eq_ok, not_lt]

theorem validateFunctionCoverage_eq_ok {semanticId : Option ℤ}
    {direct resolved unresolved unwindError missingCallstack : ℤ}
    (h : validateFunctionCoverage semanticId direct resolved unresolved unwindError
      missingCallstack = .ok ()) :
    resolved + unresolved + unwindError + missingCallstack = direct := by
  obtain ⟨a, ha, h⟩ := except_bind_eq_ok.1 h
  obtain ⟨b, hb, h⟩ := except_bind_eq_ok.1 h
  obtain ⟨c, hc, h⟩ := except_bind_eq_ok.1 h
  rw [(addWithin_eq_ok.1 ha).1, (addWithin_eq_ok.1 hb).1, (addWithin_eq_ok.1 hc).1]
  rwa [rejectIf_eq_ok, not_not] at h

theorem addSemanticCounts_eq_ok {totals totals' : SemanticTotals} {semantic : RankedSemantic}
    (h : addSemanticCounts totals semantic = .ok totals') :
    (0 ≤ semantic.directSampleCount ∧ 0 ≤ semantic.unwindErrorSampleCount ∧
      0 ≤ semantic.missingCallstackSampleCount ∧ semantic.resolvedFunctionSampleCount +
        semantic.unresolvedFunctionSampleCount + semantic.unwindErrorSampleCount +
          semantic.missingCallstackSampleCount = semantic.directSampleCount) ∧
      totals'.direct = totals.direct.insert semantic.semanticId semantic.directSampleCount ∧
      totals'.directTotal = totals.directTotal + semantic.directSampleCount ∧
      totals'.directTotal ≤ i64Max := by
  obtain ⟨⟨⟩, hdirect, h⟩ := except_bind_eq_ok.1 h
  obtain ⟨⟨⟩, -, h⟩ := except_bind_eq_ok.1 h
  obtain ⟨⟨⟩, -, h⟩ := except_bind_eq_ok.1 h
  obtain ⟨⟨⟩, -, h⟩ := except_bind_eq_ok.1 h
  obtain ⟨⟨⟩, hunwind, h⟩ := except_bind_eq_ok.1 h
  obtain ⟨⟨⟩, hmissing, h⟩ := except_bind_eq_ok.1 h
  obtain ⟨⟨⟩, hcoverage, h⟩ := except_bind_eq_ok.1 h
  obtain ⟨total, htotal, h⟩ := except_bind_eq_ok.1 h
  obtain ⟨resolved, -, h⟩ := except_bind_eq_ok.1 h
  obtain ⟨unresolved, -, h⟩ := except_bind_eq_ok.1 h
  obtain ⟨unwindError, -, h⟩ := except_bind_eq_ok.1 h
  obtain ⟨missingCallstack, -, h⟩ := except_bind_eq_ok.1 h
  obtain rfl := Except.ok.inj h
  obtain ⟨rfl, hfits⟩ := addWithin_eq_ok.1 htotal
  exact ⟨⟨requireNonnegative_eq_ok.1 hdirect, requireNonnegative_eq_ok.1 hunwind,
    requireNonnegative_eq_ok.1 hmissing, validateFunctionCoverage_eq_ok hcoverage⟩, rfl, rfl,
    le_i64Max_of_inI64 hfits⟩

theorem addFunctionCounts_eq_ok {totals totals' : FunctionTotals} {function : RankedFunction}
    (h : addFunctionCounts totals function = .ok totals') :
    0 ≤ function.selfSampleCount ∧
      totals'.selfCounts = totals.selfCounts.insert function.identity function.selfSampleCount ∧
      totals'.bySemantic = totals.bySemantic.insert function.semanticId
        (countIn totals.bySemantic function.semanticId + function.selfSampleCount) ∧
      countIn totals.bySemantic function.semanticId + function.selfSampleCount ≤ i64Max := by
  obtain ⟨⟨⟩, hself, h⟩ := except_bind_eq_ok.1 h
  obtain ⟨⟨⟩, -, h⟩ := except_bind_eq_ok.1 h
  obtain ⟨total, htotal, h⟩ := except_bind_eq_ok.1 h
  obtain rfl := Except.ok.inj h
  obtain ⟨rfl, hfits⟩ := addWithin_eq_ok.1 htotal
  exact ⟨requireNonnegative_eq_ok.1 hself, rfl, rfl, le_i64Max_of_inI64 hfits⟩

theorem foldl_add_eq_sum {α : Type} (f : α → ℤ) (xs : List α) (start : ℤ) :
    xs.foldl (fun total x => total + f x) start = start + (xs.map f).sum := by
  induction xs generalizing start with
  | nil => simp
  | cons x xs ih => rw [List.foldl_cons, ih, List.map_cons, List.sum_cons, add_assoc]

section Semantics
variable {totals : SemanticTotals}

theorem directCounts_eq
    (h : document.semantics.foldlM addSemanticCounts .zero = .ok totals) :
    totals.direct = .collect (document.semantics.map fun semantic =>
      (semantic.semanticId, semantic.directSampleCount)) := by
  have hview : totals.direct = document.semantics.foldl (fun direct semantic =>
      direct.insert semantic.semanticId semantic.directSampleCount) SemanticTotals.zero.direct :=
    except_foldlM_view (fun _ _ _ hstep => (addSemanticCounts_eq_ok hstep).2.1) h
  rw [hview, HashMap.collect, List.foldl_map]
  rfl

theorem directTotal_eq (h : document.semantics.foldlM addSemanticCounts .zero = .ok totals) :
    totals.directTotal = (document.semantics.map (·.directSampleCount)).sum := by
  have hview : totals.directTotal = document.semantics.foldl (fun total semantic =>
      total + semantic.directSampleCount) SemanticTotals.zero.directTotal :=
    except_foldlM_view (fun _ _ _ hstep => (addSemanticCounts_eq_ok hstep).2.2.1) h
  rw [hview, foldl_add_eq_sum]
  exact zero_add _

theorem directTotal_le (h : document.semantics.foldlM addSemanticCounts .zero = .ok totals) :
    totals.directTotal ≤ i64Max :=
  except_foldlM_invariant (P := fun totals => totals.directTotal ≤ i64Max)
    (fun _ _ _ _ hstep => (addSemanticCounts_eq_ok hstep).2.2.2) (by decide) h

end Semantics

section Functions
variable {totals : FunctionTotals}

theorem selfCounts_eq
    (h : document.functions.foldlM addFunctionCounts ⟨.empty, .empty⟩ = .ok totals) :
    totals.selfCounts = .collect (document.functions.map fun function =>
      (function.identity, function.selfSampleCount)) := by
  have hview : totals.selfCounts = document.functions.foldl (fun counts function =>
      counts.insert function.identity function.selfSampleCount)
        (FunctionTotals.mk .empty .empty).selfCounts :=
    except_foldlM_view (fun _ _ _ hstep => (addFunctionCounts_eq_ok hstep).2.1) h
  rw [hview, HashMap.collect, List.foldl_map]

theorem bySemantic_eq {functions : List RankedFunction} {start : FunctionTotals}
    (h : functions.foldlM addFunctionCounts start = .ok totals) (semanticId : ℤ) :
    countIn totals.bySemantic semanticId = countIn start.bySemantic semanticId +
      ((functions.filter (·.semanticId = semanticId)).map (·.selfSampleCount)).sum := by
  induction functions generalizing start with
  | nil =>
    obtain rfl : start = totals := Except.ok.inj h
    simp
  | cons function functions ih =>
    rw [List.foldlM_cons, except_bind_eq_ok] at h
    obtain ⟨next, hstep, h⟩ := h
    rw [ih h, (addFunctionCounts_eq_ok hstep).2.2.1, countIn_insert]
    by_cases hid : function.semanticId = semanticId
    · subst hid
      simp [add_assoc]
    · simp [hid, Ne.symm hid]

theorem bySemantic_le
    (h : document.functions.foldlM addFunctionCounts ⟨.empty, .empty⟩ = .ok totals)
    (semanticId : ℤ) : countIn totals.bySemantic semanticId ≤ i64Max := by
  have hzero : countIn (FunctionTotals.mk .empty .empty).bySemantic semanticId ≤ i64Max := by
    show (0 : ℤ) ≤ i64Max
    decide
  refine except_foldlM_invariant
    (P := fun totals : FunctionTotals => countIn totals.bySemantic semanticId ≤ i64Max)
    (fun start function next hle hstep => ?_) hzero h
  rw [(addFunctionCounts_eq_ok hstep).2.2.1, countIn_insert]
  split
  · exact (addFunctionCounts_eq_ok hstep).2.2.2
  · exact hle

end Functions
end Totals

section Inclusive
variable {document : RankedProfileDocument} {order : IterationOrder ReportMap}

theorem foldWithin_eq_ok {Id : Type} [DecidableEq Id] {site : ReportMap} {scope : String}
    {parents : HashMap Id (Option Id)} {selfCounts inclusive : HashMap Id ℤ} :
    foldWithin order site scope parents selfCounts = .ok inclusive ↔
      foldInclusiveCounts order site parents selfCounts = some inclusive := by
  unfold foldWithin
  rcases foldInclusiveCounts order site parents selfCounts with _ | found
  · simp
  · simp

theorem sum_semanticsBelow_le (hnonneg : ∀ x ∈ document.semantics, 0 ≤ x.directSampleCount)
    (semantic : RankedSemantic) :
    ((document.semanticsBelow semantic).map (·.directSampleCount)).sum ≤
      (document.semantics.map (·.directSampleCount)).sum := by
  apply List.Sublist.sum_le_sum (List.filter_sublist.map _)
  intro count hcount
  obtain ⟨x, hx, rfl⟩ := List.mem_map.1 hcount
  exact hnonneg x hx

theorem sum_functionsBelow_le (htrees : document.FunctionTrees)
    (hnonneg : ∀ x ∈ document.functions, 0 ≤ x.selfSampleCount) (function : RankedFunction) :
    ((document.functionsBelow function).map (·.selfSampleCount)).sum ≤
      ((document.functions.filter (·.semanticId = function.semanticId)).map
        (·.selfSampleCount)).sum := by
  classical
  have hbelow : document.functionsBelow function =
      (document.functions.filter (·.semanticId = function.semanticId)).filter fun x =>
        Below document.functionParent x.identity function.identity := by
    rw [List.filter_filter, functionsBelow]
    apply List.filter_congr
    intro x _
    by_cases hx : Below document.functionParent x.identity function.identity
    · have hsame : x.semanticId = function.semanticId := htrees.inside _ _ hx
      simp [hx, hsame]
    · simp [hx]
  rw [hbelow]
  apply List.Sublist.sum_le_sum (List.filter_sublist.map _)
  intro count hcount
  obtain ⟨x, hx, rfl⟩ := List.mem_map.1 hcount
  exact hnonneg x (List.mem_filter.1 hx).1

theorem sum_roots_semantics (htrees : document.OperationTrees)
    (hinclusive : ∀ semantic ∈ document.semantics, semantic.inclusiveSampleCount =
      ((document.semanticsBelow semantic).map (·.directSampleCount)).sum) :
    ((document.semantics.filter isRoot).map (·.inclusiveSampleCount)).sum =
      (document.semantics.map (·.directSampleCount)).sum := by
  classical
  let direct := countIn (.collect (document.semantics.map fun semantic =>
    (semantic.semanticId, semantic.directSampleCount)))
  have hroots : document.semantics.filter isRoot =
      document.semantics.filter fun x => document.semanticParent x.semanticId = none := by
    apply List.filter_congr
    intro x hx
    rw [semanticParent_eq htrees.ids hx, isRoot]
    cases x.parentSemanticId with
    | none => rfl
    | some parentId => rfl
  have hset : roots document.semanticParent document.semanticNodes =
      document.semanticNodes.filter (document.semanticParent · = none) := by
    ext id
    simp
  calc ((document.semantics.filter isRoot).map (·.inclusiveSampleCount)).sum
      = ((document.semantics.filter fun x => document.semanticParent x.semanticId = none).map
          fun x => subtreeSum document.semanticParent document.semanticNodes direct
            x.semanticId).sum := by
        rw [hroots]
        congr 1
        apply List.map_congr_left
        intro x hx
        rw [hinclusive x (List.mem_filter.1 hx).1]
        exact (subtreeSum_collect htrees.ids document.semanticParent x.semanticId).symm
    _ = ∑ id ∈ roots document.semanticParent document.semanticNodes,
          subtreeSum document.semanticParent document.semanticNodes direct id := by
        rw [hset]
        exact (sum_keys_filter htrees.ids _ (document.semanticParent · = none)).symm
    _ = ∑ id ∈ document.semanticNodes, direct id := htrees.forest.sum_roots
    _ = (document.semantics.map (·.directSampleCount)).sum := by
        rw [semanticNodes, sum_keys htrees.ids]
        congr 1
        apply List.map_congr_left
        exact fun x hx => countIn_collect htrees.ids hx

theorem sum_roots_functions (htrees : document.FunctionTrees)
    (hinclusive : ∀ function ∈ document.functions, function.inclusiveSampleCount =
      ((document.functionsBelow function).map (·.selfSampleCount)).sum)
    (semantic : RankedSemantic) :
    ((document.rootFunctions semantic).map (·.inclusiveSampleCount)).sum =
      ((document.functions.filter (·.semanticId = semantic.semanticId)).map
        (·.selfSampleCount)).sum := by
  classical
  let self := countIn (.collect (document.functions.map fun function =>
    (function.identity, function.selfSampleCount)))
  have hroots : document.rootFunctions semantic = document.functions.filter fun x =>
      document.functionParent x.identity = none ∧ x.identity.1 = semantic.semanticId := by
    apply List.filter_congr
    intro x hx
    rw [functionParent_eq htrees.ids hx]
    cases hparent : x.parentFunctionId with
    | none => simp [RankedFunction.identity]
    | some parentId => simp
  have hset : (roots document.functionParent document.functionNodes).filter
      (·.1 = semantic.semanticId) = document.functionNodes.filter fun id =>
        document.functionParent id = none ∧ id.1 = semantic.semanticId := by
    ext id
    simp [and_assoc]
  calc ((document.rootFunctions semantic).map (·.inclusiveSampleCount)).sum
      = ((document.functions.filter fun x => document.functionParent x.identity = none ∧
          x.identity.1 = semantic.semanticId).map fun x =>
            subtreeSum document.functionParent document.functionNodes self x.identity).sum := by
        rw [hroots]
        congr 1
        apply List.map_congr_left
        intro x hx
        rw [hinclusive x (List.mem_filter.1 hx).1]
        exact (subtreeSum_collect htrees.ids document.functionParent x.identity).symm
    _ = ∑ id ∈ (roots document.functionParent document.functionNodes).filter
          (·.1 = semantic.semanticId),
          subtreeSum document.functionParent document.functionNodes self id := by
        rw [hset]
        exact (sum_keys_filter htrees.ids _ fun id =>
          document.functionParent id = none ∧ id.1 = semantic.semanticId).symm
    _ = ∑ id ∈ document.functionNodes.filter (·.1 = semantic.semanticId), self id := by
        apply htrees.forest.sum_roots_filter
        intro x y hparent
        rw [htrees.inside x y (.single hparent)]
    _ = ((document.functions.filter (·.semanticId = semantic.semanticId)).map
          (·.selfSampleCount)).sum := by
        rw [functionNodes, sum_keys_filter htrees.ids]
        congr 1
        apply List.map_congr_left
        exact fun x hx => countIn_collect htrees.ids (List.mem_filter.1 hx).1

end Inclusive

section Accepted
variable {document : RankedProfileDocument} {order : IterationOrder ReportMap}

theorem validateMetadataCounts_eq_ok {metadata : RankedProfileMetadata}
    (h : validateMetadataCounts metadata = .ok ()) :
    metadata.directSampleCount = metadata.eligibleSampleCount - metadata.ambiguousSampleCount -
      metadata.unattributedSampleCount := by
  obtain ⟨⟨⟩, -, h⟩ := except_bind_eq_ok.1 h
  obtain ⟨a, ha, h⟩ := except_bind_eq_ok.1 h
  obtain ⟨b, hb, h⟩ := except_bind_eq_ok.1 h
  obtain ⟨⟨⟩, hclassified, -⟩ := except_bind_eq_ok.1 h
  rw [rejectIf_eq_ok, not_not] at hclassified
  have ha' := (addWithin_eq_ok.1 ha).1
  have hb' := (addWithin_eq_ok.1 hb).1
  omega

theorem requireSemanticInclusive_eq_ok {inclusive : HashMap ℤ ℤ} {semantic : RankedSemantic}
    {count : ℤ} (hget : inclusive.get? semantic.semanticId = some count) :
    requireSemanticInclusive inclusive semantic = .ok () ↔
      semantic.inclusiveSampleCount = count := by
  rw [requireSemanticInclusive, hget]
  simp

theorem requireFunctionInclusive_eq_ok {inclusive : HashMap (ℤ × ℤ) ℤ}
    {function : RankedFunction} {count : ℤ}
    (hget : inclusive.get? function.identity = some count) :
    requireFunctionInclusive inclusive function = .ok () ↔
      function.inclusiveSampleCount = count := by
  rw [RankedFunction.identity] at hget
  rw [requireFunctionInclusive, hget]
  simp

theorem requireTotals_eq_ok {metadata : RankedProfileMetadata} {totals : SemanticTotals}
    (h : requireTotals metadata totals = .ok ()) :
    totals.directTotal = metadata.directSampleCount := by
  obtain ⟨⟨⟩, hdirect, -⟩ := except_bind_eq_ok.1 h
  rwa [rejectIf_eq_ok, not_not] at hdirect

theorem foldDirect_get? (hids : (document.semantics.map (·.semanticId)).Nodup)
    {totals : SemanticTotals} {inclusive : HashMap ℤ ℤ} {site : ReportMap}
    (htotals : document.semantics.foldlM addSemanticCounts .zero = .ok totals)
    (h : foldInclusiveCounts order site (semanticParents document.semantics) totals.direct =
      some inclusive) {semantic : RankedSemantic} (hmem : semantic ∈ document.semantics) :
    inclusive.get? semantic.semanticId =
      some ((document.semanticsBelow semantic).map (·.directSampleCount)).sum := by
  rw [directCounts_eq htotals] at h
  exact foldInclusiveCounts_records hids h hmem

theorem foldSelf_get? (hids : (document.functions.map RankedFunction.identity).Nodup)
    {totals : FunctionTotals} {inclusive : HashMap (ℤ × ℤ) ℤ} {site : ReportMap}
    (htotals : document.functions.foldlM addFunctionCounts ⟨.empty, .empty⟩ = .ok totals)
    (h : foldInclusiveCounts order site (functionParents document.functions) totals.selfCounts =
      some inclusive) {function : RankedFunction} (hmem : function ∈ document.functions) :
    inclusive.get? function.identity =
      some ((document.functionsBelow function).map (·.selfSampleCount)).sum := by
  rw [selfCounts_eq htotals] at h
  exact foldInclusiveCounts_records hids h hmem

theorem foldDirect_isSome (hstruct : document.WellStructured) {totals : SemanticTotals}
    (htotals : document.semantics.foldlM addSemanticCounts .zero = .ok totals)
    (order : IterationOrder ReportMap) (site : ReportMap) :
    ∃ inclusive, foldInclusiveCounts order site (semanticParents document.semantics)
      totals.direct = some inclusive := by
  have hnonneg : ∀ semantic ∈ document.semantics, 0 ≤ semantic.directSampleCount := by
    refine except_foldlM_forall (fun _ _ _ hstep => ?_) htotals
    exact (addSemanticCounts_eq_ok hstep).1.1
  rw [directCounts_eq htotals]
  refine foldInclusiveCounts_records_isSome order site hstruct.semantic_ids
    hstruct.semantic_forest hnonneg fun semantic _ => ?_
  have htotal := directTotal_le htotals
  rw [directTotal_eq htotals] at htotal
  exact (sum_semanticsBelow_le hnonneg semantic).trans htotal

theorem foldSelf_isSome (hstruct : document.WellStructured) {totals : FunctionTotals}
    (htotals : document.functions.foldlM addFunctionCounts ⟨.empty, .empty⟩ = .ok totals)
    (order : IterationOrder ReportMap) (site : ReportMap) :
    ∃ inclusive, foldInclusiveCounts order site (functionParents document.functions)
      totals.selfCounts = some inclusive := by
  have hnonneg : ∀ function ∈ document.functions, 0 ≤ function.selfSampleCount := by
    refine except_foldlM_forall (fun _ _ _ hstep => ?_) htotals
    exact (addFunctionCounts_eq_ok hstep).1
  rw [selfCounts_eq htotals]
  refine foldInclusiveCounts_records_isSome order site hstruct.function_ids
    hstruct.function_forest hnonneg fun function _ => ?_
  have htotal := bySemantic_le htotals function.semanticId
  rw [bySemantic_eq htotals function.semanticId] at htotal
  refine (sum_functionsBelow_le hstruct.functionTrees hnonneg function).trans ?_
  exact (zero_add _).symm.trans_le htotal

theorem validateSemanticCounts_eq_ok (hids : (document.semantics.map (·.semanticId)).Nodup)
    (h : document.validateSemanticCounts order = .ok ()) :
    (∀ semantic ∈ document.semantics, 0 ≤ semantic.directSampleCount ∧
      0 ≤ semantic.unwindErrorSampleCount ∧ 0 ≤ semantic.missingCallstackSampleCount ∧
      semantic.resolvedFunctionSampleCount + semantic.unresolvedFunctionSampleCount +
        semantic.unwindErrorSampleCount + semantic.missingCallstackSampleCount =
          semantic.directSampleCount) ∧
      (∀ semantic ∈ document.semantics, semantic.inclusiveSampleCount =
        ((document.semanticsBelow semantic).map (·.directSampleCount)).sum) ∧
      (document.semantics.map (·.directSampleCount)).sum = document.metadata.directSampleCount ∧
      document.metadata.directSampleCount ≤ i64Max := by
  obtain ⟨totals, htotals, h⟩ := except_bind_eq_ok.1 h
  obtain ⟨⟨⟩, hmetadata, h⟩ := except_bind_eq_ok.1 h
  obtain ⟨inclusive, hinclusive, h⟩ := except_bind_eq_ok.1 h
  refine ⟨?_, ?_, ?_, ?_⟩
  · refine except_foldlM_forall (fun _ _ _ hstep => ?_) htotals
    exact (addSemanticCounts_eq_ok hstep).1
  · intro semantic hmem
    have hget := foldDirect_get? hids htotals (foldWithin_eq_ok.1 hinclusive) hmem
    exact (requireSemanticInclusive_eq_ok hget).1 (except_forM_eq_ok.1 h semantic hmem)
  · rw [← directTotal_eq htotals]
    exact requireTotals_eq_ok hmetadata
  · rw [← requireTotals_eq_ok hmetadata]
    exact directTotal_le htotals

theorem validateFunctionCounts_eq_ok
    (hids : (document.functions.map RankedFunction.identity).Nodup)
    (h : document.validateFunctionCounts order = .ok ()) :
    (∀ function ∈ document.functions, 0 ≤ function.selfSampleCount) ∧
      (∀ function ∈ document.functions, function.inclusiveSampleCount =
        ((document.functionsBelow function).map (·.selfSampleCount)).sum) ∧
      ∀ semantic ∈ document.semantics,
        semantic.resolvedFunctionSampleCount + semantic.unresolvedFunctionSampleCount =
          ((document.functions.filter (·.semanticId = semantic.semanticId)).map
            (·.selfSampleCount)).sum := by
  obtain ⟨totals, htotals, h⟩ := except_bind_eq_ok.1 h
  obtain ⟨⟨⟩, hself, h⟩ := except_bind_eq_ok.1 h
  obtain ⟨inclusive, hinclusive, h⟩ := except_bind_eq_ok.1 h
  refine ⟨?_, ?_, ?_⟩
  · refine except_foldlM_forall (fun _ _ _ hstep => ?_) htotals
    exact (addFunctionCounts_eq_ok hstep).1
  · intro function hmem
    have hget := foldSelf_get? hids htotals (foldWithin_eq_ok.1 hinclusive) hmem
    exact (requireFunctionInclusive_eq_ok hget).1 (except_forM_eq_ok.1 h function hmem)
  · intro semantic hmem
    obtain ⟨captured, hcaptured, hequal⟩ :=
      except_bind_eq_ok.1 (except_forM_eq_ok.1 hself semantic hmem)
    rw [rejectIf_eq_ok, not_not] at hequal
    rw [(addWithin_eq_ok.1 hcaptured).1, hequal]
    exact (bySemantic_eq htotals semantic.semanticId).trans (zero_add _)

theorem validate_eq_ok (h : document.validate order = .ok ()) :
    document.validateBounds = .ok () ∧ document.WellStructured ∧
      validateMetadataCounts document.metadata = .ok () ∧
      document.validateSemanticCounts order = .ok () ∧
      document.validateFunctionCounts order = .ok () := by
  obtain ⟨⟨⟩, hbounds, h⟩ := except_bind_eq_ok.1 h
  obtain ⟨⟨⟩, -, h⟩ := except_bind_eq_ok.1 h
  obtain ⟨⟨⟩, hstructure, h⟩ := except_bind_eq_ok.1 h
  obtain ⟨⟨⟩, hmetadata, h⟩ := except_bind_eq_ok.1 h
  obtain ⟨⟨⟩, hsemantics, hfunctions⟩ := except_bind_eq_ok.1 h
  exact ⟨hbounds, wellStructured_of_ok hstructure, hmetadata, hsemantics, hfunctions⟩

theorem conservesSamples_of_validate (h : document.validate order = .ok ()) :
    document.ConservesSamples := by
  obtain ⟨-, hstruct, hmetadata, hsemantics, hfunctions⟩ := validate_eq_ok h
  obtain ⟨hcovered, hinclusive, htotal, -⟩ :=
    validateSemanticCounts_eq_ok hstruct.semantic_ids hsemantics
  obtain ⟨-, hfunctionInclusive, hself⟩ :=
    validateFunctionCounts_eq_ok hstruct.function_ids hfunctions
  exact
  { operations := hstruct.operationTrees
    functions := hstruct.functionTrees
    semantic_inclusive := hinclusive
    function_inclusive := hfunctionInclusive
    root_total := (sum_roots_semantics hstruct.operationTrees hinclusive).trans htotal
    eligible := validateMetadataCounts_eq_ok hmetadata
    root_function_total := fun semantic hmem =>
      (sum_roots_functions hstruct.functionTrees hfunctionInclusive semantic).trans
        (hself semantic hmem).symm
    captured := by
      intro semantic hmem
      have hcoverage := (hcovered semantic hmem).2.2.2
      omega }

end Accepted

section Overflows
variable {α β : Type} {document : RankedProfileDocument} {order : IterationOrder ReportMap}

/-- The errors of a fold that found no counts. -/
def IsInclusiveOverflow (error : RankedProfileValidationError) : Prop :=
  error = .sampleCountOverflow "semantic inclusive" ∨
    error = .sampleCountOverflow "function inclusive"

instance (error : RankedProfileValidationError) : Decidable (IsInclusiveOverflow error) :=
  inferInstanceAs (Decidable (_ ∨ _))

def NoInclusiveOverflow (check : Validation α) : Prop :=
  ∀ error, check = .error error → ¬IsInclusiveOverflow error

theorem NoInclusiveOverflow.bind {check : Validation α} {rest : α → Validation β}
    (hcheck : NoInclusiveOverflow check)
    (hrest : ∀ a, check = .ok a → NoInclusiveOverflow (rest a)) :
    NoInclusiveOverflow (check >>= rest) := by
  intro error herror
  rcases hresult : check with failed | a
  · rw [hresult] at herror
    obtain rfl : failed = error := Except.error.inj herror
    exact hcheck failed hresult
  · rw [hresult] at herror
    exact hrest a hresult error herror

theorem NoInclusiveOverflow.ok (a : α) : NoInclusiveOverflow (.ok a : Validation α) :=
  fun error herror => by cases herror

theorem NoInclusiveOverflow.forM {xs : List β} {check : β → Validation Unit}
    (hcheck : ∀ x ∈ xs, NoInclusiveOverflow (check x)) : NoInclusiveOverflow (xs.forM check) := by
  induction xs with
  | nil => exact .ok ()
  | cons x xs ih =>
    obtain ⟨hx, hxs⟩ := List.forall_mem_cons.1 hcheck
    exact hx.bind fun _ _ => ih hxs

theorem NoInclusiveOverflow.foldlM {xs : List β} {check : α → β → Validation α}
    (hcheck : ∀ a x, NoInclusiveOverflow (check a x)) (a : α) :
    NoInclusiveOverflow (xs.foldlM check a) := by
  induction xs generalizing a with
  | nil => exact .ok a
  | cons x xs ih => exact (hcheck a x).bind fun a' _ => ih a'

theorem noInclusiveOverflow_rejectIf {condition : Prop} [Decidable condition]
    {error : RankedProfileValidationError} (herror : ¬IsInclusiveOverflow error) :
    NoInclusiveOverflow (rejectIf condition error) := by
  intro failed hfailed
  unfold rejectIf at hfailed
  split at hfailed
  · exact Except.error.inj hfailed ▸ herror
  · cases hfailed

theorem noInclusiveOverflow_addWithin {scope : String} {a b : ℤ}
    (hscope : ¬IsInclusiveOverflow (.sampleCountOverflow scope)) :
    NoInclusiveOverflow (addWithin scope a b) := by
  intro failed hfailed
  unfold addWithin at hfailed
  split at hfailed
  · cases hfailed
  · exact Except.error.inj hfailed ▸ hscope

theorem not_isInclusiveOverflow {error : RankedProfileValidationError}
    (h : ∀ scope, error ≠ .sampleCountOverflow scope) : ¬IsInclusiveOverflow error := by
  rintro (rfl | rfl)
  · exact h _ rfl
  · exact h _ rfl

theorem NoInclusiveOverflow.error {error : RankedProfileValidationError}
    (h : ∀ scope, error ≠ .sampleCountOverflow scope) :
    NoInclusiveOverflow (.error error : Validation α) :=
  fun _ hfailed => not_isInclusiveOverflow (Except.error.inj hfailed ▸ h)

theorem noInclusiveOverflow_reject {condition : Prop} [Decidable condition]
    {error : RankedProfileValidationError} (h : ∀ scope, error ≠ .sampleCountOverflow scope) :
    NoInclusiveOverflow (rejectIf condition error) :=
  noInclusiveOverflow_rejectIf (not_isInclusiveOverflow h)

theorem noInclusiveOverflow_requireNonnegative {recordKind : String} {recordId : ℤ}
    {field : String} {value : ℤ} :
    NoInclusiveOverflow (requireNonnegative recordKind recordId field value) :=
  noInclusiveOverflow_reject nofun

theorem noInclusiveOverflow_requireDisplayString {recordKind : String} {recordId : ℤ}
    {field : String} {value : Option String} :
    NoInclusiveOverflow (requireDisplayString recordKind recordId field value) := by
  cases value with
  | none => exact .ok ()
  | some value => exact noInclusiveOverflow_reject nofun

theorem noInclusiveOverflow_validateFunctionCoverage {semanticId : Option ℤ}
    {direct resolved unresolved unwindError missingCallstack : ℤ} :
    NoInclusiveOverflow (validateFunctionCoverage semanticId direct resolved unresolved
      unwindError missingCallstack) := by
  have hscope : ¬IsInclusiveOverflow (.sampleCountOverflow "native stack coverage") := by decide
  refine (noInclusiveOverflow_addWithin hscope).bind fun _ _ => ?_
  refine (noInclusiveOverflow_addWithin hscope).bind fun _ _ => ?_
  refine (noInclusiveOverflow_addWithin hscope).bind fun _ _ => ?_
  exact noInclusiveOverflow_reject nofun

theorem noInclusiveOverflow_validateBounds : NoInclusiveOverflow document.validateBounds := by
  refine .bind (noInclusiveOverflow_reject nofun) fun _ _ => ?_
  refine .bind (noInclusiveOverflow_reject nofun) fun _ _ => ?_
  refine .bind (.forM fun semantic _ => ?_) fun _ _ => .forM fun function _ => ?_
  · exact .forM fun field _ => noInclusiveOverflow_requireDisplayString
  · refine .bind noInclusiveOverflow_requireDisplayString fun _ _ => ?_
    refine .bind noInclusiveOverflow_requireDisplayString fun _ _ => ?_
    exact .bind (noInclusiveOverflow_reject nofun) fun _ _ => noInclusiveOverflow_reject nofun

theorem noInclusiveOverflow_validateInterval {semantic : RankedSemantic} :
    NoInclusiveOverflow (validateInterval semantic) := by
  intro error herror
  apply not_isInclusiveOverflow
  intro scope hscope
  subst hscope
  unfold validateInterval at herror
  grind

theorem noInclusiveOverflow_validateMetadataAndIntervals :
    NoInclusiveOverflow document.validateMetadataAndIntervals := by
  refine .bind (noInclusiveOverflow_reject nofun) fun _ _ => ?_
  refine .bind (noInclusiveOverflow_reject nofun) fun _ _ => ?_
  refine .bind (noInclusiveOverflow_reject nofun) fun _ _ => ?_
  refine .bind (noInclusiveOverflow_reject nofun) fun _ _ => ?_
  refine .bind (noInclusiveOverflow_reject nofun) fun _ _ => ?_
  refine .bind (noInclusiveOverflow_reject nofun) fun _ _ => ?_
  refine .bind (noInclusiveOverflow_reject nofun) fun _ _ => ?_
  refine .bind (noInclusiveOverflow_reject nofun) fun _ _ => ?_
  refine .bind (noInclusiveOverflow_reject nofun) fun _ _ => ?_
  exact .forM fun semantic _ => noInclusiveOverflow_validateInterval

theorem noInclusiveOverflow_requireAcyclic {Id : Type} {cycle : Option Id}
    {error : Id → RankedProfileValidationError}
    (h : ∀ id scope, error id ≠ .sampleCountOverflow scope) :
    NoInclusiveOverflow (requireAcyclic cycle error) := by
  cases cycle with
  | none => exact .ok ()
  | some id => exact .error (h id)

theorem noInclusiveOverflow_validateSemanticStructure :
    NoInclusiveOverflow document.validateSemanticStructure := by
  refine .bind (noInclusiveOverflow_reject fun scope h => by cases h) fun _ _ => ?_
  refine .bind (.foldlM (fun found semantic => ?_) _) fun semantics _ => ?_
  · unfold insertSemantic
    split
    · exact .error fun scope h => by cases h
    · exact .ok _
  refine .bind (.forM fun semantic _ => ?_) fun _ _ => ?_
  · unfold validateSemanticParent
    split
    · exact .ok _
    · split
      · exact .error fun scope h => by cases h
      · exact noInclusiveOverflow_reject fun scope h => by cases h
  refine .bind ?_ fun _ _ => .bind (.forM fun operation _ => ?_) fun _ _ => .ok _
  · exact noInclusiveOverflow_requireAcyclic fun id scope h => by cases h
  · exact .bind (noInclusiveOverflow_reject fun scope h => by cases h) fun _ _ => noInclusiveOverflow_reject fun scope h => by cases h

theorem noInclusiveOverflow_validateFunctionStructure {semantics : HashMap ℤ RankedSemantic} :
    NoInclusiveOverflow (document.validateFunctionStructure semantics) := by
  refine .bind (.foldlM (fun found function => ?_) _) fun index _ => ?_
  · unfold insertFunction
    split
    · exact .error fun scope h => by cases h
    · split
      · exact .error fun scope h => by cases h
      · exact .ok _
  refine .bind (.forM fun function _ => ?_) fun _ _ => ?_
  · unfold validateFunctionParent
    split
    · exact .ok _
    · split
      · exact .ok _
      · split
        · exact .error fun scope h => by cases h
        · exact .error fun scope h => by cases h
  · exact noInclusiveOverflow_requireAcyclic fun id scope h => by cases h

theorem noInclusiveOverflow_validateSemanticCounts (hstruct : document.WellStructured) :
    NoInclusiveOverflow (document.validateSemanticCounts order) := by
  refine .bind (.foldlM (fun totals semantic => ?_) _) fun totals htotals => ?_
  · refine .bind noInclusiveOverflow_requireNonnegative fun _ _ => ?_
    refine .bind noInclusiveOverflow_requireNonnegative fun _ _ => ?_
    refine .bind noInclusiveOverflow_requireNonnegative fun _ _ => ?_
    refine .bind noInclusiveOverflow_requireNonnegative fun _ _ => ?_
    refine .bind noInclusiveOverflow_requireNonnegative fun _ _ => ?_
    refine .bind noInclusiveOverflow_requireNonnegative fun _ _ => ?_
    refine .bind noInclusiveOverflow_validateFunctionCoverage fun _ _ => ?_
    refine .bind (noInclusiveOverflow_addWithin (by decide)) fun _ _ => ?_
    refine .bind (noInclusiveOverflow_addWithin (by decide)) fun _ _ => ?_
    refine .bind (noInclusiveOverflow_addWithin (by decide)) fun _ _ => ?_
    refine .bind (noInclusiveOverflow_addWithin (by decide)) fun _ _ => ?_
    exact .bind (noInclusiveOverflow_addWithin (by decide)) fun _ _ => .ok _
  refine .bind ?_ fun _ _ => ?_
  · refine .bind (noInclusiveOverflow_reject nofun) fun _ _ => ?_
    refine .bind (noInclusiveOverflow_reject nofun) fun _ _ => ?_
    refine .bind (noInclusiveOverflow_reject nofun) fun _ _ => ?_
    exact .bind (noInclusiveOverflow_reject nofun) fun _ _ => noInclusiveOverflow_reject nofun
  obtain ⟨inclusive, hinclusive⟩ := foldDirect_isSome hstruct htotals order .semanticCheck
  rw [foldWithin_eq_ok.2 hinclusive]
  refine .bind (.ok inclusive) fun found hfound => ?_
  obtain rfl := Except.ok.inj hfound
  refine .forM fun semantic hmem => ?_
  rw [requireSemanticInclusive, foldDirect_get? hstruct.semantic_ids htotals hinclusive hmem]
  exact noInclusiveOverflow_reject nofun

theorem noInclusiveOverflow_validateFunctionCounts (hstruct : document.WellStructured) :
    NoInclusiveOverflow (document.validateFunctionCounts order) := by
  refine .bind (.foldlM (fun totals function => ?_) _) fun totals htotals => ?_
  · refine .bind noInclusiveOverflow_requireNonnegative fun _ _ => ?_
    refine .bind noInclusiveOverflow_requireNonnegative fun _ _ => ?_
    exact .bind (noInclusiveOverflow_addWithin (by decide)) fun _ _ => .ok _
  refine .bind (.forM fun semantic _ => ?_) fun _ _ => ?_
  · exact .bind (noInclusiveOverflow_addWithin (by decide)) fun _ _ =>
      noInclusiveOverflow_reject nofun
  obtain ⟨inclusive, hinclusive⟩ := foldSelf_isSome hstruct htotals order .functionCheck
  rw [foldWithin_eq_ok.2 hinclusive]
  refine .bind (.ok inclusive) fun found hfound => ?_
  obtain rfl := Except.ok.inj hfound
  refine .forM fun function hmem => ?_
  have hget := foldSelf_get? hstruct.function_ids htotals hinclusive hmem
  rw [RankedFunction.identity] at hget
  rw [requireFunctionInclusive, hget]
  exact noInclusiveOverflow_reject nofun

theorem noInclusiveOverflow_validateMetadataCounts {metadata : RankedProfileMetadata} :
    NoInclusiveOverflow (validateMetadataCounts metadata) := by
  refine .bind (.forM fun field _ => noInclusiveOverflow_requireNonnegative) fun _ _ => ?_
  refine .bind (noInclusiveOverflow_addWithin (by decide)) fun _ _ => ?_
  refine .bind (noInclusiveOverflow_addWithin (by decide)) fun _ _ => ?_
  exact .bind (noInclusiveOverflow_reject nofun) fun _ _ =>
    noInclusiveOverflow_validateFunctionCoverage

theorem noInclusiveOverflow_validate : NoInclusiveOverflow (document.validate order) := by
  refine .bind noInclusiveOverflow_validateBounds fun _ _ => ?_
  refine .bind noInclusiveOverflow_validateMetadataAndIntervals fun _ _ => ?_
  refine .bind ?_ fun _ hstructure => ?_
  · exact .bind noInclusiveOverflow_validateSemanticStructure fun _ _ =>
      noInclusiveOverflow_validateFunctionStructure
  have hstruct := wellStructured_of_ok hstructure
  refine .bind noInclusiveOverflow_validateMetadataCounts fun _ _ => ?_
  exact .bind (noInclusiveOverflow_validateSemanticCounts hstruct) fun _ _ =>
    noInclusiveOverflow_validateFunctionCounts hstruct

end Overflows

/-- Whatever order the maps are iterated in, an accepted document conserves samples, and no
document is refused because a fold overflows. -/
theorem validate_conserves_samples (order : IterationOrder ReportMap)
    (document : RankedProfileDocument) :
    (document.validate order = .ok () → document.ConservesSamples) ∧
      document.validate order ≠ .error (.sampleCountOverflow "semantic inclusive") ∧
      document.validate order ≠ .error (.sampleCountOverflow "function inclusive") :=
  ⟨conservesSamples_of_validate,
    fun herror => noInclusiveOverflow_validate _ herror (.inl rfl),
    fun herror => noInclusiveOverflow_validate _ herror (.inr rfl)⟩

/-- An operation with one phase below it; the phase has a function that calls another. -/
def planningDocument : RankedProfileDocument where
  metadata :=
    { captureComplete := true, semanticComplete := true, finalizationObserved := true
      incompleteOperationRootCount := 0, truncationMarkerCount := 0
      missingIdentityFieldCount := 0, missingTerminalResultCount := 0
      crossingWorkerSliceCount := 0, crossingPlanningActivitySliceCount := 0
      crossingExecutionActivitySliceCount := 0, invalidPlanningActivityHierarchyCount := 0
      invalidExecutionActivityHierarchyCount := 0, perfSampleWithoutCallsiteCount := 0
      perfSamplesSkipped := 0, bufferLossCount := 0, dataSourceLossCount := 0
      flushFailureCount := 0, schemaVersion := 3, sampleFrequencyHz := 100, sampledCpuCount := 4
      exactTimeUnit := "nanoseconds", sampleUnit := "samples", eligibleSampleCount := 7
      directSampleCount := 5, ambiguousSampleCount := 1, unattributedSampleCount := 1
      resolvedFunctionSampleCount := 3, unresolvedFunctionSampleCount := 0
      unwindErrorSampleCount := 1, missingCallstackSampleCount := 1
      traceProfilerDroppedSampleCount := 0 }
  semantics := [operation, phase]
  functions := [caller, callee]
where
  operation : RankedSemantic :=
    { semanticId := 10, parentSemanticId := none, operationId := 10, name := "write"
      semanticKind := "operation", operationKind := none, stageCategory := none, stageName := none
      activity := none, startNs := 0, endNs := some 9, durationNs := some 9
      timeSemantics := "wall_clock", result := some "success", isComplete := true
      queryExecutionId := none, queryScope := none, queryOwner := none, workerLaneId := none
      workerKind := none, nodeId := none, parentNodeId := none, operatorPartition := none
      executionStreamId := none, stageOwnerId := none, directSampleCount := 2
      inclusiveSampleCount := 5, resolvedFunctionSampleCount := 0
      unresolvedFunctionSampleCount := 0, unwindErrorSampleCount := 1
      missingCallstackSampleCount := 1 }
  phase : RankedSemantic :=
    { operation with
      semanticId := 11, parentSemanticId := some 10, name := "plan", semanticKind := "phase"
      startNs := 1, endNs := some 4, durationNs := some 3, directSampleCount := 3
      inclusiveSampleCount := 3, resolvedFunctionSampleCount := 3, unwindErrorSampleCount := 0
      missingCallstackSampleCount := 0 }
  caller : RankedFunction :=
    { semanticId := 11, functionId := 1, parentFunctionId := none, name := "main"
      moduleName := none, sourceFile := some "src/main.rs", lineNumber := some 3
      selfSampleCount := 1, inclusiveSampleCount := 3 }
  callee : RankedFunction :=
    { caller with
      functionId := 2, parentFunctionId := some 1, name := "plan", selfSampleCount := 2
      inclusiveSampleCount := 2 }

theorem planningDocument_conserves_samples :
    planningDocument.validate (.inserted ReportMap) = .ok () ∧
      planningDocument.ConservesSamples := by
  have haccepted : planningDocument.validate (.inserted ReportMap) = .ok () := by decide
  exact ⟨haccepted, (validate_conserves_samples _ planningDocument).1 haccepted⟩

end RankedProfileDocument
end DeltaFunnel
