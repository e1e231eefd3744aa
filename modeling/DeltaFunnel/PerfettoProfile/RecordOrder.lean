import DeltaFunnel.PerfettoProfile.OfficialProfile

/-! A document does not depend on the order of its records, nor on the order in which any map is
iterated. -/

namespace DeltaFunnel
open Collections Graph

namespace RankedProfileDocument
variable {document : RankedProfileDocument}

theorem forM_congr {ε α : Type} {xs : List α} {f g : α → Except ε Unit}
    (h : ∀ x ∈ xs, f x = g x) : xs.forM f = xs.forM g := by
  induction xs with
  | nil => rfl
  | cons x xs ih =>
    obtain ⟨hx, hxs⟩ := List.forall_mem_cons.1 h
    show (f x >>= fun _ => xs.forM f) = (g x >>= fun _ => xs.forM g)
    rw [hx, ih hxs]

theorem bind_congr_ok {ε α β : Type} {x : Except ε α} {f g : α → Except ε β}
    (h : ∀ a, x = .ok a → f a = g a) : (x >>= f) = (x >>= g) := by
  cases x with
  | error e => rfl
  | ok a => exact h a rfl

theorem validateSemanticCounts_order (hstruct : document.WellStructured)
    (order order' : IterationOrder ReportMap) :
    document.validateSemanticCounts order = document.validateSemanticCounts order' := by
  refine bind_congr_ok fun totals htotals => bind_congr_ok fun _ _ => ?_
  obtain ⟨inclusive, h⟩ := foldDirect_isSome hstruct htotals order .semanticCheck
  obtain ⟨inclusive', h'⟩ := foldDirect_isSome hstruct htotals order' .semanticCheck
  rw [foldWithin_eq_ok.2 h, foldWithin_eq_ok.2 h']
  apply forM_congr
  intro semantic hmem
  rw [requireSemanticInclusive, requireSemanticInclusive,
    foldDirect_get? hstruct.semantic_ids htotals h hmem,
    foldDirect_get? hstruct.semantic_ids htotals h' hmem]

theorem validateFunctionCounts_order (hstruct : document.WellStructured)
    (order order' : IterationOrder ReportMap) :
    document.validateFunctionCounts order = document.validateFunctionCounts order' := by
  refine bind_congr_ok fun totals htotals => bind_congr_ok fun _ _ => ?_
  obtain ⟨inclusive, h⟩ := foldSelf_isSome hstruct htotals order .functionCheck
  obtain ⟨inclusive', h'⟩ := foldSelf_isSome hstruct htotals order' .functionCheck
  rw [foldWithin_eq_ok.2 h, foldWithin_eq_ok.2 h']
  apply forM_congr
  intro function hmem
  have hget := foldSelf_get? hstruct.function_ids htotals h hmem
  have hget' := foldSelf_get? hstruct.function_ids htotals h' hmem
  rw [RankedFunction.identity] at hget hget'
  rw [requireFunctionInclusive, requireFunctionInclusive, hget, hget']

theorem validate_order (order order' : IterationOrder ReportMap) :
    document.validate order = document.validate order' := by
  refine bind_congr_ok fun _ _ => bind_congr_ok fun _ _ => bind_congr_ok fun _ hstructure => ?_
  have hstruct := wellStructured_of_ok hstructure
  refine bind_congr_ok fun _ _ => ?_
  rw [validateSemanticCounts_order hstruct order order', validateFunctionCounts_order hstruct order order']

end RankedProfileDocument

section Bounds
variable {order : IterationOrder ReportMap} {document : RankedProfileDocument}

theorem sum_self_le (h : document.validate order = .ok ()) :
    (document.functions.map (·.selfSampleCount)).sum ≤ i64Max := by
  obtain ⟨-, hstruct, -, hsemantics, hfunctions⟩ := RankedProfileDocument.validate_eq_ok h
  obtain ⟨hcovered, -, htotal, hfits⟩ :=
    RankedProfileDocument.validateSemanticCounts_eq_ok hstruct.semantic_ids hsemantics
  obtain ⟨-, -, hself⟩ :=
    RankedProfileDocument.validateFunctionCounts_eq_ok hstruct.function_ids hfunctions
  have howners : document.functions.filter
      (·.semanticId ∈ document.semantics.map (·.semanticId)) = document.functions := by
    rw [List.filter_eq_self]
    intro function hmem
    exact decide_eq_true (List.mem_toFinset.1 (hstruct.function_owner function hmem))
  calc (document.functions.map (·.selfSampleCount)).sum
      = ((document.semantics.map (·.semanticId)).map fun s =>
          ((document.functions.filter (·.semanticId = s)).map (·.selfSampleCount)).sum).sum := by
        rw [sum_groups RankedFunction.semanticId hstruct.semantic_ids, howners]
    _ ≤ (document.semantics.map (·.directSampleCount)).sum := by
        rw [List.map_map]
        apply List.sum_le_sum
        intro semantic hmem
        obtain ⟨-, hunwind, hmissing, hcoverage⟩ := hcovered semantic hmem
        have hcaptured := hself semantic hmem
        rw [Function.comp_apply]
        omega
    _ ≤ i64Max := by
        rw [htotal]
        exact hfits

theorem selfSampleCount_nonneg (h : document.validate order = .ok ()) :
    ∀ function ∈ document.functions, 0 ≤ function.selfSampleCount := by
  obtain ⟨-, hstruct, -, -, hfunctions⟩ := RankedProfileDocument.validate_eq_ok h
  exact (RankedProfileDocument.validateFunctionCounts_eq_ok hstruct.function_ids hfunctions).1

theorem length_functions_le (h : document.validate order = .ok ()) :
    document.functions.length ≤ maxRecordsPerCollection := by
  obtain ⟨⟨⟩, -, h⟩ := except_bind_eq_ok.1 (RankedProfileDocument.validate_eq_ok h).1
  obtain ⟨⟨⟩, h, -⟩ := except_bind_eq_ok.1 h
  exact not_lt.1 (rejectIf_eq_ok.1 h)

end Bounds

section Semantics
variable {order order' : IterationOrder ReportMap} {semantics folded : List RankedSemantic}

open Classical in
noncomputable def withSemanticInclusive (semantics : List RankedSemantic)
    (semantic : RankedSemantic) : RankedSemantic :=
  { semantic with
    inclusiveSampleCount := ((semantics.filter fun x =>
      Below (parentIn (RankedProfileDocument.semanticParents semantics)) x.semanticId
        semantic.semanticId).map (·.directSampleCount)).sum }

theorem foldSemantics_of_fold {inclusive : HashMap ℤ ℤ}
    (hids : (semantics.map (·.semanticId)).Nodup)
    (h : foldInclusiveCounts order .semanticFold
      (RankedProfileDocument.semanticParents semantics) (.collect (semantics.map fun semantic =>
        (semantic.semanticId, semantic.directSampleCount))) = some inclusive) :
    foldSemantics order semantics = .ok (semantics.map (withSemanticInclusive semantics)) := by
  refine except_bind_eq_ok.2 ⟨inclusive, okOr_eq_ok.2 h, except_mapM_ok fun semantic hmem => ?_⟩
  refine except_bind_eq_ok.2 ⟨_, okOr_eq_ok.2 (foldInclusiveCounts_records hids h hmem), rfl⟩

theorem foldSemantics_eq_ok (hids : (semantics.map (·.semanticId)).Nodup)
    (h : foldSemantics order semantics = .ok folded) :
    folded = semantics.map (withSemanticInclusive semantics) := by
  obtain ⟨inclusive, hinclusive, -⟩ := except_bind_eq_ok.1 h
  exact Except.ok.inj (h.symm.trans (foldSemantics_of_fold hids (okOr_eq_ok.1 hinclusive)))

theorem foldSemantics_order {document : RankedProfileDocument}
    (hids : (semantics.map (·.semanticId)).Nodup)
    (h : foldSemantics order semantics = .ok folded) (hdocument : document.semantics = folded)
    (hvalid : document.validate order = .ok ()) (order' : IterationOrder ReportMap) :
    foldSemantics order' semantics = .ok folded := by
  obtain ⟨-, hstruct, -, hcounts, -⟩ := RankedProfileDocument.validate_eq_ok hvalid
  obtain ⟨totals, htotals, -⟩ := except_bind_eq_ok.1 hcounts
  obtain ⟨inclusive, hinclusive⟩ :=
    RankedProfileDocument.foldDirect_isSome hstruct htotals order' .semanticFold
  have hfolded := foldSemantics_eq_ok hids h
  rw [RankedProfileDocument.directCounts_eq htotals, hdocument, hfolded,
    RankedProfileDocument.semanticParents, List.map_map, List.map_map] at hinclusive
  rw [hfolded]
  exact foldSemantics_of_fold hids hinclusive

end Semantics

section Functions
variable {order : IterationOrder ReportMap} {functions counted : List RankedFunction}

theorem foldFunctions_order {document : RankedProfileDocument}
    (hids : (functions.map RankedFunction.identity).Nodup)
    (h : foldFunctions order functions = .ok counted)
    (hdocument : document.functions = counted.map normalizeFunctionSource)
    (hvalid : document.validate order = .ok ()) (order' : IterationOrder ReportMap) :
    foldFunctions order' functions = .ok counted := by
  obtain ⟨-, hstruct, -, -, hcounts⟩ := RankedProfileDocument.validate_eq_ok hvalid
  obtain ⟨totals, htotals, -⟩ := except_bind_eq_ok.1 hcounts
  obtain ⟨inclusive, hinclusive⟩ :=
    RankedProfileDocument.foldSelf_isSome hstruct htotals order' .functionFold
  have hcounted := foldFunctions_eq_ok hids h
  rw [RankedProfileDocument.selfCounts_eq htotals, hdocument, hcounted,
    RankedProfileDocument.functionParents, List.map_map, List.map_map, List.map_map,
    List.map_map] at hinclusive
  rw [hcounted]
  exact foldFunctions_of_fold hids hinclusive

end Functions

section Frames
variable {frames frames' : List CompactFrame} {byId : HashMap ℤ CompactFrame}

theorem foldlM_insertFrame_isOk {start : HashMap ℤ CompactFrame}
    (hnonneg : ∀ frame ∈ frames, 0 ≤ frame.functionId ∧ 0 ≤ frame.officialSelfSampleCount ∧
      0 ≤ frame.officialInclusiveSampleCount)
    (hids : (frameIds frames).Nodup) (hnew : ∀ frame ∈ frames, frame.functionId ∉ start.keys) :
    ∃ byId, frames.foldlM insertFrame start = .ok byId := by
  induction frames generalizing start with
  | nil => exact ⟨start, rfl⟩
  | cons frame frames ih =>
    obtain ⟨hhead, htail⟩ := List.forall_mem_cons.1 hnonneg
    obtain ⟨hnotin, hids⟩ := List.nodup_cons.1 hids
    obtain ⟨hheadNew, htailNew⟩ := List.forall_mem_cons.1 hnew
    have hstep : insertFrame start frame = .ok (start.insert frame.functionId frame) :=
      insertFrame_eq_ok.2 ⟨⟨hhead.1, hhead.2.1, hhead.2.2, hheadNew⟩, rfl⟩
    have hrest : ∀ f ∈ frames, f.functionId ∉ (start.insert frame.functionId frame).keys := by
      intro f hf hmem
      rcases HashMap.mem_keys_insert.1 hmem with heq | hmem
      · exact hnotin (List.mem_map.2 ⟨f, hf, heq⟩)
      · exact htailNew f hf hmem
    obtain ⟨byId, hbyId⟩ := ih htail hids hrest
    refine ⟨byId, ?_⟩
    rw [List.foldlM_cons, hstep]
    exact hbyId

theorem OfficialFrames.perm (hframes : OfficialFrames frames) (hperm : frames.Perm frames') :
    OfficialFrames frames' where
  ids := (hperm.map _).nodup_iff.1 hframes.ids
  forest := by
    have hnodes : (frameIds frames).toFinset = (frameIds frames').toFinset :=
      List.toFinset_eq_of_perm _ _ (hperm.map _)
    rw [← frameParent_perm hperm hframes.ids, ← hnodes]
    exact hframes.forest
  nonneg := fun frame hframe => hframes.nonneg frame (hperm.mem_iff.2 hframe)
  inclusive := by
    intro frame hframe
    rw [hframes.inclusive frame (hperm.mem_iff.2 hframe)]
    exact ((framesBelow_perm hperm hframes.ids frame.functionId).map _).sum_eq

theorem validateFrames_isOk (hframes : OfficialFrames frames)
    (hfits : ∀ frame ∈ frames, frame.officialInclusiveSampleCount ≤ i64Max)
    (order : IterationOrder ReportMap) : ∃ byId, validateFrames order frames = .ok byId := by
  have hnew : ∀ frame ∈ frames,
      frame.functionId ∉ (HashMap.empty : HashMap ℤ CompactFrame).keys :=
    fun frame _ => List.not_mem_nil
  obtain ⟨byId, hbyId⟩ := foldlM_insertFrame_isOk hframes.nonneg hframes.ids hnew
  have hentries := (foldlM_insertFrame hbyId).1
  have hperm : ((byId.iter order .frames).map Prod.snd).Perm frames := values_perm hentries
  have hvalues := hframes.perm hperm.symm
  obtain ⟨inclusive, hinclusive⟩ := foldInclusiveCounts_records_isSome order .frameFold
    hvalues.ids hvalues.forest (fun frame hframe => (hvalues.nonneg frame hframe).2.1)
    (fun frame hframe => by
      have hle := hfits frame (hperm.mem_iff.1 hframe)
      rw [hvalues.inclusive frame hframe] at hle
      exact hle)
  refine ⟨byId, except_bind_eq_ok.2 ⟨byId, hbyId, except_bind_eq_ok.2 ⟨inclusive,
    okOr_eq_ok.2 hinclusive, except_bind_eq_ok.2 ⟨(), except_forM_eq_ok.2 ?_, rfl⟩⟩⟩⟩
  intro frame hframe
  rw [failIf_eq_ok, not_not, foldInclusiveCounts_records hvalues.ids hinclusive hframe,
    hvalues.inclusive frame hframe]
  rfl

theorem byId_get?_perm (hperm : frames.Perm frames') {byId' : HashMap ℤ CompactFrame}
    (hentries : byId.entries = frames.map fun frame => (frame.functionId, frame))
    (hentries' : byId'.entries = frames'.map fun frame => (frame.functionId, frame)) (id : ℤ) :
    byId.get? id = byId'.get? id := by
  apply Option.ext
  intro frame
  rw [HashMap.get?_eq_some, HashMap.get?_eq_some, hentries, hentries', (hperm.map _).mem_iff]

end Frames

section Expansion
variable {frames : HashMap ℤ CompactFrame} {record : CompactFunctionSelf}
  {records records' done : List CompactFunctionSelf} {functions : HashMap (ℤ × ℤ) RankedFunction}
  {target : Finset (ℤ × ℤ)}

theorem len_le_card (hkeys : ∀ key ∈ functions.keys, key ∈ target) :
    functions.len ≤ target.card := by
  rw [HashMap.len_eq, ← List.toFinset_card_of_nodup functions.nodup_keys]
  exact Finset.card_le_card fun key hkey => hkeys key (List.mem_toFinset.1 hkey)

theorem expandPath_isOk (hforest : IsForest (parentFrame frames) frames.keys.toFinset)
    (hroom : target.card ≤ maxRecordsPerCollection) {fuel : ℕ} {isSelf : Bool} {path : List ℤ}
    {id : ℤ} (hid : id ∈ frames.keys) (hnodup : path.Nodup)
    (hpath : ∀ x ∈ path, x ∈ frames.keys ∧
      ∃ y, parentFrame frames x = some y ∧ Below (parentFrame frames) y id)
    (hfuel : path.length + fuel = frames.len + 1)
    (hkeys : ∀ key ∈ functions.keys, key ∈ target)
    (htarget : ∀ f, Below (parentFrame frames) id f → (record.semanticId, f) ∈ target)
    (hfits : isSelf = true → ∀ function,
      functions.get? (record.semanticId, id) = some function →
        inI64 (function.selfSampleCount + record.selfSampleCount) = true) :
    ∃ functions', expandPath frames record fuel isSelf path id functions = .ok functions' := by
  induction fuel generalizing isSelf path id functions with
  | zero =>
    -- The path would hold one frame more than there are.
    have hsub : path.toFinset ⊆ frames.keys.toFinset := fun x hx =>
      List.mem_toFinset.2 (hpath x (List.mem_toFinset.1 hx)).1
    have hle := Finset.card_le_card hsub
    rw [List.toFinset_card_of_nodup hnodup, List.toFinset_card_of_nodup frames.nodup_keys,
      ← HashMap.len_eq] at hle
    omega
  | succ fuel ih =>
    have hnotin : id ∉ path := by
      intro hmem
      obtain ⟨hx, y, hy, hback⟩ := hpath id hmem
      exact (hforest.grounded id (List.mem_toFinset.2 hx)).not_below_parent hy hback
    obtain ⟨frame, hframe⟩ := HashMap.mem_keys.1 hid
    unfold expandPath
    rw [if_neg hnotin, hframe]
    rcases hfunction : functions.get? (record.semanticId, id) with _ | function
    · obtain ⟨function, hdef⟩ : ∃ function, function = expandedFunction record.semanticId id frame
          (if isSelf = true then record.selfSampleCount else 0) := ⟨_, rfl⟩
      have hkeys' : ∀ key ∈ (functions.insert (record.semanticId, id) function).keys,
          key ∈ target := by
        intro key hkey
        rcases HashMap.mem_keys_insert.1 hkey with rfl | hkey
        · exact htarget id (.refl id)
        · exact hkeys key hkey
      have hlen : ¬(functions.insert (record.semanticId, id) function).len >
          maxRecordsPerCollection := not_lt.2 ((len_le_card hkeys').trans hroom)
      simp only [← hdef]
      rw [if_neg hlen]
      rcases hparentId : frame.parentFunctionId with _ | parentId
      · exact ⟨_, rfl⟩
      · have hparent : parentFrame frames id = some parentId :=
          parentFrame_eq_some.2 ⟨frame, hframe, hparentId⟩
        refine ih ?_ (List.nodup_cons.2 ⟨hnotin, hnodup⟩) ?_ ?_ hkeys' ?_ ?_
        · exact List.mem_toFinset.1
            (hforest.closed id (List.mem_toFinset.2 hid) parentId hparent)
        · intro x hx
          rcases List.mem_cons.1 hx with rfl | hx
          · exact ⟨hid, parentId, hparent, .refl parentId⟩
          · obtain ⟨hx, y, hy, hbelow⟩ := hpath x hx
            exact ⟨hx, y, hy, hbelow.trans (.single hparent)⟩
        · rw [List.length_cons]
          omega
        · exact fun f hf => htarget f (.up hparent hf)
        · exact fun hself => by cases hself
    · dsimp only
      cases isSelf with
      | true =>
        refine ⟨_, except_bind_eq_ok.2 ⟨_, okOr_eq_ok.2 (checkedAdd_eq_some.2 ⟨rfl, ?_⟩), rfl⟩⟩
        exact hfits rfl function hfunction
      | false => exact ⟨functions, rfl⟩

theorem expansion_self_zero {key : ℤ × ℤ} {function : RankedFunction}
    (h : expansion frames done key = some function) (hnew : key ∉ done.map (·.identity)) :
    function.selfSampleCount = 0 := by
  unfold expansion at h
  split at h
  · obtain ⟨frame, -, rfl⟩ := Option.map_eq_some_iff.1 h
    have hempty : done.filter (·.identity = key) = [] := by
      rw [List.filter_eq_nil_iff]
      intro r hr heq
      exact hnew (List.mem_map.2 ⟨r, hr, of_decide_eq_true heq⟩)
    show selfOf done key = 0
    rw [selfOf, hempty]
    rfl
  · cases h

theorem expandRecords_isOk (hforest : IsForest (parentFrame frames) frames.keys.toFinset)
    (hroom : target.card ≤ maxRecordsPerCollection) {state : ExpandState}
    (hinv : ExpandInvariant frames done state)
    (hnodup : ((done ++ records).map (·.identity)).Nodup)
    (hrecords : ∀ record ∈ records, (0 ≤ record.selfSampleCount ∧
      record.selfSampleCount ≤ i64Max) ∧ record.functionId ∈ frames.keys)
    (htarget : ∀ key, Reached (parentFrame frames) (done ++ records) key → key ∈ target) :
    ∃ state', records.foldlM (expandRecord frames) state = .ok state' := by
  induction records generalizing done state with
  | nil => exact ⟨state, rfl⟩
  | cons record records ih =>
    obtain ⟨⟨⟨hnonneg, hle⟩, hframed⟩, hrest⟩ := List.forall_mem_cons.1 hrecords
    have hnew : record.identity ∉ done.map (·.identity) := by
      rw [List.map_append, List.nodup_append] at hnodup
      exact fun hmem => hnodup.2.2 _ hmem record.identity (by simp) rfl
    obtain ⟨functions, hfunctions⟩ : ∃ functions, expandPath frames record (frames.len + 1) true []
        record.functionId state.functions = .ok functions := by
      refine expandPath_isOk hforest hroom hframed .nil
        (fun x hx => absurd hx List.not_mem_nil) (Nat.zero_add _) ?_ ?_ ?_
      · intro key hkey
        obtain ⟨function, hget⟩ := HashMap.mem_keys.1 hkey
        rw [hinv.functions, expansion] at hget
        split at hget
        · next hreached =>
          obtain ⟨r, hr, hsemantic, hbelow⟩ := hreached
          exact htarget key ⟨r, List.mem_append_left _ hr, hsemantic, hbelow⟩
        · cases hget
      · exact fun f hf => htarget _ ⟨record, by simp, rfl, hf⟩
      · intro _ function hget
        rw [hinv.functions] at hget
        rw [expansion_self_zero hget hnew, zero_add]
        exact inI64_of_nonneg hnonneg hle
    have hstep : expandRecord frames state record =
        .ok ⟨functions, (record.semanticId, record.functionId) :: state.selfIdentities⟩ := by
      refine except_bind_eq_ok.2 ⟨(), failIf_eq_ok.2 ?_, except_bind_eq_ok.2
        ⟨functions, hfunctions, rfl⟩⟩
      rw [not_or, not_lt]
      exact ⟨hnonneg, fun hmem => hnew ((hinv.identities record.identity).1 hmem)⟩
    rw [List.foldlM_cons, hstep]
    refine ih (hinv.step hforest hstep) ?_ hrest ?_
    · rwa [List.append_assoc]
    · rwa [List.append_assoc]

theorem reached_perm (hperm : records.Perm records') {parent : ℤ → Option ℤ} {key : ℤ × ℤ} :
    Reached parent records key ↔ Reached parent records' key := by
  unfold Reached
  simp only [hperm.mem_iff]

theorem expansion_perm {frames' : HashMap ℤ CompactFrame} (hperm : records.Perm records')
    (hframes : ∀ id, frames.get? id = frames'.get? id) :
    expansion frames records = expansion frames' records' := by
  have hparent : parentFrame frames = parentFrame frames' := by
    funext id
    rw [parentFrame, parentFrame, hframes]
  funext key
  have hself : selfOf records key = selfOf records' key :=
    ((hperm.filter _).map _).sum_eq
  rw [expansion, expansion, hparent, hself, hframes]
  by_cases hreached : Reached (parentFrame frames') records key
  · rw [if_pos hreached, if_pos ((reached_perm hperm).1 hreached)]
  · rw [if_neg hreached, if_neg (mt (reached_perm hperm).2 hreached)]

end Expansion

section Build
variable {order order' : IterationOrder ReportMap} {metadata : CompactMetadata}
  {semantics semantics' : List RankedSemantic} {frames frames' : List CompactFrame}
  {records records' : List CompactFunctionSelf} {document : RankedProfileDocument}

theorem reconcileOfficialSelfCounts_perm {byId byId' : HashMap ℤ CompactFrame}
    {functions : List RankedFunction}
    (hentries : byId.entries.Perm byId'.entries)
    (h : reconcileOfficialSelfCounts order byId functions = .ok ()) :
    reconcileOfficialSelfCounts order' byId' functions = .ok () := by
  obtain ⟨actual, hactual, h⟩ := except_bind_eq_ok.1 h
  refine except_bind_eq_ok.2 ⟨actual, hactual, ?_⟩
  rw [failIf_eq_ok] at h ⊢
  have hperm : (byId'.iter order' .frames).Perm (byId.iter order .frames) :=
    (byId'.iter_perm order' .frames).trans
      (hentries.symm.trans (byId.iter_perm order .frames).symm)
  rwa [hperm.any_eq]

theorem requireUsableMetadata_perm (hperm : semantics.Perm semantics') :
    requireUsableMetadata metadata semantics = requireUsableMetadata metadata semantics' := by
  have hempty : semantics.isEmpty = semantics'.isEmpty := by
    rw [Bool.eq_iff_iff, List.isEmpty_iff, List.isEmpty_iff]
    exact ⟨fun h => List.nil_perm.1 (h ▸ hperm), fun h => List.perm_nil.1 (h ▸ hperm)⟩
  unfold requireUsableMetadata
  rw [hempty]

theorem sortSemantics_perm (hperm : semantics.Perm semantics')
    (hids : (semantics.map (·.semanticId)).Nodup) : sortSemantics semantics = sortSemantics semantics' := by
  apply sortByKey_eq_of_perm hperm
  refine List.Nodup.of_map (fun key => (ofLex key).2) ?_
  rw [List.map_map]
  exact hids

theorem sortFunctions_perm {functions functions' : List RankedFunction}
    (hperm : functions.Perm functions') (hids : (functions.map RankedFunction.identity).Nodup) :
    sortFunctions functions = sortFunctions functions' := by
  apply sortByKey_eq_of_perm hperm
  refine List.Nodup.of_map ofLex ?_
  rw [List.map_map]
  exact hids

theorem BuiltFrom.inclusive_le (hbuilt : BuiltFrom frames records document)
    (hvalid : document.validate order = .ok ()) {frame : CompactFrame} (hframe : frame ∈ frames) :
    frame.officialInclusiveSampleCount ≤ i64Max := by
  classical
  have hnonneg := selfSampleCount_nonneg hvalid
  rw [hbuilt.official.inclusive frame hframe]
  have hframes : (frameIds (framesBelow frames frame.functionId)).Nodup :=
    hbuilt.official.ids.sublist (List.filter_sublist.map _)
  have hself : (framesBelow frames frame.functionId).map (·.officialSelfSampleCount) =
      (frameIds (framesBelow frames frame.functionId)).map fun g =>
        ((document.functions.filter (·.functionId = g)).map (·.selfSampleCount)).sum := by
    rw [frameIds, List.map_map]
    apply List.map_congr_left
    exact fun g hg => (hbuilt.official_self g (List.mem_filter.1 hg).1).symm
  rw [hself, sum_groups RankedFunction.functionId hframes]
  refine (List.Sublist.sum_le_sum (List.filter_sublist.map _) ?_).trans (sum_self_le hvalid)
  intro count hcount
  obtain ⟨x, hx, rfl⟩ := List.mem_map.1 hcount
  exact hnonneg x hx

theorem BuiltFrom.record_le (hbuilt : BuiltFrom frames records document)
    (hvalid : document.validate order = .ok ()) {record : CompactFunctionSelf}
    (hrecord : record ∈ records) : record.selfSampleCount ≤ i64Max := by
  have hnonneg := selfSampleCount_nonneg hvalid
  obtain ⟨x, hx, hid⟩ := List.mem_map.1
    ((hbuilt.reached record.identity).2 ⟨record, hrecord, rfl, .refl _⟩)
  rw [← selfOf_eq hbuilt.records_nodup hrecord, ← hid, ← hbuilt.self x hx]
  refine le_trans ?_ (sum_self_le hvalid)
  apply List.single_le_sum
  · intro count hcount
    obtain ⟨y, hy, rfl⟩ := List.mem_map.1 hcount
    exact hnonneg y hy
  · exact List.mem_map_of_mem hx

theorem buildDocument_perm (hsemantics : semantics.Perm semantics') (hframes : frames.Perm frames')
    (hrecords : records.Perm records')
    (h : buildDocument order metadata semantics frames records = .ok document) :
    buildDocument order' metadata semantics' frames' records' = .ok document := by
  have hbuilt := builtFrom_of_buildDocument h
  obtain ⟨husable, hsemantic, folded, byId, functions, counted, hfolded, hbyId, hfunctions,
    hstructure, hcounted, hofficial, hdocument, hvalid⟩ := buildDocument_eq_ok.1 h
  have hsemanticStruct := RankedProfileDocument.wellStructured_of_ok hsemantic
  have hsortedIds : ((sortSemantics semantics).map (·.semanticId)).Nodup :=
    hsemanticStruct.semantic_ids
  have hids : (semantics.map (·.semanticId)).Nodup :=
    ((sortByKey_perm _ semantics).map _).nodup_iff.1 hsortedIds
  have hsorted := sortSemantics_perm hsemantics hids
  obtain ⟨hentries, -⟩ := validateFrames_eq_ok hbyId
  -- The frames are accepted again, and give the same map.
  obtain ⟨byId', hbyId'⟩ := validateFrames_isOk (hbuilt.official.perm hframes)
    (fun frame hframe => hbuilt.inclusive_le hvalid (hframes.mem_iff.2 hframe)) order'
  obtain ⟨hentries', hofficial'⟩ := validateFrames_eq_ok hbyId'
  have hget := byId_get?_perm hframes hentries hentries'
  have hforest := isForest_byId hbuilt.official hentries
  have hforest' := isForest_byId hofficial' hentries'
  -- The expansion succeeds, and gives the same functions.
  obtain ⟨hfunctionIds, hmem, hrecordsNodup, hrecord⟩ := expandFunctions_eq_ok hforest hfunctions
  obtain ⟨state', hstate'⟩ : ∃ state', records'.foldlM (expandRecord byId') ⟨.empty, []⟩ =
      .ok state' := by
    have hroom : document.functionNodes.card ≤ maxRecordsPerCollection :=
      (List.toFinset_card_le _).trans
        ((List.length_map RankedFunction.identity).trans_le (length_functions_le hvalid))
    refine expandRecords_isOk hforest' hroom expandInvariant_start ?_ ?_ ?_
    · exact (hrecords.map _).nodup_iff.1 hrecordsNodup
    · intro record hr
      have hr' := hrecords.mem_iff.2 hr
      refine ⟨⟨(hrecord record hr').1, hbuilt.record_le hvalid hr'⟩, ?_⟩
      rw [keys_byId hentries', frameIds, (hframes.map _).symm.mem_iff]
      exact hbuilt.records_framed record hr'
    · intro key hreached
      rw [List.nil_append, parentFrame_eq_frameParent hentries', ← reached_perm hrecords,
        ← frameParent_perm hframes hbuilt.official.ids] at hreached
      exact List.mem_toFinset.2 ((hbuilt.reached key).2 hreached)
  have hfunctions' : expandFunctions order' byId' records' =
      .ok ((state'.functions.iter order' .functions).map Prod.snd) :=
    except_bind_eq_ok.2 ⟨state', hstate', rfl⟩
  obtain ⟨hfunctionIds', hmem', -⟩ := expandFunctions_eq_ok hforest' hfunctions'
  have hfunctionsPerm : functions.Perm ((state'.functions.iter order' .functions).map Prod.snd) := by
    refine (List.perm_ext_iff_of_nodup (List.Nodup.of_map _ hfunctionIds)
      (List.Nodup.of_map _ hfunctionIds')).2 fun function => ?_
    rw [hmem, hmem', expansion_perm hrecords hget]
  have hsortedFunctions := sortFunctions_perm hfunctionsPerm hfunctionIds
  refine buildDocument_eq_ok.2 ⟨?_, ?_, folded, byId', _, counted, ?_, hbyId', hfunctions', ?_, ?_,
    ?_, hdocument, ?_⟩
  · rwa [← requireUsableMetadata_perm hsemantics]
  · rwa [semanticDocument, ← hsorted]
  · rw [← hsorted]
    exact foldSemantics_order hsortedIds hfolded (by rw [hdocument]; rfl) hvalid order'
  · rwa [functionDocument, ← hsortedFunctions]
  · rw [← hsortedFunctions]
    exact foldFunctions_order
      (RankedProfileDocument.wellStructured_of_ok hstructure).function_ids hcounted
      (by rw [hdocument]; rfl) hvalid order'
  · exact reconcileOfficialSelfCounts_perm (HashMap.perm_of_get?_eq hget) hofficial
  · rwa [← RankedProfileDocument.validate_order order order']

end Build

end DeltaFunnel
