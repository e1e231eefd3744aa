import DeltaFunnel.PerfettoProfile.CallTrees

/-! The functions of a built document: the call trees of every semantic, which add up to the
official profile. -/

namespace DeltaFunnel
open Collections Graph

section Steps
variable {order : IterationOrder ReportMap} {metadata : CompactMetadata}
  {semantics : List RankedSemantic} {frames : List CompactFrame}
  {functionSelf : List CompactFunctionSelf} {document : RankedProfileDocument}

/-- The document whose semantics are checked before anything is folded. -/
def semanticDocument (metadata : CompactMetadata) (semantics : List RankedSemantic) :
    RankedProfileDocument := ⟨metadata.toRankedProfileMetadata, sortSemantics semantics, []⟩

/-- The document with its functions, before these are folded. -/
def functionDocument (metadata : CompactMetadata) (semantics : List RankedSemantic)
    (functions : List RankedFunction) : RankedProfileDocument :=
  ⟨metadata.toRankedProfileMetadata, semantics, sortFunctions functions⟩

theorem buildDocument_eq_ok :
    buildDocument order metadata semantics frames functionSelf = .ok document ↔
      requireUsableMetadata metadata semantics = .ok () ∧
      (semanticDocument metadata semantics).validateStructure = .ok () ∧
      ∃ folded byId functions counted,
        foldSemantics order (sortSemantics semantics) = .ok folded ∧
        validateFrames order frames = .ok byId ∧
        expandFunctions order byId functionSelf = .ok functions ∧
        (functionDocument metadata folded functions).validateStructure = .ok () ∧
        foldFunctions order (sortFunctions functions) = .ok counted ∧
        reconcileOfficialSelfCounts order byId counted = .ok () ∧
        document = RankedProfileDocument.normalizeSourceMetadata
          ⟨metadata.toRankedProfileMetadata, folded, counted⟩ ∧
        document.validate order = .ok () := by
  unfold buildDocument
  simp only [except_bind_eq_ok]
  constructor
  · rintro ⟨⟨⟩, husable, ⟨⟩, hsemantic, folded, hfolded, byId, hframes, functions, hfunctions, ⟨⟩,
      hstructure, counted, hcounted, ⟨⟩, hofficial, ⟨⟩, hvalid, hdocument⟩
    obtain rfl := Except.ok.inj hdocument
    exact ⟨husable, validOr_eq_ok.1 hsemantic, folded, byId, functions, counted, hfolded, hframes,
      hfunctions, validOr_eq_ok.1 hstructure, hcounted, hofficial, rfl, validOr_eq_ok.1 hvalid⟩
  · rintro ⟨husable, hsemantic, folded, byId, functions, counted, hfolded, hframes, hfunctions,
      hstructure, hcounted, hofficial, rfl, hvalid⟩
    exact ⟨(), husable, (), validOr_eq_ok.2 hsemantic, folded, hfolded, byId, hframes, functions,
      hfunctions, (), validOr_eq_ok.2 hstructure, counted, hcounted, (), hofficial, (),
      validOr_eq_ok.2 hvalid, rfl⟩

end Steps

section Folded

theorem except_mapM_ok {ε α β : Type} {xs : List α} {f : α → Except ε β} {g : α → β}
    (h : ∀ x ∈ xs, f x = .ok (g x)) : xs.mapM f = .ok (xs.map g) := by
  induction xs with
  | nil => rfl
  | cons x xs ih =>
    obtain ⟨hx, hxs⟩ := List.forall_mem_cons.1 h
    rw [List.mapM_cons, hx, ih hxs]
    rfl

variable {order : IterationOrder ReportMap} {functions counted : List RankedFunction}

open Classical in
/-- A function with the counts of the functions below it. -/
noncomputable def withInclusive (functions : List RankedFunction) (function : RankedFunction) :
    RankedFunction :=
  { function with
    inclusiveSampleCount := ((functions.filter fun x =>
      Below (parentIn (RankedProfileDocument.functionParents functions)) x.identity
        function.identity).map (·.selfSampleCount)).sum }

theorem foldFunctions_of_fold {inclusive : HashMap (ℤ × ℤ) ℤ}
    (hids : (functions.map RankedFunction.identity).Nodup)
    (h : foldInclusiveCounts order .functionFold
      (RankedProfileDocument.functionParents functions) (.collect (functions.map fun function =>
        (function.identity, function.selfSampleCount))) = some inclusive) :
    foldFunctions order functions = .ok (functions.map (withInclusive functions)) := by
  refine except_bind_eq_ok.2 ⟨inclusive, okOr_eq_ok.2 h, except_mapM_ok fun function hmem => ?_⟩
  refine except_bind_eq_ok.2 ⟨_, okOr_eq_ok.2 (foldInclusiveCounts_records hids h hmem), rfl⟩

theorem foldFunctions_eq_ok (hids : (functions.map RankedFunction.identity).Nodup)
    (h : foldFunctions order functions = .ok counted) :
    counted = functions.map (withInclusive functions) := by
  obtain ⟨inclusive, hinclusive, -⟩ := except_bind_eq_ok.1 h
  exact Except.ok.inj (h.symm.trans (foldFunctions_of_fold hids (okOr_eq_ok.1 hinclusive)))

end Folded

section Built
variable {order : IterationOrder ReportMap} {frames : List CompactFrame}
  {byId : HashMap ℤ CompactFrame} {records : List CompactFunctionSelf}
  {functions : List RankedFunction}

theorem keys_byId (hentries : byId.entries = frames.map fun frame => (frame.functionId, frame)) :
    byId.keys = frameIds frames := by
  rw [HashMap.keys, hentries, HashMap.map_fst_map]
  rfl

theorem parentFrame_eq_frameParent
    (hentries : byId.entries = frames.map fun frame => (frame.functionId, frame)) :
    parentFrame byId = frameParent frames := by
  have hids := frameIds_nodup hentries
  funext id
  by_cases hid : id ∈ frameIds frames
  · obtain ⟨frame, hframe, rfl⟩ := List.mem_map.1 hid
    have hget : byId.get? frame.functionId = some frame := by
      rw [HashMap.get?_eq_some, hentries]
      exact List.mem_map_of_mem hframe
    rw [frameParent_eq hids hframe, parentFrame, hget]
    rfl
  · have hparents : (frameParents frames).keys = frameIds frames := HashMap.keys_collect_map hids
    rw [parentFrame, HashMap.get?_eq_none.2 (keys_byId hentries ▸ hid), frameParent, parentIn,
      HashMap.get?_eq_none.2 (hparents ▸ hid)]
    rfl

theorem isForest_byId (hframes : OfficialFrames frames)
    (hentries : byId.entries = frames.map fun frame => (frame.functionId, frame)) :
    IsForest (parentFrame byId) byId.keys.toFinset := by
  rw [parentFrame_eq_frameParent hentries, keys_byId hentries]
  exact hframes.forest

theorem expansion_identity {key : ℤ × ℤ} {function : RankedFunction}
    (h : expansion byId records key = some function) : function.identity = key := by
  unfold expansion at h
  split at h
  · obtain ⟨frame, -, rfl⟩ := Option.map_eq_some_iff.1 h
    rfl
  · cases h

theorem expandFunctions_eq_ok (hforest : IsForest (parentFrame byId) byId.keys.toFinset)
    (h : expandFunctions order byId records = .ok functions) :
    (functions.map RankedFunction.identity).Nodup ∧
      (∀ function, function ∈ functions ↔
        expansion byId records function.identity = some function) ∧
      (records.map (·.identity)).Nodup ∧
      ∀ record ∈ records, 0 ≤ record.selfSampleCount ∧ record.functionId ∈ byId.keys := by
  obtain ⟨state, hstate, h⟩ := except_bind_eq_ok.1 h
  obtain rfl := Except.ok.inj h
  have hinv := expandInvariant_start.run hforest hstate
  rw [List.nil_append] at hinv
  have hkey : ∀ e ∈ state.functions.entries, e.2.identity = e.1 := by
    rintro ⟨key, function⟩ he
    have hget := HashMap.get?_eq_some.2 he
    rw [hinv.functions] at hget
    exact expansion_identity hget
  have hperm : (((state.functions.iter order .functions).map Prod.snd).map
      RankedFunction.identity).Perm state.functions.keys := by
    refine (((state.functions.iter_perm order .functions).map Prod.snd).map _).trans ?_
    rw [List.map_map]
    exact .of_eq (List.map_congr_left hkey)
  refine ⟨hperm.nodup_iff.2 state.functions.nodup_keys, ?_, hinv.nodup, ?_⟩
  · intro function
    rw [← hinv.functions, HashMap.get?_eq_some,
      ((state.functions.iter_perm order .functions).map Prod.snd).mem_iff]
    constructor
    · intro hmem
      obtain ⟨⟨key, found⟩, he, rfl⟩ := List.mem_map.1 hmem
      rwa [hkey _ he]
    · intro hmem
      exact List.mem_map_of_mem hmem
  · intro record hrecord
    exact ⟨hinv.nonneg record hrecord, hinv.framed record hrecord⟩

def RankedFunction.core (function : RankedFunction) : (ℤ × ℤ) × Option ℤ × ℤ :=
  (function.identity, function.parentFunctionId, function.selfSampleCount)

theorem core_built (functions : List RankedFunction) :
    ((functions.map (withInclusive functions)).map normalizeFunctionSource).map
      RankedFunction.core = functions.map RankedFunction.core := by
  rw [List.map_map, List.map_map]
  rfl

theorem map_identity_of_core {xs ys : List RankedFunction}
    (h : (xs.map RankedFunction.core).Perm (ys.map RankedFunction.core)) :
    (xs.map RankedFunction.identity).Perm (ys.map RankedFunction.identity) := by
  have hfst := h.map Prod.fst
  rwa [List.map_map, List.map_map] at hfst

theorem foldlM_countOfficialSelf {start actual : HashMap ℤ ℤ}
    (h : functions.foldlM countOfficialSelf start = .ok actual) (functionId : ℤ) :
    countIn actual functionId = countIn start functionId +
      ((functions.filter (·.functionId = functionId)).map (·.selfSampleCount)).sum := by
  induction functions generalizing start with
  | nil =>
    obtain rfl : start = actual := Except.ok.inj h
    simp
  | cons function functions ih =>
    rw [List.foldlM_cons, except_bind_eq_ok] at h
    obtain ⟨next, hstep, h⟩ := h
    obtain ⟨count, hcount, hnext⟩ := except_bind_eq_ok.1 hstep
    obtain rfl := Except.ok.inj hnext
    have hsum := (checkedAdd_eq_some.1 (okOr_eq_ok.1 hcount)).1
    rw [ih h, countIn_insert]
    by_cases hid : function.functionId = functionId
    · subst hid
      simp only [if_true, ← hsum, decide_true, List.filter_cons_of_pos, List.map_cons,
        List.sum_cons, add_assoc]
      rfl
    · simp [hid, Ne.symm hid]

theorem reconcileOfficialSelfCounts_eq_ok
    (hentries : byId.entries = frames.map fun frame => (frame.functionId, frame))
    (h : reconcileOfficialSelfCounts order byId functions = .ok ()) {frame : CompactFrame}
    (hframe : frame ∈ frames) :
    ((functions.filter (·.functionId = frame.functionId)).map (·.selfSampleCount)).sum =
      frame.officialSelfSampleCount := by
  obtain ⟨actual, hactual, h⟩ := except_bind_eq_ok.1 h
  rw [failIf_eq_ok] at h
  have hmem : (frame.functionId, frame) ∈ byId.iter order .frames := by
    rw [(byId.iter_perm order .frames).mem_iff, hentries]
    exact List.mem_map_of_mem hframe
  have hsum := foldlM_countOfficialSelf hactual frame.functionId
  by_contra hne
  refine h (List.any_eq_true.2 ⟨_, hmem, decide_eq_true fun heq => hne ?_⟩)
  rw [← heq]
  exact (zero_add _).symm.trans hsum.symm

end Built

/-- The functions of the document are those that the records name, with everything above them. -/
structure BuiltFrom (frames : List CompactFrame) (records : List CompactFunctionSelf)
    (document : RankedProfileDocument) : Prop where
  official : OfficialFrames frames
  conserves : document.ConservesSamples
  records_nodup : (records.map (·.identity)).Nodup
  records_framed : ∀ record ∈ records, record.functionId ∈ frameIds frames
  ids : (document.functions.map RankedFunction.identity).Nodup
  reached : ∀ key, key ∈ document.functions.map RankedFunction.identity ↔
    Reached (frameParent frames) records key
  framed : ∀ function ∈ document.functions, ∃ frame ∈ frames,
    frame.functionId = function.functionId ∧
      function.parentFunctionId = frame.parentFunctionId
  self : ∀ function ∈ document.functions,
    function.selfSampleCount = selfOf records function.identity
  official_self : ∀ frame ∈ frames, ((document.functions.filter
    (·.functionId = frame.functionId)).map (·.selfSampleCount)).sum =
      frame.officialSelfSampleCount

section Build
variable {order : IterationOrder ReportMap} {metadata : CompactMetadata}
  {semantics : List RankedSemantic} {frames : List CompactFrame}
  {records : List CompactFunctionSelf} {document : RankedProfileDocument}

theorem builtFrom_of_buildDocument
    (h : buildDocument order metadata semantics frames records = .ok document) :
    BuiltFrom frames records document := by
  obtain ⟨-, -, folded, byId, functions, counted, -, hframes, hfunctions, hstructure, hcounted,
    hofficial, rfl, hvalid⟩ := buildDocument_eq_ok.1 h
  obtain ⟨hentries, hofficialFrames⟩ := validateFrames_eq_ok hframes
  obtain ⟨hids, hmem, hrecords, hrecord⟩ :=
    expandFunctions_eq_ok (isForest_byId hofficialFrames hentries) hfunctions
  have hparent := parentFrame_eq_frameParent hentries
  have hcountedEq := foldFunctions_eq_ok
    (RankedProfileDocument.wellStructured_of_ok hstructure).function_ids hcounted
  -- folding, sorting and normalizing never change an identity, a parent or a self count
  have hcore : ((counted.map normalizeFunctionSource).map RankedFunction.core).Perm
      (functions.map RankedFunction.core) := by
    rw [hcountedEq, core_built]
    exact (sortByKey_perm _ functions).map _
  have hback : ∀ function ∈ counted.map normalizeFunctionSource, ∃ x ∈ functions,
      x.core = function.core := by
    intro function hfunction
    exact List.mem_map.1 (hcore.mem_iff.1 (List.mem_map_of_mem hfunction))
  have hidsPerm := map_identity_of_core hcore
  -- every function of the expansion is a frame above some record
  have hexpanded : ∀ x ∈ functions, Reached (frameParent frames) records x.identity ∧
      ∃ frame ∈ frames, frame.functionId = x.functionId ∧
        x.parentFunctionId = frame.parentFunctionId ∧
        x.selfSampleCount = selfOf records x.identity := by
    intro x hx
    have hexpansion := (hmem x).1 hx
    unfold expansion at hexpansion
    split at hexpansion
    · next hreached =>
      rw [hparent] at hreached
      obtain ⟨frame, hframe, hx'⟩ := Option.map_eq_some_iff.1 hexpansion
      rw [HashMap.get?_eq_some, hentries] at hframe
      obtain ⟨frame', hframe', heq⟩ := List.mem_map.1 hframe
      obtain ⟨hid, rfl⟩ := Prod.mk.inj heq
      exact ⟨hreached, frame', hframe', hid, by rw [← hx']; rfl, by rw [← hx']; rfl⟩
    · cases hexpansion
  exact
  { official := hofficialFrames
    conserves := RankedProfileDocument.conservesSamples_of_validate hvalid
    records_nodup := hrecords
    records_framed := fun record hr => keys_byId hentries ▸ (hrecord record hr).2
    ids := hidsPerm.nodup_iff.2 hids
    reached := by
      intro key
      refine hidsPerm.mem_iff.trans ⟨?_, ?_⟩
      · intro hkey
        obtain ⟨x, hx, rfl⟩ := List.mem_map.1 hkey
        exact (hexpanded x hx).1
      · rintro hreached
        obtain ⟨record, hr, hsemantic, hbelow⟩ := hreached
        have hframe : key.2 ∈ byId.keys := by
          rw [keys_byId hentries, ← List.mem_toFinset]
          refine hofficialFrames.forest.mem_of_below (List.mem_toFinset.2 ?_) hbelow
          exact keys_byId hentries ▸ (hrecord record hr).2
        obtain ⟨frame, hframe⟩ := HashMap.mem_keys.1 hframe
        have hexpansion : expansion byId records key =
            some (expandedFunction key.1 key.2 frame (selfOf records key)) := by
          rw [expansion, hparent, if_pos ⟨record, hr, hsemantic, hbelow⟩, hframe]
          rfl
        exact List.mem_map.2 ⟨expandedFunction key.1 key.2 frame (selfOf records key),
          (hmem _).2 hexpansion, rfl⟩
    framed := by
      intro function hfunction
      obtain ⟨x, hx, hxcore⟩ := hback function hfunction
      obtain ⟨-, frame, hframe, hid, hparentId, -⟩ := hexpanded x hx
      have hidentity : x.identity = function.identity := congrArg (·.1) hxcore
      exact ⟨frame, hframe, hid.trans (congrArg Prod.snd hidentity),
        (congrArg (·.2.1) hxcore).symm.trans hparentId⟩
    self := by
      intro function hfunction
      obtain ⟨x, hx, hxcore⟩ := hback function hfunction
      obtain ⟨-, frame, -, -, -, hself⟩ := hexpanded x hx
      have hidentity : x.identity = function.identity := congrArg (·.1) hxcore
      rw [← hidentity, ← hself]
      exact (congrArg (·.2.2) hxcore).symm
    official_self := by
      intro frame hframe
      rw [← reconcileOfficialSelfCounts_eq_ok hentries hofficial hframe]
      simp only [RankedProfileDocument.normalizeSourceMetadata]
      rw [List.filter_map, List.map_map]
      rfl }

end Build

open Classical in
/-- The records of a function's own semantic whose frames are at or below it. -/
noncomputable def recordsBelow (frames : List CompactFrame) (records : List CompactFunctionSelf)
    (function : RankedFunction) : List CompactFunctionSelf :=
  records.filter fun record => record.semanticId = function.semanticId ∧
    Below (frameParent frames) record.functionId function.functionId

namespace BuiltFrom
variable {frames : List CompactFrame} {records : List CompactFunctionSelf}
  {document : RankedProfileDocument}

theorem below_iff_frames (hbuilt : BuiltFrom frames records document) {x y : RankedFunction}
    (hx : x ∈ document.functions) :
    Below document.functionParent x.identity y.identity ↔
      x.semanticId = y.semanticId ∧ Below (frameParent frames) x.functionId y.functionId := by
  have hparent : ∀ z ∈ document.functions, document.functionParent z.identity =
      (frameParent frames z.functionId).map fun p => (z.semanticId, p) := by
    intro z hz
    obtain ⟨frame, hframe, hid, hparentId⟩ := hbuilt.framed z hz
    rw [RankedProfileDocument.functionParent_eq hbuilt.ids hz, hparentId, ← hid,
      frameParent_eq hbuilt.official.ids hframe]
  constructor
  · intro hbelow
    -- a path of functions stays in one semantic and follows the frames
    have hup : ∀ a b, Below document.functionParent a b →
        a ∈ document.functions.map RankedFunction.identity →
        a.1 = b.1 ∧ Below (frameParent frames) a.2 b.2 := by
      intro a b hab
      induction hab with
      | refl a => exact fun _ => ⟨rfl, .refl _⟩
      | @up a c b hac rest ih =>
        intro ha
        obtain ⟨z, hz, rfl⟩ := List.mem_map.1 ha
        have hc : c ∈ document.functionNodes := hbuilt.conserves.functions.forest.closed _
          (RankedProfileDocument.mem_functionNodes.2 ⟨z, hz, rfl⟩) c hac
        rw [hparent z hz] at hac
        obtain ⟨p, hp, rfl⟩ := Option.map_eq_some_iff.1 hac
        obtain ⟨hsemantic, hbelow⟩ := ih (List.mem_toFinset.1 hc)
        exact ⟨hsemantic, .up hp hbelow⟩
    exact hup _ _ hbelow (List.mem_map_of_mem hx)
  · rintro ⟨hsemantic, hbelow⟩
    -- a path of frames is met by functions of the semantic, since the document is closed upwards
    have hdown : ∀ a b, Below (frameParent frames) a b → ∀ s,
        (s, a) ∈ document.functions.map RankedFunction.identity →
        Below document.functionParent (s, a) (s, b) := by
      intro a b hab
      induction hab with
      | refl a => exact fun s _ => .refl _
      | @up a c b hac rest ih =>
        intro s ha
        obtain ⟨z, hz, hzid⟩ := List.mem_map.1 ha
        obtain ⟨rfl, rfl⟩ : z.semanticId = s ∧ z.functionId = a := Prod.mk.inj hzid
        have hc : document.functionParent z.identity = some (z.semanticId, c) := by
          rw [hparent z hz, hac]
          rfl
        have hmem := hbuilt.conserves.functions.forest.closed _
          (RankedProfileDocument.mem_functionNodes.2 ⟨z, hz, rfl⟩) _ hc
        exact .up hc (ih z.semanticId (List.mem_toFinset.1 hmem))
    have hmem := List.mem_map_of_mem (f := RankedFunction.identity) hx
    have hpath := hdown x.functionId y.functionId hbelow x.semanticId hmem
    rw [RankedFunction.identity, RankedFunction.identity, ← hsemantic]
    exact hpath

open Classical in
theorem inclusive_eq (hbuilt : BuiltFrom frames records document) {function : RankedFunction}
    (hfunction : function ∈ document.functions) :
    function.inclusiveSampleCount = ((document.functions.filter fun x =>
      x.semanticId = function.semanticId ∧
        Below (frameParent frames) x.functionId function.functionId).map
          (·.selfSampleCount)).sum := by
  rw [hbuilt.conserves.function_inclusive function hfunction, RankedProfileDocument.functionsBelow]
  congr 2
  apply List.filter_congr
  intro x hx
  simp only [hbuilt.below_iff_frames hx]

theorem inclusive_eq_records (hbuilt : BuiltFrom frames records document)
    {function : RankedFunction} (hfunction : function ∈ document.functions) :
    function.inclusiveSampleCount =
      ((recordsBelow frames records function).map (·.selfSampleCount)).sum := by
  classical
  let below := document.functions.filter fun x => x.semanticId = function.semanticId ∧
    Below (frameParent frames) x.functionId function.functionId
  have hnodup : (below.map RankedFunction.identity).Nodup :=
    hbuilt.ids.sublist (List.filter_sublist.map _)
  have hself : below.map (·.selfSampleCount) =
      (below.map RankedFunction.identity).map (selfOf records) := by
    rw [List.map_map]
    apply List.map_congr_left
    exact fun x hx => hbuilt.self x (List.mem_filter.1 hx).1
  have hrecords : recordsBelow frames records function =
      records.filter (·.identity ∈ below.map RankedFunction.identity) := by
    apply List.filter_congr
    intro record hrecord
    rw [decide_eq_decide, List.mem_map]
    constructor
    · rintro ⟨hsemantic, hbelow⟩
      -- The record's own function is in the document.
      obtain ⟨x, hx, hid⟩ := List.mem_map.1
        ((hbuilt.reached record.identity).2 ⟨record, hrecord, rfl, .refl _⟩)
      obtain ⟨hxs, hxf⟩ : x.semanticId = record.semanticId ∧ x.functionId = record.functionId :=
        Prod.mk.inj hid
      refine ⟨x, List.mem_filter.2 ⟨hx, ?_⟩, hid⟩
      rw [hxs, hxf]
      exact decide_eq_true ⟨hsemantic, hbelow⟩
    · rintro ⟨x, hx, hid⟩
      obtain ⟨hxs, hxf⟩ : x.semanticId = record.semanticId ∧ x.functionId = record.functionId :=
        Prod.mk.inj hid
      rw [← hxs, ← hxf]
      exact of_decide_eq_true (List.mem_filter.1 hx).2
  calc function.inclusiveSampleCount
      = (below.map (·.selfSampleCount)).sum := hbuilt.inclusive_eq hfunction
    _ = ((below.map RankedFunction.identity).map (selfOf records)).sum := by rw [hself]
    _ = ((records.filter (·.identity ∈ below.map RankedFunction.identity)).map
          (·.selfSampleCount)).sum := by
        refine (sum_groups CompactFunctionSelf.identity hnodup (·.selfSampleCount) records).trans ?_
        congr!
    _ = ((recordsBelow frames records function).map (·.selfSampleCount)).sum := by rw [hrecords]

theorem official_inclusive (hbuilt : BuiltFrom frames records document) {frame : CompactFrame}
    (hframe : frame ∈ frames) :
    ((document.functions.filter (·.functionId = frame.functionId)).map
      (·.inclusiveSampleCount)).sum = frame.officialInclusiveSampleCount := by
  classical
  let here := document.functions.filter (·.functionId = frame.functionId)
  let below := document.functions.filter fun x =>
    Below (frameParent frames) x.functionId frame.functionId
  -- one function of the frame for each semantic
  have hhere : (here.map (·.semanticId)).Nodup := by
    have hnodup : (here.map RankedFunction.identity).Nodup :=
      hbuilt.ids.sublist (List.filter_sublist.map _)
    have hpairs : here.map RankedFunction.identity =
        (here.map (·.semanticId)).map fun s => (s, frame.functionId) := by
      rw [List.map_map]
      apply List.map_congr_left
      intro x hx
      have hid : x.functionId = frame.functionId := of_decide_eq_true (List.mem_filter.1 hx).2
      rw [RankedFunction.identity, hid]
      rfl
    rw [hpairs] at hnodup
    exact hnodup.of_map
  have hinclusive : here.map (·.inclusiveSampleCount) = (here.map (·.semanticId)).map fun s =>
      ((below.filter (·.semanticId = s)).map (·.selfSampleCount)).sum := by
    rw [List.map_map]
    apply List.map_congr_left
    intro x hx
    obtain ⟨hx, hid⟩ := List.mem_filter.1 hx
    rw [hbuilt.inclusive_eq hx, of_decide_eq_true hid, Function.comp_apply, List.filter_filter]
    simp only [Bool.decide_and]
  -- a semantic with a function below the frame also has one at the frame
  have hclosed : below.filter (·.semanticId ∈ here.map (·.semanticId)) = below := by
    rw [List.filter_eq_self]
    intro x hx
    obtain ⟨hx, hbelow⟩ := List.mem_filter.1 hx
    obtain ⟨record, hrecord, hsemantic, hrest⟩ :=
      (hbuilt.reached x.identity).1 (List.mem_map_of_mem hx)
    obtain ⟨y, hy, hid⟩ := List.mem_map.1 ((hbuilt.reached (x.semanticId, frame.functionId)).2
      ⟨record, hrecord, hsemantic, hrest.trans (of_decide_eq_true hbelow)⟩)
    obtain ⟨hys, hyf⟩ : y.semanticId = x.semanticId ∧ y.functionId = frame.functionId :=
      Prod.mk.inj hid
    exact decide_eq_true
      (List.mem_map.2 ⟨y, List.mem_filter.2 ⟨hy, decide_eq_true hyf⟩, hys⟩)
  have hframes : (frameIds (framesBelow frames frame.functionId)).Nodup :=
    hbuilt.official.ids.sublist (List.filter_sublist.map _)
  -- the functions below the frame, again grouped by frame
  have hbelow : document.functions.filter
      (·.functionId ∈ frameIds (framesBelow frames frame.functionId)) = below := by
    apply List.filter_congr
    intro x hx
    obtain ⟨own, hown, hid, -⟩ := hbuilt.framed x hx
    rw [decide_eq_decide, frameIds, List.mem_map]
    constructor
    · rintro ⟨g, hg, hgid⟩
      rw [← hgid]
      exact of_decide_eq_true (List.mem_filter.1 hg).2
    · intro hbelow
      exact ⟨own, List.mem_filter.2 ⟨hown, decide_eq_true (hid ▸ hbelow)⟩, hid⟩
  calc (here.map (·.inclusiveSampleCount)).sum
      = ((here.map (·.semanticId)).map fun s =>
          ((below.filter (·.semanticId = s)).map (·.selfSampleCount)).sum).sum := by
        rw [hinclusive]
    _ = (below.map (·.selfSampleCount)).sum := by
        rw [sum_groups RankedFunction.semanticId hhere, hclosed]
    _ = ((frameIds (framesBelow frames frame.functionId)).map fun g =>
          ((document.functions.filter (·.functionId = g)).map (·.selfSampleCount)).sum).sum := by
        rw [sum_groups RankedFunction.functionId hframes, hbelow]
    _ = ((framesBelow frames frame.functionId).map (·.officialSelfSampleCount)).sum := by
        rw [frameIds, List.map_map]
        congr 1
        apply List.map_congr_left
        exact fun g hg => hbuilt.official_self g (List.mem_filter.1 hg).1
    _ = frame.officialInclusiveSampleCount := (hbuilt.official.inclusive frame hframe).symm

end BuiltFrom

/-- The call trees of the semantics agree with the records, and their sums over all semantics with
the official profile. -/
structure ReconcilesOfficial (frames : List CompactFrame) (records : List CompactFunctionSelf)
    (document : RankedProfileDocument) : Prop where
  ids : (document.functions.map RankedFunction.identity).Nodup
  records_framed : ∀ record ∈ records, ∃ frame ∈ frames, frame.functionId = record.functionId
  pairs : ∀ semanticId functionId,
    (∃ function ∈ document.functions,
      function.semanticId = semanticId ∧ function.functionId = functionId) ↔
    ∃ record ∈ records, record.semanticId = semanticId ∧
      Below (frameParent frames) record.functionId functionId
  parent : ∀ function ∈ document.functions, ∃ frame ∈ frames,
    frame.functionId = function.functionId ∧
      function.parentFunctionId = frame.parentFunctionId
  recorded : ∀ function ∈ document.functions, ∀ record ∈ records,
    record.semanticId = function.semanticId → record.functionId = function.functionId →
      function.selfSampleCount = record.selfSampleCount
  unrecorded : ∀ function ∈ document.functions,
    (∀ record ∈ records, record.semanticId = function.semanticId →
      record.functionId ≠ function.functionId) → function.selfSampleCount = 0
  inclusive : ∀ function ∈ document.functions, function.inclusiveSampleCount =
    ((recordsBelow frames records function).map (·.selfSampleCount)).sum
  official_self : ∀ frame ∈ frames, ((document.functions.filter
    (·.functionId = frame.functionId)).map (·.selfSampleCount)).sum =
      frame.officialSelfSampleCount
  official_inclusive : ∀ frame ∈ frames, ((document.functions.filter
    (·.functionId = frame.functionId)).map (·.inclusiveSampleCount)).sum =
      frame.officialInclusiveSampleCount

theorem selfOf_eq {records : List CompactFunctionSelf} (hnodup : (records.map (·.identity)).Nodup)
    {record : CompactFunctionSelf} (hrecord : record ∈ records) :
    selfOf records record.identity = record.selfSampleCount := by
  have honly : records.filter (·.identity = record.identity) = [record] := by
    have hfilter : (records.filter (·.identity = record.identity)).Nodup :=
      (List.Nodup.of_map _ hnodup).filter _
    refine (List.perm_singleton.1 ((List.perm_ext_iff_of_nodup hfilter
      (List.nodup_singleton record)).2 fun r => ?_))
    rw [List.mem_filter, List.mem_singleton]
    constructor
    · rintro ⟨hr, hid⟩
      exact List.inj_on_of_nodup_map hnodup hr hrecord (of_decide_eq_true hid)
    · rintro rfl
      exact ⟨hrecord, decide_eq_true rfl⟩
  rw [selfOf, honly]
  simp

theorem BuiltFrom.reconcilesOfficial {frames : List CompactFrame}
    {records : List CompactFunctionSelf} {document : RankedProfileDocument}
    (hbuilt : BuiltFrom frames records document) : ReconcilesOfficial frames records document where
  ids := hbuilt.ids
  records_framed := fun record hrecord => List.mem_map.1 (hbuilt.records_framed record hrecord)
  pairs := by
    intro semanticId functionId
    rw [← Reached.eq_1 (frameParent frames) records (semanticId, functionId), ← hbuilt.reached,
      List.mem_map]
    constructor
    · rintro ⟨function, hfunction, rfl, rfl⟩
      exact ⟨function, hfunction, rfl⟩
    · rintro ⟨function, hfunction, hid⟩
      exact ⟨function, hfunction, Prod.mk.inj hid⟩
  parent := hbuilt.framed
  recorded := by
    intro function hfunction record hrecord hsemantic hid
    have hidentity : function.identity = record.identity := by
      rw [RankedFunction.identity, ← hsemantic, ← hid]
      rfl
    rw [hbuilt.self function hfunction, hidentity, selfOf_eq hbuilt.records_nodup hrecord]
  unrecorded := by
    intro function hfunction hnone
    have hempty : records.filter (·.identity = function.identity) = [] := by
      rw [List.filter_eq_nil_iff]
      intro record hrecord hid
      obtain ⟨hsemantic, hid⟩ : record.semanticId = function.semanticId ∧
          record.functionId = function.functionId := Prod.mk.inj (of_decide_eq_true hid)
      exact hnone record hrecord hsemantic hid
    rw [hbuilt.self function hfunction, selfOf, hempty]
    rfl
  inclusive := fun _ => hbuilt.inclusive_eq_records
  official_self := hbuilt.official_self
  official_inclusive := fun _ => hbuilt.official_inclusive

theorem buildDocument_reconciles_official (order : IterationOrder ReportMap)
    (metadata : CompactMetadata) (semantics : List RankedSemantic) (frames : List CompactFrame)
    (functionSelf : List CompactFunctionSelf) (document : RankedProfileDocument)
    (hbuilt : buildDocument order metadata semantics frames functionSelf = .ok document) :
    ReconcilesOfficial frames functionSelf document :=
  (builtFrom_of_buildDocument hbuilt).reconcilesOfficial

def planningMetadata : CompactMetadata :=
  { RankedProfileDocument.planningDocument.metadata with auditErrorCount := 0 }

/-- The semantics before their counts are folded, the phase first. -/
def planningSemantics : List RankedSemantic :=
  RankedProfileDocument.planningDocument.semantics.reverse.map fun semantic =>
    { semantic with inclusiveSampleCount := 0 }

def planningFrames : List CompactFrame :=
  [⟨2, some 1, "plan", none, some "src/main.rs", some 3, 2, 2⟩,
    ⟨1, none, "main", none, some "/work/src/main.rs", some 3, 1, 3⟩]

def planningSelf : List CompactFunctionSelf := [⟨11, 2, 2⟩, ⟨11, 1, 1⟩]

theorem planning_reconciles_official :
    buildDocument (.inserted ReportMap) planningMetadata planningSemantics planningFrames
        planningSelf = .ok RankedProfileDocument.planningDocument ∧
      ReconcilesOfficial planningFrames planningSelf RankedProfileDocument.planningDocument := by
  have hbuilt : buildDocument (.inserted ReportMap) planningMetadata planningSemantics
      planningFrames planningSelf = .ok RankedProfileDocument.planningDocument := by
    decide
  exact ⟨hbuilt, buildDocument_reconciles_official _ _ _ _ _ _ hbuilt⟩

end DeltaFunnel
