import DeltaFunnel.PerfettoProfile.ReportAggregate
import DeltaFunnel.PerfettoProfile.SampleConservation

/-! The frames of the native profile and the call trees that each semantic gets of them. -/

namespace DeltaFunnel
open Collections Graph

section Frames

def frameParent (frames : List CompactFrame) : ℤ → Option ℤ := parentIn (frameParents frames)

def frameIds (frames : List CompactFrame) : List ℤ := frames.map (·.functionId)

open Classical in
noncomputable def framesBelow (frames : List CompactFrame) (functionId : ℤ) : List CompactFrame :=
  frames.filter fun frame => Below (frameParent frames) frame.functionId functionId

structure OfficialFrames (frames : List CompactFrame) : Prop where
  ids : (frameIds frames).Nodup
  forest : IsForest (frameParent frames) (frameIds frames).toFinset
  nonneg : ∀ frame ∈ frames, 0 ≤ frame.functionId ∧ 0 ≤ frame.officialSelfSampleCount ∧
    0 ≤ frame.officialInclusiveSampleCount
  inclusive : ∀ frame ∈ frames, frame.officialInclusiveSampleCount =
    ((framesBelow frames frame.functionId).map (·.officialSelfSampleCount)).sum

variable {order : IterationOrder ReportMap} {frames frames' : List CompactFrame}
  {byId : HashMap ℤ CompactFrame}

theorem frameParent_perm (hperm : frames.Perm frames') (hids : (frameIds frames).Nodup) :
    frameParent frames = frameParent frames' := by
  funext id
  have hkeys := HashMap.map_fst_map frames CompactFrame.functionId CompactFrame.parentFunctionId
  rw [frameParent, frameParent, parentIn, parentIn, frameParents, frameParents,
    HashMap.get?_collect_perm (hperm.map _) (hkeys.symm ▸ hids)]

theorem frameParent_eq (hids : (frameIds frames).Nodup) {frame : CompactFrame}
    (hframe : frame ∈ frames) : frameParent frames frame.functionId = frame.parentFunctionId := by
  have hget : (frameParents frames).get? frame.functionId = some frame.parentFunctionId :=
    HashMap.get?_collect_map hids hframe
  rw [frameParent, parentIn, hget]
  rfl

theorem insertFrame_eq_ok {found found' : HashMap ℤ CompactFrame} {frame : CompactFrame} :
    insertFrame found frame = .ok found' ↔
      (0 ≤ frame.functionId ∧ 0 ≤ frame.officialSelfSampleCount ∧
        0 ≤ frame.officialInclusiveSampleCount ∧ frame.functionId ∉ found.keys) ∧
      found' = found.insert frame.functionId frame := by
  unfold insertFrame
  split
  · next hbad =>
    refine iff_of_false (fun h => by cases h) fun hgood => ?_
    obtain ⟨⟨hid, hself, hinclusive, hnew⟩, -⟩ := hgood
    rw [HashMap.contains_iff] at hbad
    rcases hbad with hid' | hself' | hinclusive' | hmem
    · exact absurd hid' (not_lt.2 hid)
    · exact absurd hself' (not_lt.2 hself)
    · exact absurd hinclusive' (not_lt.2 hinclusive)
    · exact hnew hmem
  · next hgood =>
    simp only [not_or, not_lt, HashMap.contains_iff] at hgood
    rw [Except.ok.injEq, eq_comm]
    exact (and_iff_right hgood).symm

theorem foldlM_insertFrame (h : frames.foldlM insertFrame .empty = .ok byId) :
    byId.entries = (frames.map fun frame => (frame.functionId, frame)) ∧
      ∀ frame ∈ frames, 0 ≤ frame.functionId ∧ 0 ≤ frame.officialSelfSampleCount ∧
        0 ≤ frame.officialInclusiveSampleCount := by
  constructor
  · have hnew : ∀ (found : HashMap ℤ CompactFrame) (frame : CompactFrame) found',
        insertFrame found frame = .ok found' → frame.functionId ∉ found.keys ∧
          found' = found.insert frame.functionId frame := by
      intro found frame found' hstep
      obtain ⟨hvalid, hinsert⟩ := insertFrame_eq_ok.1 hstep
      exact ⟨hvalid.2.2.2, hinsert⟩
    exact (HashMap.entries_of_insert_new hnew h).trans (List.nil_append _)
  · refine except_foldlM_forall (fun found frame found' hstep => ?_) h
    obtain ⟨⟨hid, hself, hinclusive, -⟩, -⟩ := insertFrame_eq_ok.1 hstep
    exact ⟨hid, hself, hinclusive⟩

theorem values_perm (hentries : byId.entries = frames.map fun frame => (frame.functionId, frame)) :
    ((byId.iter order .frames).map Prod.snd).Perm frames := by
  refine ((byId.iter_perm order .frames).map Prod.snd).trans ?_
  rw [hentries, List.map_map]
  exact .of_eq (List.map_id frames)

theorem frameIds_nodup (hentries : byId.entries = frames.map fun frame =>
    (frame.functionId, frame)) : (frameIds frames).Nodup := by
  have hnodup := byId.nodup
  rwa [hentries, HashMap.map_fst_map] at hnodup

theorem framesBelow_perm (hperm : frames.Perm frames') (hids : (frameIds frames).Nodup)
    (functionId : ℤ) : (framesBelow frames functionId).Perm (framesBelow frames' functionId) := by
  unfold framesBelow
  rw [frameParent_perm hperm hids]
  exact hperm.filter _

theorem validateFrames_eq_ok (h : validateFrames order frames = .ok byId) :
    byId.entries = (frames.map fun frame => (frame.functionId, frame)) ∧
      OfficialFrames frames := by
  obtain ⟨found, hfound, h⟩ := except_bind_eq_ok.1 h
  obtain ⟨inclusive, hinclusive, h⟩ := except_bind_eq_ok.1 h
  obtain ⟨⟨⟩, hchecked, h⟩ := except_bind_eq_ok.1 h
  obtain rfl := Except.ok.inj h
  obtain ⟨hentries, hnonneg⟩ := foldlM_insertFrame hfound
  have hids := frameIds_nodup hentries
  have hperm : ((found.iter order .frames).map Prod.snd).Perm frames := values_perm hentries
  have hids' : (frameIds ((found.iter order .frames).map Prod.snd)).Nodup :=
    (hperm.map _).nodup_iff.2 hids
  rw [okOr_eq_ok] at hinclusive
  refine ⟨hentries, hids, ?_, hnonneg, ?_⟩
  · have hparents : (frameParents ((found.iter order .frames).map Prod.snd)).keys =
        frameIds ((found.iter order .frames).map Prod.snd) := HashMap.keys_collect_map hids'
    have hcounts : (HashMap.collect (((found.iter order .frames).map Prod.snd).map fun frame =>
        (frame.functionId, frame.officialSelfSampleCount))).keys =
        frameIds ((found.iter order .frames).map Prod.snd) := HashMap.keys_collect_map hids'
    have hforest := (foldInclusiveCounts_eq_some
      (fun id hid => by rwa [hcounts, ← hparents]) hinclusive).1
    rw [nodesOf, hparents] at hforest
    have hnodes : (frameIds ((found.iter order .frames).map Prod.snd)).toFinset =
        (frameIds frames).toFinset := List.toFinset_eq_of_perm _ _ (hperm.map _)
    rw [← frameParent_perm hperm hids', ← hnodes]
    exact hforest
  · intro frame hframe
    have hmem := hperm.mem_iff.2 hframe
    have hcheck := except_forM_eq_ok.1 hchecked frame hmem
    rw [failIf_eq_ok, not_not] at hcheck
    have hget := foldInclusiveCounts_records hids' hinclusive hmem
    rw [hcheck] at hget
    rw [Option.some.inj hget]
    exact ((framesBelow_perm hperm hids' frame.functionId).map _).sum_eq

end Frames

section Expand

def parentFrame (frames : HashMap ℤ CompactFrame) (functionId : ℤ) : Option ℤ :=
  (frames.get? functionId).bind (·.parentFunctionId)

def RankedFunction.addSelf (function : RankedFunction) (count : ℤ) : RankedFunction :=
  { function with selfSampleCount := function.selfSampleCount + count }

variable {frames : HashMap ℤ CompactFrame} {record : CompactFunctionSelf}
  {functions functions' : HashMap (ℤ × ℤ) RankedFunction}

@[simp] theorem RankedFunction.addSelf_zero (function : RankedFunction) :
    function.addSelf 0 = function := by
  rw [addSelf, add_zero]

theorem expandedFunction_addSelf (semanticId functionId : ℤ) (frame : CompactFrame) (a b : ℤ) :
    (expandedFunction semanticId functionId frame a).addSelf b =
      expandedFunction semanticId functionId frame (a + b) := rfl

theorem parentFrame_eq_some {functionId parentId : ℤ} :
    parentFrame frames functionId = some parentId ↔
      ∃ frame, frames.get? functionId = some frame ∧ frame.parentFunctionId = some parentId :=
  Option.bind_eq_some_iff

/-- Above a frame, a function that is known has known frames and functions above it. -/
def KnownAbove (frames : HashMap ℤ CompactFrame) (semanticId : ℤ)
    (functions : HashMap (ℤ × ℤ) RankedFunction) (id : ℤ) : Prop :=
  ∀ f, Below (parentFrame frames) id f → (semanticId, f) ∈ functions.keys →
    ∀ g, Below (parentFrame frames) f g → (semanticId, g) ∈ functions.keys ∧ g ∈ frames.keys

/-- What climbing from a frame leaves for a function of the record's semantic. -/
def expandedTo (frames : HashMap ℤ CompactFrame) (record : CompactFunctionSelf)
    (functions : HashMap (ℤ × ℤ) RankedFunction) (f count : ℤ) : Option RankedFunction :=
  (frames.get? f).map fun frame =>
    ((functions.get? (record.semanticId, f)).getD
      (expandedFunction record.semanticId f frame 0)).addSelf count

theorem get?_insert_above {id parentId f : ℤ} {function : RankedFunction}
    (hgrounded : Grounded (parentFrame frames) id) (hparent : parentFrame frames id = some parentId)
    (hbelow : Below (parentFrame frames) parentId f) :
    (functions.insert (record.semanticId, id) function).get? (record.semanticId, f) =
      functions.get? (record.semanticId, f) := by
  have hne : f ≠ id := by
    rintro rfl
    exact hgrounded.not_below_parent hparent hbelow
  rw [HashMap.get?_insert, if_neg fun heq => hne (Prod.mk.inj heq).2]

theorem KnownAbove.insert {id parentId : ℤ} {function : RankedFunction}
    (hknown : KnownAbove frames record.semanticId functions id)
    (hgrounded : Grounded (parentFrame frames) id)
    (hparent : parentFrame frames id = some parentId) :
    KnownAbove frames record.semanticId
      (functions.insert (record.semanticId, id) function) parentId := by
  intro f hbelow hmem g hfg
  have hkeys : ∀ f, Below (parentFrame frames) parentId f →
      ((record.semanticId, f) ∈ (functions.insert (record.semanticId, id) function).keys ↔
        (record.semanticId, f) ∈ functions.keys) := by
    intro f hf
    rw [HashMap.mem_keys, HashMap.mem_keys, get?_insert_above hgrounded hparent hf]
  rw [hkeys f hbelow] at hmem
  rw [hkeys g (hbelow.trans hfg)]
  exact hknown f (.up hparent hbelow) hmem g hfg

/-- What a climb from `id` makes of the functions. -/
structure Climbed (frames : HashMap ℤ CompactFrame) (record : CompactFunctionSelf) (isSelf : Bool)
    (id : ℤ) (functions functions' : HashMap (ℤ × ℤ) RankedFunction) : Prop where
  elsewhere : ∀ key : ℤ × ℤ,
    ¬(key.1 = record.semanticId ∧ Below (parentFrame frames) id key.2) →
      functions'.get? key = functions.get? key
  above : ∀ f, Below (parentFrame frames) id f → ∃ function,
    expandedTo frames record functions f
      (if isSelf = true ∧ f = id then record.selfSampleCount else 0) = some function ∧
    functions'.get? (record.semanticId, f) = some function

theorem climbed_known {isSelf : Bool} {id : ℤ} {function : RankedFunction}
    (hknown : KnownAbove frames record.semanticId functions id)
    (hfunction : functions.get? (record.semanticId, id) = some function) :
    Climbed frames record isSelf id functions (functions.insert (record.semanticId, id)
      (function.addSelf (if isSelf = true then record.selfSampleCount else 0))) where
  elsewhere := by
    intro key hkey
    rw [HashMap.get?_insert, if_neg]
    rintro rfl
    exact hkey ⟨rfl, .refl id⟩
  above := by
    intro f hbelow
    obtain ⟨hmem, hframe⟩ := hknown id (.refl id) (HashMap.mem_keys.2 ⟨function, hfunction⟩) f hbelow
    obtain ⟨found, hfound⟩ := HashMap.mem_keys.1 hmem
    obtain ⟨frame, hframe⟩ := HashMap.mem_keys.1 hframe
    refine ⟨found.addSelf (if isSelf = true ∧ f = id then record.selfSampleCount else 0), ?_, ?_⟩
    · rw [expandedTo, hframe, hfound]
      rfl
    · rw [HashMap.get?_insert]
      by_cases hf : f = id
      · subst hf
        obtain rfl : found = function := Option.some.inj (hfound.symm.trans hfunction)
        simp
      · rw [if_neg fun heq => hf (Prod.mk.inj heq).2, hfound]
        simp [hf]

theorem Climbed.up {isSelf : Bool} {id parentId : ℤ} {frame : CompactFrame}
    (hgrounded : Grounded (parentFrame frames) id)
    (hparent : parentFrame frames id = some parentId) (hframe : frames.get? id = some frame)
    (hnew : functions.get? (record.semanticId, id) = none)
    (hclimbed : Climbed frames record false parentId
      (functions.insert (record.semanticId, id) (expandedFunction record.semanticId id frame
        (if isSelf = true then record.selfSampleCount else 0))) functions') :
    Climbed frames record isSelf id functions functions' where
  elsewhere := by
    intro key hkey
    rw [hclimbed.elsewhere key fun ⟨hsemantic, hbelow⟩ => hkey ⟨hsemantic, .up hparent hbelow⟩,
      HashMap.get?_insert, if_neg]
    rintro rfl
    exact hkey ⟨rfl, .refl id⟩
  above := by
    intro f hbelow
    rcases below_iff.1 hbelow with rfl | ⟨p, hp, hrest⟩
    · refine ⟨expandedFunction record.semanticId id frame
        (if isSelf = true then record.selfSampleCount else 0), ?_, ?_⟩
      · rw [expandedTo, hframe, hnew, Option.map_some, Option.getD_none, expandedFunction_addSelf,
          zero_add]
        simp
      · rw [hclimbed.elsewhere, HashMap.get?_insert, if_pos rfl]
        exact fun ⟨_, hback⟩ => hgrounded.not_below_parent hparent hback
    · obtain rfl : parentId = p := Option.some.inj (hparent.symm.trans hp)
      obtain ⟨function, hfunction, hget⟩ := hclimbed.above f hrest
      have hne : f ≠ id := by
        rintro rfl
        exact hgrounded.not_below_parent hparent hrest
      refine ⟨function, ?_, hget⟩
      rw [expandedTo, get?_insert_above hgrounded hparent hrest] at hfunction
      rw [expandedTo, ← hfunction]
      simp [hne]

theorem climbed_root {isSelf : Bool} {id : ℤ} {frame : CompactFrame}
    (hparent : parentFrame frames id = none) (hframe : frames.get? id = some frame)
    (hnew : functions.get? (record.semanticId, id) = none) :
    Climbed frames record isSelf id functions (functions.insert (record.semanticId, id)
      (expandedFunction record.semanticId id frame
        (if isSelf = true then record.selfSampleCount else 0))) where
  elsewhere := by
    intro key hkey
    rw [HashMap.get?_insert, if_neg]
    rintro rfl
    exact hkey ⟨rfl, .refl id⟩
  above := by
    intro f hbelow
    obtain rfl := hbelow.eq_of_root hparent
    refine ⟨expandedFunction record.semanticId id frame
      (if isSelf = true then record.selfSampleCount else 0), ?_, ?_⟩
    · rw [expandedTo, hframe, hnew, Option.map_some, Option.getD_none, expandedFunction_addSelf,
        zero_add]
      simp
    · rw [HashMap.get?_insert, if_pos rfl]

theorem insert_same_get? {K V : Type} [DecidableEq K] {m : HashMap K V} {k : K} {v : V}
    (h : m.get? k = some v) (k' : K) : (m.insert k v).get? k' = m.get? k' := by
  rw [HashMap.get?_insert]
  split
  · next heq => rw [heq, h]
  · rfl

theorem expandPath_eq_ok {fuel : ℕ} {isSelf : Bool} {path : List ℤ} {id : ℤ}
    (hgrounded : Grounded (parentFrame frames) id)
    (hknown : KnownAbove frames record.semanticId functions id)
    (h : expandPath frames record fuel isSelf path id functions = .ok functions') :
    Climbed frames record isSelf id functions functions' := by
  -- on the fuel, up the frames; a frame that is already there ends the climb
  induction fuel generalizing isSelf path id functions with
  | zero => cases h
  | succ fuel ih =>
    unfold expandPath at h
    split at h
    · cases h
    rcases hframe : frames.get? id with _ | frame
    · simp only [hframe] at h
      cases h
    simp only [hframe] at h
    rcases hfunction : functions.get? (record.semanticId, id) with _ | function
    · simp only [hfunction] at h
      obtain ⟨function, hdef⟩ : ∃ function, function = expandedFunction record.semanticId id frame
          (if isSelf = true then record.selfSampleCount else 0) := ⟨_, rfl⟩
      rw [← hdef] at h
      split at h
      · cases h
      rcases hparentId : frame.parentFunctionId with _ | parentId
      · simp only [hparentId] at h
        obtain rfl := Except.ok.inj h
        rw [hdef]
        have hparent : parentFrame frames id = none := by rw [parentFrame, hframe]; exact hparentId
        exact climbed_root hparent hframe hfunction
      · simp only [hparentId] at h
        have hparent : parentFrame frames id = some parentId :=
          parentFrame_eq_some.2 ⟨frame, hframe, hparentId⟩
        refine Climbed.up hgrounded hparent hframe hfunction ?_
        rw [← hdef]
        exact ih (hgrounded.of_below (.single hparent)) (hknown.insert hgrounded hparent) h
    · simp only [hfunction] at h
      have hclimbed : Climbed frames record isSelf id functions _ := climbed_known hknown hfunction
      cases isSelf with
      | true =>
        obtain ⟨count, hcount, h⟩ := except_bind_eq_ok.1 h
        obtain rfl := Except.ok.inj h
        rw [okOr_eq_ok, checkedAdd_eq_some] at hcount
        rw [← hcount.1]
        exact hclimbed
      | false =>
        obtain rfl := Except.ok.inj h
        simp only [Bool.false_eq_true, if_false, RankedFunction.addSelf_zero] at hclimbed
        refine ⟨fun key hkey => rfl, fun f hbelow => ?_⟩
        obtain ⟨found, hfound, hget⟩ := hclimbed.above f hbelow
        exact ⟨found, hfound, (insert_same_get? hfunction _).symm.trans hget⟩

theorem len_insert_le {K V : Type} [DecidableEq K] (m : HashMap K V) (k : K) (v : V)
    (hk : k ∈ m.keys) : (m.insert k v).len = m.len := by
  rw [HashMap.len_eq, HashMap.len_eq, HashMap.keys_insert, if_pos hk]

theorem expandPath_len {fuel : ℕ} {isSelf : Bool} {path : List ℤ} {id : ℤ}
    (hlen : functions.len ≤ maxRecordsPerCollection)
    (h : expandPath frames record fuel isSelf path id functions = .ok functions') :
    functions'.len ≤ maxRecordsPerCollection := by
  induction fuel generalizing isSelf path id functions with
  | zero => cases h
  | succ fuel ih =>
    unfold expandPath at h
    split at h
    · cases h
    rcases hframe : frames.get? id with _ | frame
    · simp only [hframe] at h
      cases h
    simp only [hframe] at h
    rcases hfunction : functions.get? (record.semanticId, id) with _ | function
    · simp only [hfunction] at h
      obtain ⟨function, hdef⟩ : ∃ function, function = expandedFunction record.semanticId id frame
          (if isSelf = true then record.selfSampleCount else 0) := ⟨_, rfl⟩
      rw [← hdef] at h
      split at h
      · cases h
      · next hbound =>
        rcases hparentId : frame.parentFunctionId with _ | parentId
        · simp only [hparentId] at h
          obtain rfl := Except.ok.inj h
          exact not_lt.1 hbound
        · simp only [hparentId] at h
          exact ih (not_lt.1 hbound) h
    · simp only [hfunction] at h
      cases isSelf with
      | true =>
        obtain ⟨count, -, h⟩ := except_bind_eq_ok.1 h
        obtain rfl := Except.ok.inj h
        rw [len_insert_le _ _ _ (HashMap.mem_keys.2 ⟨function, hfunction⟩)]
        exact hlen
      | false =>
        obtain rfl := Except.ok.inj h
        exact hlen

end Expand

section Expansion

def CompactFunctionSelf.identity (record : CompactFunctionSelf) : ℤ × ℤ :=
  (record.semanticId, record.functionId)

def selfOf (records : List CompactFunctionSelf) (key : ℤ × ℤ) : ℤ :=
  ((records.filter (·.identity = key)).map (·.selfSampleCount)).sum

/-- A record of the semantic names a frame of which the function is an ancestor or itself. -/
def Reached (parent : ℤ → Option ℤ) (records : List CompactFunctionSelf) (key : ℤ × ℤ) : Prop :=
  ∃ record ∈ records, record.semanticId = key.1 ∧ Below parent record.functionId key.2

open Classical in
noncomputable def expansion (frames : HashMap ℤ CompactFrame) (records : List CompactFunctionSelf)
    (key : ℤ × ℤ) : Option RankedFunction :=
  if Reached (parentFrame frames) records key then
    (frames.get? key.2).map fun frame => expandedFunction key.1 key.2 frame (selfOf records key)
  else none

variable {frames : HashMap ℤ CompactFrame} {record : CompactFunctionSelf}
  {records done : List CompactFunctionSelf} {functions functions' : HashMap (ℤ × ℤ) RankedFunction}

theorem reached_append {parent : ℤ → Option ℤ} {key : ℤ × ℤ} :
    Reached parent (done ++ [record]) key ↔ Reached parent done key ∨
      key.1 = record.semanticId ∧ Below parent record.functionId key.2 := by
  unfold Reached
  constructor
  · rintro ⟨r, hr, hsemantic, hbelow⟩
    rcases List.mem_append.1 hr with hr | hr
    · exact .inl ⟨r, hr, hsemantic, hbelow⟩
    · obtain rfl := List.mem_singleton.1 hr
      exact .inr ⟨hsemantic.symm, hbelow⟩
  · rintro (⟨r, hr, hsemantic, hbelow⟩ | ⟨hsemantic, hbelow⟩)
    · exact ⟨r, List.mem_append_left _ hr, hsemantic, hbelow⟩
    · exact ⟨record, by simp, hsemantic.symm, hbelow⟩

theorem selfOf_append (key : ℤ × ℤ) : selfOf (done ++ [record]) key =
    selfOf done key + if record.identity = key then record.selfSampleCount else 0 := by
  unfold selfOf
  rw [List.filter_append, List.map_append, List.sum_append]
  split
  · next h => simp [h]
  · next h => simp [h]

theorem selfOf_of_not_reached {parent : ℤ → Option ℤ} {key : ℤ × ℤ}
    (h : ¬Reached parent done key) : selfOf done key = 0 := by
  have hempty : done.filter (·.identity = key) = [] := by
    rw [List.filter_eq_nil_iff]
    intro r hr heq
    obtain rfl : r.identity = key := of_decide_eq_true heq
    exact h ⟨r, hr, rfl, .refl _⟩
  rw [selfOf, hempty]
  rfl

theorem Climbed.expansion (hfunctions : ∀ key, functions.get? key = expansion frames done key)
    (hclimbed : Climbed frames record true record.functionId functions functions') (key : ℤ × ℤ) :
    functions'.get? key = DeltaFunnel.expansion frames (done ++ [record]) key := by
  by_cases hkey : key.1 = record.semanticId ∧ Below (parentFrame frames) record.functionId key.2
  · obtain ⟨s, f⟩ := key
    obtain ⟨rfl, hbelow⟩ : s = record.semanticId ∧ _ := hkey
    obtain ⟨function, hfunction, hget⟩ := hclimbed.above f hbelow
    rw [hget, ← hfunction, expandedTo, DeltaFunnel.expansion,
      if_pos (reached_append.2 (.inr ⟨rfl, hbelow⟩)), hfunctions, DeltaFunnel.expansion]
    have hself : (if record.identity = (record.semanticId, f) then record.selfSampleCount else 0) =
        if true = true ∧ f = record.functionId then record.selfSampleCount else 0 := by
      simp [CompactFunctionSelf.identity, eq_comm]
    rcases hframe : frames.get? f with _ | frame
    · rfl
    · rw [Option.map_some, Option.map_some, selfOf_append, hself]
      split
      · rw [Option.getD_some, expandedFunction_addSelf]
        rfl
      · next hnot =>
        rw [Option.getD_none, expandedFunction_addSelf, selfOf_of_not_reached hnot]
        rfl
  · have hreached : Reached (parentFrame frames) (done ++ [record]) key ↔
        Reached (parentFrame frames) done key := by
      rw [reached_append]
      exact or_iff_left hkey
    have hself : selfOf (done ++ [record]) key = selfOf done key := by
      rw [selfOf_append, if_neg, add_zero]
      rintro rfl
      exact hkey ⟨rfl, .refl _⟩
    rw [hclimbed.elsewhere key hkey, hfunctions, DeltaFunnel.expansion, DeltaFunnel.expansion, hself]
    by_cases hdone : Reached (parentFrame frames) done key
    · rw [if_pos hdone, if_pos (hreached.2 hdone)]
    · rw [if_neg hdone, if_neg (mt hreached.1 hdone)]

structure ExpandInvariant (frames : HashMap ℤ CompactFrame) (done : List CompactFunctionSelf)
    (state : ExpandState) : Prop where
  functions : ∀ key, state.functions.get? key = expansion frames done key
  identities : ∀ key, key ∈ state.selfIdentities ↔ key ∈ done.map (·.identity)
  nodup : (done.map (·.identity)).Nodup
  nonneg : ∀ record ∈ done, 0 ≤ record.selfSampleCount
  framed : ∀ record ∈ done, record.functionId ∈ frames.keys
  bounded : state.functions.len ≤ maxRecordsPerCollection

theorem expandInvariant_start : ExpandInvariant frames [] ⟨.empty, []⟩ where
  functions key := by
    have hnone : ¬Reached (parentFrame frames) [] key := by
      rintro ⟨r, hr, -⟩
      exact List.not_mem_nil hr
    rw [HashMap.get?_empty, expansion, if_neg hnone]
  identities _ := Iff.rfl
  nodup := .nil
  nonneg _ h := absurd h List.not_mem_nil
  framed _ h := absurd h List.not_mem_nil
  bounded := Nat.zero_le _

theorem grounded_parentFrame (hforest : IsForest (parentFrame frames) frames.keys.toFinset)
    (id : ℤ) : Grounded (parentFrame frames) id := by
  by_cases hid : id ∈ frames.keys
  · exact hforest.grounded id (List.mem_toFinset.2 hid)
  · refine .root ?_
    rw [parentFrame, HashMap.get?_eq_none.2 hid]
    rfl

theorem knownAbove_expansion (hforest : IsForest (parentFrame frames) frames.keys.toFinset)
    (hfunctions : ∀ key, functions.get? key = expansion frames done key) (semanticId id : ℤ) :
    KnownAbove frames semanticId functions id := by
  intro f _ hmem g hfg
  obtain ⟨function, hget⟩ := HashMap.mem_keys.1 hmem
  rw [hfunctions, expansion] at hget
  split at hget
  · next hreached =>
    obtain ⟨record, hrecord, hsemantic, hbelow⟩ := hreached
    obtain ⟨frame, hframe, -⟩ := Option.map_eq_some_iff.1 hget
    have hg : g ∈ frames.keys := List.mem_toFinset.1 (hforest.mem_of_below
      (List.mem_toFinset.2 (HashMap.mem_keys.2 ⟨frame, hframe⟩)) hfg)
    obtain ⟨frame', hframe'⟩ := HashMap.mem_keys.1 hg
    refine ⟨HashMap.mem_keys.2 ⟨expandedFunction semanticId g frame'
      (selfOf done (semanticId, g)), ?_⟩, hg⟩
    rw [hfunctions, expansion, if_pos ⟨record, hrecord, hsemantic, hbelow.trans hfg⟩, hframe']
    rfl
  · cases hget

theorem ExpandInvariant.step (hforest : IsForest (parentFrame frames) frames.keys.toFinset)
    {state state' : ExpandState} (hinv : ExpandInvariant frames done state)
    (h : expandRecord frames state record = .ok state') :
    ExpandInvariant frames (done ++ [record]) state' := by
  obtain ⟨⟨⟩, hvalid, h⟩ := except_bind_eq_ok.1 h
  obtain ⟨functions, hpath, h⟩ := except_bind_eq_ok.1 h
  obtain rfl := Except.ok.inj h
  rw [failIf_eq_ok, not_or, not_lt] at hvalid
  have hnew : record.identity ∉ done.map (·.identity) := fun hmem =>
    hvalid.2 ((hinv.identities record.identity).2 hmem)
  have hclimbed := expandPath_eq_ok (grounded_parentFrame hforest record.functionId)
    (knownAbove_expansion hforest hinv.functions _ _) hpath
  exact
  { functions := hclimbed.expansion hinv.functions
    identities := by
      intro key
      rw [List.map_append, List.mem_append, ← hinv.identities, List.mem_cons, or_comm]
      exact or_congr_right List.mem_singleton.symm
    nodup := by
      rw [List.map_append, List.nodup_append]
      refine ⟨hinv.nodup, List.nodup_singleton _, ?_⟩
      intro a ha b hb hab
      rw [hab, List.mem_singleton.1 hb] at ha
      exact hnew ha
    nonneg := by
      intro r hr
      rcases List.mem_append.1 hr with hr | hr
      · exact hinv.nonneg r hr
      · obtain rfl := List.mem_singleton.1 hr
        exact hvalid.1
    framed := by
      intro r hr
      rcases List.mem_append.1 hr with hr | hr
      · exact hinv.framed r hr
      · obtain rfl := List.mem_singleton.1 hr
        obtain ⟨function, hfunction, -⟩ := hclimbed.above r.functionId (.refl _)
        obtain ⟨frame, hframe, -⟩ := Option.map_eq_some_iff.1 hfunction
        exact HashMap.mem_keys.2 ⟨frame, hframe⟩
    bounded := expandPath_len hinv.bounded hpath }

theorem ExpandInvariant.run (hforest : IsForest (parentFrame frames) frames.keys.toFinset)
    {state state' : ExpandState} (hinv : ExpandInvariant frames done state)
    (h : records.foldlM (expandRecord frames) state = .ok state') :
    ExpandInvariant frames (done ++ records) state' := by
  induction records generalizing done state with
  | nil =>
    obtain rfl : state = state' := Except.ok.inj h
    rwa [List.append_nil]
  | cons record records ih =>
    rw [List.foldlM_cons, except_bind_eq_ok] at h
    obtain ⟨next, hstep, h⟩ := h
    have hrun := ih (hinv.step hforest hstep) h
    rwa [List.append_assoc] at hrun

end Expansion
end DeltaFunnel
