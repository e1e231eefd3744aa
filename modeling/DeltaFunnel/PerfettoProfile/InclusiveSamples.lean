import Mathlib.Algebra.BigOperators.Ring.Finset
import Mathlib.Tactic.Push
import DeltaFunnel.PerfettoProfile.InnermostOwner
import DeltaFunnel.PerfettoProfile.RecordOrder

/-! Inclusive counts are the samples charged to a semantic or below it. -/

namespace DeltaFunnel
open Relational Graph Collections

section Counts
variable {tables : SemanticTables} {ownership : List OwnedSample} {s : ℤ}

def directOwned (ownership : List OwnedSample) : List OwnedSample :=
  ownership.filter (·.attribution = .direct)

def samplesOf (ownership : List OwnedSample) (s : ℤ) : ℕ :=
  (directOwned ownership).countP (·.semanticId = some s)

open Classical in
/-- The samples charged to a semantic or to one below it. -/
noncomputable def samplesWithin (tables : SemanticTables) (ownership : List OwnedSample) (s : ℤ) :
    ℕ :=
  (directOwned ownership).countP fun row =>
    ∃ owner, row.semanticId = some owner ∧ Below tables.parentOf owner s

/-- The semantics at or below `s`, from the lineage. -/
def descendants (tables : SemanticTables) (s : ℤ) : List ℤ :=
  (tables.semanticLineage.filter (·.2 = s)).map Prod.fst

theorem mem_descendants {d : ℤ} : d ∈ descendants tables s ↔
    d ∈ tables.ids ∧ Below tables.parentOf d s := by
  obtain ⟨-, hlineage⟩ := tables.lineage_spec
  rw [← hlineage d s]
  constructor
  · intro h
    obtain ⟨row, hrow, rfl⟩ := List.mem_map.1 h
    obtain ⟨hrow, hkey⟩ := List.mem_filter.1 hrow
    rw [← of_decide_eq_true hkey]
    exact hrow
  · intro h
    exact List.mem_map.2 ⟨(d, s), List.mem_filter.2 ⟨h, by simp⟩, rfl⟩

theorem nodup_descendants : (descendants tables s).Nodup := by
  apply (tables.lineage_spec.1.filter _).map_on
  intro row hrow row' hrow' heq
  have hkey := of_decide_eq_true (List.mem_filter.1 hrow).2
  have hkey' := of_decide_eq_true (List.mem_filter.1 hrow').2
  exact Prod.ext heq (hkey.trans hkey'.symm)

theorem sum_descendants (howners : ∀ row ∈ directOwned ownership, ∀ owner,
      row.semanticId = some owner → owner ∈ tables.ids) :
    ((descendants tables s).map (samplesOf ownership)).sum = samplesWithin tables ownership s := by
  classical
  have hkeys : ((descendants tables s).map some).Nodup :=
    nodup_descendants.map (Option.some_injective ℤ)
  have hgroups := sum_groups OwnedSample.semanticId hkeys (fun _ => 1) (directOwned ownership)
  have hcount : ∀ p : OwnedSample → Bool,
      (((directOwned ownership).filter p).map fun _ => 1).sum =
        (directOwned ownership).countP p := by
    intro p
    rw [List.countP_eq_length_filter]
    simp
  simp only [hcount, List.map_map] at hgroups
  rw [samplesWithin, show (descendants tables s).map (samplesOf ownership) =
    (descendants tables s).map ((fun k => (directOwned ownership).countP
      fun row => decide (row.semanticId = k)) ∘ some) from rfl, hgroups]
  apply List.countP_congr
  intro row hrow
  simp only [decide_eq_true_eq, List.mem_map]
  constructor
  · intro h
    obtain ⟨owner, howner, heq⟩ := h
    exact ⟨owner, heq.symm, (mem_descendants.1 howner).2⟩
  · intro h
    obtain ⟨owner, heq, hbelow⟩ := h
    exact ⟨owner, mem_descendants.2 ⟨howners row hrow owner heq, hbelow⟩, heq.symm⟩

theorem samplesWithin_le : samplesWithin tables ownership s ≤ ownership.length :=
  (List.countP_le_length).trans (List.length_filter_le _ _)

theorem filter_directCounts : (directCounts ownership).filter (·.1 = some s) =
    ((directCounts ownership).filter (·.1 = some s)).head?.toList :=
  filter_countBy_eq_head _ _ _

theorem getD_directCounts :
    (((directCounts ownership).filter (·.1 = some s)).head?.map Prod.snd).getD 0 =
      samplesOf ownership s :=
  getD_countBy _ _ _

theorem sum_joined (lineage : List (ℤ × ℤ)) :
    (((lineage.flatMap fun row => ((directCounts ownership).filter (·.1 = some row.1)).map
      fun direct => (row.2, direct.2)).filter (·.1 = s)).map Prod.snd).sum =
        (((lineage.filter (·.2 = s)).map Prod.fst).map (samplesOf ownership)).sum := by
  induction lineage with
  | nil => rfl
  | cons row lineage ih =>
    have hrow : (((((directCounts ownership).filter (·.1 = some row.1)).map
        fun direct => (row.2, direct.2)).filter (·.1 = s)).map Prod.snd).sum =
          if row.2 = s then samplesOf ownership row.1 else 0 := by
      rw [← getD_directCounts, filter_directCounts]
      cases ((directCounts ownership).filter (·.1 = some row.1)).head? with
      | none => simp
      | some direct =>
        by_cases heq : row.2 = s
        · simp [heq]
        · simp [heq]
    rw [List.flatMap_cons, List.filter_append, List.map_append, List.sum_append, ih, hrow]
    by_cases heq : row.2 = s
    · simp [heq]
    · simp [heq]

theorem semanticSampleCounts_eq (tables : SemanticTables) (ownership : List OwnedSample) :
    semanticSampleCounts tables ownership = tables.semantics.map fun semantic =>
      ⟨semantic.semanticId, samplesOf ownership semantic.semanticId,
        ((descendants tables semantic.semanticId).map (samplesOf ownership)).sum⟩ := by
  have hdirect : ∀ semantic ∈ tables.semantics, (directCounts ownership).filter
      (fun direct => decide (direct.1 = some semantic.semanticId)) =
        ((directCounts ownership).filter
          (fun direct => decide (direct.1 = some semantic.semanticId))).head?.toList :=
    fun semantic _ => filter_directCounts
  have hinclusive : ∀ row ∈ leftJoin (fun (semantic : SemanticSlice) (direct : Option ℤ × ℕ) =>
      direct.1 = some semantic.semanticId) tables.semantics (directCounts ownership),
      (inclusiveCounts tables ownership).filter
        (fun inclusive => decide (inclusive.1 = row.1.semanticId)) =
          ((inclusiveCounts tables ownership).filter
            (fun inclusive => decide (inclusive.1 = row.1.semanticId))).head?.toList :=
    fun row _ => filter_sumBy_eq_head _ _ _ _
  unfold semanticSampleCounts
  simp only
  rw [leftJoin_eq_map hinclusive, leftJoin_eq_map hdirect, List.map_map, List.map_map]
  apply List.map_congr_left
  intro semantic _
  have hsum : (((inclusiveCounts tables ownership).filter
      (fun inclusive => decide (inclusive.1 = semantic.semanticId))).head?.map Prod.snd).getD 0 =
        ((descendants tables semantic.semanticId).map (samplesOf ownership)).sum := by
    rw [inclusiveCounts, getD_sumBy]
    exact sum_joined tables.semanticLineage
  simp only [Function.comp_apply, getD_directCounts, hsum]

end Counts

section Fold
variable {tables : SemanticTables} {ownership : List OwnedSample} {records : List RankedSemantic}

/-- Records of the semantics with their parents and direct counts. -/
structure Records (tables : SemanticTables) (ownership : List OwnedSample)
    (records : List RankedSemantic) : Prop where
  ids : (records.map (·.semanticId)).Perm tables.ids
  parents : ∀ record ∈ records,
    (record.semanticId, record.parentSemanticId) ∈ tables.semanticParents
  direct : ∀ record ∈ records, ∀ count ∈ semanticSampleCounts tables ownership,
    count.semanticId = record.semanticId → record.directSampleCount = count.directSampleCount

namespace Records

theorem nodup (h : Records tables ownership records) : (records.map (·.semanticId)).Nodup :=
  h.ids.nodup_iff.2 tables.nodup

theorem parent_eq (h : Records tables ownership records) {record : RankedSemantic}
    (hrecord : record ∈ records) :
    record.parentSemanticId = tables.parentOf record.semanticId := by
  have hparent := h.parents record hrecord
  rw [SemanticTables.semanticParents_eq] at hparent
  obtain ⟨semantic, -, heq⟩ := List.mem_map.1 hparent
  obtain ⟨hid, hparent⟩ := Prod.mk.inj heq
  rw [← hparent, hid]

theorem direct_eq (h : Records tables ownership records) {record : RankedSemantic}
    (hrecord : record ∈ records) :
    record.directSampleCount = samplesOf ownership record.semanticId := by
  have hid : record.semanticId ∈ tables.ids :=
    h.ids.mem_iff.1 (List.mem_map_of_mem hrecord)
  obtain ⟨semantic, hsemantic, hid⟩ := List.mem_map.1 hid
  have hcount := semanticSampleCounts_eq tables ownership
  have hmem : ⟨semantic.semanticId, samplesOf ownership semantic.semanticId,
      ((descendants tables semantic.semanticId).map (samplesOf ownership)).sum⟩ ∈
        semanticSampleCounts tables ownership := by
    rw [hcount]
    exact List.mem_map_of_mem hsemantic
  rw [h.direct record hrecord _ hmem hid, ← hid]

theorem parentIn_eq (h : Records tables ownership records) :
    parentIn (RankedProfileDocument.semanticParents records) = tables.parentOf := by
  funext x
  unfold parentIn RankedProfileDocument.semanticParents
  by_cases hx : x ∈ records.map (·.semanticId)
  · obtain ⟨record, hrecord, rfl⟩ := List.mem_map.1 hx
    rw [HashMap.get?_collect_map h.nodup hrecord, h.parent_eq hrecord]
    rfl
  · have hnone : tables.parentOf x = none := by
      apply Option.eq_none_iff_forall_ne_some.2
      intro p hp
      exact hx (h.ids.mem_iff.2 (SemanticTables.mem_of_parentOf hp).1)
    have hget : (HashMap.collect (records.map fun record =>
        (record.semanticId, record.parentSemanticId))).get? x = none := by
      apply Option.eq_none_iff_forall_ne_some.2
      intro parent hparent
      obtain ⟨record, hrecord, hid, -⟩ :=
        (HashMap.get?_collect_map_iff RankedSemantic.parentSemanticId h.nodup).1 hparent
      exact hx (List.mem_map.2 ⟨record, hrecord, hid⟩)
    rw [hnone, hget]
    rfl

open Classical in
theorem sum_below (h : Records tables ownership records) (s : ℤ) :
    ((records.filter fun x => Below (parentIn (RankedProfileDocument.semanticParents records))
      x.semanticId s).map (·.directSampleCount)).sum =
        (((descendants tables s).map (samplesOf ownership)).sum : ℕ) := by
  have hdirect : (records.filter fun x => Below tables.parentOf x.semanticId s).map
      (·.directSampleCount) = (records.filter fun x =>
        Below tables.parentOf x.semanticId s).map fun x => (samplesOf ownership x.semanticId : ℤ) := by
    apply List.map_congr_left
    intro record hrecord
    exact h.direct_eq (List.mem_filter.1 hrecord).1
  have hset : ((records.map (·.semanticId)).toFinset.filter (Below tables.parentOf · s)) =
      (descendants tables s).toFinset := by
    ext d
    rw [Finset.mem_filter, List.mem_toFinset, List.mem_toFinset, mem_descendants,
      h.ids.mem_iff]
  have hsum := sum_keys_filter h.nodup (fun k => (samplesOf ownership k : ℤ))
    (Below tables.parentOf · s)
  rw [h.parentIn_eq, hdirect, ← hsum, hset, ← Nat.cast_sum,
    List.sum_toFinset _ nodup_descendants]

theorem foldSemantics_ok (h : Records tables ownership records)
    {order : IterationOrder ReportMap} {folded : List RankedSemantic}
    (hfold : foldSemantics order records = .ok folded) :
    folded.map (·.semanticId) = records.map (·.semanticId) ∧
      ∀ record ∈ folded, record.inclusiveSampleCount =
        (((descendants tables record.semanticId).map (samplesOf ownership)).sum : ℕ) := by
  rw [foldSemantics_eq_ok h.nodup hfold]
  constructor
  · rw [List.map_map]
    rfl
  · intro record hrecord
    obtain ⟨source, hsource, rfl⟩ := List.mem_map.1 hrecord
    exact h.sum_below source.semanticId

theorem foldSemantics_isOk (h : Records tables ownership records)
    (hforest : IsForest tables.parentOf tables.ids.toFinset)
    (howners : ∀ row ∈ directOwned ownership, ∀ owner,
      row.semanticId = some owner → owner ∈ tables.ids)
    (hlength : (ownership.length : ℤ) ≤ i64Max) (order : IterationOrder ReportMap) :
    ∃ folded, foldSemantics order records = .ok folded := by
  classical
  have hnodes : (records.map (·.semanticId)).toFinset = tables.ids.toFinset := by
    ext x
    rw [List.mem_toFinset, List.mem_toFinset, h.ids.mem_iff]
  have hforest' : IsForest (parentIn (RankedProfileDocument.semanticParents records))
      (records.map (·.semanticId)).toFinset := by
    rw [h.parentIn_eq, hnodes]
    exact hforest
  have hnonneg : ∀ record ∈ records, 0 ≤ record.directSampleCount := by
    intro record hrecord
    rw [h.direct_eq hrecord]
    exact Int.natCast_nonneg _
  have hbound : ∀ record ∈ records, ((records.filter fun x =>
      Below (parentIn (RankedProfileDocument.semanticParents records)) x.semanticId
        record.semanticId).map (·.directSampleCount)).sum ≤ i64Max := by
    intro record _
    rw [h.sum_below, sum_descendants howners]
    have hle : samplesWithin tables ownership record.semanticId ≤ ownership.length :=
      samplesWithin_le
    omega
  obtain ⟨inclusive, hinclusive⟩ := foldInclusiveCounts_records_isSome order .semanticFold h.nodup
    hforest' hnonneg hbound
  exact ⟨_, foldSemantics_of_fold h.nodup hinclusive⟩

end Records

end Fold

theorem ownership_rows (tables : SemanticTables) (input : SampleTables) :
    sampleOwnership tables input = input.samples.map (ownedSampleOf tables input id) :=
  ownershipOf_eq tables input id

theorem ownedSampleOf_sampleId {tables : SemanticTables} {input : SampleTables}
    {tieBreak : ℤ → ℤ} {sample : CorrelatedSample} :
    (ownedSampleOf tables input tieBreak sample).sampleId = sample.sampleId := by
  unfold ownedSampleOf ownedSample
  rfl

theorem owners_mem {tables : SemanticTables} {input : SampleTables}
    (hforest : IsForest tables.parentOf tables.ids.toFinset) :
    ∀ row ∈ directOwned (sampleOwnership tables input), ∀ owner,
      row.semanticId = some owner → owner ∈ tables.ids := by
  intro row hrow owner howner
  have hrow := (List.mem_filter.1 hrow).1
  rw [ownership_rows] at hrow
  obtain ⟨sample, hsample, rfl⟩ := List.mem_map.1 hrow
  obtain ⟨-, -, hinner⟩ := (ownedSampleOf_semanticId hforest hsample).1 howner
  obtain ⟨candidate, hcandidate, -, rfl⟩ := mem_candidatesOf.1 hinner.1
  exact (candidate_spec hcandidate).1

/-- Every sample has one row of ownership. It is direct exactly when its candidates are a chain,
and then owned by the one with all others above it; the inclusive counts are the direct samples at
or below a semantic, also those of the fold. -/
theorem sample_charged_to_innermost (tables : SemanticTables) (input : SampleTables)
    (hacyclic : tables.semanticCycles = []) :
    (∀ sample ∈ input.samples, ∃ row,
      (sampleOwnership tables input).filter (·.sampleId = sample.sampleId) = [row] ∧
      (∀ s, row.attribution = .direct ∧ row.semanticId = some s ↔
        sample.attribution ≠ .ambiguous ∧ IsChain tables input sample.sampleId ∧
          Innermost tables input sample.sampleId s) ∧
      (row.attribution = .ambiguous ↔
        sample.attribution = .ambiguous ∨ ∃ s ∈ candidatesOf tables input sample.sampleId,
          ∃ s' ∈ candidatesOf tables input sample.sampleId,
            ¬Below tables.parentOf s s' ∧ ¬Below tables.parentOf s' s) ∧
      (row.attribution = .unattributed ↔ sample.attribution ≠ .ambiguous ∧
        candidatesOf tables input sample.sampleId = [])) ∧
    (∀ tieBreak : ℤ → ℤ, (ownershipOf tables input (candidateRankings tieBreak
        (sampleSemanticCandidates tables input))).map
          (fun row => (row.sampleId, row.attribution, row.semanticId)) =
      (sampleOwnership tables input).map
        fun row => (row.sampleId, row.attribution, row.semanticId)) ∧
    (semanticSampleCounts tables (sampleOwnership tables input) =
      tables.semantics.map fun semantic =>
        ⟨semantic.semanticId, samplesOf (sampleOwnership tables input) semantic.semanticId,
          samplesWithin tables (sampleOwnership tables input) semantic.semanticId⟩) ∧
    ∀ records, Records tables (sampleOwnership tables input) records →
      ∀ order : IterationOrder ReportMap,
        (∀ folded, foldSemantics order records = .ok folded →
          folded.map (·.semanticId) = records.map (·.semanticId) ∧
          ∀ record ∈ folded, record.inclusiveSampleCount =
            samplesWithin tables (sampleOwnership tables input) record.semanticId) ∧
        ((input.samples.length : ℤ) ≤ i64Max →
          ∃ folded, foldSemantics order records = .ok folded) := by
  have hforest := SemanticTables.isForest_of_no_cycles hacyclic
  -- the counts below a semantic add up to the samples that its descendants own
  have hsum : ∀ s, ((descendants tables s).map
      (samplesOf (sampleOwnership tables input))).sum =
        samplesWithin tables (sampleOwnership tables input) s :=
    fun s => sum_descendants (owners_mem hforest)
  refine ⟨?_, ?_, ?_, ?_⟩
  · intro sample hsample
    refine ⟨ownedSampleOf tables input id sample, ?_,
      fun s => ownedSampleOf_direct hforest hsample, ?_, ownedSampleOf_unattributed⟩
    · rw [ownership_rows, List.filter_map]
      show (input.samples.filter fun other => decide (other.sampleId = sample.sampleId)).map _ = _
      rw [filter_key_eq_singleton input.nodup hsample]
      rfl
    · rw [ownedSampleOf_ambiguous hforest]
      unfold IsChain
      push Not
      rfl
  · intro tieBreak
    rw [ownershipOf_eq, ownership_rows, List.map_map, List.map_map]
    apply List.map_congr_left
    intro sample hsample
    obtain ⟨hattribution, hsemantic⟩ := ownedSampleOf_tieBreak hforest hsample tieBreak id
    rw [Function.comp_apply, Function.comp_apply, hattribution, hsemantic, ownedSampleOf_sampleId,
      ownedSampleOf_sampleId]
  · rw [semanticSampleCounts_eq]
    simp only [hsum]
  · intro records h order
    constructor
    · intro folded hfold
      obtain ⟨hids, hinclusive⟩ := h.foldSemantics_ok hfold
      refine ⟨hids, ?_⟩
      intro record hrecord
      rw [hinclusive record hrecord, hsum]
    · intro hlength
      apply h.foldSemantics_isOk hforest (owners_mem hforest) _ order
      rw [ownership_rows, List.length_map]
      exact hlength

def noIdentity : ExecutionIdentity := ⟨none, none, none, none, none, none, none⟩

def nestedTables : SemanticTables where
  semantics :=
    [⟨1, 0, 10, .int 5, noIdentity⟩, ⟨2, 2, 8, .int 5, noIdentity⟩,
      ⟨3, 6, 9, .int 5, noIdentity⟩]
  parentCandidates := [⟨2, 1, 0, 1, 0, 10⟩, ⟨3, 1, 0, 1, 0, 10⟩]
  nodup := by decide
  candidates_mem := by decide

/-- A sample inside the first two, one inside all three, one in the outer semantic alone, and one
outside. -/
def nestedSamples : SampleTables where
  samples := [3, 7, 9, 20].map fun ts =>
    ⟨ts, ts, 1, none, none, .direct, some (.int 5), noIdentity⟩
  captureScopeId := none
  nodup := by decide

/-- The records of the three, with their direct counts. -/
def nestedRecords : List RankedSemantic :=
  [(1, none, 1), (2, some 1, 1), (3, some 1, 0)].map fun (id, parent, direct) =>
    { RankedProfileDocument.planningDocument.operation with
      semanticId := id, parentSemanticId := parent, directSampleCount := direct
      inclusiveSampleCount := 0 }

theorem nested_samples_charged_to_innermost :
    nestedTables.semanticCycles = [] ∧
      (∀ sample ∈ nestedSamples.samples, ∃ row,
        (sampleOwnership nestedTables nestedSamples).filter (·.sampleId = sample.sampleId) =
          [row]) ∧
      (sampleOwnership nestedTables nestedSamples).map
        (fun row => (row.sampleId, row.attribution, row.semanticId)) =
          [(3, .direct, some 2), (7, .ambiguous, none), (9, .direct, some 1),
            (20, .unattributed, none)] ∧
      (∃ s ∈ candidatesOf nestedTables nestedSamples 7,
        ∃ s' ∈ candidatesOf nestedTables nestedSamples 7,
          ¬Below nestedTables.parentOf s s' ∧ ¬Below nestedTables.parentOf s' s) ∧
      ∃ folded, foldSemantics (.inserted ReportMap) nestedRecords = .ok folded ∧
        folded.map (·.inclusiveSampleCount) = [2, 1, 0] ∧
        ∀ record ∈ folded, record.inclusiveSampleCount = samplesWithin nestedTables
          (sampleOwnership nestedTables nestedSamples) record.semanticId := by
  have hacyclic : nestedTables.semanticCycles = [] := by decide
  obtain ⟨hrows, -, -, hfold⟩ := sample_charged_to_innermost nestedTables nestedSamples hacyclic
  have hrecords : Records nestedTables (sampleOwnership nestedTables nestedSamples)
      nestedRecords := ⟨List.Perm.refl _, by decide, by decide⟩
  obtain ⟨hcounts, -⟩ := hfold nestedRecords hrecords (.inserted ReportMap)
  have hfolded : ∃ folded, foldSemantics (.inserted ReportMap) nestedRecords = .ok folded ∧
      folded.map (·.inclusiveSampleCount) = [2, 1, 0] := ⟨_, rfl, rfl⟩
  obtain ⟨folded, hfolded, hinclusive⟩ := hfolded
  refine ⟨hacyclic, ?_, by decide, ?_, folded, hfolded, hinclusive, (hcounts folded hfolded).2⟩
  · intro sample hsample
    obtain ⟨row, hrow, -⟩ := hrows sample hsample
    exact ⟨row, hrow⟩
  · have hsample : ⟨7, 7, 1, none, none, .direct, some (.int 5), noIdentity⟩ ∈
        nestedSamples.samples := by decide
    obtain ⟨row, hrow, -, hambiguous, -⟩ := hrows _ hsample
    have hattributions : ((sampleOwnership nestedTables nestedSamples).filter
        (·.sampleId = 7)).map (·.attribution) = [.ambiguous] := by decide
    rw [hrow] at hattributions
    rcases hambiguous.1 (List.singleton_inj.1 hattributions) with hcorrelated | hconflict
    · cases hcorrelated
    · exact hconflict

end DeltaFunnel
