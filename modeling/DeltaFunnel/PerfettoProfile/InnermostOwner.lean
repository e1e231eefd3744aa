import DeltaFunnel.PerfettoProfile.SampleOwnership

/-! A CPU sample is charged to the unique innermost compatible semantic. -/

namespace DeltaFunnel
open Relational Graph Collections

namespace SemanticTables
variable {tables : SemanticTables} {d a x p : ℤ}

def parentOf (tables : SemanticTables) (id : ℤ) : Option ℤ :=
  (firstRow (·.semanticId) parentOrder tables.parentCandidates id).map (·.parentSemanticId)

theorem mem_of_parentOf (h : tables.parentOf x = some p) : x ∈ tables.ids ∧ p ∈ tables.ids := by
  obtain ⟨candidate, hfirst, rfl⟩ := Option.map_eq_some_iff.1 h
  obtain ⟨hmem, hkey, -⟩ := firstRow_spec hfirst
  have hids := tables.candidates_mem candidate hmem
  rw [hkey] at hids
  exact hids

theorem mem_ids_of_below (hx : x ∈ tables.ids) (h : Below tables.parentOf x a) :
    a ∈ tables.ids := by
  induction h with
  | refl x => exact hx
  | up hparent _ ih => exact ih (mem_of_parentOf hparent).2

theorem semanticParents_eq (tables : SemanticTables) : tables.semanticParents =
    tables.semantics.map fun semantic =>
      (semantic.semanticId, tables.parentOf semantic.semanticId) := by
  have hpartner : ∀ semantic ∈ tables.semantics, tables.semanticParentRankings.filter
      (fun selected => decide (selected.2 = 1) &&
        decide (selected.1.semanticId = semantic.semanticId)) =
      ((firstRow (·.semanticId) parentOrder tables.parentCandidates semantic.semanticId).map
        (·, 1)).toList := by
    intro semantic _
    rw [semanticParentRankings, filter_rowNumber_one, Option.toList_map]
  rw [semanticParents, leftJoin_eq_map hpartner, List.map_map]
  apply List.map_congr_left
  intro semantic _
  rw [Function.comp_apply, Option.map_map]
  rfl

theorem mem_ancestryStep {row next : ℤ × ℤ} :
    next ∈ tables.ancestryStep row ↔ ∃ p, tables.parentOf row.2 = some p ∧ next = (row.1, p) := by
  unfold ancestryStep
  rw [semanticParents_eq, List.mem_filterMap]
  constructor
  · intro h
    obtain ⟨parent, hparent, hnext⟩ := h
    obtain ⟨semantic, -, rfl⟩ := List.mem_map.1 hparent
    split_ifs at hnext with heq
    · obtain ⟨p, hp, rfl⟩ := Option.map_eq_some_iff.1 hnext
      rw [← heq]
      exact ⟨p, hp, rfl⟩
  · intro h
    obtain ⟨p, hp, rfl⟩ := h
    obtain ⟨semantic, hsemantic, hid⟩ := List.mem_map.1 (mem_of_parentOf hp).1
    refine ⟨_, List.mem_map_of_mem hsemantic, ?_⟩
    rw [if_pos hid, hid, hp]
    rfl

theorem reaches_iff {row next : ℤ × ℤ} :
    Relation.ReflTransGen (fun a b => b ∈ tables.ancestryStep a) row next ↔
      next.1 = row.1 ∧ Below tables.parentOf row.2 next.2 := by
  constructor
  · intro h
    induction h with
    | refl => exact ⟨rfl, .refl _⟩
    | tail _ hstep ih =>
      obtain ⟨p, hp, rfl⟩ := mem_ancestryStep.1 hstep
      exact ⟨ih.1, ih.2.trans (.single hp)⟩
  · intro h
    obtain ⟨d, x⟩ := row
    obtain ⟨d', a⟩ := next
    obtain ⟨hd, hbelow⟩ := h
    have hd : d' = d := hd
    subst hd
    have hbelow : Below tables.parentOf x a := hbelow
    induction hbelow with
    | refl x => exact .refl
    | up hparent rest ih => exact .head (mem_ancestryStep.2 ⟨_, hparent, rfl⟩) (ih rfl rest)

theorem recurse_spec {rows : List (ℤ × ℤ)}
    (hrows : ∀ row ∈ rows, row.1 ∈ tables.ids ∧ row.2 ∈ tables.ids) :
    (tables.recurse rows).Nodup ∧ ∀ row, row ∈ tables.recurse rows ↔
      ∃ start ∈ rows, row.1 = start.1 ∧ Below tables.parentOf start.2 row.2 := by
  have hcard : (tables.ids.toFinset ×ˢ tables.ids.toFinset).card ≤
      tables.semantics.length * tables.semantics.length := by
    rw [Finset.card_product]
    have hle : tables.ids.toFinset.card ≤ tables.semantics.length := by
      have hlength := List.toFinset_card_le tables.ids
      rwa [ids, List.length_map] at hlength
    exact Nat.mul_le_mul hle hle
  have hmem : ∀ row : ℤ × ℤ, row ∈ tables.ids.toFinset ×ˢ tables.ids.toFinset ↔
      row.1 ∈ tables.ids ∧ row.2 ∈ tables.ids := by
    intro row
    rw [Finset.mem_product, List.mem_toFinset, List.mem_toFinset]
  have hclosed : ∀ row ∈ tables.ids.toFinset ×ˢ tables.ids.toFinset,
      ∀ next ∈ tables.ancestryStep row, next ∈ tables.ids.toFinset ×ˢ tables.ids.toFinset := by
    intro row hrow next hnext
    obtain ⟨p, hp, rfl⟩ := mem_ancestryStep.1 hnext
    exact (hmem _).2 ⟨((hmem row).1 hrow).1, (mem_of_parentOf hp).2⟩
  have hspec := recursiveUnion_spec (fun row hrow => (hmem row).2 (hrows row hrow)) hclosed hcard
  refine ⟨hspec.1, ?_⟩
  intro row
  rw [recurse, hspec.2 row]
  simp only [reaches_iff]

theorem lineage_spec (tables : SemanticTables) : tables.semanticLineage.Nodup ∧
    ∀ d a, (d, a) ∈ tables.semanticLineage ↔ d ∈ tables.ids ∧ Below tables.parentOf d a := by
  have hstart : ∀ row ∈ tables.semantics.map fun semantic =>
      (semantic.semanticId, semantic.semanticId), row.1 ∈ tables.ids ∧ row.2 ∈ tables.ids := by
    intro row hrow
    obtain ⟨semantic, hsemantic, rfl⟩ := List.mem_map.1 hrow
    have hid : semantic.semanticId ∈ tables.ids := List.mem_map_of_mem hsemantic
    exact ⟨hid, hid⟩
  obtain ⟨hnodup, hmem⟩ := recurse_spec hstart
  refine ⟨hnodup, ?_⟩
  intro d a
  rw [semanticLineage, hmem]
  constructor
  · intro h
    obtain ⟨start, hrow, hd, hbelow⟩ := h
    obtain ⟨semantic, hsemantic, rfl⟩ := List.mem_map.1 hrow
    have hd : d = semantic.semanticId := hd
    rw [hd]
    exact ⟨List.mem_map_of_mem hsemantic, hbelow⟩
  · intro h
    obtain ⟨hd, hbelow⟩ := h
    obtain ⟨semantic, hsemantic, rfl⟩ := List.mem_map.1 hd
    exact ⟨_, List.mem_map_of_mem hsemantic, rfl, hbelow⟩

theorem isForest_of_no_cycles (h : tables.semanticCycles = []) :
    IsForest tables.parentOf tables.ids.toFinset := by
  have hstart : ∀ row ∈ tables.semanticParents.filterMap fun parent => parent.2.map (parent.1, ·),
      row.1 ∈ tables.ids ∧ row.2 ∈ tables.ids := by
    intro row hrow
    rw [semanticParents_eq] at hrow
    obtain ⟨parent, hparent, hrow⟩ := List.mem_filterMap.1 hrow
    obtain ⟨semantic, -, rfl⟩ := List.mem_map.1 hparent
    obtain ⟨p, hp, rfl⟩ := Option.map_eq_some_iff.1 hrow
    exact mem_of_parentOf hp
  obtain ⟨-, hmem⟩ := recurse_spec hstart
  apply isForest_of_acyclic
  · intro x _ y hparent
    exact List.mem_toFinset.2 (mem_of_parentOf hparent).2
  · intro x hx y hparent hback
    have hseed : (x, y) ∈ tables.semanticParents.filterMap fun parent =>
        parent.2.map (parent.1, ·) := by
      obtain ⟨semantic, hsemantic, hid⟩ := List.mem_map.1 (List.mem_toFinset.1 hx)
      rw [semanticParents_eq]
      refine List.mem_filterMap.2 ⟨_, List.mem_map_of_mem hsemantic, ?_⟩
      rw [hid, hparent]
      rfl
    have hcycle : x ∈ tables.semanticCycles := by
      apply List.mem_dedup.2
      apply List.mem_map.2
      refine ⟨(x, x), List.mem_filter.2 ⟨?_, by simp⟩, rfl⟩
      exact (hmem (x, x)).2 ⟨(x, y), hseed, rfl, hback⟩
    rw [h] at hcycle
    exact List.not_mem_nil hcycle

def depthOf (tables : SemanticTables) (id : ℤ) : ℕ :=
  tables.semanticLineage.countP (·.1 = id) - 1

theorem countP_lineage (hx : x ∈ tables.ids) : tables.semanticLineage.countP (·.1 = x) =
    (ancestors tables.parentOf tables.ids.toFinset x).card := by
  obtain ⟨hnodup, hmem⟩ := tables.lineage_spec
  have hset : ((tables.semanticLineage.filter (·.1 = x)).map Prod.snd).toFinset =
      (ancestors tables.parentOf tables.ids.toFinset x) := by
    ext a
    rw [List.mem_toFinset, mem_ancestors, List.mem_toFinset]
    constructor
    · intro h
      obtain ⟨row, hrow, rfl⟩ := List.mem_map.1 h
      obtain ⟨hrow, hkey⟩ := List.mem_filter.1 hrow
      obtain ⟨-, hbelow⟩ := (hmem row.1 row.2).1 hrow
      rw [of_decide_eq_true hkey] at hbelow
      exact ⟨mem_ids_of_below hx hbelow, hbelow⟩
    · intro h
      exact List.mem_map.2 ⟨(x, a), List.mem_filter.2 ⟨(hmem x a).2 ⟨hx, h.2⟩, by simp⟩, rfl⟩
  rw [← hset, List.toFinset_card_of_nodup, List.length_map, List.countP_eq_length_filter]
  apply (hnodup.filter _).map_on
  intro row hrow row' hrow' heq
  have hkey := of_decide_eq_true (List.mem_filter.1 hrow).2
  have hkey' := of_decide_eq_true (List.mem_filter.1 hrow').2
  exact Prod.ext (hkey.trans hkey'.symm) heq

theorem depthOf_lt (hforest : IsForest tables.parentOf tables.ids.toFinset) (hx : x ∈ tables.ids)
    (hbelow : Below tables.parentOf x a) (hne : x ≠ a) : tables.depthOf a < tables.depthOf x := by
  have hnode := List.mem_toFinset.2 hx
  have ha := mem_ids_of_below hx hbelow
  have hlt := hforest.card_ancestors_lt_of_below hnode hbelow hne
  have hpos : 0 < (ancestors tables.parentOf tables.ids.toFinset a).card :=
    Finset.card_pos.2 ⟨a, mem_ancestors.2 ⟨List.mem_toFinset.2 ha, .refl a⟩⟩
  unfold depthOf
  rw [countP_lineage ha, countP_lineage hx]
  omega

theorem filter_semanticDepths (hx : x ∈ tables.ids) :
    tables.semanticDepths.filter (·.1 = x) = [(x, tables.depthOf x)] := by
  have hmem : x ∈ tables.semanticLineage.map Prod.fst :=
    List.mem_map.2 ⟨(x, x), ((tables.lineage_spec).2 x x).2 ⟨hx, .refl x⟩, rfl⟩
  unfold semanticDepths
  rw [List.filter_map]
  show ((countBy Prod.fst tables.semanticLineage).filter fun row => decide (row.1 = x)).map _ = _
  rw [filter_countBy, if_pos hmem]
  rfl

end SemanticTables

section Candidates
variable {tables : SemanticTables} {input : SampleTables} {tieBreak : ℤ → ℤ} {sampleId : ℤ}

theorem mem_sampleSemanticCandidates {candidate : SampleCandidate} :
    candidate ∈ sampleSemanticCandidates tables input ↔
      ∃ sample ∈ input.samples, sampleEligible input.captureScopeId sample = true ∧
        ∃ semantic ∈ tables.semantics, sampleInSemantic sample semantic = true ∧
          candidate = ⟨sample.sampleId, semantic.semanticId,
            tables.depthOf semantic.semanticId⟩ := by
  have hdepth : ∀ semantic ∈ tables.semantics, tables.semanticDepths.filter
      (fun row => decide (row.1 = semantic.semanticId)) =
        [(semantic.semanticId, tables.depthOf semantic.semanticId)] := by
    intro semantic hsemantic
    exact SemanticTables.filter_semanticDepths (List.mem_map_of_mem hsemantic)
  unfold sampleSemanticCandidates
  constructor
  · intro h
    obtain ⟨sample, hsample, h⟩ := List.mem_flatMap.1 h
    obtain ⟨semantic, hsemantic, h⟩ := List.mem_flatMap.1 h
    obtain ⟨hsample, heligible⟩ := List.mem_filter.1 hsample
    obtain ⟨hsemantic, hin⟩ := List.mem_filter.1 hsemantic
    rw [hdepth semantic hsemantic, List.map_singleton, List.mem_singleton] at h
    exact ⟨sample, hsample, heligible, semantic, hsemantic, hin, h⟩
  · intro h
    obtain ⟨sample, hsample, heligible, semantic, hsemantic, hin, rfl⟩ := h
    apply List.mem_flatMap.2
    refine ⟨sample, List.mem_filter.2 ⟨hsample, heligible⟩, List.mem_flatMap.2
      ⟨semantic, List.mem_filter.2 ⟨hsemantic, hin⟩, ?_⟩⟩
    rw [hdepth semantic hsemantic, List.map_singleton]
    exact List.mem_singleton_self _

theorem candidate_spec {candidate : SampleCandidate}
    (h : candidate ∈ sampleSemanticCandidates tables input) :
    candidate.semanticId ∈ tables.ids ∧
      candidate.semanticDepth = tables.depthOf candidate.semanticId := by
  obtain ⟨sample, -, -, semantic, hsemantic, -, rfl⟩ := mem_sampleSemanticCandidates.1 h
  exact ⟨List.mem_map_of_mem hsemantic, rfl⟩

def bestCandidate (tables : SemanticTables) (input : SampleTables) (tieBreak : ℤ → ℤ)
    (sampleId : ℤ) : Option SampleCandidate :=
  firstRow (·.sampleId) (candidateOrder tieBreak) (sampleSemanticCandidates tables input) sampleId

theorem bestCandidate_eq_some {best : SampleCandidate}
    (h : bestCandidate tables input tieBreak sampleId = some best) :
    best ∈ sampleSemanticCandidates tables input ∧ best.sampleId = sampleId ∧
      ∀ candidate ∈ sampleSemanticCandidates tables input, candidate.sampleId = sampleId →
        candidate.semanticDepth ≤ best.semanticDepth := by
  obtain ⟨hmem, hid, hfirst⟩ := firstRow_spec h
  refine ⟨hmem, hid, ?_⟩
  intro candidate hcandidate hsample
  have hle := hfirst candidate hcandidate hsample
  rcases (Prod.Lex.toLex_le_toLex).1 hle with hlt | heq
  · have hdepth : -(best.semanticDepth : ℤ) < -(candidate.semanticDepth : ℤ) := hlt
    omega
  · have hdepth : -(best.semanticDepth : ℤ) = -(candidate.semanticDepth : ℤ) := heq.1
    omega

theorem bestCandidate_eq_none : bestCandidate tables input tieBreak sampleId = none ↔
    ∀ candidate ∈ sampleSemanticCandidates tables input, candidate.sampleId ≠ sampleId :=
  firstRow_eq_none

def conflictCount (tables : SemanticTables) (input : SampleTables) (tieBreak : ℤ → ℤ)
    (sampleId : ℤ) : ℕ :=
  (((conflictsOf tables input (candidateRankings tieBreak
    (sampleSemanticCandidates tables input))).filter (·.1 = sampleId)).head?.map Prod.snd).getD 0

theorem mem_comparedCandidates {pair : SampleCandidate × SampleCandidate} :
    pair ∈ comparedCandidates tables input
        (candidateRankings tieBreak (sampleSemanticCandidates tables input)) ↔
      pair.1 ∈ sampleSemanticCandidates tables input ∧
        bestCandidate tables input tieBreak pair.1.sampleId = some pair.2 := by
  unfold comparedCandidates
  rw [List.mem_flatMap]
  simp only [candidateRankings, filter_rowNumber_one, List.map_map, Option.mem_toList,
    List.mem_map]
  constructor
  · intro h
    obtain ⟨candidate, hcandidate, best, hbest, rfl⟩ := h
    exact ⟨hcandidate, hbest⟩
  · intro h
    exact ⟨pair.1, h.1, pair.2, h.2, rfl⟩

theorem conflictCount_eq_zero : conflictCount tables input tieBreak sampleId = 0 ↔
    ∀ candidate ∈ sampleSemanticCandidates tables input, candidate.sampleId = sampleId →
      ∀ best, bestCandidate tables input tieBreak sampleId = some best →
        Below tables.parentOf best.semanticId candidate.semanticId := by
  obtain ⟨-, hlineage⟩ := tables.lineage_spec
  unfold conflictCount conflictsOf
  rw [getD_countBy, List.countP_eq_zero]
  constructor
  · intro h candidate hcandidate hid best hbest
    by_contra hbelow
    have hpair : (candidate, best) ∈ comparedCandidates tables input
        (candidateRankings tieBreak (sampleSemanticCandidates tables input)) := by
      apply mem_comparedCandidates.2
      rw [hid]
      exact ⟨hcandidate, hbest⟩
    refine h ((candidate, best), none) (mem_leftJoin_isNone.2 ⟨hpair, rfl, ?_⟩)
      (decide_eq_true hid)
    intro other hother
    apply decide_eq_false
    intro heq
    rw [heq] at hother
    exact hbelow ((hlineage _ _).1 hother).2
  · intro h row hrow hkey
    obtain ⟨hpair, -, hon⟩ := mem_leftJoin_isNone.1 hrow
    obtain ⟨hcandidate, hbest⟩ := mem_comparedCandidates.1 hpair
    have hid := of_decide_eq_true hkey
    rw [hid] at hbest
    have hbelow := h _ hcandidate hid _ hbest
    have hmem := (bestCandidate_eq_some hbest).1
    have hpresent := (hlineage _ _).2 ⟨(candidate_spec hmem).1, hbelow⟩
    have habsent := hon _ hpresent
    simp at habsent

theorem bestOf_eq : bestOf tables input (candidateRankings tieBreak
      (sampleSemanticCandidates tables input)) =
    ((candidateRankings tieBreak (sampleSemanticCandidates tables input)).filter
      (fun row => decide (row.2 = 1))).map fun row =>
        (row.1, conflictCount tables input tieBreak row.1.sampleId) := by
  have hconflicts : ∀ row ∈ (candidateRankings tieBreak
      (sampleSemanticCandidates tables input)).filter (fun row => decide (row.2 = 1)),
      (conflictsOf tables input (candidateRankings tieBreak
        (sampleSemanticCandidates tables input))).filter
          (fun conflict => decide (conflict.1 = row.1.sampleId)) =
        ((conflictsOf tables input (candidateRankings tieBreak
          (sampleSemanticCandidates tables input))).filter
            (fun conflict => decide (conflict.1 = row.1.sampleId))).head?.toList := by
    intro row _
    exact filter_countBy_eq_head _ _ _
  unfold bestOf
  rw [leftJoin_eq_map hconflicts, List.map_map]
  rfl

/-- What a sample is charged to, from its best candidate. -/
def ownedSampleOf (tables : SemanticTables) (input : SampleTables) (tieBreak : ℤ → ℤ)
    (sample : CorrelatedSample) : OwnedSample :=
  ownedSample sample ((bestCandidate tables input tieBreak sample.sampleId).map fun best =>
    (best, conflictCount tables input tieBreak sample.sampleId))

theorem ownershipOf_eq (tables : SemanticTables) (input : SampleTables) (tieBreak : ℤ → ℤ) :
    ownershipOf tables input (candidateRankings tieBreak (sampleSemanticCandidates tables input)) =
      input.samples.map (ownedSampleOf tables input tieBreak) := by
  have hbest : ∀ sample ∈ input.samples, (bestOf tables input (candidateRankings tieBreak
      (sampleSemanticCandidates tables input))).filter
        (fun best => decide (best.1.sampleId = sample.sampleId)) =
      ((bestCandidate tables input tieBreak sample.sampleId).map fun best =>
        (best, conflictCount tables input tieBreak sample.sampleId)).toList := by
    intro sample _
    have hfirst : (candidateRankings tieBreak (sampleSemanticCandidates tables input)).filter
        (fun row => decide (row.1.sampleId = sample.sampleId) && decide (row.2 = 1)) =
        (bestCandidate tables input tieBreak sample.sampleId).toList.map (·, 1) := by
      simp only [Bool.and_comm (decide (_ = sample.sampleId))]
      exact filter_rowNumber_one sample.sampleId
    rw [bestOf_eq, List.filter_map, List.filter_filter]
    show ((candidateRankings tieBreak (sampleSemanticCandidates tables input)).filter
      (fun row => decide (row.1.sampleId = sample.sampleId) && decide (row.2 = 1))).map _ = _
    rw [hfirst]
    cases hbest : bestCandidate tables input tieBreak sample.sampleId with
    | none => rfl
    | some best =>
      have hid := (bestCandidate_eq_some hbest).2.1
      simp only [Option.toList_some, List.map_cons, List.map_nil, Option.map_some, hid]
  unfold ownershipOf
  rw [leftJoin_eq_map hbest, List.map_map]
  rfl

def candidatesOf (tables : SemanticTables) (input : SampleTables) (sampleId : ℤ) : List ℤ :=
  ((sampleSemanticCandidates tables input).filter (·.sampleId = sampleId)).map (·.semanticId)

theorem mem_candidatesOf {s : ℤ} : s ∈ candidatesOf tables input sampleId ↔
    ∃ candidate ∈ sampleSemanticCandidates tables input, candidate.sampleId = sampleId ∧
      candidate.semanticId = s := by
  unfold candidatesOf
  simp only [List.mem_map, List.mem_filter, decide_eq_true_eq, and_assoc]

/-- Any two candidates of a sample are on one path to a root. -/
def IsChain (tables : SemanticTables) (input : SampleTables) (sampleId : ℤ) : Prop :=
  ∀ s ∈ candidatesOf tables input sampleId, ∀ s' ∈ candidatesOf tables input sampleId,
    Below tables.parentOf s s' ∨ Below tables.parentOf s' s

/-- The candidate that has all others above it. -/
def Innermost (tables : SemanticTables) (input : SampleTables) (sampleId s : ℤ) : Prop :=
  s ∈ candidatesOf tables input sampleId ∧
    ∀ s' ∈ candidatesOf tables input sampleId, Below tables.parentOf s s'

theorem not_ambiguous_of_mem {sample : CorrelatedSample} (hsample : sample ∈ input.samples)
    {s : ℤ} (h : s ∈ candidatesOf tables input sample.sampleId) :
    sample.attribution ≠ .ambiguous := by
  obtain ⟨candidate, hcandidate, hid, -⟩ := mem_candidatesOf.1 h
  obtain ⟨sample', hsample', heligible, semantic, -, -, rfl⟩ :=
    mem_sampleSemanticCandidates.1 hcandidate
  have heq : sample' = sample := List.inj_on_of_nodup_map input.nodup hsample' hsample hid
  rw [heq] at heligible
  exact (of_decide_eq_true heligible).1

theorem bestCandidate_mem {best : SampleCandidate}
    (h : bestCandidate tables input tieBreak sampleId = some best) :
    best.semanticId ∈ candidatesOf tables input sampleId := by
  obtain ⟨hmem, hid, -⟩ := bestCandidate_eq_some h
  exact mem_candidatesOf.2 ⟨best, hmem, hid, rfl⟩

theorem candidatesOf_eq_nil : candidatesOf tables input sampleId = [] ↔
    bestCandidate tables input tieBreak sampleId = none := by
  rw [bestCandidate_eq_none, List.eq_nil_iff_forall_not_mem]
  constructor
  · intro h candidate hcandidate hid
    exact h _ (mem_candidatesOf.2 ⟨candidate, hcandidate, hid, rfl⟩)
  · intro h s hs
    obtain ⟨candidate, hcandidate, hid, -⟩ := mem_candidatesOf.1 hs
    exact h candidate hcandidate hid

theorem conflictCount_eq_zero_iff_innermost {best : SampleCandidate}
    (hbest : bestCandidate tables input tieBreak sampleId = some best) :
    conflictCount tables input tieBreak sampleId = 0 ↔
      Innermost tables input sampleId best.semanticId := by
  rw [conflictCount_eq_zero]
  constructor
  · intro h
    refine ⟨bestCandidate_mem hbest, ?_⟩
    intro s hs
    obtain ⟨candidate, hcandidate, hid, rfl⟩ := mem_candidatesOf.1 hs
    exact h candidate hcandidate hid best hbest
  · intro h candidate hcandidate hid best' hbest'
    obtain rfl : best' = best := Option.some.inj (hbest'.symm.trans hbest)
    exact h.2 _ (mem_candidatesOf.2 ⟨candidate, hcandidate, hid, rfl⟩)

theorem Innermost.isChain {s : ℤ} (h : Innermost tables input sampleId s) :
    IsChain tables input sampleId :=
  fun s₁ h₁ s₂ h₂ => (h.2 s₁ h₁).comparable (h.2 s₂ h₂)

theorem ownedSampleOf_unattributed {sample : CorrelatedSample} :
    (ownedSampleOf tables input tieBreak sample).attribution = .unattributed ↔
      sample.attribution ≠ .ambiguous ∧ candidatesOf tables input sample.sampleId = [] := by
  have hnil : candidatesOf tables input sample.sampleId = [] ↔
      bestCandidate tables input tieBreak sample.sampleId = none := candidatesOf_eq_nil
  rw [hnil]
  unfold ownedSampleOf ownedSample
  by_cases hambiguous : sample.attribution = .ambiguous
  · simp [hambiguous]
  · cases hbest : bestCandidate tables input tieBreak sample.sampleId with
    | none => simp [hambiguous]
    | some best =>
      simp only [if_neg hambiguous, Option.map_some]
      split_ifs <;> simp

theorem direct_of_semanticId {sample : CorrelatedSample} (hsample : sample ∈ input.samples)
    {s : ℤ} (h : (ownedSampleOf tables input tieBreak sample).semanticId = some s) :
    (ownedSampleOf tables input tieBreak sample).attribution = .direct := by
  unfold ownedSampleOf at h ⊢
  cases hbest : bestCandidate tables input tieBreak sample.sampleId with
  | none =>
    rw [hbest] at h
    cases h
  | some best =>
    have hdirect := not_ambiguous_of_mem hsample (bestCandidate_mem hbest)
    rw [hbest] at h
    simp only [Option.map_some, ownedSample, if_neg hdirect] at h ⊢
    split_ifs at h with hcount
    rw [if_pos hcount]

section Forests
variable (hforest : IsForest tables.parentOf tables.ids.toFinset)
include hforest

theorem Innermost.unique {s s' : ℤ} (h : Innermost tables input sampleId s)
    (h' : Innermost tables input sampleId s') : s = s' := by
  obtain ⟨candidate, hcandidate, -, rfl⟩ := mem_candidatesOf.1 h.1
  have hid := List.mem_toFinset.2 (candidate_spec hcandidate).1
  exact Below.antisymm (hforest.grounded _ hid) (h.2 s' h'.1) (h'.2 _ h.1)

theorem innermost_of_isChain (hchain : IsChain tables input sampleId) {best : SampleCandidate}
    (hbest : bestCandidate tables input tieBreak sampleId = some best) :
    Innermost tables input sampleId best.semanticId := by
  obtain ⟨hmem, -, hdeepest⟩ := bestCandidate_eq_some hbest
  refine ⟨bestCandidate_mem hbest, ?_⟩
  intro s hs
  rcases hchain _ (bestCandidate_mem hbest) s hs with hbelow | hbelow
  · exact hbelow
  · by_cases heq : s = best.semanticId
    · rw [heq]
      exact .refl _
    · -- a candidate strictly below would be deeper
      obtain ⟨candidate, hcandidate, hid, rfl⟩ := mem_candidatesOf.1 hs
      obtain ⟨hnode, hdepth⟩ := candidate_spec hcandidate
      have hlt := SemanticTables.depthOf_lt hforest hnode hbelow heq
      have hle := hdeepest candidate hcandidate hid
      rw [hdepth, (candidate_spec hmem).2] at hle
      omega

theorem ownedSampleOf_direct {sample : CorrelatedSample} (hsample : sample ∈ input.samples)
    {s : ℤ} :
    ((ownedSampleOf tables input tieBreak sample).attribution = .direct ∧
        (ownedSampleOf tables input tieBreak sample).semanticId = some s) ↔
      sample.attribution ≠ .ambiguous ∧ IsChain tables input sample.sampleId ∧
        Innermost tables input sample.sampleId s := by
  unfold ownedSampleOf
  cases hbest : bestCandidate tables input tieBreak sample.sampleId with
  | none =>
    have hnone := candidatesOf_eq_nil.2 hbest
    constructor
    · intro h
      cases h.2
    · intro h
      have hmem := h.2.2.1
      rw [hnone] at hmem
      exact absurd hmem List.not_mem_nil
  | some best =>
    have hzero := conflictCount_eq_zero_iff_innermost hbest
    have hdirect := not_ambiguous_of_mem hsample (bestCandidate_mem hbest)
    simp only [Option.map_some, ownedSample, if_neg hdirect]
    by_cases hcount : conflictCount tables input tieBreak sample.sampleId = 0
    · have hinner := hzero.1 hcount
      simp only [hcount, if_true, true_and, Option.some.injEq]
      constructor
      · intro heq
        rw [← heq]
        exact ⟨hdirect, hinner.isChain, hinner⟩
      · intro h
        exact hinner.unique hforest h.2.2
    · constructor
      · intro h
        rw [if_neg hcount] at h
        cases h.1
      · intro h
        exact absurd (hzero.2 (innermost_of_isChain hforest h.2.1 hbest)) hcount

theorem ownedSampleOf_ambiguous {sample : CorrelatedSample} :
    (ownedSampleOf tables input tieBreak sample).attribution = .ambiguous ↔
      sample.attribution = .ambiguous ∨ ¬IsChain tables input sample.sampleId := by
  unfold ownedSampleOf ownedSample
  by_cases hambiguous : sample.attribution = .ambiguous
  · simp [hambiguous]
  · simp only [hambiguous, if_false, false_or]
    cases hbest : bestCandidate tables input tieBreak sample.sampleId with
    | none =>
      have hnone := candidatesOf_eq_nil.2 hbest
      have hchain : IsChain tables input sample.sampleId := by
        intro s hs
        rw [hnone] at hs
        exact absurd hs List.not_mem_nil
      simp [hchain]
    | some best =>
      have hzero := conflictCount_eq_zero_iff_innermost hbest
      have hcount : conflictCount tables input tieBreak sample.sampleId = 0 ↔
          IsChain tables input sample.sampleId := by
        constructor
        · intro h
          exact (hzero.1 h).isChain
        · intro h
          exact hzero.2 (innermost_of_isChain hforest h hbest)
      rw [← hcount, Option.map_some]
      by_cases h : conflictCount tables input tieBreak sample.sampleId = 0
      · simp [h]
      · simp [h]

theorem ownedSampleOf_semanticId {sample : CorrelatedSample} (hsample : sample ∈ input.samples)
    {s : ℤ} : (ownedSampleOf tables input tieBreak sample).semanticId = some s ↔
      sample.attribution ≠ .ambiguous ∧ IsChain tables input sample.sampleId ∧
        Innermost tables input sample.sampleId s := by
  constructor
  · intro h
    exact (ownedSampleOf_direct hforest hsample).1 ⟨direct_of_semanticId hsample h, h⟩
  · intro h
    exact ((ownedSampleOf_direct hforest hsample).2 h).2

theorem ownedSampleOf_tieBreak {sample : CorrelatedSample} (hsample : sample ∈ input.samples)
    (tieBreak tieBreak' : ℤ → ℤ) :
    (ownedSampleOf tables input tieBreak sample).attribution =
        (ownedSampleOf tables input tieBreak' sample).attribution ∧
      (ownedSampleOf tables input tieBreak sample).semanticId =
        (ownedSampleOf tables input tieBreak' sample).semanticId := by
  constructor
  · have hambiguous : (ownedSampleOf tables input tieBreak sample).attribution = .ambiguous ↔
        (ownedSampleOf tables input tieBreak' sample).attribution = .ambiguous :=
      (ownedSampleOf_ambiguous hforest).trans (ownedSampleOf_ambiguous hforest).symm
    have hunattributed :
        (ownedSampleOf tables input tieBreak sample).attribution = .unattributed ↔
          (ownedSampleOf tables input tieBreak' sample).attribution = .unattributed :=
      ownedSampleOf_unattributed.trans ownedSampleOf_unattributed.symm
    cases hfirst : (ownedSampleOf tables input tieBreak sample).attribution <;>
      cases hsecond : (ownedSampleOf tables input tieBreak' sample).attribution <;> simp_all
  · apply Option.ext
    intro s
    exact (ownedSampleOf_semanticId hforest hsample).trans
      (ownedSampleOf_semanticId hforest hsample).symm

end Forests

end Candidates

end DeltaFunnel
