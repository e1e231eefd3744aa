import Mathlib.Data.Prod.Lex
import DeltaFunnel.Graph.Forest
import DeltaFunnel.Relational.Query

/-! The tables that charge each CPU sample to a semantic. -/

namespace DeltaFunnel
open Relational

/-- A value of `extract_arg`. -/
inductive TraceArg where
  | int (value : ℤ)
  | text (value : String)
  deriving DecidableEq, Repr

/-- The dimensions on which a semantic and a sample have to agree. -/
structure ExecutionIdentity where
  queryExecutionId : Option TraceArg
  workerLaneId : Option TraceArg
  nodeId : Option TraceArg
  parentNodeId : Option TraceArg
  operatorPartition : Option TraceArg
  executionStreamId : Option TraceArg
  stageOwnerId : Option TraceArg
  deriving DecidableEq, Repr

/-- A row of `delta_funnel_ranked_semantics`. -/
structure SemanticSlice where
  semanticId : ℤ
  ts : ℤ
  analysisEndTs : ℤ
  operationId : TraceArg
  identity : ExecutionIdentity
  deriving DecidableEq, Repr

/-- A row of `delta_funnel_ranked_semantic_parent_candidates`. -/
structure ParentCandidate where
  semanticId : ℤ
  parentSemanticId : ℤ
  relationOrder : ℤ
  distance : ℤ
  parentDepth : ℤ
  parentDurationNs : ℤ
  deriving DecidableEq, Repr

/-- The values of `delta_funnel_sample_attribution`, also those of the ownership. -/
inductive SampleAttribution where
  | direct
  | unattributed
  | ambiguous
  deriving DecidableEq, Repr

/-- A row of `delta_funnel_sample_correlation`. -/
structure CorrelatedSample where
  sampleId : ℤ
  ts : ℤ
  utid : ℤ
  callsiteId : Option ℤ
  unwindError : Option String
  attribution : SampleAttribution
  operationId : Option TraceArg
  identity : ExecutionIdentity
  deriving DecidableEq, Repr

/-- Semantics by their slices, and parents that are semantics. -/
structure SemanticTables where
  semantics : List SemanticSlice
  parentCandidates : List ParentCandidate
  nodup : (semantics.map (·.semanticId)).Nodup
  candidates_mem : ∀ candidate ∈ parentCandidates,
    candidate.semanticId ∈ semantics.map (·.semanticId) ∧
      candidate.parentSemanticId ∈ semantics.map (·.semanticId)

/-- One row for each sample, and the scope of the report. -/
structure SampleTables where
  samples : List CorrelatedSample
  captureScopeId : Option TraceArg
  nodup : (samples.map (·.sampleId)).Nodup

namespace SemanticTables

def ids (tables : SemanticTables) : List ℤ := tables.semantics.map (·.semanticId)

def parentOrder (candidate : ParentCandidate) : ℤ ×ₗ ℤ ×ₗ ℤ ×ₗ ℤ ×ₗ ℤ :=
  toLex (candidate.relationOrder, toLex (candidate.distance, toLex (candidate.parentDurationNs,
    toLex (-candidate.parentDepth, candidate.parentSemanticId))))

def semanticParentRankings (tables : SemanticTables) : List (ParentCandidate × ℕ) :=
  rowNumber (·.semanticId) parentOrder tables.parentCandidates

/-- `delta_funnel_ranked_semantic_parents`, without the number of ties. -/
def semanticParents (tables : SemanticTables) : List (ℤ × Option ℤ) :=
  (leftJoin (fun semantic selected =>
    decide (selected.2 = 1) && decide (selected.1.semanticId = semantic.semanticId))
    tables.semantics tables.semanticParentRankings).map fun row =>
      (row.1.semanticId, row.2.map (·.1.parentSemanticId))

/-- Joins the second column with its parent. -/
def ancestryStep (tables : SemanticTables) (row : ℤ × ℤ) : List (ℤ × ℤ) :=
  tables.semanticParents.filterMap fun parent =>
    if parent.1 = row.2 then parent.2.map (row.1, ·) else none

/-- There are no more rows than pairs of semantics. -/
def recurse (tables : SemanticTables) (rows : List (ℤ × ℤ)) : List (ℤ × ℤ) :=
  recursiveUnion tables.ancestryStep (tables.semantics.length * tables.semantics.length)
    rows.dedup rows.dedup

def semanticLineage (tables : SemanticTables) : List (ℤ × ℤ) :=
  tables.recurse (tables.semantics.map fun semantic => (semantic.semanticId, semantic.semanticId))

def semanticDepths (tables : SemanticTables) : List (ℤ × ℕ) :=
  (countBy Prod.fst tables.semanticLineage).map fun row => (row.1, row.2 - 1)

def semanticCycles (tables : SemanticTables) : List ℤ :=
  let ancestry := tables.recurse
    (tables.semanticParents.filterMap fun parent => parent.2.map (parent.1, ·))
  ((ancestry.filter fun row => row.1 = row.2).map Prod.fst).dedup

end SemanticTables

/-- Whether a dimension of a semantic is open or that of the sample. -/
def admits (semantic sample : Option TraceArg) : Bool := semantic = none ∨ semantic = sample

def ExecutionIdentity.admitsAll (semantic sample : ExecutionIdentity) : Bool :=
  admits semantic.queryExecutionId sample.queryExecutionId &&
    admits semantic.workerLaneId sample.workerLaneId &&
    admits semantic.nodeId sample.nodeId &&
    admits semantic.parentNodeId sample.parentNodeId &&
    admits semantic.operatorPartition sample.operatorPartition &&
    admits semantic.executionStreamId sample.executionStreamId &&
    admits semantic.stageOwnerId sample.stageOwnerId

/-- A row of `delta_funnel_ranked_sample_semantic_candidates`. -/
structure SampleCandidate where
  sampleId : ℤ
  semanticId : ℤ
  semanticDepth : ℕ
  deriving DecidableEq, Repr

def sampleInSemantic (sample : CorrelatedSample) (semantic : SemanticSlice) : Bool :=
  decide (sample.operationId = some semantic.operationId) &&
    decide (semantic.ts ≤ sample.ts) && decide (sample.ts < semantic.analysisEndTs) &&
    semantic.identity.admitsAll sample.identity

def sampleEligible (captureScopeId : Option TraceArg) (sample : CorrelatedSample) : Bool :=
  sample.attribution ≠ .ambiguous ∧ (captureScopeId = none ∨ sample.attribution = .direct)

def sampleSemanticCandidates (tables : SemanticTables) (input : SampleTables) :
    List SampleCandidate :=
  (input.samples.filter (sampleEligible input.captureScopeId)).flatMap fun sample =>
    (tables.semantics.filter (sampleInSemantic sample)).flatMap fun semantic =>
      (tables.semanticDepths.filter (·.1 = semantic.semanticId)).map fun depth =>
        ⟨sample.sampleId, semantic.semanticId, depth.2⟩

/-- Deepest first, and between equally deep ones by `tieBreak`. -/
def candidateOrder (tieBreak : ℤ → ℤ) (candidate : SampleCandidate) : ℤ ×ₗ ℤ :=
  toLex (-(candidate.semanticDepth : ℤ), tieBreak candidate.semanticId)

def candidateRankings (tieBreak : ℤ → ℤ) (candidates : List SampleCandidate) :
    List (SampleCandidate × ℕ) :=
  rowNumber (·.sampleId) (candidateOrder tieBreak) candidates

/-- The semantic id breaks ties. -/
def sampleCandidateRankings (tables : SemanticTables) (input : SampleTables) :
    List (SampleCandidate × ℕ) :=
  candidateRankings id (sampleSemanticCandidates tables input)

section Ownership
variable (tables : SemanticTables) (input : SampleTables)
  (rankings : List (SampleCandidate × ℕ))

/-- Each candidate with the best candidate of its sample. -/
def comparedCandidates : List (SampleCandidate × SampleCandidate) :=
  (sampleSemanticCandidates tables input).flatMap fun candidate =>
    (rankings.filter fun selected =>
      decide (selected.2 = 1) && decide (selected.1.sampleId = candidate.sampleId)).map
        fun selected => (candidate, selected.1)

/-- The candidates without a lineage row under the best candidate of their sample. -/
def conflictsOf : List (ℤ × ℕ) :=
  let joined := leftJoin (fun (pair : SampleCandidate × SampleCandidate) (lineage : ℤ × ℤ) =>
    lineage = (pair.2.semanticId, pair.1.semanticId))
      (comparedCandidates tables input rankings) tables.semanticLineage
  countBy (fun row : (SampleCandidate × SampleCandidate) × Option (ℤ × ℤ) => row.1.1.sampleId)
    (joined.filter (·.2.isNone))

/-- The best candidate of each sample, with the number of its conflicts. -/
def bestOf : List (SampleCandidate × ℕ) :=
  (leftJoin (fun (selected : SampleCandidate × ℕ) (conflict : ℤ × ℕ) =>
    conflict.1 = selected.1.sampleId) (rankings.filter (·.2 = 1))
      (conflictsOf tables input rankings)).map fun row =>
        (row.1.1, (row.2.map Prod.snd).getD 0)

/-- A row of `delta_funnel_ranked_sample_ownership`. -/
structure OwnedSample where
  sampleId : ℤ
  ts : ℤ
  utid : ℤ
  callsiteId : Option ℤ
  unwindError : Option String
  attribution : SampleAttribution
  operationId : Option TraceArg
  semanticId : Option ℤ
  conflictingCandidateCount : ℕ
  deriving DecidableEq, Repr

def ownedSample (sample : CorrelatedSample) (best : Option (SampleCandidate × ℕ)) :
    OwnedSample where
  sampleId := sample.sampleId
  ts := sample.ts
  utid := sample.utid
  callsiteId := sample.callsiteId
  unwindError := sample.unwindError
  attribution :=
    if sample.attribution = .ambiguous then .ambiguous
    else match best with
      | none => .unattributed
      | some (_, conflictCount) => if conflictCount = 0 then .direct else .ambiguous
  operationId := sample.operationId
  semanticId := match best with
    | none => none
    | some (selected, conflictCount) =>
      if conflictCount = 0 then some selected.semanticId else none
  conflictingCandidateCount := (best.map Prod.snd).getD 0

def ownershipOf : List OwnedSample :=
  (leftJoin (fun (sample : CorrelatedSample) (best : SampleCandidate × ℕ) =>
    best.1.sampleId = sample.sampleId) input.samples (bestOf tables input rankings)).map
      fun row => ownedSample row.1 row.2

end Ownership

def sampleOwnership (tables : SemanticTables) (input : SampleTables) : List OwnedSample :=
  ownershipOf tables input (sampleCandidateRankings tables input)

/-- A row of `delta_funnel_ranked_semantic_sample_counts`. -/
structure SemanticSampleCount where
  semanticId : ℤ
  directSampleCount : ℕ
  inclusiveSampleCount : ℕ
  deriving DecidableEq, Repr

def directCounts (ownership : List OwnedSample) : List (Option ℤ × ℕ) :=
  countBy (·.semanticId) (ownership.filter (·.attribution = .direct))

def inclusiveCounts (tables : SemanticTables) (ownership : List OwnedSample) : List (ℤ × ℕ) :=
  let joined := tables.semanticLineage.flatMap fun lineage =>
    ((directCounts ownership).filter (·.1 = some lineage.1)).map fun direct =>
      (lineage.2, direct.2)
  sumBy Prod.fst Prod.snd joined

def semanticSampleCounts (tables : SemanticTables) (ownership : List OwnedSample) :
    List SemanticSampleCount :=
  let withDirect := leftJoin (fun (semantic : SemanticSlice) (direct : Option ℤ × ℕ) =>
    direct.1 = some semantic.semanticId) tables.semantics (directCounts ownership)
  let withInclusive := leftJoin
    (fun (row : SemanticSlice × Option (Option ℤ × ℕ)) (inclusive : ℤ × ℕ) =>
      inclusive.1 = row.1.semanticId) withDirect (inclusiveCounts tables ownership)
  withInclusive.map fun row =>
    ⟨row.1.1.semanticId, (row.1.2.map Prod.snd).getD 0, (row.2.map Prod.snd).getD 0⟩

end DeltaFunnel
