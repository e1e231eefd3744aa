import Mathlib.Data.List.Sort
import DeltaFunnel.WriteAll.CachePlan

/-! What cache planning is about: which requests use an alias, which aliases are eligible, and
which of them form the frontier, all in terms of lineage paths. -/

namespace DeltaFunnel
open Relation

variable {Provider Schema : Type}

def RegisteredDerivedTable.key (derived : RegisteredDerivedTable Schema) : ℕ × String :=
  (derived.table.id, derived.name)

def MssqlDerivedCacheAliasPlan.key (plan : MssqlDerivedCacheAliasPlan) : ℕ × String :=
  (plan.tableId, plan.aliasName)

def MssqlCacheCandidateSkip.key (skip : MssqlCacheCandidateSkip) : ℕ × String :=
  (skip.tableId, skip.aliasName)

@[simp] theorem MssqlDerivedCacheAliasPlan.fromRegistered_key
    (derived : RegisteredDerivedTable Schema) (outputIndexes : List ℕ) :
    (fromRegistered derived outputIndexes).key = derived.key := rfl

@[simp] theorem MssqlDerivedCacheAliasPlan.fromRegistered_tableId
    (derived : RegisteredDerivedTable Schema) (outputIndexes : List ℕ) :
    (fromRegistered derived outputIndexes).tableId = derived.table.id := rfl

@[simp] theorem MssqlCacheCandidateSkip.fromRegistered_key
    (derived : RegisteredDerivedTable Schema) (reason : MssqlCacheCandidateSkipReason) :
    (fromRegistered derived reason).key = derived.key := rfl

def MssqlOutputCacheDecision.cached : MssqlOutputCacheDecision → List MssqlDerivedCacheAliasPlan
  | .noCache _ => []
  | .cacheAliases aliases => aliases

namespace Session

/-- The table is the alias `id`, or reaches it through captured lineage. -/
def Uses (session : Session Provider Schema) (table : LazyTable) (id : ℕ) : Prop :=
  table.id = id ∨ table.kind = .derivedSql ∧
    ∃ lineage, session.lineageForDerivedTable table = .ok lineage ∧ session.Reaches lineage id

/-- The request at `index` uses the alias `id`. -/
def UsedAt (session : Session Provider Schema) (requests : List OutputWritePlan) (id index : ℕ) :
    Prop :=
  ∃ request, requests[index]? = some request ∧ session.Uses request.table id

def UsedTwice (session : Session Provider Schema) (requests : List OutputWritePlan) (id : ℕ) :
    Prop :=
  ∃ i j, i ≠ j ∧ session.UsedAt requests id i ∧ session.UsedAt requests id j

/-- An alias that caching could help: it can be replanned, and two requests use it. -/
structure Eligible (session : Session Provider Schema) (requests : List OutputWritePlan)
    (derived : RegisteredDerivedTable Schema) : Prop where
  sql : trimText derived.sqlText ≠ ""
  complete : derived.lineage.isComplete = true
  shared : session.UsedTwice requests derived.table.id

/-- An eligible alias that no eligible alias depends on. -/
structure Frontier (session : Session Provider Schema) (requests : List OutputWritePlan)
    (derived : RegisteredDerivedTable Schema) : Prop where
  eligible : session.Eligible requests derived
  uncovered : ∀ other ∈ session.derivedTables, session.Eligible requests other →
    ¬TransGen session.DerivedEdge other.table.id derived.table.id

section Use
variable {session : Session Provider Schema} {requests : List OutputWritePlan}
  {derived : RegisteredDerivedTable Schema}

theorem any_isRegisteredDerived {tableId : ℕ} {dependencies : List DerivedTableDependency} :
    dependencies.any (isRegisteredDerived tableId) = true ↔
      ∃ name, .registeredDerived tableId name ∈ dependencies := by
  rw [List.any_eq_true]
  constructor
  · rintro ⟨dependency, hmem, hid⟩
    cases dependency with
    | registeredSource id name => cases hid
    | registeredDerived id name =>
      have heq : id = tableId := by simpa [isRegisteredDerived] using hid
      subst heq
      exact ⟨name, hmem⟩
  · rintro ⟨name, hmem⟩
    exact ⟨_, hmem, by simp [isRegisteredDerived]⟩

theorem Consistent.uses_iff (h : session.Consistent) {table : LazyTable} :
    session.cacheOutputUsesRegisteredDerived table derived = true ↔
      session.Uses table derived.table.id := by
  unfold cacheOutputUsesRegisteredDerived Uses
  by_cases hid : table.id = derived.table.id
  · simp [hid]
  · rw [if_neg hid]
    rcases hkind : table.kind with _ | _
    · simp [hid]
    · rw [if_neg (by simp)]
      rcases hlineage : session.lineageForDerivedTable table with error | lineage
      · have hfailed : session.transitiveRegisteredDerivedDependencies table = .error error := by
          rw [transitiveRegisteredDerivedDependencies, hlineage]
        simp [hfailed, hid]
      · obtain ⟨dependencies, hok, hreaches⟩ := h.transitive_eq_ok hlineage
        simp only [hok, any_isRegisteredDerived, hreaches]
        simp [hid]

theorem Consistent.uses_registered_iff (h : session.Consistent)
    (hmem : derived ∈ session.derivedTables) {id : ℕ} (hne : derived.table.id ≠ id) :
    session.Uses derived.table id ↔ TransGen session.DerivedEdge derived.table.id id := by
  rw [← h.reaches_iff hmem, Uses, h.lineageForDerivedTable_registered hmem,
    (h.derived_sql derived hmem).1]
  simp [hne]

theorem Uses.trans {table : LazyTable} {a b : ℕ} (h : session.Consistent)
    (huses : session.Uses table a) (hkind : table.kind = .derivedSql)
    (hpath : TransGen session.DerivedEdge a b) : session.Uses table b := by
  rcases huses with rfl | ⟨-, lineage, hlineage, hreaches⟩
  · obtain ⟨derived, hmem, hid⟩ : ∃ derived ∈ session.derivedTables,
        derived.table.id = table.id := by
      obtain ⟨first, ⟨derived, hmem, hid, -⟩, -⟩ := TransGen.head'_iff.1 hpath
      exact ⟨derived, hmem, hid⟩
    refine .inr ⟨hkind, derived.lineage, ?_, ?_⟩
    · rw [lineageForDerivedTable, hkind, ← hid, h.registeredDerivedTableById_eq hmem]
      rfl
    · rw [h.reaches_iff hmem, hid]
      exact hpath
  · exact .inr ⟨hkind, lineage, hlineage, hreaches.trans hpath.to_reflTransGen⟩

theorem Consistent.mem_outputIndexesFrom (h : session.Consistent) {start i : ℕ} :
    i ∈ session.outputIndexesFrom derived start requests ↔
      ∃ k, i = start + k ∧ session.UsedAt requests derived.table.id k := by
  induction requests generalizing start with
  | nil => simp [outputIndexesFrom, UsedAt]
  | cons request requests ih =>
    have hshift : (∃ k, i = start + 1 + k ∧ session.UsedAt requests derived.table.id k) ↔
        ∃ k, i = start + (k + 1) ∧
          session.UsedAt (request :: requests) derived.table.id (k + 1) := by
      simp only [UsedAt, List.getElem?_cons_succ, Nat.add_assoc, Nat.add_comm 1]
    have hhead : session.UsedAt (request :: requests) derived.table.id 0 ↔
        session.Uses request.table derived.table.id := by
      simp [UsedAt]
    have hsplit : (∃ k, i = start + k ∧ session.UsedAt (request :: requests) derived.table.id k) ↔
        (i = start ∧ session.Uses request.table derived.table.id) ∨
          ∃ k, i = start + (k + 1) ∧
            session.UsedAt (request :: requests) derived.table.id (k + 1) := by
      constructor
      · rintro ⟨_ | k, hi, hused⟩
        · exact .inl ⟨hi, hhead.1 hused⟩
        · exact .inr ⟨k, hi, hused⟩
      · rintro (⟨hi, hused⟩ | ⟨k, hi, hused⟩)
        · exact ⟨0, hi, hhead.2 hused⟩
        · exact ⟨k + 1, hi, hused⟩
    rw [hsplit, ← hshift, ← ih, ← h.uses_iff, outputIndexesFrom]
    split_ifs with huses
    · simp [huses]
    · simp [huses]

theorem outputIndexesFrom_sorted {start : ℕ} :
    (session.outputIndexesFrom derived start requests).Pairwise (· < ·) ∧
      ∀ i ∈ session.outputIndexesFrom derived start requests, start ≤ i := by
  induction requests generalizing start with
  | nil => simp [outputIndexesFrom]
  | cons request requests ih =>
    obtain ⟨hsorted, hle⟩ := @ih (start + 1)
    have hle' : ∀ i ∈ session.outputIndexesFrom derived (start + 1) requests, start < i := by
      intro i hi
      have := hle i hi
      omega
    rw [outputIndexesFrom]
    split_ifs
    · refine ⟨List.pairwise_cons.2 ⟨hle', hsorted⟩, ?_⟩
      intro i hi
      rcases List.mem_cons.1 hi with rfl | hi
      · exact le_rfl
      · exact (hle' i hi).le
    · exact ⟨hsorted, fun i hi => (hle' i hi).le⟩

theorem Consistent.mem_outputIndexes (h : session.Consistent) {i : ℕ} :
    i ∈ session.outputIndexes requests derived ↔ session.UsedAt requests derived.table.id i := by
  rw [outputIndexes, h.mem_outputIndexesFrom]
  simp

theorem outputIndexes_sorted : (session.outputIndexes requests derived).Pairwise (· < ·) :=
  outputIndexesFrom_sorted.1

theorem two_le_length_iff {xs : List ℕ} (hsorted : xs.Pairwise (· < ·)) :
    2 ≤ xs.length ↔ ∃ i j, i ≠ j ∧ i ∈ xs ∧ j ∈ xs := by
  constructor
  · intro hlength
    match xs, hlength, hsorted with
    | i :: j :: rest, _, hsorted =>
      have hlt : i < j := (List.pairwise_cons.1 hsorted).1 j (by simp)
      exact ⟨i, j, hlt.ne, by simp, by simp⟩
  · rintro ⟨i, j, hne, hi, hj⟩
    match xs, hi, hj with
    | [x], hi, hj => exact absurd ((List.mem_singleton.1 hi).trans (List.mem_singleton.1 hj).symm) hne
    | x :: y :: rest, _, _ => simp

theorem Consistent.usedTwice_iff (h : session.Consistent) :
    2 ≤ (session.outputIndexes requests derived).length ↔
      session.UsedTwice requests derived.table.id := by
  rw [two_le_length_iff outputIndexes_sorted]
  simp only [h.mem_outputIndexes, UsedTwice]

theorem Consistent.classifyCacheCandidate_cases (h : session.Consistent)
    (requests : List OutputWritePlan) (derived : RegisteredDerivedTable Schema) :
    (session.Eligible requests derived ∧ session.classifyCacheCandidate requests derived =
      .inl (.fromRegistered derived (session.outputIndexes requests derived))) ∨
    (¬session.Eligible requests derived ∧ ∃ reason,
      session.classifyCacheCandidate requests derived = .inr (.fromRegistered derived reason)) := by
  unfold classifyCacheCandidate
  dsimp only
  split_ifs with hsql hcomplete hshared
  · refine .inr ⟨fun heligible => heligible.sql ?_, _, rfl⟩
    simpa using hsql
  · refine .inr ⟨fun heligible => ?_, _, rfl⟩
    simp [heligible.complete] at hcomplete
  · refine .inl ⟨⟨?_, ?_, h.usedTwice_iff.1 hshared⟩, rfl⟩
    · simpa using hsql
    · simpa using hcomplete
  · exact .inr ⟨fun heligible => hshared (h.usedTwice_iff.2 heligible.shared), _, rfl⟩

theorem Consistent.mem_candidates (h : session.Consistent) {plan : MssqlDerivedCacheAliasPlan} :
    plan ∈ (session.sharedMssqlOutputCacheCandidates requests).1 ↔
      ∃ derived ∈ session.derivedTables, session.Eligible requests derived ∧
        plan = .fromRegistered derived (session.outputIndexes requests derived) := by
  simp only [sharedMssqlOutputCacheCandidates, List.mem_filterMap, List.mem_map]
  constructor
  · rintro ⟨_, ⟨derived, hmem, rfl⟩, hplan⟩
    rcases h.classifyCacheCandidate_cases requests derived with ⟨heligible, heq⟩ | ⟨-, reason, heq⟩
    · rw [heq] at hplan
      exact ⟨derived, hmem, heligible, (Option.some.inj hplan).symm⟩
    · rw [heq] at hplan
      cases hplan
  · rintro ⟨derived, hmem, heligible, rfl⟩
    refine ⟨_, ⟨derived, hmem, rfl⟩, ?_⟩
    rcases h.classifyCacheCandidate_cases requests derived with ⟨-, heq⟩ | ⟨hnot, -⟩
    · rw [heq]
      rfl
    · exact absurd heligible hnot

theorem Consistent.candidates_perm (h : session.Consistent) (requests : List OutputWritePlan) :
    ((session.sharedMssqlOutputCacheCandidates requests).1.map (·.key) ++
      (session.sharedMssqlOutputCacheCandidates requests).2.map (·.key)).Perm
      (session.derivedTables.map (·.key)) := by
  unfold sharedMssqlOutputCacheCandidates
  dsimp only
  induction session.derivedTables with
  | nil => simp
  | cons derived rest ih =>
    rcases h.classifyCacheCandidate_cases requests derived with ⟨-, heq⟩ | ⟨-, reason, heq⟩
    · simp only [List.map_cons, heq, List.filterMap_cons, Sum.getLeft?_inl, Sum.getRight?_inl,
        MssqlDerivedCacheAliasPlan.fromRegistered_key]
      exact ih.cons _
    · simp only [List.map_cons, heq, List.filterMap_cons, Sum.getLeft?_inr, Sum.getRight?_inr,
        MssqlCacheCandidateSkip.fromRegistered_key]
      exact List.perm_middle.trans (ih.cons _)

end Use
end Session
end DeltaFunnel
